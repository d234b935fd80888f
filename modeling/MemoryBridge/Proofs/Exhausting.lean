import MemoryBridge.Proofs.Pacing
import MemoryBridge.Proofs.Watching
import MemoryBridge.Rehearsal.World

/-!
# Rehearsed worlds run out

A rehearsed world holds finitely much: links with their scripts, offers to open one, a script
for the sink. `World.unplayed` is what is left of it. It counts every byte that a script will
still take, which `World.weight` does not, so that also a write that was taken in part has
used up something.

No deed adds to it, and whatever goes on after a read, a write, an attempt to open a link, a polled
byte or a tick of the poll loop has used up some of it: `runs_out`. Since time does not pass in a
rehearsed world by itself, any clock may run in it that the log of all deeds determines.
-/

namespace MemoryBridge

variable {σ τ α : Type}

/-! ## Any clock -/

/-- The same host with another clock. -/
def BridgeHost.timed (host : BridgeHost τ) (clock : τ → Nat) : BridgeHost τ where
  toHost := { host.toHost with clock := clock }
  receive := host.receive
  receive_later := host.receive_later
  read_spends := host.read_spends
  idle_spends := host.idle_spends

/-! ## Deeds as steps -/

namespace Watched

/-- What is in the log are the steps that were made. -/
def gauge (left : σ → Nat) : Gauge (Watched σ) where
  steps s := s.log.length
  left s := left s.world

/-- A deed is one step. -/
theorem add_paces {stopped : σ → Bool} {left : σ → Nat} {s : Watched σ} {deed : Deed} {w : σ}
    (h : left w ≤ left s.world) : (gauge left).Paces 0 1 s (s.add stopped deed w) := by
  refine ⟨h, ?_⟩
  show (s.log ++ [_]).length + 0 * _ ≤ s.log.length + 0 * _ + 1
  rw [List.length_append, List.length_singleton]
  omega

theorem note_costs {stopped : σ → Bool} {left : σ → Nat} {deed : Except Fault α → Deed}
    {act : EStateM Fault σ α} (h : ∀ w, left (endState (act w)) ≤ left w) :
    (gauge left).Costs 0 1 (note stopped deed act) := by
  intro s
  rw [note_end]
  exact add_paces (h s.world)

section

variable {host : BridgeHost σ} (h : host.Drains)

include h

theorem link_paced (k : LinkId) : (Watched.link host.toHost k).Paced (gauge host.budget) where
  source := {
    read := fun n => by
      rw [link_read]
      exact note_costs fun w => ((host.link_keeps k).read n w).2
    spends := fun hRead hn => by
      rw [link_read] at hRead
      obtain ⟨w, hw, rfl⟩ := note_ok hRead
      exact h.read hw hn
    interrupted := fun hRead hf => by
      rw [link_read] at hRead
      obtain ⟨w, hw, rfl⟩ := note_error hRead
      exact h.readAgain hw hf }
  sink := {
    write := fun bs => by
      rw [link_write]
      exact note_costs fun w => ((host.link_keeps k).write bs w).2
    flush := by
      rw [link_flush]
      exact note_costs fun w => ((host.link_keeps k).flush w).2
    leaves := fun hWrite hn => by
      rw [link_write] at hWrite
      obtain ⟨w, hw, rfl⟩ := note_ok hWrite
      exact h.write hw hn
    interrupted := fun hWrite hf => by
      rw [link_write] at hWrite
      obtain ⟨w, hw, rfl⟩ := note_error hWrite
      exact h.writeAgain hw hf }
  setMode mode := by
    rw [link_setMode]
    exact note_costs fun w => ((host.link_keeps k).setMode mode w).2

theorem sink_paced : (Watched.sink host.toHost).Paced (gauge host.budget) where
  write bs := by
    rw [sink_write]
    exact note_costs fun w => (host.sink_keeps.write bs w).2
  flush := by
    rw [sink_flush]
    exact note_costs fun w => (host.sink_keeps.flush w).2
  leaves hWrite hn := by
    rw [sink_write] at hWrite
    obtain ⟨w, hw, rfl⟩ := note_ok hWrite
    exact h.pass hw hn
  interrupted hWrite hf := by
    rw [sink_write] at hWrite
    obtain ⟨w, hw, rfl⟩ := note_error hWrite
    exact h.passAgain hw hf

/-- Whatever the clock, all deeds on the host are steps that are paid for. -/
theorem paced (clock : Watched σ → Nat) :
    (host.watched.timed clock).Paced fun s => s.log.length where
  link := link_paced h
  sink := sink_paced h
  tryOpen := note_costs fun w => (host.tryOpen_later w).2
  pause ms s := add_paces (host.pause_later ms s.world).2
  receive s := add_paces (host.receive_later s.world).2

end

end Watched

/-! ## What is left of a script -/

namespace Script

/-- How many bytes a script will take for certain. -/
def allowance : List Acceptance → Nat
  | [] => 0
  | .take n :: rest => n + allowance rest
  | .fault _ :: rest => allowance rest
  | .refuse :: rest => allowance rest

theorem accept_allowance_le (script : List Acceptance) (bs : Bytes) :
    allowance (accept script bs).2 ≤ allowance script := by
  fun_induction accept script bs with
  | case1 bs => exact Nat.le_refl _
  | case2 rest bs ih =>
    rw [allowance]
    omega
  | case3 n rest bs taken =>
    rw [allowance, allowance]
    omega
  | case4 kind rest bs => exact Nat.le_refl _
  | case5 rest bs => exact Nat.le_refl _

/-- A write that was taken in part has used up some of what the script will take, or a
part of the script. -/
theorem accept_partly {script rest : List Acceptance} {bs : Bytes} {n : Nat}
    (h : accept script bs = (.ok n, rest)) (hn : n < bs.length) :
    rest.length + allowance rest < script.length + allowance script := by
  fun_induction accept script bs with
  | case1 bs =>
    obtain ⟨hAll, -⟩ := Prod.mk.inj h
    have hAll : bs.length = n := Except.ok.inj hAll
    omega
  | case2 script bs ih =>
    have hRest := ih h hn
    rw [List.length_cons, allowance]
    omega
  | case3 m script bs taken =>
    obtain ⟨hTaken, rfl⟩ := Prod.mk.inj h
    have hTaken : min (m + 1) bs.length = n := Except.ok.inj hTaken
    rw [List.length_cons, List.length_cons, allowance, allowance]
    omega
  | case4 kind script bs => cases (Prod.mk.inj h).1
  | case5 script bs =>
    obtain ⟨-, rfl⟩ := Prod.mk.inj h
    rw [List.length_cons, allowance]
    omega

end Script

namespace ScriptedLink

open Script

theorem onMemory_acceptances (act : EStateM Fault MemoryLink α) (l : ScriptedLink) :
    (endState (onMemory act l)).acceptances = l.acceptances := by
  unfold onMemory
  cases act l.memory <;> rfl

theorem read_acceptances (stopWhenDrained : Bool) (n : Nat) (l : ScriptedLink) :
    (endState (l.read stopWhenDrained n).1).acceptances = l.acceptances := by
  unfold read
  split
  · split
    · exact onMemory_acceptances _ _
    · rfl
    · rfl
    · exact onMemory_acceptances _ _
  · exact onMemory_acceptances _ _

theorem flush_acceptances (l : ScriptedLink) :
    (endState (flush l)).acceptances = l.acceptances := by
  unfold flush
  split
  · rfl
  · exact onMemory_acceptances _ _

theorem setMode_acceptances (mode : ReadMode) (l : ScriptedLink) :
    (endState (setMode mode l)).acceptances = l.acceptances := by
  unfold setMode
  simp only
  split
  · rfl
  · exact onMemory_acceptances _ _

theorem write_acceptances (bs : Bytes) (l : ScriptedLink) :
    (endState (write bs l)).acceptances = (accept l.acceptances bs).2 := by
  unfold write
  split
  · simp [*]
  · simp [*]
  · rw [onMemory_acceptances]
    simp [*]

theorem write_allowance_le (bs : Bytes) (l : ScriptedLink) :
    allowance (endState (write bs l)).acceptances ≤ allowance l.acceptances := by
  rw [write_acceptances]
  exact accept_allowance_le l.acceptances bs

/-- A write that was taken in part has used up something. -/
theorem write_partly {bs : Bytes} {l m : ScriptedLink} {n : Nat} (h : write bs l = .ok n m)
    (hn : n < bs.length) :
    m.weight + allowance m.acceptances < l.weight + allowance l.acceptances := by
  unfold write at h
  split at h
  · cases h
  · rename_i rest hAccept
    obtain ⟨rfl, rfl⟩ := EStateM.Result.ok.inj h
    have hRest := accept_partly hAccept hn
    simp only [weight]
    omega
  · rename_i taken rest hAccept
    obtain ⟨v, hWrite, rfl⟩ := onMemory_ok h
    have hWeight := MemoryLink.write_weight (bs.take (taken + 1)) l.memory
    have hTaken : taken + 1 ≤ bs.length := accept_le_length hAccept
    have hAll : n = (bs.take (taken + 1)).length := by
      unfold MemoryLink.write at hWrite
      split at hWrite
      · cases hWrite
      · exact (EStateM.Result.ok.inj hWrite).1.symm
    rw [hWrite] at hWeight
    rw [List.length_take_of_le hTaken] at hAll
    rw [hAll] at hn
    have hRest := accept_partly hAccept hn
    simp only [weight, endState_ok] at hWeight ⊢
    omega

end ScriptedLink

namespace ScriptedSink

open Script

theorem write_acceptances (bs : Bytes) (s : ScriptedSink) :
    (endState (write bs s)).acceptances = (accept s.acceptances bs).2 := by
  unfold write
  split
  · simp [*]
  · simp [*]

theorem flush_acceptances (s : ScriptedSink) :
    (endState (flush s)).acceptances = s.acceptances := by
  unfold flush
  cases nextFault s.flushFaults with
  | mk failing rest => cases failing <;> rfl

theorem write_allowance_le (bs : Bytes) (s : ScriptedSink) :
    allowance (endState (write bs s)).acceptances ≤ allowance s.acceptances := by
  rw [write_acceptances]
  exact accept_allowance_le s.acceptances bs

theorem write_partly {bs : Bytes} {s t : ScriptedSink} {n : Nat} (h : write bs s = .ok n t)
    (hn : n < bs.length) :
    t.weight + allowance t.acceptances < s.weight + allowance s.acceptances := by
  unfold write at h
  split at h
  · rename_i taken rest hAccept
    obtain ⟨rfl, rfl⟩ := EStateM.Result.ok.inj h
    exact accept_partly hAccept hn
  · cases h

end ScriptedSink

/-! ## What is left of a world -/

namespace World

open Script

/-- How many bytes all the scripts will take for certain. -/
def allowance (w : World) : Nat :=
  (w.lines.map fun l => Script.allowance l.acceptances).sum + Script.allowance w.sink.acceptances

/-- How much can still happen in a world: the bytes and faults of all scripts, and the offers. -/
def unplayed (w : World) : Nat :=
  w.weight + w.allowance

theorem sum_set (f : ScriptedLink → Nat) {lines : List ScriptedLink} {i : Nat} {l : ScriptedLink}
    (h : lines[i]? = some l) (m : ScriptedLink) :
    ((lines.set i m).map f).sum + f l = (lines.map f).sum + f m := by
  induction lines generalizing i with
  | nil => simp at h
  | cons a rest ih =>
    cases i with
    | zero =>
      obtain rfl : a = l := by simpa using h
      simp only [List.set_cons_zero, List.map_cons, List.sum_cons]
      omega
    | succ i =>
      have hRest := ih (by simpa using h)
      simp only [List.set_cons_succ, List.map_cons, List.sum_cons]
      omega

theorem setLine_allowance {w : World} {id : LinkId} {l : ScriptedLink} (hl : w.lines[id]? = some l)
    (m : ScriptedLink) :
    (w.setLine id m).allowance + Script.allowance l.acceptances =
      w.allowance + Script.allowance m.acceptances := by
  have hSum := sum_set (fun l => Script.allowance l.acceptances) hl m
  simp only [allowance, setLine]
  omega

theorem onLine_allowance {id : LinkId} {act : EStateM Fault ScriptedLink α}
    (hAct : ∀ l, Script.allowance (endState (act l)).acceptances ≤ Script.allowance l.acceptances)
    (w : World) : (endState (onLine id act w)).allowance ≤ w.allowance := by
  unfold onLine
  cases hl : w.lines[id]? with
  | none => exact Nat.le_refl _
  | some l =>
    have hLess := hAct l
    simp only
    cases hRun : act l with
    | ok a m =>
      have hSet := setLine_allowance hl m
      rw [hRun, endState_ok] at hLess
      rw [endState_ok]
      omega
    | error f m =>
      have hSet := setLine_allowance hl m
      rw [hRun, endState_error] at hLess
      rw [endState_error]
      omega

theorem onSink_allowance {act : EStateM Fault ScriptedSink α}
    (hAct : ∀ s, Script.allowance (endState (act s)).acceptances ≤ Script.allowance s.acceptances)
    (w : World) : (endState (onSink act w)).allowance ≤ w.allowance := by
  have hLess := hAct w.sink
  unfold onSink
  cases hRun : act w.sink with
  | ok a s =>
    rw [hRun] at hLess
    exact Nat.add_le_add_left hLess _
  | error f s =>
    rw [hRun] at hLess
    exact Nat.add_le_add_left hLess _

/-- Reads take nothing that is to be written. -/
theorem readLine_allowance (stopWhenDrained : Bool) (id : LinkId) (n : Nat) (w : World) :
    (endState (readLine stopWhenDrained id n w)).allowance = w.allowance := by
  rcases readLine_cases stopWhenDrained id n w with h | ⟨l, r, stop, hl, hr, h⟩
  · rw [h]
    rfl
  · have hKept := l.read_acceptances stopWhenDrained n
    have hSet := setLine_allowance hl (endState r)
    rw [hr] at hKept
    rw [hKept] at hSet
    rw [h]
    cases r with
    | ok bs m => exact Nat.add_right_cancel hSet
    | error f m => exact Nat.add_right_cancel hSet

theorem tryOpen_allowance (w : World) : (endState (tryOpen w)).allowance = w.allowance := by
  unfold tryOpen
  cases w.offers with
  | nil => rfl
  | cons offer rest =>
    simp only
    cases offer.refusal <;> rfl

theorem receive_unplayed (w : World) : (receive w).2.unplayed = w.unplayed := by
  unfold receive
  cases w.chunks <;> rfl

/-- What adds nothing to the weight nor to what will be taken. -/
theorem later_unplayed {w v : World} (h : After w v) (hAllowance : v.allowance ≤ w.allowance) :
    Later World.stopped unplayed w v :=
  ⟨h.1, Nat.add_le_add h.2 hAllowance⟩

/-- What takes from the weight and adds nothing to what will be taken. -/
theorem unplayed_lt {w v : World} (h : v.weight < w.weight)
    (hAllowance : v.allowance ≤ w.allowance) : v.unplayed < w.unplayed :=
  Nat.add_lt_add_of_lt_of_le h hAllowance

/-- Reads take from what is left as soon as they take from the weight. -/
theorem readLine_unplayed {stopWhenDrained : Bool} {id : LinkId} {n : Nat} {w : World}
    {r : EStateM.Result Fault World Bytes} (hRead : readLine stopWhenDrained id n w = r)
    (h : (endState r).weight < w.weight) : (endState r).unplayed < w.unplayed := by
  have hAllowance := readLine_allowance stopWhenDrained id n w
  rw [hRead] at hAllowance
  exact unplayed_lt h (Nat.le_of_eq hAllowance)

theorem link_unplayed (id : LinkId) : (link true id).Keeps (Later World.stopped unplayed) where
  read n w :=
    later_unplayed (readLine_after true id n w) (Nat.le_of_eq (readLine_allowance true id n w))
  write bs w := later_unplayed (onLine_after (ScriptedLink.write_weight bs) w)
    (onLine_allowance (ScriptedLink.write_allowance_le bs) w)
  flush w := later_unplayed (onLine_after ScriptedLink.flush_weight w)
    (onLine_allowance (fun l => Nat.le_of_eq (congrArg _ l.flush_acceptances)) w)
  setMode mode w := later_unplayed (onLine_after (ScriptedLink.setMode_weight mode) w)
    (onLine_allowance (fun l => Nat.le_of_eq (congrArg _ (l.setMode_acceptances mode))) w)

theorem passthrough_unplayed : passthrough.Keeps (Later World.stopped unplayed) where
  write bs w := later_unplayed (onSink_after (ScriptedSink.write_weight bs) w)
    (onSink_allowance (ScriptedSink.write_allowance_le bs) w)
  flush w := later_unplayed (onSink_after (fun s => Nat.le_of_eq s.flush_weight) w)
    (onSink_allowance (fun s => Nat.le_of_eq (congrArg _ s.flush_acceptances)) w)

theorem tryOpen_unplayed (w : World) :
    (endState (tryOpen w)).stopped = true ∨ (endState (tryOpen w)).unplayed < w.unplayed := by
  rcases tryOpen_spends w with hStopped | hSpent
  · exact Or.inl hStopped
  · exact Or.inr (unplayed_lt hSpent (Nat.le_of_eq (tryOpen_allowance w)))

/-- The world as the host of a poll loop, whose budget is all that is left of the world. -/
def rehearsal : BridgeHost World where
  toHost := { host fun _ => true with
    budget := unplayed
    link_keeps := link_unplayed
    sink_keeps := passthrough_unplayed
    tryOpen_later := fun w => later_unplayed (tryOpen_after w) (Nat.le_of_eq (tryOpen_allowance w))
    pause_later := fun _ _ => ⟨fun h => h, Nat.le_refl _⟩
    tryOpen_spends := tryOpen_unplayed }
  receive := receive
  receive_later := fun w => ⟨(bridgeHost.receive_later w).1, Nat.le_of_eq (receive_unplayed w)⟩
  read_spends := fun {id s bs t} h => by
    have hRead : readLine true id 1 s = .ok bs t := h
    exact Or.inr (readLine_unplayed hRead (readLine_spends Nat.one_pos hRead))
  idle_spends := fun {id s f t} h hf => by
    have hRead : readLine true id 1 s = .error f t := h
    rcases readLine_idle_spends hRead hf with hStopped | hSpent
    · exact Or.inl hStopped
    · exact Or.inr (readLine_unplayed hRead hSpent)

theorem rehearsal_drains : rehearsal.Drains where
  read {k n s bs t} h hn := by
    have hRead : readLine true k n s = .ok bs t := h
    exact readLine_unplayed hRead (readLine_spends hn hRead)
  readAgain {k n s f t} h hf := by
    have hRead : readLine true k n s = .error f t := h
    exact readLine_unplayed hRead (readLine_interrupted hRead hf)
  write {k bs s n t} h hn := by
    obtain ⟨l, m, hl, hWrite, rfl⟩ := onLine_ok h
    have hSpent := ScriptedLink.write_partly hWrite hn
    have hWeight := lineWeight_set hl m
    have hAllowance := setLine_allowance hl m
    show (s.setLine k m).weight + (s.setLine k m).allowance < s.weight + s.allowance
    simp only [weight, setLine] at hWeight hAllowance ⊢
    omega
  writeAgain {k bs s f t} h hf := by
    have hWeight := (link true k).write_interrupted h hf
    have hAllowance := @onLine_allowance _ k _ (ScriptedLink.write_allowance_le bs) s
    rw [show onLine k (ScriptedLink.write bs) s = .error f t from h] at hAllowance
    exact unplayed_lt hWeight hAllowance
  pass {bs s n t} h hn := by
    obtain ⟨v, hWrite, rfl⟩ := onSink_ok h
    have hSpent := ScriptedSink.write_partly hWrite hn
    show World.unplayed _ < World.unplayed _
    simp only [unplayed, weight, allowance]
    omega
  passAgain {bs s f t} h hf := by
    have hWeight := passthrough.write_interrupted h hf
    have hAllowance := onSink_allowance (ScriptedSink.write_allowance_le bs) s
    rw [show onSink (ScriptedSink.write bs) s = .error f t from h] at hAllowance
    exact unplayed_lt hWeight hAllowance

end World

/-! ## No loop goes on for ever -/

namespace World

open Connection Bridge

/-- A rehearsal without a clock is what the world is as a host. -/
theorem rehearsal_follows :
    (rehearsal.watched.timed fun _ => 0).Follows Watched.Erases bridgeHost.toHost :=
  let h := Watched.follows rehearsal.toHost
  { link := h.link, sink := h.sink, clock := fun _ => rfl, stopped := h.stopped,
    tryOpen := h.tryOpen, pause := h.pause }

/-- A rehearsal comes to an end, with any clock, any timing and any chunks of input. Whatever a full
read, a skip or a full write goes on after has used up some of what is left of the world, and so has
an attempt to open a link that is followed by another one, a byte that a tick has polled, and a
round of the poll loop after which the world runs. So the loop ends after as many rounds as there is
left at first, and one more, and the deeds of a wait for a link, of a tick, of the loop and of a
whole run are bounded. Without a clock a rehearsal is a run of the world as it is. -/
theorem runs_out (clock : Watched World → Nat) :
    let host := rehearsal.watched.timed clock
    host.Drains ∧
    (∀ delay s f t u, host.openLink s = .error f t → host.sleep delay t = (true, u) →
      u.world.unplayed < s.world.unplayed) ∧
    (∀ k b c d, pollByte (host.link k) c = .ok (some b) d →
      (endState (handleByte host.toHost (host.link k) b d)).world.world.unplayed <
        c.world.world.unplayed) ∧
    (∀ inputOpen c d, update host.toHost c = .ok () d →
      ¬ (takeInputIf host inputOpen d).2.world.world.stopped = true →
      (takeInputIf host inputOpen d).2.world.world.unplayed < c.world.world.unplayed) ∧
    (∀ c, ∃ inputOpen rounds d, Loop host c inputOpen rounds d ∧
      rounds.length ≤ c.world.world.unplayed + 1 ∧
      (d.world.world.stopped = true ∧ pollLoop host true c = .ok () d ∨
        ¬ d.world.world.stopped = true ∧
          ((∃ e, update host.toHost d = .error .stopped e ∧ e.world.world.stopped = true ∧
              pollLoop host true c = .ok () e) ∨
            ∃ f e, update host.toHost d = .error (.sink f) e ∧
              pollLoop host true c = .error f e))) ∧
    (∀ c, (endState (connect host.toHost c)).world.log.length ≤
      c.world.log.length + (3 * c.world.world.unplayed + 4) ∧
      (endState (update host.toHost c)).world.log.length ≤
        c.world.log.length + (8 * c.world.world.unplayed + 8) ∧
      (endState (pollLoop host true c)).world.log.length ≤
        c.world.log.length + (17 * c.world.world.unplayed + 9) ∧
      (endState (run host c)).world.log.length ≤
        c.world.log.length + (17 * c.world.world.unplayed + 13)) ∧
    ∀ c, Alike Unwatched (pollLoop (rehearsal.watched.timed fun _ => 0) true c)
      (pollLoop bridgeHost true c.unwatched) ∧
      Alike Unwatched (run (rehearsal.watched.timed fun _ => 0) c)
        (run bridgeHost c.unwatched) := by
  intro host
  have hPaced : host.Paced fun s => s.log.length := Watched.paced rehearsal_drains clock
  refine ⟨hPaced.drains, ?_, ?_, ?_, ?_, ?_, ?_⟩
  · intro delay s f t u hOpen hSleep
    exact host.retry_spends hOpen hSleep
  · intro k b c d hPoll
    exact byte_spends hPaced hPoll
  · intro inputOpen c d hUpdate hRuns
    exact round_spends host hUpdate hRuns
  · intro c
    have hStart : Loop host c true [] c := .start
    obtain ⟨inputOpen, rounds, d, hLoop, hEnd⟩ := hStart.ends
    refine ⟨inputOpen, rounds, d, hLoop, ?_, hEnd⟩
    rcases hLoop.rounds_le with hRounds | ⟨-, hRounds⟩
    · exact Nat.le_succ_of_le (Nat.le_trans (Nat.le_add_right _ _) hRounds)
    · exact hRounds
  · intro c
    exact ⟨(connect_costs hPaced c).steps_le, (update_costs hPaced c).steps_le,
      (pollLoop_costs hPaced true c).steps_le,
      (run_costs hPaced c).steps_le⟩
  · intro c
    have hReceive := fun {s w} => @receive_follows World bridgeHost s w
    exact ⟨alike_unwatched (pollLoop_follows rehearsal_follows hReceive true (same_unwatched c)),
      alike_unwatched (run_follows rehearsal_follows hReceive c c.unwatched (same_unwatched c))⟩

end World

end MemoryBridge
