import MemoryBridge.Bridge
import MemoryBridge.Rehearsal.ScriptedLink
import MemoryBridge.Session.Pump

/-!
# Rehearsed worlds

A whole world that is known in advance: the links that can be opened with their scripts, what each
attempt to open comes to, a scripted sink, and chunks of console input. Time does not pass in it.

`World.host` lets a connection run in such a world. It can stop the world when a read finds that its
link has nothing left. `World.bridgeHost` does that at every link, so that a poll loop comes to an
end; its budget is the weight of everything that has not happened yet.
-/

namespace MemoryBridge

/-- What one attempt to open the link comes to. -/
structure Offer where
  /-- Set if the attempt fails; otherwise the next link is handed out. -/
  refusal : Option FaultKind := none
  /-- Whether the world is stopped first. -/
  stop : Bool := false
  deriving DecidableEq, Repr

structure World where
  /-- All links, those that are still to be opened included. -/
  lines : List ScriptedLink := []
  offers : List Offer := []
  handedOut : Nat := 0
  /-- Attempts to open a link so far. -/
  opens : Nat := 0
  sink : ScriptedSink := {}
  stopped : Bool := false
  chunks : List Bytes := []
  /-- Whether more chunks may still be sent. -/
  inputOpen : Bool := false
  deriving Repr

namespace World

variable {α : Type}

/-- There is no link of this number. -/
def noSuchLink : Fault := ⟨.notFound, "no such link"⟩

def setLine (w : World) (id : LinkId) (l : ScriptedLink) : World :=
  { w with lines := w.lines.set id l }

/-- Lets an operation act on one link. -/
def onLine (id : LinkId) (act : EStateM Fault ScriptedLink α) : EStateM Fault World α := fun w =>
  match w.lines[id]? with
  | none => .error noSuchLink w
  | some l =>
    match act l with
    | .ok a l => .ok a (w.setLine id l)
    | .error f l => .error f (w.setLine id l)

def readLine (stopWhenDrained : Bool) (id : LinkId) (n : Nat) :
    EStateM Fault World Bytes := fun w =>
  match w.lines[id]? with
  | none => .error noSuchLink w
  | some l =>
    match l.read stopWhenDrained n with
    | (.ok bs l, stop) => .ok bs { w.setLine id l with stopped := w.stopped || stop }
    | (.error f l, stop) => .error f { w.setLine id l with stopped := w.stopped || stop }

/-- Lets an operation act on the sink. -/
def onSink (act : EStateM Fault ScriptedSink α) : EStateM Fault World α := fun w =>
  match act w.sink with
  | .ok a s => .ok a { w with sink := s }
  | .error f s => .error f { w with sink := s }

/-- Takes the next offer. When there is none left, the world stops. -/
def tryOpen : EStateM Fault World LinkId := fun w =>
  let w := { w with opens := w.opens + 1 }
  match w.offers with
  | [] => .error noSuchLink { w with stopped := true }
  | offer :: rest =>
    let w := { w with offers := rest, stopped := w.stopped || offer.stop }
    match offer.refusal with
    | some kind => .error (Script.fault kind) w
    | none => .ok w.handedOut { w with handedOut := w.handedOut + 1 }

/-- The next chunk of console input. -/
def receive (w : World) : Received × World :=
  match w.chunks with
  | bytes :: rest => (.chunk bytes, { w with chunks := rest })
  | [] => (if w.inputOpen then .empty else .disconnected, w)

/-! ## What is left to happen in a world -/

def lineWeight : List ScriptedLink → Nat
  | [] => 0
  | l :: rest => l.weight + lineWeight rest

/-- Bounds what can still happen. -/
def weight (w : World) : Nat :=
  lineWeight w.lines + w.offers.length + w.sink.weight

theorem lineWeight_set {lines : List ScriptedLink} {i : Nat} {l : ScriptedLink}
    (h : lines[i]? = some l) (m : ScriptedLink) :
    lineWeight (lines.set i m) + l.weight = lineWeight lines + m.weight := by
  induction lines generalizing i with
  | nil => simp at h
  | cons a rest ih =>
    cases i with
    | zero =>
      simp only [List.getElem?_cons_zero, Option.some.injEq] at h
      subst h
      simp [lineWeight]
      omega
    | succ i =>
      have := ih (by simpa using h)
      simp only [List.set_cons_succ, lineWeight]
      omega

/-- The order in which the states of a rehearsed world follow each other. -/
abbrev After : World → World → Prop := Later World.stopped weight

theorem onLine_after {id : LinkId} {act : EStateM Fault ScriptedLink α}
    (hAct : ∀ l, (endState (act l)).weight ≤ l.weight) : Moves After (onLine id act) := by
  intro w
  unfold onLine
  split
  · exact ⟨fun h => h, Nat.le_refl _⟩
  · rename_i l hl
    have h := hAct l
    split <;> rename_i ha <;> rw [ha] at h <;> refine ⟨fun h => h, ?_⟩ <;>
      simp only [endState_ok, endState_error] at h ⊢
    · rename_i a m
      have := lineWeight_set hl m
      simp only [weight, setLine]
      omega
    · rename_i f m
      have := lineWeight_set hl m
      simp only [weight, setLine]
      omega

theorem onLine_error {id : LinkId} {act : EStateM Fault ScriptedLink α} {w v : World} {f : Fault}
    (h : onLine id act w = .error f v) :
    (f = noSuchLink ∧ v = w) ∨
      ∃ l m, w.lines[id]? = some l ∧ act l = .error f m ∧ v = w.setLine id m := by
  unfold onLine at h
  split at h
  · simp only [EStateM.Result.error.injEq] at h
    exact Or.inl ⟨h.1.symm, h.2.symm⟩
  · rename_i l hl
    split at h <;> simp only [EStateM.Result.error.injEq, reduceCtorEq] at h
    rename_i g m ha
    exact Or.inr ⟨l, m, hl, h.1 ▸ ha, h.2.symm⟩

theorem onLine_ok {id : LinkId} {act : EStateM Fault ScriptedLink α} {w v : World} {a : α}
    (h : onLine id act w = .ok a v) :
    ∃ l m, w.lines[id]? = some l ∧ act l = .ok a m ∧ v = w.setLine id m := by
  unfold onLine at h
  split at h
  · simp at h
  · rename_i l hl
    split at h <;> simp only [EStateM.Result.ok.injEq, reduceCtorEq] at h
    rename_i b m ha
    exact ⟨l, m, hl, h.1 ▸ ha, h.2.symm⟩

theorem setLine_weight {w : World} {id : LinkId} {l m : ScriptedLink} (hl : w.lines[id]? = some l)
    (h : m.weight < l.weight) : (w.setLine id m).weight < w.weight := by
  have := lineWeight_set hl m
  simp only [weight, setLine]
  omega

/-- A read at a link: there is no such link, or the link answers. -/
theorem readLine_cases (stopWhenDrained : Bool) (id : LinkId) (n : Nat) (w : World) :
    readLine stopWhenDrained id n w = .error noSuchLink w ∨
      ∃ l r stop, w.lines[id]? = some l ∧ l.read stopWhenDrained n = (r, stop) ∧
        readLine stopWhenDrained id n w =
          match r with
          | .ok bs m => .ok bs { w.setLine id m with stopped := w.stopped || stop }
          | .error f m => .error f { w.setLine id m with stopped := w.stopped || stop } := by
  unfold readLine
  cases hl : w.lines[id]? with
  | none => exact Or.inl rfl
  | some l =>
    refine Or.inr ⟨l, (l.read stopWhenDrained n).1, (l.read stopWhenDrained n).2, rfl, rfl, ?_⟩
    simp only
    generalize l.read stopWhenDrained n = v
    obtain ⟨r, stop⟩ := v
    cases r <;> rfl

theorem readLine_after (stopWhenDrained : Bool) (id : LinkId) (n : Nat) :
    Moves After (readLine stopWhenDrained id n) := by
  intro w
  rcases readLine_cases stopWhenDrained id n w with
    h | ⟨l, r, stop, hl, hr, h⟩
  · rw [h]
    exact ⟨fun h => h, Nat.le_refl _⟩
  · have hw := l.read_weight stopWhenDrained n
    rw [hr] at hw
    rw [h]
    cases r with
    | ok bs m =>
      have := lineWeight_set hl m
      simp only [endState_ok] at hw ⊢
      exact ⟨fun h => by simp [h], by simp only [weight, setLine]; omega⟩
    | error f m =>
      have := lineWeight_set hl m
      simp only [endState_error] at hw ⊢
      exact ⟨fun h => by simp [h], by simp only [weight, setLine]; omega⟩

theorem readLine_length_le {stopWhenDrained : Bool} {id : LinkId} {n : Nat} {w v : World}
    {bs : Bytes} (h : readLine stopWhenDrained id n w = .ok bs v) : bs.length ≤ n := by
  rcases readLine_cases stopWhenDrained id n w with
    h' | ⟨l, r, stop, hl, hr, h'⟩
  · simp [h'] at h
  · rw [h'] at h
    cases r with
    | error f m => simp at h
    | ok cs m =>
      simp only [EStateM.Result.ok.injEq] at h
      exact h.1 ▸ ScriptedLink.read_length_le (by rw [hr])

theorem readLine_interrupted {stopWhenDrained : Bool} {id : LinkId} {n : Nat} {w v : World}
    {f : Fault} (h : readLine stopWhenDrained id n w = .error f v) (hf : f.kind = .interrupted) :
    v.weight < w.weight := by
  rcases readLine_cases stopWhenDrained id n w with
    h' | ⟨l, r, stop, hl, hr, h'⟩
  · rw [h'] at h
    simp only [EStateM.Result.error.injEq] at h
    rw [← h.1] at hf
    simp [noSuchLink] at hf
  · rw [h'] at h
    cases r with
    | ok cs m => simp at h
    | error g m =>
      simp only [EStateM.Result.error.injEq] at h
      rw [← h.2]
      exact setLine_weight hl
        (ScriptedLink.read_interrupted (by rw [hr, h.1]) hf)

theorem readLine_spends {stopWhenDrained : Bool} {id : LinkId} {n : Nat} (hn : 0 < n) {w v : World}
    {bs : Bytes} (h : readLine stopWhenDrained id n w = .ok bs v) : v.weight < w.weight := by
  rcases readLine_cases stopWhenDrained id n w with
    h' | ⟨l, r, stop, hl, hr, h'⟩
  · simp [h'] at h
  · rw [h'] at h
    cases r with
    | error f m => simp at h
    | ok cs m =>
      simp only [EStateM.Result.ok.injEq] at h
      rw [← h.2]
      exact setLine_weight hl (ScriptedLink.read_ok_weight hn (by rw [hr]))

theorem readLine_idle_spends {id : LinkId} {w v : World} {f : Fault}
    (h : readLine true id 1 w = .error f v) (hf : f.isIdle = true) :
    v.stopped = true ∨ v.weight < w.weight := by
  rcases readLine_cases true id 1 w with
    h' | ⟨l, r, stop, hl, hr, h'⟩
  · rw [h'] at h
    simp only [EStateM.Result.error.injEq] at h
    rw [← h.1] at hf
    simp [noSuchLink, Fault.isIdle] at hf
  · rw [h'] at h
    cases r with
    | ok cs m => simp at h
    | error g m =>
      simp only [EStateM.Result.error.injEq] at h
      rw [← h.2]
      rcases ScriptedLink.read_idle_spends (by decide) hr (h.1 ▸ hf) with hs | hw
      · exact Or.inl (by simp [hs])
      · exact Or.inr (setLine_weight hl hw)

theorem onSink_after {act : EStateM Fault ScriptedSink α}
    (hAct : ∀ s, (endState (act s)).weight ≤ s.weight) : Moves After (onSink act) := by
  intro w
  have h := hAct w.sink
  unfold onSink
  split <;> rename_i ha <;> rw [ha] at h <;> refine ⟨fun h => h, ?_⟩ <;>
    simp only [endState_ok, endState_error, weight] at h ⊢ <;> omega

theorem onSink_ok {act : EStateM Fault ScriptedSink α} {w v : World} {a : α}
    (h : onSink act w = .ok a v) : ∃ s, act w.sink = .ok a s ∧ v = { w with sink := s } := by
  unfold onSink at h
  split at h <;> simp only [EStateM.Result.ok.injEq, reduceCtorEq] at h
  rename_i b s ha
  exact ⟨s, h.1 ▸ ha, h.2.symm⟩

theorem onSink_error {act : EStateM Fault ScriptedSink α} {w v : World} {f : Fault}
    (h : onSink act w = .error f v) : ∃ s, act w.sink = .error f s ∧ v = { w with sink := s } := by
  unfold onSink at h
  split at h <;> simp only [EStateM.Result.error.injEq, reduceCtorEq] at h
  rename_i g s ha
  exact ⟨s, h.1 ▸ ha, h.2.symm⟩

theorem tryOpen_after : Moves After tryOpen := by
  intro w
  simp only [tryOpen]
  split
  · exact ⟨fun _ => rfl, by simp [weight]⟩
  · rename_i offer rest ho
    split <;> exact ⟨fun h => by simp_all, by simp_all [weight]⟩

theorem tryOpen_spends (w : World) :
    (endState (tryOpen w)).stopped = true ∨ (endState (tryOpen w)).weight < w.weight := by
  simp only [tryOpen]
  split
  · exact Or.inl rfl
  · rename_i offer rest ho
    split <;> exact Or.inr (by simp_all [weight])

/-! ## The world as a host -/

/-- One of the links. -/
def link (stopWhenDrained : Bool) (id : LinkId) : Link World where
  read := readLine stopWhenDrained id
  write := fun bs => onLine id (ScriptedLink.write bs)
  flush := onLine id ScriptedLink.flush
  setMode := fun mode => onLine id (ScriptedLink.setMode mode)
  readPatience := weight
  writePatience := weight
  read_length_le := readLine_length_le
  read_interrupted := readLine_interrupted
  write_le_length := fun h => by
    obtain ⟨l, m, _, hw, _⟩ := onLine_ok h
    exact ScriptedLink.write_le_length hw
  write_interrupted := fun h hf => by
    rcases onLine_error h with ⟨hNone, _⟩ | ⟨l, m, hl, hw, rfl⟩
    · simp [hNone, noSuchLink] at hf
    · exact setLine_weight hl (ScriptedLink.write_interrupted hw hf)

theorem link_keeps (stopWhenDrained : Bool) (id : LinkId) :
    (link stopWhenDrained id).Keeps After where
  read := readLine_after stopWhenDrained id
  write := fun bs => onLine_after (ScriptedLink.write_weight bs)
  flush := onLine_after ScriptedLink.flush_weight
  setMode := fun mode => onLine_after (ScriptedLink.setMode_weight mode)

def passthrough : Sink World where
  write := fun bs => onSink (ScriptedSink.write bs)
  flush := onSink ScriptedSink.flush
  writePatience := weight
  write_le_length := fun h => by
    obtain ⟨s, hs, _⟩ := onSink_ok h
    exact ScriptedSink.write_le_length hs
  write_interrupted := fun h _ => by
    obtain ⟨s, hs, rfl⟩ := onSink_error h
    have := ScriptedSink.write_error_weight hs
    simp only [weight]
    omega

theorem passthrough_keeps : passthrough.Keeps After where
  write := fun bs => onSink_after (ScriptedSink.write_weight bs)
  flush := onSink_after fun s => Nat.le_of_eq (ScriptedSink.flush_weight s)

/-- The world as the host of a connection. `stopsAt` says at which links a read that finds nothing
left stops the world. -/
def host (stopsAt : LinkId → Bool) : Host World where
  link := fun id => link (stopsAt id) id
  sink := passthrough
  tryOpen := tryOpen
  stopped := World.stopped
  clock := fun _ => 0
  pause := fun _ w => w
  budget := weight
  link_keeps := fun id => link_keeps (stopsAt id) id
  sink_keeps := passthrough_keeps
  tryOpen_later := tryOpen_after
  pause_later := fun _ _ => ⟨fun h => h, Nat.le_refl _⟩
  tryOpen_spends := tryOpen_spends

/-- The world as the host of a poll loop. -/
def bridgeHost : BridgeHost World where
  toHost := host fun _ => true
  receive := receive
  receive_later := fun w => by
    unfold receive
    split <;> exact ⟨fun h => h, Nat.le_refl _⟩
  read_spends := fun h => Or.inr (readLine_spends (by decide) h)
  idle_spends := readLine_idle_spends

/-- Whether the script of a link, or the link itself, has something left to read. -/
def hasMore (id : LinkId) (w : World) : Bool :=
  match w.lines[id]? with
  | none => false
  | some l => !(l.memory.pending.isEmpty && l.arrivals.isEmpty)

/-- One link as a supply of bytes. -/
def supply (id : LinkId) : Supply World where
  link := link false id
  sink := passthrough
  more := hasMore id
  weight := weight
  link_keeps :=
    let h := link_keeps false id
    { read := fun n w => (h.read n w).2
      write := fun bs w => (h.write bs w).2
      flush := fun w => (h.flush w).2
      setMode := fun mode w => (h.setMode mode w).2 }
  sink_keeps :=
    { write := fun bs w => (passthrough_keeps.write bs w).2
      flush := fun w => (passthrough_keeps.flush w).2 }
  read_spends := readLine_spends (by decide)

end World

end MemoryBridge
