import MemoryBridge.Bridge
import MemoryBridge.Proofs.Keeping

/-!
# Input handed to the poll loop

Console input comes through a channel that other threads fill while the loop runs. `Conveys` is what
is asked of the channel: it is a queue, and what is sent goes to its end, whatever the bridge does
meanwhile. `input_handed_off` says that then no byte is lost, doubled or moved out of its place:
what requests have taken out of the mailbox, what is in the mailbox and what is in the channel are
together what there was at first and what was sent since.

A chunk that has left the channel is in the mailbox as a whole. What requests have taken out of the
mailbox need not have reached the device, see `input_delivered_or_lost`.
-/

namespace MemoryBridge

variable {σ : Type}

/-! ## The channel -/

/-- From `s` to `t` some chunks were sent, and none was received. -/
def Sends (queue sent : σ → List Bytes) (s t : σ) : Prop :=
  ∃ new, sent t = sent s ++ new ∧ queue t = queue s ++ new

theorem sends_durable (queue sent : σ → List Bytes) : Durable (Sends queue sent) where
  refl s := ⟨[], by simp, by simp⟩
  trans := by
    rintro s t u ⟨new, hSent, hQueue⟩ ⟨later, hSent', hQueue'⟩
    exact ⟨new ++ later,
      by rw [hSent', hSent, List.append_assoc], by rw [hQueue', hQueue, List.append_assoc]⟩

/-- The input channel is a queue. Chunks may be sent during every operation; a look into the
channel receives the oldest one, finds it empty, or finds that it is empty and that nobody
can send any more. -/
structure Conveys (host : BridgeHost σ) (queue sent : σ → List Bytes) : Prop
    extends host.toHost.Keeps (Sends queue sent) where
  chunk : ∀ {s bytes t}, host.receive s = (.chunk bytes, t) →
    ∃ new, sent t = sent s ++ new ∧ queue s ++ new = bytes :: queue t
  empty : ∀ {s t}, host.receive s = (.empty, t) → queue s = [] ∧ Sends queue sent s t
  disconnected : ∀ {s t}, host.receive s = (.disconnected, t) →
    queue s = [] ∧ queue t = [] ∧ sent t = sent s

/-! ## Recorded poll loops -/

theorem Recorded.keeps {host : Host σ} {R : σ → σ → Prop} (h : host.Keeps R) :
    host.recorded.Keeps (Rel R) where
  link := link_keeps h.link
  sink := sink_keeps h.sink
  tryOpen s := by
    show R s.world (endState (Recorded.tryOpen host s)).world
    rw [tryOpen_world]
    exact h.tryOpen s.world
  pause ms s := h.pause ms s.world

/-- The host of a poll loop with a record of what is done to its links. -/
def BridgeHost.recorded (host : BridgeHost σ) : BridgeHost (Recorded σ) where
  toHost := host.toHost.recorded
  receive := fun s => ((host.receive s.world).1, { s with world := (host.receive s.world).2 })
  receive_later := fun s => host.receive_later s.world
  read_spends := fun {k s bs t} h => by
    have hRead : (Recorded.link host.toHost k).read 1 s = .ok bs t := h
    rw [Recorded.link_read] at hRead
    obtain ⟨w, hw, rfl⟩ := Recorded.note_ok hRead
    exact host.read_spends hw
  idle_spends := fun {k s f t} h hf => by
    have hRead : (Recorded.link host.toHost k).read 1 s = .error f t := h
    rw [Recorded.link_read] at hRead
    obtain ⟨w, hw, rfl⟩ := Recorded.note_error hRead
    exact host.idle_spends hw hf

namespace Bridge

open Connection

section

variable (host : BridgeHost σ) (inputOpen : Bool) (c : Connection σ)

theorem pollLoop_of_stopped {c : Connection σ} (h : host.stopped c.world = true) :
    pollLoop host inputOpen c = .ok () c := by
  rw [pollLoop, dif_pos h]

theorem pollLoop_of_runs {c : Connection σ} (h : ¬ host.stopped c.world = true) :
    pollLoop host inputOpen c =
      match update host.toHost c with
      | .error .stopped d => .ok () d
      | .error (.sink f) d => .error f d
      | .ok () d =>
        pollLoop host (takeInputIf host inputOpen d).1 (takeInputIf host inputOpen d).2 := by
  rw [pollLoop, dif_neg h]
  cases update host.toHost c with
  | ok u d => rfl
  | error e d => cases e <;> rfl

end

theorem takeInputIf_plain (host : BridgeHost σ) (inputOpen : Bool) (c : Connection (Recorded σ)) :
    (takeInputIf host.recorded inputOpen c).1 = (takeInputIf host inputOpen c.plain).1 ∧
      (takeInputIf host.recorded inputOpen c).2.plain = (takeInputIf host inputOpen c.plain).2 := by
  have hReceive : host.recorded.receive c.world =
      ((host.receive c.world.world).1,
        { c.world with world := (host.receive c.world.world).2 }) := rfl
  have hPlain : c.plain.world = c.world.world := rfl
  unfold takeInputIf takeInput
  rw [hReceive, hPlain]
  cases inputOpen with
  | false => exact ⟨rfl, rfl⟩
  | true =>
    cases host.receive c.world.world with
    | mk r w => cases r <;> exact ⟨rfl, rfl⟩

/-- A poll loop on a recorded host is a poll loop on the host. -/
theorem pollLoop_plain (host : BridgeHost σ) (inputOpen : Bool) (c : Connection (Recorded σ)) :
    Alike Plain (pollLoop host.recorded inputOpen c) (pollLoop host inputOpen c.plain) := by
  fun_induction pollLoop host.recorded inputOpen c with
  | case1 inputOpen c hStopped =>
    have hStopped' : host.stopped c.plain.world = true := hStopped
    rw [pollLoop_of_stopped host inputOpen hStopped']
    exact .ok rfl
  | case2 inputOpen c hRuns d hUpdate =>
    have hRuns' : ¬ host.stopped c.plain.world = true := hRuns
    have hAlike := update_plain host.toHost c
    rw [pollLoop_of_runs host inputOpen hRuns']
    rw [show update host.toHost.recorded c = _ from hUpdate] at hAlike
    generalize update host.toHost c.plain = r at hAlike
    cases hAlike with
    | error h => exact .ok h
  | case3 inputOpen c hRuns f d hUpdate =>
    have hRuns' : ¬ host.stopped c.plain.world = true := hRuns
    have hAlike := update_plain host.toHost c
    rw [pollLoop_of_runs host inputOpen hRuns']
    rw [show update host.toHost.recorded c = _ from hUpdate] at hAlike
    generalize update host.toHost c.plain = r at hAlike
    cases hAlike with
    | error h => exact .error h
  | case4 inputOpen c hRuns d hUpdate ih =>
    have hRuns' : ¬ host.stopped c.plain.world = true := hRuns
    have hAlike := update_plain host.toHost c
    obtain ⟨hOpen, hTaken⟩ := takeInputIf_plain host inputOpen d
    rw [pollLoop_of_runs host inputOpen hRuns']
    rw [show update host.toHost.recorded c = _ from hUpdate] at hAlike
    generalize update host.toHost c.plain = r at hAlike
    cases hAlike with
    | ok h =>
      obtain rfl : d.plain = _ := h
      simp only
      rw [← hOpen, ← hTaken]
      exact ih

/-! ## The rounds of a poll loop -/

/-- What a look into the channel finds, if there is one. -/
def look? (host : BridgeHost σ) (inputOpen : Bool) (c : Connection σ) : Option Received :=
  if inputOpen then some (host.receive c.world).1 else none

/-- A tick that succeeded, by the connection that it began with, and the look into the channel after
it. -/
structure Round (σ : Type) where
  head : Connection σ
  look? : Option Received

/-- The chunk that a round has moved into the mailbox. -/
def Round.moved? (r : Round σ) : Option Bytes :=
  match r.look? with
  | some (.chunk bytes) => some bytes
  | _ => none

/-- A round has found that nobody can send any more. -/
def Round.Closes (r : Round σ) : Prop :=
  r.look? = some .disconnected

/-- From `start` the loop gets to `c` by `rounds`. -/
inductive Loop (host : BridgeHost σ) (start : Connection σ) :
    Bool → List (Round σ) → Connection σ → Prop
  | start : Loop host start true [] start
  | round {inputOpen : Bool} {rounds : List (Round σ)} {c d : Connection σ}
      (before : Loop host start inputOpen rounds c) (runs : ¬ host.stopped c.world = true)
      (ticks : update host.toHost c = .ok () d) :
      Loop host start (takeInputIf host inputOpen d).1 (rounds ++ [⟨c, look? host inputOpen d⟩])
        (takeInputIf host inputOpen d).2

namespace Loop

variable {host : BridgeHost σ} {start c : Connection σ} {inputOpen : Bool} {rounds : List (Round σ)}

/-- What is left of the loop is the loop from where it has got to. -/
theorem pollLoop_eq (h : Loop host start inputOpen rounds c) :
    pollLoop host true start = pollLoop host inputOpen c := by
  induction h with
  | start => rfl
  | round before runs ticks ih => rw [ih, pollLoop_of_runs host _ runs, ticks]

/-- The loop ends in a world that is stopped, or with a failure of the sink. -/
theorem ends (h : Loop host start inputOpen rounds c) :
    ∃ inputOpen rounds d, Loop host start inputOpen rounds d ∧
    (host.stopped d.world = true ∧ pollLoop host true start = .ok () d ∨
      ¬ host.stopped d.world = true ∧
        ((∃ e, update host.toHost d = .error .stopped e ∧ host.stopped e.world = true ∧
            pollLoop host true start = .ok () e) ∨
          ∃ f e, update host.toHost d = .error (.sink f) e ∧
            pollLoop host true start = .error f e)) := by
  rw [h.pollLoop_eq]
  fun_induction pollLoop host inputOpen c generalizing rounds with
  | case1 inputOpen c hStopped => exact ⟨_, _, c, h, Or.inl ⟨hStopped, rfl⟩⟩
  | case2 inputOpen c hRuns d hUpdate =>
    exact ⟨_, _, c, h, Or.inr ⟨hRuns, Or.inl ⟨d, hUpdate, update_stopped hUpdate, rfl⟩⟩⟩
  | case3 inputOpen c hRuns f d hUpdate =>
    exact ⟨_, _, c, h, Or.inr ⟨hRuns, Or.inr ⟨f, d, hUpdate, rfl⟩⟩⟩
  | case4 inputOpen c hRuns d hUpdate ih => exact ih (h.round hRuns hUpdate)

theorem look_eq_none_iff {d : Connection σ} :
    look? host inputOpen d = none ↔ inputOpen = false := by
  unfold look?
  cases inputOpen <;> simp

/-- The channel is closed by the round that finds it disconnected. -/
theorem closed_iff (h : Loop host start inputOpen rounds c) :
    inputOpen = false ↔ ∃ r ∈ rounds, r.Closes := by
  induction h with
  | start => simp
  | @round inputOpen rounds c d before runs ticks ih =>
    simp only [List.mem_append, List.mem_singleton, or_and_right, exists_or, exists_eq_left, ← ih]
    unfold takeInputIf takeInput Round.Closes look?
    cases inputOpen with
    | false => simp
    | true =>
      cases host.receive d.world with
      | mk r w => cases r <;> simp

/-- A round looks into the channel unless a round before it has found that nobody can send any
more. -/
theorem looks (h : Loop host start inputOpen rounds c) :
    ∀ before r after, rounds = before ++ r :: after →
    (r.look? = none ↔ ∃ r' ∈ before, r'.Closes) := by
  induction h with
  | start => simp
  | @round inputOpen rounds c d before runs ticks ih =>
    intro front r after hSplit
    rcases List.eq_nil_or_concat after with rfl | ⟨after, last, rfl⟩
    · obtain ⟨rfl, hLast⟩ := List.append_inj' hSplit rfl
      cases hLast
      rw [look_eq_none_iff]
      exact before.closed_iff
    · rw [List.concat_eq_append, ← List.cons_append, ← List.append_assoc] at hSplit
      obtain ⟨hRounds, -⟩ := List.append_inj' hSplit rfl
      exact ih front r after hRounds

end Loop

/-- Once the channel is disconnected the loop does not receive any more: it is the same loop on a
host that differs in how it receives. -/
theorem pollLoop_closed {host other : BridgeHost σ} (h : other.toHost = host.toHost)
    (c : Connection σ) : pollLoop other false c = pollLoop host false c := by
  generalize hOpen : false = inputOpen
  fun_induction pollLoop host inputOpen c with
  | case1 inputOpen c hStopped =>
    subst hOpen
    exact pollLoop_of_stopped other _ (h ▸ hStopped)
  | case2 inputOpen c hRuns d hUpdate =>
    rw [pollLoop_of_runs other _ (h ▸ hRuns), h, hUpdate]
  | case3 inputOpen c hRuns f d hUpdate =>
    rw [pollLoop_of_runs other _ (h ▸ hRuns), h, hUpdate]
  | case4 inputOpen c hRuns d hUpdate ih =>
    subst hOpen
    rw [pollLoop_of_runs other _ (h ▸ hRuns), h, hUpdate]
    exact ih rfl

/-! ## What was sent, moved and pulled -/

/-- From `a` to `b` the chunks `new` were sent, the chunks `moved` were moved into the mailbox, and
`pulled` was taken out of it. Nothing else has happened to the channel and to the mailbox. -/
structure Balance (queue sent : σ → List Bytes) (new moved : List Bytes) (pulled : Bytes)
    (a b : Serving (Recorded σ)) : Prop where
  sent : sent b.world.world = sent a.world.world ++ new
  channel : moved ++ queue b.world.world = queue a.world.world ++ new
  mailbox : pulled ++ b.session.mailbox.bytes = a.session.mailbox.bytes ++ moved.flatten

namespace Balance

variable {queue sent : σ → List Bytes} {new new' moved moved' : List Bytes} {pulled pulled' : Bytes}
  {a b c : Serving (Recorded σ)}

theorem refl (a : Serving (Recorded σ)) : Balance queue sent [] [] [] a a :=
  ⟨by simp, by simp, by simp⟩

theorem trans (h : Balance queue sent new moved pulled a b)
    (h' : Balance queue sent new' moved' pulled' b c) :
    Balance queue sent (new ++ new') (moved ++ moved') (pulled ++ pulled') a c where
  sent := by rw [h'.sent, h.sent, List.append_assoc]
  channel := by
    rw [List.append_assoc, h'.channel, ← List.append_assoc, h.channel, List.append_assoc]
  mailbox := by
    rw [List.append_assoc, h'.mailbox, ← List.append_assoc, h.mailbox, List.flatten_append,
      List.append_assoc]

/-- Nothing is lost, doubled or moved out of its place. -/
theorem conserves (h : Balance queue sent new moved pulled a b) :
    pulled ++ b.session.mailbox.bytes ++ (queue b.world.world).flatten =
      a.session.mailbox.bytes ++ (queue a.world.world ++ new).flatten := by
  rw [h.mailbox, ← h.channel, List.flatten_append, List.append_assoc]

/-- If nothing was sent, the chunks that were moved were the first ones in the channel. -/
theorem untouched (h : Balance queue sent [] moved pulled a b) :
    queue b.world.world = (queue a.world.world).drop moved.length := by
  have hChannel := h.channel
  rw [List.append_nil] at hChannel
  rw [← hChannel, List.drop_left]

end Balance

section

variable {host : BridgeHost σ} {queue sent : σ → List Bytes} (h : Conveys host queue sent)

include h

theorem sends_recorded : host.recorded.toHost.Keeps (Recorded.Rel (Sends queue sent)) :=
  Recorded.keeps h.toKeeps

omit h in
theorem sends_rel_durable : Durable (Recorded.Rel (Sends queue sent)) :=
  ⟨fun s => (sends_durable queue sent).refl s.world, (sends_durable queue sent).trans⟩

omit h in
/-- Where nothing is received and `pulled` leaves the mailbox. -/
theorem balance_of_sends {pulled : Bytes} {a b : Serving (Recorded σ)}
    (hSends : Recorded.Rel (Sends queue sent) a.world b.world)
    (hMailbox : a.session.mailbox.bytes = pulled ++ b.session.mailbox.bytes) :
    ∃ new, Balance queue sent new [] pulled a b := by
  obtain ⟨new, hSent, hQueue⟩ := hSends
  exact ⟨new, hSent, hQueue, by simp [hMailbox]⟩

/-- A look into the channel moves what it finds. -/
theorem takeInput_balance (inputOpen : Bool) (head c : Connection (Recorded σ)) :
    ∃ new, Balance queue sent new ((Round.moved? ⟨head, look? host.recorded inputOpen c⟩).toList) []
      c.toServing (takeInputIf host.recorded inputOpen c).2.toServing := by
  have hReceive : host.recorded.receive c.world =
      ((host.receive c.world.world).1,
        { c.world with world := (host.receive c.world.world).2 }) := rfl
  unfold Round.moved? look? takeInputIf takeInput
  rw [hReceive]
  cases inputOpen with
  | false => exact ⟨[], Balance.refl _⟩
  | true =>
    cases hFound : host.receive c.world.world with
    | mk r w =>
      cases r with
      | chunk bytes =>
        obtain ⟨new, hSent, hQueue⟩ := h.chunk hFound
        exact ⟨new, hSent, hQueue.symm, by simp [appendInput, Mailbox.append]⟩
      | empty =>
        obtain ⟨-, new, hSent, hQueue⟩ := h.empty hFound
        exact ⟨new, hSent, hQueue, by simp⟩
      | disconnected =>
        obtain ⟨hBefore, hAfter, hSent⟩ := h.disconnected hFound
        exact ⟨[], by simpa using hSent, by simp [hBefore, hAfter], by simp⟩

end

end Bridge

/-! ## Ticks -/

namespace Connection

section

variable {R : σ → σ → Prop} (hR : Durable R) {host : Host σ} (h : host.Keeps R) (k : LinkId)

include hR h

/-- A hearing begins in a world that polling has led to. -/
theorem hearings_before (started n : Nat) (c : Connection σ) :
    ∀ x ∈ hearings host k started n c, R c.world x.before.world := by
  induction n generalizing c with
  | zero => simp [hearings]
  | succ n ih =>
    have hPolled := pollByte_moves (h.link k) c
    unfold hearings
    cases hPoll : pollByte (host.link k) c with
    | error e d => simp
    | ok polled d =>
      rw [hPoll] at hPolled
      cases polled with
      | none => simp
      | some b =>
        have hHandled := handleByte_moves hR host (h.link k) h.sink.write b d
        intro x hx
        simp only at hx
        rcases List.mem_cons.mp hx with rfl | hx
        · exact hPolled
        · cases hHandle : handleByte host (host.link k) b d with
          | error e u => simp [hHandle] at hx
          | ok v u =>
            rw [hHandle] at hx hHandled
            simp only at hx
            split at hx
            · simp at hx
            · exact hR.trans hPolled (hR.trans hHandled (ih u x hx))

theorem heard_before (c : Connection σ) : ∀ x ∈ heard host k c, R c.world x.before.world := by
  have hRequested := requestHandshake_moves hR host (h.link k) c
  unfold heard
  cases hRequest : requestHandshake host (host.link k) c with
  | error e d => simp
  | ok u d =>
    rw [hRequest] at hRequested
    intro x hx
    exact hR.trans hRequested (hearings_before hR h k _ _ d x hx)

end

/-- The input that a tick pulls. -/
def pulledIn (host : Host σ) (c : Connection (Recorded σ)) : Bytes :=
  match c.link with
  | none => []
  | some k => (heard host.recorded k c).flatMap (·.pulled host)

theorem update_pulls (host : Host σ) (c : Connection (Recorded σ)) :
    c.session.mailbox.bytes =
      pulledIn host c ++ (endState (update host.recorded c)).session.mailbox.bytes := by
  unfold pulledIn
  cases hLink : c.link with
  | none =>
    rw [update_unlinked hLink, connect_session]
    rfl
  | some k =>
    have hPoll := (poll_chained host.recorded k c).mailbox
    rw [update_session hLink]
    simp only
    by_cases hBreaks : Breaks (poll host.recorded (host.recorded.link k) c)
    · rw [if_pos hBreaks]
      exact hPoll
    · rw [if_neg hBreaks]
      exact hPoll

end Connection

namespace Bridge

open Connection

section

variable {host : BridgeHost σ} {queue sent : σ → List Bytes} (h : Conveys host queue sent)

include h

theorem update_balance (c : Connection (Recorded σ)) :
    ∃ new, Balance queue sent new [] (pulledIn host.toHost c)
    c.toServing (endState (update host.recorded.toHost c)).toServing :=
  balance_of_sends (update_moves sends_rel_durable (sends_recorded h) c)
    (update_pulls host.toHost c)

/-- Inside of a tick, before a byte is handled and after it. -/
theorem hearing_balance {k : LinkId} {c : Connection (Recorded σ)}
    {front rest : List (Hearing (Recorded σ))} {x : Hearing (Recorded σ)}
    (hHeard : heard host.recorded.toHost k c = front ++ x :: rest) :
    (∃ new, Balance queue sent new [] (front.flatMap (·.pulled host.toHost)) c.toServing x.before) ∧
      ∃ new, Balance queue sent new [] ((front ++ [x]).flatMap (·.pulled host.toHost)) c.toServing
        (endState (x.outcome host.recorded.toHost)) := by
  have hD := @sends_rel_durable σ queue sent
  have hKeeps := sends_recorded h
  have hBefore := heard_before hD hKeeps k c x (by simp [hHeard])
  have hChained := poll_chained host.recorded.toHost k c
  rw [hHeard] at hChained
  have hFront : c.session.mailbox.bytes = front.flatMap (·.pulled host.toHost) ++
      x.before.session.mailbox.bytes :=
    hChained.before.mailbox
  have hByte := Session.processByte_moves hD (hKeeps.link x.link) hKeeps.sink.write x.byte x.before
  refine ⟨balance_of_sends hBefore hFront, balance_of_sends (hD.trans hBefore hByte) ?_⟩
  rw [hFront, (x.outcome_exchanges host.toHost).mailbox, List.flatMap_append,
    List.flatMap_singleton, List.append_assoc]
  rfl

namespace Loop

variable {start c : Connection (Recorded σ)} {inputOpen : Bool} {rounds : List (Round (Recorded σ))}

/-- Every round pulls some input, and then it moves one chunk at most. -/
theorem balance (hLoop : Loop host.recorded start inputOpen rounds c) :
    ∃ new, Balance queue sent new (rounds.filterMap Round.moved?)
      (rounds.flatMap fun r => pulledIn host.toHost r.head)
      start.toServing c.toServing := by
  induction hLoop with
  | start => exact ⟨[], Balance.refl _⟩
  | @round inputOpen rounds c d before runs ticks ih =>
    obtain ⟨new, hBefore⟩ := ih
    obtain ⟨new', hTick⟩ := update_balance h c
    obtain ⟨new'', hTake⟩ := takeInput_balance h inputOpen c d
    rw [ticks] at hTick
    have hAll := (hBefore.trans hTick).trans hTake
    have hMoved : ∀ r : Round (Recorded σ), (rounds ++ [r]).filterMap Round.moved? =
        rounds.filterMap Round.moved? ++ [] ++ r.moved?.toList := fun r => by
      cases hr : r.moved? <;> simp [hr]
    rw [hMoved, List.flatMap_append, List.flatMap_singleton,
      ← List.append_nil (_ ++ pulledIn host.toHost c)]
    exact ⟨_, hAll⟩

/-- While the channel is looked into, a round moves a chunk unless there is none. -/
theorem moved_or_empty (c d : Connection (Recorded σ)) :
    (∃ bytes, Round.moved? (⟨c, look? host.recorded true d⟩ : Round (Recorded σ)) = some bytes ∧
      (takeInputIf host.recorded true d).1 = true) ∨
      Round.moved? (⟨c, look? host.recorded true d⟩ : Round (Recorded σ)) = none ∧
      queue d.world.world = [] ∧
        ((takeInputIf host.recorded true d).1 = false →
          queue (takeInputIf host.recorded true d).2.world.world = []) := by
  have hReceive : host.recorded.receive d.world =
      ((host.receive d.world.world).1,
        { d.world with world := (host.receive d.world.world).2 }) := rfl
  unfold Round.moved? look? takeInputIf takeInput
  rw [hReceive]
  cases hFound : host.receive d.world.world with
  | mk r w =>
    cases r with
    | chunk bytes => exact Or.inl ⟨bytes, rfl, rfl⟩
    | empty => exact Or.inr ⟨rfl, (h.empty hFound).1, fun hClosed => by cases hClosed⟩
    | disconnected =>
      obtain ⟨hBefore, hAfter, -⟩ := h.disconnected hFound
      exact Or.inr ⟨rfl, hBefore, fun _ => hAfter⟩

/-- If nothing is sent, every round moves a chunk until all of them are moved. -/
theorem counts (hLoop : Loop host.recorded start inputOpen rounds c)
    (hNothing : sent c.world.world = sent start.world.world) :
    (rounds.filterMap Round.moved?).length = min rounds.length (queue start.world.world).length ∧
      (inputOpen = false → queue c.world.world = []) := by
  induction hLoop with
  | start => simp
  | @round inputOpen rounds c d before runs ticks ih =>
    obtain ⟨new, hBefore⟩ := before.balance h
    obtain ⟨new', hTick⟩ := update_balance h c
    obtain ⟨new'', hTake⟩ := takeInput_balance h inputOpen c d
    rw [ticks] at hTick
    have hSent := ((hBefore.trans hTick).trans hTake).sent
    rw [hNothing, List.append_assoc] at hSent
    obtain ⟨rfl, hRest⟩ := List.append_eq_nil_iff.mp (List.append_right_eq_self.mp hSent.symm)
    obtain ⟨rfl, rfl⟩ := List.append_eq_nil_iff.mp hRest
    obtain ⟨hCount, hClosed⟩ := ih (by rw [hBefore.sent, List.append_nil])
    have hSame : queue d.world.world = queue c.world.world := by simpa using hTick.channel
    have hLength := congrArg List.length hBefore.channel
    have hTaken := congrArg List.length hTake.channel
    rw [List.length_append, List.length_append] at hLength hTaken
    rw [List.filterMap_append, List.length_append, List.length_append]
    cases inputOpen with
    | false =>
      have hEmpty : queue c.world.world = [] := hClosed rfl
      have hNone : Round.moved? (⟨c, look? host.recorded false d⟩ : Round (Recorded σ)) =
          none := rfl
      refine ⟨?_, fun _ => hSame.trans hEmpty⟩
      rw [hEmpty] at hLength
      simp only [List.filterMap_cons, hNone, List.filterMap_nil, List.length_nil,
        List.length_singleton] at hLength ⊢
      omega
    | true =>
      rcases moved_or_empty h c d with ⟨bytes, hMoved, hOpen⟩ | ⟨hNone, hEmpty, hStays⟩
      · refine ⟨?_, fun hShut => by cases hOpen.symm.trans hShut⟩
        rw [hMoved] at hTaken
        rw [hSame] at hTaken
        simp only [List.filterMap_cons, hMoved, List.filterMap_nil, Option.toList_some,
          List.length_singleton, List.length_nil] at hTaken hLength ⊢
        omega
      · refine ⟨?_, hStays⟩
        rw [← hSame, hEmpty] at hLength
        simp only [List.filterMap_cons, hNone, List.filterMap_nil, List.length_nil,
          List.length_singleton] at hLength ⊢
        omega

end Loop

end

/-! ## The whole loop -/

/-- What was taken out of the mailbox, what is in it and what is in the channel are what there was
at `start` and what was sent since. The chunks that have left the channel are `moved`. -/
def Conserved (queue sent : σ → List Bytes) (start : Serving (Recorded σ)) (moved : List Bytes)
    (pulled : Bytes) (st : Serving (Recorded σ)) : Prop :=
  ∃ new, sent st.world.world = sent start.world.world ++ new ∧
    moved ++ queue st.world.world = queue start.world.world ++ new ∧
    pulled ++ st.session.mailbox.bytes ++ (queue st.world.world).flatten =
      start.session.mailbox.bytes ++ (queue start.world.world ++ new).flatten

theorem Balance.conserved {queue sent : σ → List Bytes} {new moved : List Bytes} {pulled : Bytes}
    {start st : Serving (Recorded σ)} (h : Balance queue sent new moved pulled start st) :
    Conserved queue sent start moved pulled st :=
  ⟨new, h.sent, h.channel, h.conserves⟩

/-- Input that is handed to the loop keeps its order and all its bytes, whatever is sent while the
loop runs, and whatever the device, the links, the sink and the clock do. Let the loop have got from
`start` to `c` by `rounds`, which are the ticks that succeeded, and let `pulled` be what requests
for input have taken out of the mailbox in them.

* The record is one of a loop of the host.
* What was pulled, what is in the mailbox and what is in the channel are what there was at first and
  what was sent since. So it is at `c`, before and after each byte that the next tick hears, and
  after that tick, also if it fails.
* A round moves one chunk at most, as a whole. If nothing is sent while the loop runs, then all
  rounds move one until there is none left, and what is left stays in the channel.
* A round looks into the channel unless a round before it has found the channel disconnected, and
  then the loop goes on without it, as it would on any host that differs in how it receives.
* The loop ends without a failure in a world that is stopped, before a tick or in a tick that was
  reconnecting; or it ends with the failure of the sink that a tick ends with.
-/
theorem input_handed_off (host : BridgeHost σ) {queue sent : σ → List Bytes}
    (h : Conveys host queue sent) (start : Connection (Recorded σ)) :
    Alike Plain (pollLoop host.recorded true start) (pollLoop host true start.plain) ∧
    (∀ inputOpen rounds c, Loop host.recorded start inputOpen rounds c →
      let moved := rounds.filterMap Round.moved?
      let pulled := rounds.flatMap fun r => pulledIn host.toHost r.head
      let ticked := endState (update host.recorded.toHost c)
      (Conserved queue sent start.toServing moved pulled c.toServing ∧
        (∀ k front x rest, c.link = some k → heard host.recorded.toHost k c = front ++ x :: rest →
          Conserved queue sent start.toServing moved
            (pulled ++ front.flatMap (·.pulled host.toHost)) x.before ∧
          Conserved queue sent start.toServing moved
            (pulled ++ (front ++ [x]).flatMap (·.pulled host.toHost))
            (endState (x.outcome host.recorded.toHost))) ∧
        Conserved queue sent start.toServing moved
          (pulled ++ pulledIn host.toHost c) ticked.toServing) ∧
      (∀ d ∈ [c, ticked], sent d.world.world = sent start.world.world →
        moved.length = min rounds.length (queue start.world.world).length ∧
        queue d.world.world = (queue start.world.world).drop moved.length) ∧
      (∀ before r after, rounds = before ++ r :: after →
        (r.look? = none ↔ ∃ r' ∈ before, r'.Closes)) ∧
      (inputOpen = false ↔ ∃ r ∈ rounds, r.Closes) ∧
      pollLoop host.recorded true start = pollLoop host.recorded inputOpen c) ∧
    (∀ other : BridgeHost (Recorded σ), other.toHost = host.recorded.toHost →
      ∀ c, pollLoop other false c = pollLoop host.recorded false c) ∧
    ∃ inputOpen rounds c, Loop host.recorded start inputOpen rounds c ∧
      (host.stopped c.world.world = true ∧ pollLoop host.recorded true start = .ok () c ∨
        ¬ host.stopped c.world.world = true ∧
          ((∃ d, update host.recorded.toHost c = .error .stopped d ∧
            host.stopped d.world.world = true ∧
              pollLoop host.recorded true start = .ok () d) ∨
            ∃ f d, update host.recorded.toHost c = .error (.sink f) d ∧
              pollLoop host.recorded true start = .error f d)) := by
  refine ⟨pollLoop_plain host true start, fun inputOpen rounds c hLoop => ?_,
    fun other hSame c => pollLoop_closed hSame c, Loop.start.ends⟩
  obtain ⟨new, hBalance⟩ := hLoop.balance h
  obtain ⟨new', hTick⟩ := update_balance h c
  have hAll := hBalance.trans hTick
  rw [List.append_nil] at hAll
  refine ⟨⟨hBalance.conserved, fun k front x rest _ hHeard => ?_, hAll.conserved⟩,
    fun d hd hNothing => ?_,
    hLoop.looks, hLoop.closed_iff, hLoop.pollLoop_eq⟩
  · obtain ⟨⟨_, hBefore⟩, ⟨_, hAfter⟩⟩ := hearing_balance h hHeard
    have hFirst := hBalance.trans hBefore
    have hThen := hBalance.trans hAfter
    rw [List.append_nil] at hFirst hThen
    exact ⟨hFirst.conserved, hThen.conserved⟩
  · -- If nothing was sent up to the end of the next tick, nothing was sent up to its beginning.
    have hNone : new = [] ∧ queue d.world.world = queue c.world.world := by
      rcases List.mem_pair.mp hd with rfl | rfl
      · have hSent := hBalance.sent
        rw [hNothing] at hSent
        exact ⟨List.append_right_eq_self.mp hSent.symm, rfl⟩
      · have hSent := hAll.sent
        rw [hNothing] at hSent
        obtain ⟨rfl, rfl⟩ := List.append_eq_nil_iff.mp (List.append_right_eq_self.mp hSent.symm)
        exact ⟨rfl, by simpa using hTick.channel⟩
    obtain ⟨rfl, hSame⟩ := hNone
    refine ⟨(hLoop.counts h (by rw [hBalance.sent, List.append_nil])).1, ?_⟩
    rw [hSame]
    exact hBalance.untouched

end Bridge

namespace World

/-- Nothing but a look into the channel takes chunks out of it. -/
theorem host_keeps_chunks (stopsAt : LinkId → Bool) :
    (host stopsAt).Keeps fun w v => v.chunks = w.chunks where
  link id := by
    have hLine : ∀ {α} (act : EStateM Fault ScriptedLink α),
        Moves (fun w v : World => v.chunks = w.chunks) (onLine id act) := by
      intro α act w
      unfold onLine
      cases w.lines[id]? with
      | none => rfl
      | some l =>
        simp only
        cases act l <;> rfl
    refine ⟨fun n w => ?_, fun bs => hLine _, hLine _, fun mode => hLine _⟩
    show (endState (readLine (stopsAt id) id n w)).chunks = w.chunks
    rcases readLine_cases (stopsAt id) id n w with hNone | ⟨l, r, stop, -, -, hRun⟩
    · rw [hNone]
      rfl
    · rw [hRun]
      cases r <;> rfl
  sink := by
    have hSink : ∀ {α} (act : EStateM Fault ScriptedSink α),
        Moves (fun w v : World => v.chunks = w.chunks) (onSink act) := by
      intro α act w
      unfold onSink
      cases act w.sink <;> rfl
    exact ⟨fun bs => hSink _, hSink _⟩
  tryOpen w := by
    show (endState (tryOpen w)).chunks = w.chunks
    unfold tryOpen
    simp only
    split
    · rfl
    · split <;> rfl
  pause _ _ := rfl

/-- In a rehearsed world all chunks are in the channel from the beginning. -/
theorem bridgeHost_conveys : Conveys bridgeHost chunks fun _ => [] where
  toKeeps := (host_keeps_chunks fun _ => true).imp fun h => ⟨[], rfl, by rw [h, List.append_nil]⟩
  chunk := by
    intro w bytes v hFound
    have hReceive : receive w = (.chunk bytes, v) := hFound
    unfold receive at hReceive
    split at hReceive
    · rename_i first rest hChunks
      cases hReceive
      exact ⟨[], rfl, by rw [hChunks, List.append_nil]⟩
    · split at hReceive <;> cases hReceive
  empty := by
    intro w v hFound
    have hReceive : receive w = (.empty, v) := hFound
    unfold receive at hReceive
    split at hReceive
    · cases hReceive
    · rename_i hChunks
      split at hReceive <;> cases hReceive
      exact ⟨hChunks, [], rfl, by rw [List.append_nil]⟩
  disconnected := by
    intro w v hFound
    have hReceive : receive w = (.disconnected, v) := hFound
    unfold receive at hReceive
    split at hReceive
    · cases hReceive
    · rename_i hChunks
      split at hReceive <;> cases hReceive
      exact ⟨hChunks, hChunks, rfl⟩

end World

namespace Bridge

open Connection

/-- Three chunks wait for a device that is silent for one tick and then asks for three bytes of
input. -/
def handing : Connection (Recorded World) :=
  endState (connect World.bridgeHost.recorded.toHost (fresh {} .empty ⟨0, 0, 0⟩ { world := {
    lines := [{ arrivals := [.fault .timedOut, .data [0xFF, 5, 3, 0, 0, 0]] }]
    offers := [{}]
    chunks := [[1, 2], [3], [4]] } }))

/-- What a round leads to while the channel is open. -/
def handed (c : Connection (Recorded World)) : Connection (Recorded World) :=
  (takeInputIf World.bridgeHost.recorded true
    (endState (update World.bridgeHost.recorded.toHost c))).2

/-- In two rounds the first two chunks are moved. One of them is pulled, and the third
stays in the channel. -/
theorem input_handed_off_in_two_rounds :
    Conveys World.bridgeHost World.chunks (fun _ => []) ∧
    ∃ inputOpen rounds,
      Loop World.bridgeHost.recorded handing inputOpen rounds (handed (handed handing)) ∧
      rounds.length = 2 ∧ (rounds.filterMap Round.moved?).length = 2 ∧
      (handed (handed handing)).world.world.chunks = [[4]] ∧
      (handed (handed handing)).session.mailbox.bytes = [3] ∧
      (rounds.flatMap fun r => pulledIn World.bridgeHost.toHost r.head) = [1, 2] := by
  have hRound : ∀ {c rounds}, Loop World.bridgeHost.recorded handing true rounds c →
      c.world.world.stopped = false →
      succeeds (update World.bridgeHost.recorded.toHost c) = true →
      Loop World.bridgeHost.recorded handing
        (takeInputIf World.bridgeHost.recorded true
          (endState (update World.bridgeHost.recorded.toHost c))).1
        (rounds ++ [⟨c, look? World.bridgeHost.recorded true
            (endState (update World.bridgeHost.recorded.toHost c))⟩])
        (handed c) := by
    intro c rounds hLoop hRuns hTicks
    have hNot : ¬ World.bridgeHost.recorded.stopped c.world = true := by
      show ¬ c.world.world.stopped = true
      simp [hRuns]
    exact hLoop.round hNot (eq_ok_of_succeeds hTicks)
  have hOpen : (takeInputIf World.bridgeHost.recorded true
      (endState (update World.bridgeHost.recorded.toHost handing))).1 = true := by cbv
  have hFirst := hRound Loop.start (by cbv) (by cbv)
  rw [hOpen] at hFirst
  have hLoop := hRound hFirst (by cbv) (by cbv)
  obtain ⟨-, hPoints, -, -⟩ := input_handed_off World.bridgeHost World.bridgeHost_conveys handing
  obtain ⟨⟨⟨new, hSent, -, hConserved⟩, -⟩, hCounts, -⟩ := hPoints _ _ _ hLoop
  obtain rfl : new = [] := hSent.symm
  obtain ⟨hMoved, hLeft⟩ := hCounts (handed (handed handing)) (by simp) rfl
  have hQueue : handing.world.world.chunks = [[1, 2], [3], [4]] := by cbv
  have hEmpty : handing.session.mailbox.bytes = [] := by cbv
  have hMailbox : (handed (handed handing)).session.mailbox.bytes = [3] := by cbv
  rw [hQueue] at hMoved hLeft
  have hChunks : (handed (handed handing)).world.world.chunks = [[4]] := by
    rw [hLeft, hMoved]
    rfl
  refine ⟨World.bridgeHost_conveys, _, _, hLoop, rfl, hMoved, hChunks, hMailbox, ?_⟩
  rw [hMailbox, hChunks, hEmpty, hQueue, List.append_assoc] at hConserved
  exact @List.append_cancel_right _ _ [3, 4] [1, 2] hConserved

end Bridge

end MemoryBridge
