import MemoryBridge.Proofs.Exchange

/-!
# Hearing a byte

A hearing is a byte that was polled from a link, with the serving that is about to handle it. What
becomes of it is `Hearing.outcome`; on a recorded host it has a command, a payload, a reply that was
owed, and the pieces that were sent. `outcome_exchanges` says how these belong together: a hearing
sends what it owes, or the link refuses a part of it and the hearing fails; what it pulled has left
the mailbox in either case.

Console output and the first byte of a frame owe nothing. So does a command for which the link could
not be taken into blocking mode.
-/

namespace MemoryBridge

/-! ## Dispatching on a recorded link -/

namespace Recorded

open Serve Session

variable {σ : Type} {host : Host σ} {k : LinkId}

theorem dispatch_closed {code : UInt8} {st : Serving (Recorded σ)} {f : Fault} {w : Recorded σ}
    (hEnter : (link host k).enterBlocking st.world = .error f w) :
    dispatch (link host k) code st = .error (.transport f) ⟨st.session, w⟩ ∧
      Wrote k [] st.world w := by
  have hMode := (link_setMode_carries host k .blocking st.world).wrote
  have hSet : (link host k).setMode .blocking st.world = .error f w := hEnter
  rw [hSet] at hMode
  unfold dispatch bracket onLink onWorld
  rw [hEnter]
  exact ⟨rfl, hMode⟩

theorem dispatch_unknown {code : UInt8} (hCode : Command.ofCode? code = none)
    {st : Serving (Recorded σ)} {w : Recorded σ}
    (hEnter : (link host k).enterBlocking st.world = .ok () w) :
    ∃ t, dispatch (link host k) code st = .ok none ⟨st.session.countUnknown, t⟩ ∧
      Wrote k [] st.world t := by
  have hMode := (link_setMode_carries host k .blocking st.world).wrote
  have hSet : (link host k).setMode .blocking st.world = .ok () w := hEnter
  rw [hSet] at hMode
  have hLeave := (link_setMode_carries host k .poll w).wrote
  refine ⟨(link host k).leaveBlocking w, ?_, hMode.trans hLeave⟩
  unfold dispatch bracket onLink onWorld
  rw [hEnter]
  simp only
  rw [carryOut_unknown hCode]

/-- A known command with its flush and the switches of mode around it. -/
theorem dispatch_answers {code : UInt8} {command : Command}
    (hCode : Command.ofCode? code = some command) {st : Serving (Recorded σ)} {w : Recorded σ}
    (hEnter : (link host k).enterBlocking st.world = .ok () w) :
    ∃ payload pieces,
      Carries k payload pieces st.world (endState (dispatch (link host k) code st)).world ∧
      (Whole (st.session.owed command payload) pieces ∨
        Refused (st.session.owed command payload) pieces ∧
          ∃ e t, dispatch (link host k) code st = .error e t) ∧
      st.session.mailbox.bytes = st.session.pulled command payload ++
        (endState (dispatch (link host k) code st)).session.mailbox.bytes ∧
      ∀ command? t, dispatch (link host k) code st = .ok command? t → command? = some command := by
  have hMode := link_setMode_carries host k .blocking st.world
  have hSet : (link host k).setMode .blocking st.world = .ok () w := hEnter
  have hBlocking := (link_setMode_tells host k .blocking st.world).2
  rw [hSet] at hMode hBlocking
  obtain ⟨payload, pieces, hAnswers⟩ :
      ∃ payload pieces, Answers k command payload pieces ⟨st.session, w⟩
      (handle (link host k) command ⟨st.session, w⟩) := handle_answers host command hBlocking
  have hLeave : ∀ t, Carries k [] [] t ((link host k).leaveBlocking t) :=
    fun t => link_setMode_carries host k .poll t
  have hCarries := hMode.trans hAnswers.carries
  have hTaken := hAnswers.taken
  have hMailbox := hAnswers.mailbox
  unfold dispatch bracket
  simp only [onLink, onWorld, hEnter]
  unfold carryOut
  rw [hCode]
  cases hHandle : handle (link host k) command ⟨st.session, w⟩ with
  | error e t =>
    rw [hHandle] at hCarries hTaken hMailbox
    simp only [bind_error hHandle]
    have hAll := hCarries.trans (hLeave t.world)
    simp only [List.append_nil] at hAll
    refine ⟨payload, pieces, hAll, ?_, hMailbox, fun _ _ h => by cases h⟩
    exact hTaken.imp_right fun hRefused => ⟨hRefused.1, _, _, rfl⟩
  | ok u t =>
    rw [hHandle] at hCarries hTaken hMailbox
    have hWhole : Whole (st.session.owed command payload) pieces := by
      rcases hTaken with hWhole | ⟨-, e, t, hFails⟩
      · exact hWhole
      · cases hFails
    have hFlush := (link_flush_carries host k t.world).1
    simp only [bind_ok hHandle]
    cases hRun : (link host k).flush t.world with
    | error f v =>
      have hFails : onLink (link host k).flush t = .error (.transport f) ⟨t.session, v⟩ :=
        onLink_error hRun
      rw [hRun] at hFlush
      have hAll := (hCarries.trans hFlush).trans (hLeave v)
      simp only [bind_error hFails]
      simp only [List.append_nil] at hAll
      exact ⟨payload, pieces, hAll, Or.inl hWhole, hMailbox, fun _ _ h => by cases h⟩
    | ok u v =>
      have hFlushed : onLink (link host k).flush t = .ok () ⟨t.session, v⟩ := onLink_ok hRun
      rw [hRun] at hFlush
      have hAll := (hCarries.trans hFlush).trans (hLeave v)
      simp only [List.append_nil] at hAll
      simp only [bind_ok hFlushed]
      refine ⟨payload, pieces, hAll, Or.inl hWhole, hMailbox, fun command? t' h => ?_⟩
      cases h
      rfl

end Recorded

/-! ## Hearings -/

/-- A byte that was polled from a link, and the serving that is about to handle it. -/
structure Hearing (σ : Type) where
  link : LinkId
  byte : UInt8
  before : Serving σ

namespace Hearing

section

variable {σ : Type} (host : Host σ) (h : Hearing σ)

/-- What becomes of the byte. -/
def outcome : EStateM.Result ServeError (Serving σ) Handled :=
  Session.processByte (host.link h.link) host.sink h.byte h.before

/-- With the byte a known command was complete, and it succeeded. -/
def Answered : Prop :=
  ∃ command st, h.outcome host = .ok (.dispatched (some command)) st

/-- The known command that the byte completes, unless the link is not taken into blocking mode for
it. -/
def command? : Option Command :=
  match h.before.session.framing, (host.link h.link).enterBlocking h.before.world with
  | .awaitingCommand, .ok () _ => Command.ofCode? h.byte
  | _, _ => none

end

variable {σ : Type} (host : Host σ) (h : Hearing (Recorded σ))

/-- The bytes that the command has fetched. -/
def payload : Bytes :=
  ((endState (h.outcome host.recorded)).world.fetched h.link).drop
    (h.before.world.fetched h.link).length

/-- The pieces that the link took. -/
def sent : List Bytes :=
  ((endState (h.outcome host.recorded)).world.writes h.link).drop
    (h.before.world.writes h.link).length

/-- The reply that the device should get. -/
def owed : Bytes :=
  match h.command? host.recorded with
  | some command => h.before.session.owed command (h.payload host)
  | none => []

/-- The input that is meant for the device. -/
def pulled : Bytes :=
  match h.command? host.recorded with
  | some command => h.before.session.pulled command (h.payload host)
  | none => []

/-- The link took the whole reply. -/
def Accepted : Prop :=
  (h.sent host).flatten = h.owed host

/-- How a hearing ends, its reply and its record belong together. -/
structure Exchanges : Prop where
  wrote : Recorded.Wrote h.link (h.sent host) h.before.world
    (endState (h.outcome host.recorded)).world
  taken : Whole (h.owed host) (h.sent host) ∨
    Refused (h.owed host) (h.sent host) ∧ Breaks (h.outcome host.recorded)
  mailbox : h.before.session.mailbox.bytes =
    h.pulled host ++ (endState (h.outcome host.recorded)).session.mailbox.bytes
  silent : ¬ h.Answered host.recorded → ¬ Breaks (h.outcome host.recorded) → h.owed host = []

variable {host h}

theorem sent_eq {pieces : List Bytes}
    (hWrote : Recorded.Wrote h.link pieces h.before.world
      (endState (h.outcome host.recorded)).world) :
    h.sent host = pieces := by
  have hLink := hWrote h.link
  rw [if_pos rfl] at hLink
  unfold sent
  rw [hLink, List.drop_left]

theorem exchanges_of_none (hNone : h.command? host.recorded = none)
    (hWrote : Recorded.Wrote h.link [] h.before.world (endState (h.outcome host.recorded)).world)
    (hMailbox : (endState (h.outcome host.recorded)).session.mailbox = h.before.session.mailbox) :
    h.Exchanges host := by
  have hSent := sent_eq hWrote
  have hOwed : h.owed host = [] := by
    unfold owed
    rw [hNone]
  have hPulled : h.pulled host = [] := by
    unfold pulled
    rw [hNone]
  refine ⟨hSent.symm ▸ hWrote, Or.inl ?_, ?_, fun _ _ => hOwed⟩
  · rw [hOwed, hSent]
    exact whole_nil
  · rw [hPulled, hMailbox, List.nil_append]

/-- A known command answers for itself. -/
theorem exchanges_of_command {command : Command} {payload : Bytes} {pieces : List Bytes}
    (hCommand : h.command? host.recorded = some command)
    (hCarries : Recorded.Carries h.link payload pieces h.before.world
      (endState (h.outcome host.recorded)).world)
    (hTaken : Whole (h.before.session.owed command payload) pieces ∨
      Refused (h.before.session.owed command payload) pieces ∧ Breaks (h.outcome host.recorded))
    (hMailbox : h.before.session.mailbox.bytes = h.before.session.pulled command payload ++
      (endState (h.outcome host.recorded)).session.mailbox.bytes)
    (hAnswered : ¬ Breaks (h.outcome host.recorded) → h.Answered host.recorded) :
    h.Exchanges host := by
  have hSent := sent_eq hCarries.wrote
  have hPayload : h.payload host = payload := by
    unfold Hearing.payload
    rw [hCarries.fetched, List.drop_left]
  have hOwed : h.owed host = h.before.session.owed command payload := by
    unfold owed
    rw [hCommand, hPayload]
  have hPulled : h.pulled host = h.before.session.pulled command payload := by
    unfold pulled
    rw [hCommand, hPayload]
  refine ⟨hSent.symm ▸ hCarries.wrote, ?_, ?_, fun hNot hHolds => absurd (hAnswered hHolds) hNot⟩
  · rw [hOwed, hSent]
    exact hTaken
  · rw [hPulled]
    exact hMailbox

open Session

/-- Between two frames a byte is passed through or opens a frame. -/
theorem exchanges_of_idle (hFraming : h.before.session.framing = .idle) : h.Exchanges host := by
  have hNone : h.command? host.recorded = none := by
    unfold command?
    rw [hFraming]
  by_cases hb : h.byte = h.before.session.config.initValue
  · have hOutcome : h.outcome host.recorded =
        .ok .frameStart { h.before with
          session := { h.before.session with framing := .awaitingCommand } } := by
      unfold outcome
      rw [hb]
      exact processByte_opens hFraming
    refine exchanges_of_none hNone ?_ ?_
    · rw [hOutcome]
      exact Recorded.Wrote.refl _ _
    · rw [hOutcome]
      rfl
  · have hOutcome : h.outcome host.recorded = _ := processByte_passes hFraming hb
    have hSink : Recorded.Wrote h.link [] h.before.world
        (endState (host.recorded.sink.writeAll [h.byte] h.before.world)) :=
      Sink.writeAll_moves (Recorded.wrote_durable h.link)
        (Recorded.sink_write_wrote host h.link) _ _
    cases hWrite : host.recorded.sink.writeAll [h.byte] h.before.world with
    | ok u w =>
      rw [hWrite] at hOutcome hSink
      exact exchanges_of_none hNone (hOutcome ▸ hSink) (by rw [hOutcome]; rfl)
    | error f w =>
      rw [hWrite] at hOutcome hSink
      exact exchanges_of_none hNone (hOutcome ▸ hSink) (by rw [hOutcome]; rfl)

/-- The byte of a known command, on a link in blocking mode. -/
theorem exchanges_of_known {command : Command} {w : Recorded σ}
    (hFraming : h.before.session.framing = .awaitingCommand)
    (hEnter : (host.recorded.link h.link).enterBlocking h.before.world = .ok () w)
    (hCode : Command.ofCode? h.byte = some command) : h.Exchanges host := by
  let s : Session := { h.before.session with framing := .idle }
  have hOutcome : h.outcome host.recorded = _ := processByte_dispatches h.byte hFraming
  have hCommand : h.command? host.recorded = some command := by
    unfold command?
    rw [hFraming, hEnter]
    exact hCode
  obtain ⟨payload, pieces, hCarries, hTaken, hMailbox, hAnswered⟩ :=
    @Recorded.dispatch_answers σ host h.link h.byte command hCode ⟨s, h.before.world⟩ w hEnter
  rw [Session.owed_framing] at hTaken
  have hRun : Recorded.link host h.link = host.recorded.link h.link := rfl
  rw [hRun] at hCarries hTaken hMailbox hAnswered
  cases hDispatch : dispatch (host.recorded.link h.link) h.byte ⟨s, h.before.world⟩ with
  | error e st =>
    have hBreaks : Breaks (h.outcome host.recorded) := by
      rw [hOutcome, hDispatch]
      exact ⟨e, st, rfl, dispatch_fails _ _ _ _ _ hDispatch⟩
    rw [hDispatch] at hOutcome hCarries hTaken hMailbox
    refine exchanges_of_command hCommand (by rw [hOutcome]; exact hCarries) ?_
      (by rw [hOutcome]; exact hMailbox)
      fun hHolds => absurd hBreaks hHolds
    exact hTaken.imp_right fun hRefused => ⟨hRefused.1, hBreaks⟩
  | ok command? st =>
    have hKnown := hAnswered command? st hDispatch
    subst hKnown
    rw [hDispatch] at hOutcome hCarries hTaken hMailbox
    refine exchanges_of_command hCommand (by rw [hOutcome]; exact hCarries) ?_
      (by rw [hOutcome]; exact hMailbox)
      fun _ => ⟨command, st, hOutcome⟩
    -- A reply that is refused fails the command, and this one has succeeded.
    refine hTaken.imp_right fun hRefused => ?_
    obtain ⟨-, e, t, hFails⟩ := hRefused
    cases hFails

/-- Every byte that is heard on a recorded link is answered as it should be, as far as the
link takes the answer. -/
theorem outcome_exchanges (host : Host σ) (h : Hearing (Recorded σ)) : h.Exchanges host := by
  cases hFraming : h.before.session.framing with
  | idle => exact exchanges_of_idle hFraming
  | awaitingCommand =>
    have hOutcome : h.outcome host.recorded = _ := processByte_dispatches h.byte hFraming
    cases hEnter : (host.recorded.link h.link).enterBlocking h.before.world with
    | error f w =>
      have hNone : h.command? host.recorded = none := by
        unfold command?
        rw [hFraming, hEnter]
      obtain ⟨hDispatch, hWrote⟩ : dispatch (host.recorded.link h.link) h.byte
          ⟨{ h.before.session with framing := .idle }, h.before.world⟩ = _ ∧ _ :=
            Recorded.dispatch_closed hEnter
      rw [hDispatch] at hOutcome
      exact exchanges_of_none hNone (hOutcome ▸ hWrote) (by rw [hOutcome]; rfl)
    | ok u w =>
      cases hCode : Command.ofCode? h.byte with
      | none =>
        have hNone : h.command? host.recorded = none := by
          unfold command?
          rw [hFraming, hEnter]
          exact hCode
        obtain ⟨t, hDispatch, hWrote⟩ : ∃ t, dispatch (host.recorded.link h.link) h.byte
            ⟨{ h.before.session with framing := .idle }, h.before.world⟩ = _ ∧ _ :=
          Recorded.dispatch_unknown hCode hEnter
        rw [hDispatch] at hOutcome
        exact exchanges_of_none hNone (hOutcome ▸ hWrote) (by rw [hOutcome]; rfl)
      | some command => exact exchanges_of_known hFraming hEnter hCode

end Hearing

end MemoryBridge
