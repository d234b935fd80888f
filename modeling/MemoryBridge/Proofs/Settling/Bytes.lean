import MemoryBridge.Proofs.Hearing
import MemoryBridge.Proofs.Settling

/-!
# What a byte leaves of its session

`Session.afterByte` is a session after a byte from the device, by four things: the session before,
the byte, whether the link was taken into blocking mode, and the payload that was fetched; and for
what is only counted when all went well, whether it did. `outcome_settles` says that every hearing
comes to it, on every host on which one can tell what was fetched.
-/

namespace MemoryBridge

variable {σ : Type}

namespace Session

/-- A session after the code of a command. -/
def afterCode (s : Session) (code : UInt8) (entered : Bool) (payload : Bytes)
    (done : Bool) : Session :=
  if entered then
    match Command.ofCode? code with
    | none => s.countUnknown
    | some command =>
      let settled := s.settled command payload
      if done then settled.countCommand else settled
  else s

/-- A session after a byte. -/
def afterByte (s : Session) (b : UInt8) (entered : Bool) (payload : Bytes)
    (done : Bool) : Session :=
  match s.framing with
  | .idle =>
    if b = s.config.initValue then { s with framing := .awaitingCommand }
    else if done then s.countPassthrough else s
  | .awaitingCommand => { s with framing := .idle }.afterCode b entered payload done

/-- The byte is the code of a command whose payload is a breach. -/
def BreachByte (s : Session) (b : UInt8) (payload : Bytes) : Prop :=
  s.framing = .awaitingCommand ∧
    ∃ command, Command.ofCode? b = some command ∧ s.Breach command payload

end Session

/-- On the link `k` the meter counts what commands read. A switch of mode and the sink do not add to
it. -/
structure Host.Meters (host : Host σ) (k : LinkId) (m : Meter σ) : Prop where
  link : (host.link k).Metered m
  enter : ∀ {w v}, (host.link k).setMode .blocking w = .ok () v → m.ready v
  setMode : ∀ mode, Moves (fun w v => m.fetched v = m.fetched w) ((host.link k).setMode mode)
  sink : host.sink.Keeps fun w v => m.fetched v = m.fetched w

namespace Session

open Serve

variable {host : Host σ} {k : LinkId} {m : Meter σ}

/-- The code of a known command on a link in blocking mode. -/
theorem carryOut_settles (h : (host.link k).Metered m) {code : UInt8} {command : Command}
    (hCode : Command.ofCode? code = some command) {st : Serving σ} (hReady : m.ready st.world) :
    let r := carryOut (host.link k) code st
    ∃ payload, m.fetched (endState r).world = m.fetched st.world ++ payload ∧
      (endState r).session =
        (let settled := st.session.settled command payload
         if succeeds r then settled.countCommand else settled) ∧
      ((∃ e, toExcept r = .error e ∧ e.isBreach = true) ↔ st.session.Breach command payload) := by
  obtain ⟨payload, hTook, hSession, hBreach⟩ := handle_settles h hReady command
  intro r
  refine ⟨payload, ?_⟩
  have hRun : r = carryOut (host.link k) code st := rfl
  unfold carryOut at hRun
  rw [hCode] at hRun
  cases hHandle : handle (host.link k) command st with
  | error e t =>
    rw [hHandle] at hTook hSession hBreach
    simp only at hRun
    rw [bind_error hHandle] at hRun
    rw [hRun]
    refine ⟨hTook.2, hSession, ?_⟩
    rw [← hBreach]
    simp
  | ok u t =>
    rw [hHandle] at hTook hSession hBreach
    have hFlush := h.flush t.world hTook.1
    have hNot : ¬ st.session.Breach command payload := by
      rw [← hBreach]
      simp
    have hFetched : m.fetched (endState ((host.link k).flush t.world)) =
        m.fetched st.world ++ payload := by
      rw [hFlush.2, List.append_nil]
      exact hTook.2
    simp only at hRun
    rw [bind_ok hHandle] at hRun
    cases hFlushed : (host.link k).flush t.world with
    | error f v =>
      have hFails : onLink (host.link k).flush t = .error (.transport f) { t with world := v } :=
        onLink_error hFlushed
      rw [bind_error hFails] at hRun
      rw [hFlushed] at hFetched
      rw [hRun]
      exact ⟨hFetched, hSession, by simp [hNot, ServeError.isBreach]⟩
    | ok u v =>
      have hDone : onLink (host.link k).flush t = .ok () { t with world := v } := onLink_ok hFlushed
      rw [bind_ok hDone] at hRun
      rw [hFlushed] at hFetched
      rw [hRun]
      exact ⟨hFetched, congrArg countCommand hSession, by simp [hNot]; intro e he; cases he⟩

/-- On a link that was taken into blocking mode a bracket ends as its body does, and then leaves
that mode. -/
theorem bracket_entered {α : Type} {link : Link σ} {body : Serve σ α} {st : Serving σ} {w : σ}
    (hEnter : link.enterBlocking st.world = .ok () w) :
    toExcept (bracket link body st) = toExcept (body { st with world := w }) ∧
      succeeds (bracket link body st) = succeeds (body { st with world := w }) ∧
      endState (bracket link body st) = { endState (body { st with world := w }) with
        world := link.leaveBlocking (endState (body { st with world := w })).world } := by
  unfold bracket
  rw [onLink_ok hEnter]
  simp only
  cases body { st with world := w } <;> exact ⟨rfl, rfl, rfl⟩

/-- The code of a command with the switches of mode around it. -/
theorem dispatch_settles (h : host.Meters k m) (code : UInt8) (st : Serving σ) :
    let r := dispatch (host.link k) code st
    ∃ payload, m.fetched (endState r).world = m.fetched st.world ++ payload ∧
      (endState r).session = st.session.afterCode code
        (succeeds ((host.link k).enterBlocking st.world)) payload (succeeds r) ∧
      ((∃ e, toExcept r = .error e ∧ e.isBreach = true) ↔
        ∃ command, Command.ofCode? code = some command ∧ st.session.Breach command payload) := by
  intro r
  have hMode := h.setMode .blocking st.world
  have hNone : ∀ command, ¬ st.session.Breach command [] := fun command => by
    unfold Breach
    cases command <;> simp
  cases hEnter : (host.link k).enterBlocking st.world with
  | error f w =>
    have hRun : r = .error (.transport f) { st with world := w } := by
      show bracket _ _ _ = _
      unfold bracket
      rw [onLink_error hEnter]
    have hSet : (host.link k).setMode .blocking st.world = .error f w := hEnter
    rw [hSet] at hMode
    rw [hRun]
    refine ⟨[], ?_, ?_, ?_⟩
    · rw [List.append_nil]
      exact hMode
    · simp [afterCode]
    · simp [hNone, ServeError.isBreach]
  | ok u w =>
    have hSet : (host.link k).setMode .blocking st.world = .ok () w := hEnter
    have hLeave : ∀ v, m.fetched ((host.link k).leaveBlocking v) = m.fetched v := h.setMode .poll
    rw [hSet] at hMode
    have hFetched : m.fetched w = m.fetched st.world := hMode
    obtain ⟨hOutcome, hSucceeds, hEnd⟩ :
        toExcept r = _ ∧ succeeds r = _ ∧ endState r = _ := bracket_entered hEnter
    rw [hOutcome, hSucceeds, hEnd, hLeave]
    cases hCode : Command.ofCode? code with
    | none =>
      rw [carryOut_unknown hCode]
      refine ⟨[], ?_, ?_, by simp⟩
      · rw [List.append_nil]
        exact hFetched
      · simp [afterCode, hCode]
    | some command =>
      have hReady : m.ready ({ st with world := w } : Serving σ).world := h.enter hSet
      obtain ⟨payload, hTook, hSession, hBreach⟩ := carryOut_settles h.link hCode hReady
      refine ⟨payload, hTook.trans (by rw [hFetched]), ?_, ?_⟩
      · simpa [afterCode, hCode] using hSession
      · simpa using hBreach

end Session

/-! ## Hearings -/

namespace Hearing

section

variable (host : Host σ) (h : Hearing σ)

/-- The link can be taken into blocking mode. -/
def entered : Bool :=
  succeeds ((host.link h.link).enterBlocking h.before.world)

/-- The byte was handled without a failure. -/
def done : Bool :=
  succeeds (h.outcome host)

/-- The bytes that the meter has counted. -/
def fetched (m : Meter σ) : Bytes :=
  (m.fetched (endState (h.outcome host)).world).drop (m.fetched h.before.world).length

end

/-- The byte has fetched `payload` and left the session that belongs to it. -/
structure SettledBy (host : Host σ) (m : Meter σ) (h : Hearing σ) (payload : Bytes) : Prop where
  fetched : m.fetched (endState (h.outcome host)).world = m.fetched h.before.world ++ payload
  session : (endState (h.outcome host)).session =
    h.before.session.afterByte h.byte (h.entered host) payload (h.done host)
  breach : (∃ e, toExcept (h.outcome host) = .error e ∧ e.isBreach = true) ↔
    h.before.session.BreachByte h.byte payload

section

variable {host : Host σ} {h : Hearing σ} {m : Meter σ}

/-- Between two frames a byte fetches nothing. -/
theorem settledBy_of_idle (hMeters : host.Meters h.link m)
    (hFraming : h.before.session.framing = .idle) : h.SettledBy host m [] := by
  have hNot : ¬ h.before.session.BreachByte h.byte [] := by
    rintro ⟨hOpen, -⟩
    cases hFraming.symm.trans hOpen
  by_cases hb : h.byte = h.before.session.config.initValue
  · have hOutcome : h.outcome host =
        .ok .frameStart { h.before with
          session := { h.before.session with framing := .awaitingCommand } } := by
      unfold outcome
      rw [hb]
      exact Session.processByte_opens hFraming
    refine ⟨?_, ?_, ?_⟩
    · simp [hOutcome]
    · simp [hOutcome, Session.afterByte, hFraming, hb]
    · simp [hOutcome, hNot]
  · have hOutcome : h.outcome host = _ := Session.processByte_passes hFraming hb
    have hSame : Durable fun w v => m.fetched v = m.fetched w :=
      ⟨fun _ => rfl, fun hst htu => htu.trans hst⟩
    have hSink : m.fetched (endState (host.sink.writeAll [h.byte] h.before.world)) =
        m.fetched h.before.world :=
      Sink.writeAll_moves hSame hMeters.sink.write _ _
    cases hWrite : host.sink.writeAll [h.byte] h.before.world with
    | ok u w =>
      rw [hWrite] at hOutcome hSink
      refine ⟨?_, ?_, ?_⟩
      · simpa [hOutcome] using hSink
      · simp [done, hOutcome, Session.afterByte, hFraming, hb]
      · simp [hOutcome, hNot]
    | error f w =>
      rw [hWrite] at hOutcome hSink
      refine ⟨?_, ?_, ?_⟩
      · simpa [hOutcome] using hSink
      · simp [done, hOutcome, Session.afterByte, hFraming, hb]
      · simp [hOutcome, hNot, ServeError.isBreach]

/-- Inside of a frame a byte is the code of a command. -/
theorem settledBy_of_code (hMeters : host.Meters h.link m)
    (hFraming : h.before.session.framing = .awaitingCommand) :
    ∃ payload, h.SettledBy host m payload := by
  have hOutcome : h.outcome host = _ := Session.processByte_dispatches h.byte hFraming
  obtain ⟨payload, hFetched, hSession, hBreach⟩ := Session.dispatch_settles hMeters h.byte
    { h.before with session := { h.before.session with framing := .idle } }
  have hByte : h.before.session.BreachByte h.byte payload ↔
      ∃ command, Command.ofCode? h.byte = some command ∧
      ({ h.before.session with framing := .idle } : Session).Breach command payload :=
    ⟨fun hNow => hNow.2, fun hNow => ⟨hFraming, hNow⟩⟩
  have hAfter : ∀ success, h.before.session.afterByte h.byte (h.entered host) payload success =
      { h.before.session with
        framing := .idle }.afterCode h.byte (h.entered host) payload success := by
    intro success
    unfold Session.afterByte
    rw [hFraming]
  generalize Session.dispatch (host.link h.link) h.byte
    { h.before with session := { h.before.session with framing := .idle } } =
      r at hOutcome hFetched hSession hBreach
  have hEnd : endState (h.outcome host) = endState r := by
    rw [hOutcome]
    cases r <;> rfl
  have hDone : h.done host = succeeds r := by
    rw [done, hOutcome]
    cases r <;> rfl
  refine ⟨payload, ?_, ?_, ?_⟩
  · rw [hEnd]
    exact hFetched
  · rw [hAfter, hDone, hEnd]
    exact hSession
  · rw [hByte, ← hBreach, hOutcome]
    cases r <;> simp

end

/-- A byte fetches a payload if it is the code of a command, and it leaves the session that
belongs to this payload. -/
theorem outcome_settles {host : Host σ} {h : Hearing σ} {m : Meter σ}
    (hMeters : host.Meters h.link m) : h.SettledBy host m (h.fetched host m) := by
  obtain ⟨payload, hSettled⟩ : ∃ payload, h.SettledBy host m payload := by
    cases hFraming : h.before.session.framing with
    | idle => exact ⟨[], settledBy_of_idle hMeters hFraming⟩
    | awaitingCommand => exact settledBy_of_code hMeters hFraming
  -- What the meter has counted can be no other payload.
  have hSame : h.fetched host m = payload := by
    unfold fetched
    rw [hSettled.fetched, List.drop_left]
  rw [hSame]
  exact hSettled

end Hearing

end MemoryBridge
