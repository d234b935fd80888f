import MemoryBridge.Proofs.Calls

/-!
# The phase of a connection

Whether the device has said `init` on the present link is written down three times: in the phase of
the connection, in the session, and in whether handshakes are still asked for. `run_coherent` says
that the three agree after every run of calls, together with what the phase says about the link.

In the middle of a tick they may disagree. An `init` counts for the session before it is answered,
and for the connection only after it was answered and flushed, so a link that fails in between
leaves a session that is ahead of its connection. Such a tick ends in a reconnect, which starts from
nothing, and a failure of the sink comes at no such place.
-/

namespace MemoryBridge

/-! ## Initialization by a byte -/

namespace Session

variable {σ : Type} {link : Link σ} {sink : Sink σ}

theorem handleInit_initialized (link : Link σ) (st : Serving σ) :
    (endState (handleInit link st)).session.initialized = true := by
  let started : Session := { st.session with initialized := true, pool := none }
  have hUpdate : Serve.update (fun s => { s with initialized := true, pool := none }) st =
      .ok () { st with session := started } := rfl
  have hSession : Serve.session { st with session := started } =
      .ok started { st with session := started } := rfl
  unfold handleInit
  rw [bind_ok hUpdate, bind_ok hSession]
  split
  · unfold Serve.onLink Serve.onWorld
    split <;> rfl
  · rfl

/-- Of the commands that succeed, `init` alone initializes a session, and none does the opposite. -/
theorem dispatch_initialized {code : UInt8} {command? : Option Command} {st st' : Serving σ}
    (h : dispatch link code st = .ok command? st') :
    st'.session.initialized = (decide (command? = some .init) || st.session.initialized) := by
  obtain ⟨w, done, -, hBody, rfl⟩ := dispatch_ok h
  cases command? with
  | none =>
    cases hCode : Command.ofCode? code with
    | none =>
      rw [carryOut_unknown hCode] at hBody
      cases hBody
      rfl
    | some command =>
      unfold carryOut at hBody
      rw [hCode] at hBody
      obtain ⟨_, _, -, hBody⟩ := of_bind_ok hBody
      obtain ⟨_, _, -, hBody⟩ := of_bind_ok hBody
      cases hBody
  | some command =>
    obtain ⟨-, handled, v, hHandle, -, rfl⟩ := carryOut_ok hBody
    by_cases hInit : command = .init
    · subst hInit
      have hTrue := handleInit_initialized link ⟨st.session, w⟩
      have hRun : handleInit link ⟨st.session, w⟩ = .ok () handled := hHandle
      rw [hRun] at hTrue
      exact hTrue
    · have hSame := (handle_changes link command ⟨st.session, w⟩).initialized hInit
      rw [hHandle] at hSame
      simp only [Option.some.injEq, hInit, decide_false, Bool.false_or]
      exact hSame

theorem processByte_initialized {b : UInt8} {handled : Handled} {st st' : Serving σ}
    (h : processByte link sink b st = .ok handled st') :
    st'.session.initialized =
      (decide (handled = .dispatched (some .init)) || st.session.initialized) := by
  cases hFraming : st.session.framing with
  | idle =>
    by_cases hb : b = st.session.config.initValue
    · subst hb
      rw [processByte_opens hFraming] at h
      cases h
      rfl
    · rw [processByte_passes hFraming hb] at h
      split at h <;> cases h
      rfl
  | awaitingCommand =>
    rw [processByte_dispatches b hFraming] at h
    split at h <;> cases h
    rename_i hRun
    have hInit := dispatch_initialized hRun
    simpa using hInit

/-- A byte that the sink refuses leaves the session as it was. -/
theorem processByte_refused {b : UInt8} {f : Fault} {st st' : Serving σ}
    (h : processByte link sink b st = .error (.sink f) st') : st'.session = st.session := by
  cases hFraming : st.session.framing with
  | idle =>
    by_cases hb : b = st.session.config.initValue
    · subst hb
      rw [processByte_opens hFraming] at h
      cases h
    · rw [processByte_passes hFraming hb] at h
      split at h <;> cases h
      rfl
  | awaitingCommand =>
    rw [processByte_dispatches b hFraming] at h
    split at h <;> cases h
    rename_i hRun
    exact absurd rfl (dispatch_fails link b _ _ _ hRun f)

end Session

namespace Connection

variable {σ : Type} {host : Host σ} {c : Connection σ}

/-! ## The invariant -/

/-- Phase, link, session and handshake requests agree. -/
structure Coherent (c : Connection σ) : Prop where
  held : c.link.isSome = true ↔ c.phase = .handshaking ∨ c.phase = .initialized
  initialized : c.phase = .initialized ↔ c.session.initialized = true
  settled : c.phase = .initialized → c.requesting = false
  cleared : c.link = none → c.session.framing = .idle ∧ c.session.initialized = false

theorem fresh_coherent (config : SessionConfig) (mailbox : Mailbox) (timing : Timing) (w : σ) :
    Coherent (fresh config mailbox timing w) where
  held := by simp [fresh]
  initialized := by simp [fresh]
  settled := by simp [fresh]
  cleared _ := ⟨rfl, rfl⟩

theorem connect_coherent (host : Host σ) (c : Connection σ) :
    Coherent (endState (connect host c)) ∧ (endState (connect host c)).phase ≠ .disconnected := by
  rcases connect_cases host c with ⟨w, hEnd⟩ | ⟨k, w, hEnd⟩
  · rw [hEnd]
    refine ⟨⟨?_, ?_, ?_, fun _ => ⟨rfl, rfl⟩⟩, ?_⟩
    · simp [dropLink]
    · simp [dropLink, Session.resetLink]
    · simp [dropLink]
    · simp [dropLink]
  · rw [hEnd]
    refine ⟨⟨?_, ?_, ?_, ?_⟩, ?_⟩
    · simp
    · simp [dropLink, Session.resetLink]
    · simp
    · simp
    · simp

/-- Coherent, and on a link. -/
structure Talking (c : Connection σ) : Prop where
  coherent : Coherent c
  linked : c.link.isSome = true

theorem Talking.phase (h : Talking c) : c.phase ≠ .disconnected := by
  have hPhase := h.coherent.held.mp h.linked
  intro hNot
  rw [hNot] at hPhase
  simp at hPhase

theorem Talking.serving (h : Talking c) {st : Serving σ}
    (hSame : st.session.initialized = c.session.initialized) :
    Talking { c with toServing := st } where
  linked := h.linked
  coherent := {
    held := h.coherent.held
    initialized := by
      rw [hSame]
      exact h.coherent.initialized
    settled := h.coherent.settled
    cleared := fun hNone => by
      have hLinked := h.linked
      rw [hNone] at hLinked
      cases hLinked }

/-- A command that was dispatched, with the conclusion that the connection draws from it. -/
theorem Talking.command (h : Talking c) {command : Command} {st : Serving σ}
    (hInit : st.session.initialized = (decide (command = .init) || c.session.initialized)) :
    Talking (noteCommand command { c with toServing := st }) where
  linked := h.linked
  coherent := {
    held := by
      have hHeld := h.coherent.held
      simp only [noteCommand]
      split
      · simpa using h.linked
      · exact hHeld
    initialized := by
      have hBefore := h.coherent.initialized
      simp only [noteCommand, hInit]
      split
      · rename_i hCommand
        simp [hCommand]
      · rename_i hCommand
        simpa [hCommand] using hBefore
    settled := fun _ => rfl
    cleared := fun hNone => by
      have hLinked := h.linked
      have hNone' : c.link = none := hNone
      rw [hNone'] at hLinked
      cases hLinked }

/-! ## One tick -/

/-- `P` holds after a success and after a failure of the sink. -/
def Survives {α : Type} (P : Connection σ → Prop) :
    EStateM.Result ServeError (Connection σ) α → Prop
  | .ok _ d => P d
  | .error (.sink _) d => P d
  | .error _ _ => True

theorem survives_error {α : Type} {P : Connection σ → Prop} {e : ServeError} {d : Connection σ}
    (h : ∀ f, e = .sink f → P d) :
    Survives P (.error e d : EStateM.Result ServeError (Connection σ) α) := by
  cases e with
  | sink f => exact h f rfl
  | transport f => trivial
  | pool e => trivial
  | invalidPoolSize n => trivial

/-- A step that keeps `P`, unless the link fails or the device breaks the protocol. -/
def Steady {α : Type} (P : Connection σ → Prop) (act : Tick σ α) : Prop :=
  ∀ c, P c → Survives P (act c)

theorem Steady.pure {α : Type} {P : Connection σ → Prop} (a : α) :
    Steady P (Pure.pure a : Tick σ α) :=
  fun _ h => h

theorem Steady.bind {α β : Type} {P : Connection σ → Prop} {act : Tick σ α} {next : α → Tick σ β}
    (hAct : Steady P act) (hNext : ∀ a, Steady P (next a)) : Steady P (act >>= next) := by
  intro c h
  have hFirst := hAct c h
  cases hRun : act c with
  | ok a d =>
    rw [hRun] at hFirst
    rw [bind_ok hRun]
    exact hNext a d hFirst
  | error e d =>
    rw [hRun] at hFirst
    rw [bind_error hRun]
    apply survives_error
    rintro f rfl
    exact hFirst

theorem steady_get {P : Connection σ → Prop} : Steady P (get : Tick σ (Connection σ)) :=
  fun _ h => h

theorem serve_onWorld_talking {α : Type} (wrap : Fault → ServeError) (act : EStateM Fault σ α) :
    Steady Talking (serve (Serve.onWorld wrap act)) := by
  intro c h
  unfold serve Serve.onWorld
  cases act c.world with
  | ok a w => exact h.serving rfl
  | error f w =>
    apply survives_error
    intro _ _
    exact h.serving rfl

theorem requestHandshake_talking (link : Link σ) : Steady Talking (requestHandshake host link) := by
  have hNote : Steady Talking (modify (noteRequest host) : Tick σ Unit) := fun c h =>
    ⟨{ h.coherent with }, h.linked⟩
  refine Steady.bind steady_get fun c => ?_
  split
  · refine Steady.bind (serve_onWorld_talking _ _) fun _ => ?_
    exact Steady.bind (serve_onWorld_talking _ _) fun _ => hNote
  · exact Steady.pure _

theorem pollByte_talking (link : Link σ) : Steady Talking (pollByte link) := by
  intro c h
  unfold pollByte
  split
  · rename_i bs w _
    have hSame : (⟨c.session, w⟩ : Serving σ).session.initialized = c.session.initialized := rfl
    exact h.serving hSame
  · rename_i f w _
    have hSame : (⟨c.session, w⟩ : Serving σ).session.initialized = c.session.initialized := rfl
    split
    · exact h.serving hSame
    · trivial

/-- When the byte is an `init`, session and connection move on together. -/
theorem handleByte_talking (link : Link σ) (b : UInt8) :
    Steady Talking (handleByte host link b) := by
  intro c h
  unfold handleByte
  cases hRun : Session.processByte link host.sink b c.toServing with
  | error e st =>
    rw [bind_error (serve_error hRun)]
    apply survives_error
    rintro f rfl
    have hSame := Session.processByte_refused hRun
    exact h.serving (by rw [hSame])
  | ok handled st =>
    have hInit := Session.processByte_initialized hRun
    rw [bind_ok (serve_ok hRun)]
    split
    · exact h.command (by simpa using hInit)
    · rename_i hOther
      refine h.serving ?_
      have hNot : handled ≠ .dispatched (some .init) := hOther .init
      simpa [hNot] using hInit

theorem pollBytes_talking (link : Link σ) (started n : Nat) :
    Steady Talking (pollBytes host link started n) := by
  induction n with
  | zero => exact Steady.pure _
  | succ n ih =>
    refine Steady.bind (pollByte_talking link) fun polled => ?_
    split
    · exact Steady.pure _
    · refine Steady.bind (handleByte_talking link _) fun _ => Steady.bind steady_get fun c => ?_
      split
      · exact Steady.pure _
      · exact ih

theorem poll_talking (link : Link σ) : Steady Talking (poll host link) := by
  refine Steady.bind (requestHandshake_talking link) fun _ => Steady.bind steady_get fun c => ?_
  exact Steady.bind (pollBytes_talking link _ _) fun _ => serve_onWorld_talking _ _

/-! ## Runs -/

theorem update_coherent (h : Coherent c) :
    Coherent (endState (update host c)) ∧ (endState (update host c)).phase ≠ .disconnected := by
  cases hLink : c.link with
  | none =>
    rw [update_unlinked hLink]
    exact connect_coherent host c
  | some k =>
    have hTalking : Talking c := ⟨h, by rw [hLink]; rfl⟩
    have hPoll := @poll_talking σ host (host.link k) c hTalking
    rcases (@update_cases σ host c k hLink) with ⟨d, hRun, hEnd⟩ | ⟨f, d, hRun, hEnd⟩ |
      ⟨e, d, hRun, -, hEnd⟩
    · rw [hRun] at hPoll
      have hTalks : Talking d := hPoll
      rw [hEnd]
      exact ⟨hTalks.coherent, hTalks.phase⟩
    · rw [hRun] at hPoll
      have hTalks : Talking d := hPoll
      rw [hEnd]
      exact ⟨hTalks.coherent, hTalks.phase⟩
    · rw [hEnd, reconnect_end]
      exact connect_coherent host _

theorem after_coherent (h : Coherent c) (call : Call σ) : Coherent (after host c call) := by
  cases call with
  | connect => exact (connect_coherent host c).1
  | update => exact (update_coherent h).1
  | append bytes => exact ⟨h.held, h.initialized, h.settled, h.cleared⟩
  | drain limit => exact ⟨h.held, h.initialized, h.settled, h.cleared⟩
  | world change => exact ⟨h.held, h.initialized, h.settled, h.cleared⟩

/-- A connection that was told to connect, or polled, is never disconnected again at the end of a
call. -/
theorem after_phase (h : Coherent c) (call : Call σ)
    (hCall : call = .connect ∨ call = .update ∨ c.phase ≠ .disconnected) :
    (after host c call).phase ≠ .disconnected := by
  have hOther : call ≠ .connect → call ≠ .update →
      c.phase ≠ .disconnected := fun hConnect hUpdate =>
        (hCall.resolve_left hConnect).resolve_left hUpdate
  cases call with
  | connect => exact (connect_coherent host c).2
  | update => exact (update_coherent h).2
  | append bytes => exact hOther (by simp) (by simp)
  | drain limit => exact hOther (by simp) (by simp)
  | world change => exact hOther (by simp) (by simp)

/-- A call to connect or to poll leaves its mark on every run that it is part of. -/
theorem run_phase (h : Coherent c) {calls : List (Call σ)}
    (hCalls : Call.connect ∈ calls ∨ Call.update ∈ calls) :
    (run host c calls).phase ≠ .disconnected := by
  have hMark : ∃ call ∈ calls, call = .connect ∨ call = .update := by
    rcases hCalls with hCall | hCall
    · exact ⟨_, hCall, Or.inl rfl⟩
    · exact ⟨_, hCall, Or.inr rfl⟩
  obtain ⟨call, hCall, hKind⟩ := hMark
  obtain ⟨before, later, rfl⟩ := List.append_of_mem hCall
  have hBefore : Coherent (run host c before) :=
    run_induction (P := Coherent) (fun _ call h => after_coherent h call) h before
  have hKind' : call = .connect ∨ call = .update ∨ (run host c before).phase ≠ .disconnected := by
    rcases hKind with hKind | hKind
    · exact Or.inl hKind
    · exact Or.inr (Or.inl hKind)
  have hMarked : (after host (run host c before) call).phase ≠ .disconnected :=
    after_phase hBefore call hKind'
  rw [run_append]
  have hLater : Coherent (run host (after host (run host c before) call) later) ∧
      (run host (after host (run host c before) call) later).phase ≠ .disconnected :=
    run_induction (P := fun d => Coherent d ∧ d.phase ≠ .disconnected)
      (fun d call hd => ⟨after_coherent hd.1 call, after_phase hd.1 call (Or.inr (Or.inr hd.2))⟩)
      ⟨after_coherent hBefore call, hMarked⟩ later
  exact hLater.2

/-- After every run of a connection, whatever its world does and whether its calls succeed:

* A link is held exactly while the connection is in handshake or initialized.
* The connection is initialized exactly when its session is.
* An initialized connection asks for no handshake.
* Without a link the session stands between two frames and is not initialized.
* Only a connection that was neither told to connect nor polled is disconnected.
-/
theorem run_coherent (host : Host σ) (config : SessionConfig) (mailbox : Mailbox)
    (timing : Timing) (w : σ) (calls : List (Call σ)) :
    let c := run host (fresh config mailbox timing w) calls
    (c.link.isSome = true ↔ c.phase = .handshaking ∨ c.phase = .initialized) ∧
    (c.phase = .initialized ↔ c.session.initialized = true) ∧
    (c.phase = .initialized → c.requesting = false) ∧
    (c.link = none → c.session.framing = .idle ∧ c.session.initialized = false) ∧
    (c.phase = .disconnected → Call.connect ∉ calls ∧ Call.update ∉ calls) := by
  intro c
  have hFresh := fresh_coherent config mailbox timing w
  have hRun : Coherent c :=
    run_induction (P := Coherent) (fun _ call h => after_coherent h call) hFresh calls
  refine ⟨hRun.held, hRun.initialized, hRun.settled, hRun.cleared, fun hPhase => ⟨?_, ?_⟩⟩
  · intro hConnect
    exact run_phase hFresh (Or.inl hConnect) hPhase
  · intro hUpdate
    exact run_phase hFresh (Or.inr hUpdate) hPhase

end Connection

end MemoryBridge
