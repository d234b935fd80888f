import MemoryBridge.Session.Serve

/-!
# What serving may do

Serving touches the world only through the operations of its link and its sink, and a command
changes of the session only what it is about. So a relation between servings that single operations
and such changes of the session keep is kept by the command: `handle_during`, and for relations that
do not ask which command it is, `handle_moves` and `dispatch_keeps`. For relations between worlds
alone this reaches every byte: `dispatch_moves`, `processByte_moves`.
-/

namespace MemoryBridge

/-- The worlds of two servings are related. -/
def WorldRel {σ : Type} (R : σ → σ → Prop) (a b : Serving σ) : Prop :=
  R a.world b.world

theorem Durable.worldRel {σ : Type} {R : σ → σ → Prop} (hR : Durable R) : Durable (WorldRel R) :=
  ⟨fun s => hR.refl s.world, hR.trans⟩

/-- What carrying out a command leaves alone. The command is counted afterwards. -/
structure Session.Untouched (s t : Session) : Prop where
  config : t.config = s.config
  framing : t.framing = s.framing
  passthroughBytes : t.counters.passthroughBytes = s.counters.passthroughBytes
  commands : t.counters.commands = s.counters.commands
  unknownCommands : t.counters.unknownCommands = s.counters.unknownCommands

theorem Session.untouched_durable : Durable Session.Untouched where
  refl _ := ⟨rfl, rfl, rfl, rfl, rfl⟩
  trans h₁ h₂ := ⟨h₂.config.trans h₁.config, h₂.framing.trans h₁.framing,
    h₂.passthroughBytes.trans h₁.passthroughBytes, h₂.commands.trans h₁.commands,
    h₂.unknownCommands.trans h₁.unknownCommands⟩

/-- What one command may do to a session: only `init` ends the wait for a handshake, only
the commands about the pool change the pool or are rejected, and only a request for input
changes the mailbox. -/
structure Session.Changes (command : Command)
    (s t : Session) : Prop extends Session.Untouched s t where
  initialized : command ≠ .init → t.initialized = s.initialized
  pool : command ∉ [.init, .initPool, .write] → t.pool = s.pool
  mailbox : command ≠ .inputRequest → t.mailbox = s.mailbox
  rejectedCommands : command ∉ [.initPool, .read, .write] →
    t.counters.rejectedCommands = s.counters.rejectedCommands

theorem Session.changes_durable (command : Command) : Durable (Session.Changes command) where
  refl s := ⟨Session.untouched_durable.refl s, fun _ => rfl, fun _ => rfl, fun _ => rfl,
    fun _ => rfl⟩
  trans h₁ h₂ := {
    Session.untouched_durable.trans h₁.toUntouched h₂.toUntouched with
    initialized := fun h => (h₂.initialized h).trans (h₁.initialized h)
    pool := fun h => (h₂.pool h).trans (h₁.pool h)
    mailbox := fun h => (h₂.mailbox h).trans (h₁.mailbox h)
    rejectedCommands := fun h => (h₂.rejectedCommands h).trans (h₁.rejectedCommands h) }

/-- Single operations of `link` keep `R`. -/
structure KeptOnLink {σ : Type} (link : Link σ) (R : Serving σ → Serving σ → Prop) : Prop where
  durable : Durable R
  read : ∀ n, Moves R (Serve.onLink (link.read n))
  write : ∀ bs, Moves R (Serve.onLink (link.write bs))
  flush : Moves R (Serve.onLink link.flush)

/-- Single operations of `link` keep `R`, and so does every change of the session that
`command` may make. -/
structure KeptDuring {σ : Type} (command : Command) (link : Link σ)
    (R : Serving σ → Serving σ → Prop) : Prop
    extends KeptOnLink link R where
  touch : ∀ {st : Serving σ} {s : Session}, st.session.Changes command s →
    R st { st with session := s }

/-- Single operations of `link` keep `R`, and so does every change of the session that leaves alone
what a command must leave alone. -/
structure KeptBy {σ : Type} (link : Link σ) (R : Serving σ → Serving σ → Prop) : Prop extends
    KeptOnLink link R where
  touch : ∀ {st : Serving σ} {s : Session}, st.session.Untouched s → R st { st with session := s }

theorem KeptBy.during {σ : Type} {link : Link σ} {R : Serving σ → Serving σ → Prop}
    (h : KeptBy link R) (command : Command) : KeptDuring command link R :=
  { h.toKeptOnLink with touch := fun hChanges => h.touch hChanges.toUntouched }

namespace Serve

variable {σ α ε : Type}

theorem onLink_ok {act : EStateM Fault σ α} {st : Serving σ} {a : α} {w : σ}
    (h : act st.world = .ok a w) : onLink act st = .ok a { st with world := w } := by
  simp only [onLink, onWorld, h]

theorem onLink_error {act : EStateM Fault σ α} {st : Serving σ} {f : Fault} {w : σ}
    (h : act st.world = .error f w) :
    onLink act st = .error (.transport f) { st with world := w } := by
  simp only [onLink, onWorld, h]

/-- An operation of the world seen from one session. -/
theorem onWorld_moves_iff {R : Serving σ → Serving σ → Prop} {wrap : Fault → ServeError}
    {act : EStateM Fault σ α} :
    Moves R (onWorld wrap act) ↔ ∀ s, Moves (fun w w' => R ⟨s, w⟩ ⟨s, w'⟩) act := by
  have key : ∀ s w, endState (onWorld wrap act ⟨s, w⟩) = ⟨s, endState (act w)⟩ := by
    intro s w
    unfold onWorld
    cases act w <;> rfl
  constructor
  · intro h s w
    have := h ⟨s, w⟩
    rwa [key] at this
  · intro h st
    rw [key]
    exact h st.session st.world

section

variable {R : σ → σ → Prop}

theorem onWorld_moves {wrap : Fault → ServeError} {act : EStateM Fault σ α} (h : Moves R act) :
    Moves (WorldRel R) (onWorld wrap act) :=
  onWorld_moves_iff.mpr fun _ => h

theorem onLink_moves {act : EStateM Fault σ α} (h : Moves R act) :
    Moves (WorldRel R) (onLink act) :=
  onWorld_moves h

theorem onSink_moves {act : EStateM Fault σ α} (h : Moves R act) :
    Moves (WorldRel R) (onSink act) :=
  onWorld_moves h

end

variable {R : Serving σ → Serving σ → Prop}

theorem session_moves (hR : Durable R) : Moves R (session : Serve σ Session) :=
  fun st => hR.refl st

theorem update_moves {f : Session → Session}
    (h : ∀ st : Serving σ, R st { st with session := f st.session }) :
    Moves R (update f : Serve σ Unit) :=
  h

theorem check_moves (hR : Durable R) (wrap : ε → ServeError) (r : Except ε α) :
    Moves R (check wrap r : Serve σ α) := by
  cases r with
  | ok a => exact Moves.pure hR a
  | error e => exact Moves.throw hR _

theorem check_ok {wrap : ε → ServeError} {r : Except ε α} {st st' : Serving σ} {a : α}
    (h : check wrap r st = .ok a st') : r = .ok a ∧ st' = st := by
  cases r with
  | ok b =>
    cases h
    exact ⟨rfl, rfl⟩
  | error e => cases h

theorem bracket_moves (hR : Durable R) {link : Link σ}
    (hMode : ∀ mode, Moves R (onLink (link.setMode mode))) {body : Serve σ α}
    (hBody : Moves R body) : Moves R (bracket link body) := by
  have hLeave : ∀ st : Serving σ, R st { st with world := link.leaveBlocking st.world } := fun st =>
    onWorld_moves_iff.mp (hMode .poll) st.session st.world
  intro st
  have h₁ := hMode .blocking st
  unfold bracket Link.enterBlocking
  cases he : onLink (link.setMode .blocking) st with
  | error e t => simpa [he] using h₁
  | ok a t =>
    have h₂ := hBody t
    rw [he] at h₁
    cases hb : body t with
    | ok a u =>
      rw [hb] at h₂
      refine hR.trans h₁ ?_
      simp only [hb]
      exact hR.trans h₂ (hLeave u)
    | error e u =>
      rw [hb] at h₂
      refine hR.trans h₁ ?_
      simp only [hb]
      exact hR.trans h₂ (hLeave u)

end Serve

namespace Session

open Serve

variable {σ : Type}

/-! ## Relations between servings -/

section

variable {R : Serving σ → Serving σ → Prop} {link : Link σ} (h : KeptOnLink link R)

include h

theorem durable_at (s : Session) : Durable fun w w' => R ⟨s, w⟩ ⟨s, w'⟩ :=
  ⟨fun _ => h.durable.refl _, h.durable.trans⟩

theorem readExact_moves (n : Nat) : Moves R (onLink (link.readExact n)) :=
  onWorld_moves_iff.mpr fun s =>
    Source.readExact_moves (durable_at h s) (fun n => onWorld_moves_iff.mp (h.read n) s) n

theorem discard_moves (n : Nat) : Moves R (onLink (link.discard n)) :=
  onWorld_moves_iff.mpr fun s =>
    Source.discard_moves (durable_at h s) (fun n => onWorld_moves_iff.mp (h.read n) s) n

theorem writeAll_moves (bs : Bytes) : Moves R (onLink (link.writeAll bs)) :=
  onWorld_moves_iff.mpr fun s =>
    Sink.writeAll_moves (durable_at h s) (fun bs => onWorld_moves_iff.mp (h.write bs) s) bs

theorem readInt_moves : Moves R (onLink (Wire.readInt link.toSource)) :=
  onWorld_moves_iff.mpr fun s => Moves.map _ (onWorld_moves_iff.mp (readExact_moves h _) s)

theorem writeInt_moves (v : Int32) : Moves R (onLink (Wire.writeInt link.toSink v)) :=
  writeAll_moves h _

end

section

variable {R : Serving σ → Serving σ → Prop} {link : Link σ} {command : Command}

theorem touch_moves (h : KeptDuring command link R) {f : Session → Session}
    (hf : ∀ s, Changes command s (f s)) : Moves R (update f : Serve σ Unit) :=
  update_moves fun _ => h.touch (hf _)

theorem handleInit_moves (h : KeptDuring .init link R) : Moves R (handleInit link) := by
  refine Moves.bind h.durable (touch_moves h fun _ => ?_) fun _ => ?_
  · exact ⟨⟨rfl, rfl, rfl, rfl, rfl⟩, by simp, by simp, by simp, fun _ => rfl⟩
  · refine Moves.bind h.durable (session_moves h.durable) fun s => ?_
    split
    · exact writeAll_moves h.toKeptOnLink _
    · exact Moves.pure h.durable _

/-- A command about the pool may be rejected. -/
theorem countRejected_moves (h : KeptDuring command link R)
    (hPool : command ∈ [.initPool, .read, .write]) :
    Moves R (update countRejected : Serve σ Unit) :=
  touch_moves h fun _ =>
    ⟨⟨rfl, rfl, rfl, rfl, rfl⟩, fun _ => rfl, fun _ => rfl, fun _ => rfl,
      fun hOther => absurd hPool hOther⟩

theorem handleInitPool_moves (h : KeptDuring .initPool link R) : Moves R (handleInitPool link) := by
  refine Moves.bind h.durable (readInt_moves h.toKeptOnLink) fun size => ?_
  refine Moves.bind h.durable (session_moves h.durable) fun s => ?_
  split
  · split
    · exact touch_moves h fun _ =>
        ⟨⟨rfl, rfl, rfl, rfl, rfl⟩, fun _ => rfl, by simp, fun _ => rfl, by simp⟩
    · exact Moves.throw h.durable _
  · exact countRejected_moves h (by simp)

theorem handleRead_moves (h : KeptDuring .read link R) : Moves R (handleRead link) := by
  refine Moves.bind h.durable (readInt_moves h.toKeptOnLink) fun index => ?_
  refine Moves.bind h.durable (readInt_moves h.toKeptOnLink) fun size => ?_
  refine Moves.bind h.durable (session_moves h.durable) fun s => ?_
  split
  · exact countRejected_moves h (by simp)
  · exact Moves.bind h.durable (check_moves h.durable _ _) fun data =>
      writeAll_moves h.toKeptOnLink data

theorem handleWrite_moves (h : KeptDuring .write link R) : Moves R (handleWrite link) := by
  refine Moves.bind h.durable (readInt_moves h.toKeptOnLink) fun index => ?_
  refine Moves.bind h.durable (readInt_moves h.toKeptOnLink) fun size => ?_
  refine Moves.bind h.durable (session_moves h.durable) fun s => ?_
  split
  · exact Moves.bind h.durable (countRejected_moves h (by simp)) fun _ =>
      discard_moves h.toKeptOnLink _
  · refine Moves.bind h.durable (check_moves h.durable _ _) fun range => ?_
    refine Moves.bind h.durable (readExact_moves h.toKeptOnLink _) fun data => ?_
    refine Moves.bind h.durable (check_moves h.durable _ _) fun written => ?_
    exact touch_moves h fun _ =>
      ⟨⟨rfl, rfl, rfl, rfl, rfl⟩, fun _ => rfl, by simp, fun _ => rfl, by simp⟩

theorem handleInputAvailable_moves (h : KeptOnLink link R) : Moves R (handleInputAvailable link) :=
  Moves.bind h.durable (session_moves h.durable) fun _ => writeInt_moves h _

theorem handleInputRequest_moves (h : KeptDuring .inputRequest link R) :
    Moves R (handleInputRequest link) := by
  refine Moves.bind h.durable (readInt_moves h.toKeptOnLink) fun requested => ?_
  refine Moves.bind h.durable (session_moves h.durable) fun s => ?_
  refine Moves.bind h.durable (touch_moves h fun _ => ?_) fun _ => ?_
  · exact ⟨⟨rfl, rfl, rfl, rfl, rfl⟩, fun _ => rfl, fun _ => rfl, by simp, fun _ => rfl⟩
  · exact Moves.bind h.durable (writeInt_moves h.toKeptOnLink _) fun _ =>
      writeAll_moves h.toKeptOnLink _

theorem handleInputPeek_moves (h : KeptOnLink link R) : Moves R (handleInputPeek link) := by
  refine Moves.bind h.durable (session_moves h.durable) fun s => ?_
  split <;> exact writeAll_moves h _

theorem handlePing_moves (h : KeptOnLink link R) : Moves R (handlePing link) :=
  Moves.bind h.durable (session_moves h.durable) fun _ => writeAll_moves h _

theorem handle_during (h : KeptDuring command link R) : Moves R (handle link command) := by
  cases command with
  | init => exact handleInit_moves h
  | initPool => exact handleInitPool_moves h
  | read => exact handleRead_moves h
  | write => exact handleWrite_moves h
  | inputAvailable => exact handleInputAvailable_moves h.toKeptOnLink
  | inputRequest => exact handleInputRequest_moves h
  | inputPeek => exact handleInputPeek_moves h.toKeptOnLink
  | ping => exact handlePing_moves h.toKeptOnLink

end

section

variable {R : Serving σ → Serving σ → Prop} {link : Link σ} (h : KeptBy link R)

include h

theorem handle_moves (command : Command) : Moves R (handle link command) :=
  handle_during (h.during command)

/-- A command with its count keeps what counting keeps too. -/
theorem carryOut_moves
    (hCommand : ∀ st : Serving σ, R st { st with session := st.session.countCommand })
    (hUnknown : ∀ st : Serving σ, R st { st with session := st.session.countUnknown })
    (code : UInt8) : Moves R (carryOut link code) := by
  unfold carryOut
  split
  · exact Moves.bind h.durable (update_moves hUnknown) fun _ => Moves.pure h.durable _
  · refine Moves.bind h.durable (handle_moves h _) fun _ => ?_
    refine Moves.bind h.durable h.flush fun _ => ?_
    exact Moves.bind h.durable (update_moves hCommand) fun _ => Moves.pure h.durable _

/-- In its bracket it keeps what switches of mode keep too. -/
theorem dispatch_keeps (hMode : ∀ mode, Moves R (onLink (link.setMode mode)))
    (hCommand : ∀ st : Serving σ, R st { st with session := st.session.countCommand })
    (hUnknown : ∀ st : Serving σ, R st { st with session := st.session.countUnknown })
    (code : UInt8) : Moves R (dispatch link code) :=
  bracket_moves h.durable hMode (carryOut_moves h hCommand hUnknown code)

end

/-! ## Relations between worlds -/

section

variable {R : σ → σ → Prop}

theorem keptBy_worldRel (hR : Durable R) {link : Link σ} (hLink : link.Keeps R) :
    KeptBy link (WorldRel R) where
  durable := hR.worldRel
  read n := onLink_moves (hLink.read n)
  write bs := onLink_moves (hLink.write bs)
  flush := onLink_moves hLink.flush
  touch _ := hR.refl _

theorem dispatch_moves (hR : Durable R) {link : Link σ} (hLink : link.Keeps R) (code : UInt8) :
    Moves (WorldRel R) (dispatch link code) :=
  dispatch_keeps (keptBy_worldRel hR hLink) (fun mode => onLink_moves (hLink.setMode mode))
    (fun _ => hR.refl _) (fun _ => hR.refl _) code

/-- A byte is written to the sink at most, and the sink is not flushed. -/
theorem processByte_moves (hR : Durable R) {link : Link σ} (hLink : link.Keeps R) {sink : Sink σ}
    (hWrite : ∀ bs, Moves R (sink.write bs)) (b : UInt8) :
    Moves (WorldRel R) (processByte link sink b) := by
  have hD := hR.worldRel
  have hUpdate : ∀ f, Moves (WorldRel R) (update f : Serve σ Unit) := fun _ _ => hR.refl _
  refine Moves.bind hD (session_moves hD) fun s => ?_
  refine Moves.bind hD (hUpdate _) fun _ => ?_
  split
  · refine Moves.bind hD (onSink_moves (Sink.writeAll_moves hR hWrite _)) fun _ => ?_
    exact Moves.bind hD (hUpdate _) fun _ => Moves.pure hD _
  · exact Moves.pure hD _
  · exact Moves.bind hD (dispatch_moves hR hLink _) fun _ => Moves.pure hD _

end

/-! ## The session -/

/-- The sessions of two servings are related. -/
def SessionRel (P : Session → Session → Prop) (a b : Serving σ) : Prop :=
  P a.session b.session

theorem keptDuring_changes (link : Link σ) (command : Command) :
    KeptDuring command link (SessionRel (Changes command)) where
  durable := ⟨fun st => (changes_durable command).refl st.session, (changes_durable command).trans⟩
  read _ := onWorld_moves_iff.mpr fun s _ => (changes_durable command).refl s
  write _ := onWorld_moves_iff.mpr fun s _ => (changes_durable command).refl s
  flush := onWorld_moves_iff.mpr fun s _ => (changes_durable command).refl s
  touch h := h

/-- A command does to the session only what it may do, also when it fails. -/
theorem handle_changes (link : Link σ) (command : Command) (st : Serving σ) :
    st.session.Changes command (endState (handle link command st)).session :=
  handle_during (keptDuring_changes link command) st

/-- A command leaves alone what belongs to the stream, also when it fails. -/
theorem handle_untouched (link : Link σ) (command : Command) (st : Serving σ) :
    st.session.Untouched (endState (handle link command st)).session :=
  (handle_changes link command st).toUntouched

/-- The configuration of a session is never changed, also not by a byte that fails. -/
theorem processByte_config (link : Link σ) (sink : Sink σ) (b : UInt8) (st : Serving σ) :
    (endState (processByte link sink b st)).session.config = st.session.config := by
  let Same : Serving σ → Serving σ → Prop := SessionRel fun s t => t.config = s.config
  have hD : Durable Same := ⟨fun _ => rfl, fun h h' => h'.trans h⟩
  have hWorld : ∀ {α} wrap (act : EStateM Fault σ α), Moves Same (onWorld wrap act) :=
    fun _ _ => onWorld_moves_iff.mpr fun _ _ => rfl
  have hUpdate : ∀ f : Session → Session, (∀ s, (f s).config = s.config) →
      Moves Same (update f : Serve σ Unit) :=
    fun f h => update_moves fun st => h st.session
  have hKept : KeptBy link Same := {
    durable := hD
    read := fun _ => hWorld _ _
    write := fun _ => hWorld _ _
    flush := hWorld _ _
    touch := fun h => h.config }
  have hByte : Moves Same (processByte link sink b) := by
    refine Moves.bind hD (session_moves hD) fun s =>
      Moves.bind hD (hUpdate _ fun _ => rfl) fun _ => ?_
    split
    · exact Moves.bind hD (hWorld _ _) fun _ => Moves.bind hD (hUpdate _ fun _ => rfl) fun _ =>
        Moves.pure hD _
    · exact Moves.pure hD _
    · refine Moves.bind hD ?_ fun _ => Moves.pure hD _
      exact dispatch_keeps hKept (fun _ => hWorld _ _) (fun _ => rfl) (fun _ => rfl) _
  exact hByte st

/-! ## Runs of a command -/

section

variable {link : Link σ} {code : UInt8} {st st' : Serving σ} {command? : Option Command}

/-- A dispatch that succeeds has entered blocking mode and has left it after the command. -/
theorem dispatch_ok (h : dispatch link code st = .ok command? st') :
    ∃ w done, link.enterBlocking st.world = .ok () w ∧
      carryOut link code ⟨st.session, w⟩ = .ok command? done ∧
      st' = { done with world := link.leaveBlocking done.world } := by
  unfold dispatch bracket onLink onWorld at h
  cases hEnter : link.enterBlocking st.world with
  | error f w =>
    rw [hEnter] at h
    cases h
  | ok u w =>
    rw [hEnter] at h
    simp only at h
    cases hBody : carryOut link code { st with world := w } with
    | error e done =>
      rw [hBody] at h
      cases h
    | ok a done =>
      rw [hBody] at h
      cases h
      exact ⟨w, done, rfl, hBody, rfl⟩

/-- A known command that succeeds was handled, then its reply was flushed, and then it was
counted. -/
theorem carryOut_ok {command : Command} (h : carryOut link code st = .ok (some command) st') :
    Command.ofCode? code = some command ∧ ∃ done w, handle link command st = .ok () done ∧
      link.flush done.world = .ok () w ∧ st' = ⟨done.session.countCommand, w⟩ := by
  unfold carryOut at h
  cases hCode : Command.ofCode? code with
  | none =>
    rw [hCode] at h
    cases h
  | some known =>
    rw [hCode] at h
    obtain ⟨_, done, hHandle, h⟩ := of_bind_ok h
    obtain ⟨_, flushed, hFlush, h⟩ := of_bind_ok h
    cases h
    unfold onLink onWorld at hFlush
    split at hFlush <;> cases hFlush
    exact ⟨rfl, done, _, hHandle, ‹_›, rfl⟩

/-- A code that names no command is counted, and that is all. -/
theorem carryOut_unknown (h : Command.ofCode? code = none) :
    carryOut link code st = .ok none { st with session := st.session.countUnknown } := by
  unfold carryOut
  rw [h]
  rfl

end

/-! ## What becomes of a byte -/

section

variable {link : Link σ} {sink : Sink σ} {st : Serving σ}

theorem processByte_opens (hIdle : st.session.framing = .idle) :
    processByte link sink st.session.config.initValue st =
      .ok .frameStart { st with session := { st.session with framing := .awaitingCommand } } := by
  have hSession : session st = .ok st.session st := rfl
  unfold processByte
  rw [bind_ok hSession, hIdle, Framing.classify, if_pos rfl]
  rfl

theorem processByte_passes {b : UInt8} (hIdle : st.session.framing = .idle)
    (hb : b ≠ st.session.config.initValue) :
    processByte link sink b st =
      match sink.writeAll [b] st.world with
      | .ok () w => .ok .passthrough ⟨st.session.countPassthrough, w⟩
      | .error f w => .error (.sink f) ⟨st.session, w⟩ := by
  have hSession : session st = .ok st.session st := rfl
  have hSame : update (fun s => { s with framing := .idle }) st = .ok () st := by
    show EStateM.Result.ok ()
      ({ st with session := { st.session with framing := .idle } } : Serving σ) = _
    rw [← hIdle]
  unfold processByte
  rw [bind_ok hSession, hIdle, Framing.classify, if_neg hb]
  simp only
  rw [bind_ok hSame]
  cases hWrite : sink.writeAll [b] st.world with
  | ok u w =>
    have hPass : onSink (sink.writeAll [b]) st = .ok () { st with world := w } := by
      simp only [onSink, onWorld, hWrite]
    rw [bind_ok hPass]
    rfl
  | error f w =>
    have hFails : onSink (sink.writeAll [b]) st = .error (.sink f) { st with world := w } := by
      simp only [onSink, onWorld, hWrite]
    rw [bind_error hFails]

theorem processByte_dispatches (b : UInt8) (hOpen : st.session.framing = .awaitingCommand) :
    processByte link sink b st =
      match dispatch link b { st with session := { st.session with framing := .idle } } with
      | .ok command? st' => .ok (.dispatched command?) st'
      | .error e st' => .error e st' := by
  have hSession : session st = .ok st.session st := rfl
  have hIdle : update (fun s => { s with framing := .idle }) st =
      .ok () { st with session := { st.session with framing := .idle } } := rfl
  unfold processByte
  rw [bind_ok hSession, hOpen]
  simp only [Framing.classify]
  rw [bind_ok hIdle]
  cases hRun : dispatch link b { st with session := { st.session with framing := .idle } } with
  | ok command? st' =>
    rw [bind_ok hRun]
    rfl
  | error e st' => rw [bind_error hRun]

end

/-! ## Failures -/

/-- A failure of the link or of the protocol, not of the sink. -/
def NotAtSink (e : ServeError) : Prop :=
  ∀ f, e ≠ .sink f

section

variable {α : Type} (link : Link σ)

theorem onLink_fails (act : EStateM Fault σ α) : FailsOnly NotAtSink (onLink act) := by
  intro st e t h
  unfold onLink onWorld at h
  split at h <;> cases h
  exact fun f hf => by cases hf

theorem session_fails : FailsOnly NotAtSink (session : Serve σ Session) :=
  fun _ _ _ h => by cases h

theorem update_fails (f : Session → Session) : FailsOnly NotAtSink (update f : Serve σ Unit) :=
  fun _ _ _ h => by cases h

theorem check_fails (r : Except PoolError α) : FailsOnly NotAtSink (check .pool r : Serve σ α) := by
  cases r with
  | ok a => exact FailsOnly.pure a
  | error e => exact FailsOnly.throw fun f hf => by cases hf

theorem handle_fails (command : Command) : FailsOnly NotAtSink (handle link command) := by
  cases command with
  | init =>
    refine FailsOnly.bind (update_fails _) fun _ => FailsOnly.bind session_fails fun s => ?_
    split
    · exact onLink_fails _
    · exact FailsOnly.pure _
  | initPool =>
    refine FailsOnly.bind (onLink_fails _) fun size => FailsOnly.bind session_fails fun s => ?_
    split
    · split
      · exact update_fails _
      · exact FailsOnly.throw fun f hf => by cases hf
    · exact update_fails _
  | read =>
    refine FailsOnly.bind (onLink_fails _) fun index =>
      FailsOnly.bind (onLink_fails _) fun size => ?_
    refine FailsOnly.bind session_fails fun s => ?_
    split
    · exact update_fails _
    · exact FailsOnly.bind (check_fails _) fun data => onLink_fails _
  | write =>
    refine FailsOnly.bind (onLink_fails _) fun index =>
      FailsOnly.bind (onLink_fails _) fun size => ?_
    refine FailsOnly.bind session_fails fun s => ?_
    split
    · exact FailsOnly.bind (update_fails _) fun _ => onLink_fails _
    · refine FailsOnly.bind (check_fails _) fun range =>
        FailsOnly.bind (onLink_fails _) fun data => ?_
      exact FailsOnly.bind (check_fails _) fun written => update_fails _
  | inputAvailable => exact FailsOnly.bind session_fails fun s => onLink_fails _
  | inputRequest =>
    refine FailsOnly.bind (onLink_fails _) fun requested => FailsOnly.bind session_fails fun s => ?_
    refine FailsOnly.bind (update_fails _) fun _ => ?_
    exact FailsOnly.bind (onLink_fails _) fun _ => onLink_fails _
  | inputPeek =>
    refine FailsOnly.bind session_fails fun s => ?_
    split <;> exact onLink_fails _
  | ping => exact FailsOnly.bind session_fails fun s => onLink_fails _

theorem carryOut_fails (code : UInt8) : FailsOnly NotAtSink (carryOut link code) := by
  unfold carryOut
  split
  · exact FailsOnly.bind (update_fails _) fun _ => FailsOnly.pure _
  · refine FailsOnly.bind (handle_fails link _) fun _ => FailsOnly.bind (onLink_fails _) fun _ => ?_
    exact FailsOnly.bind (update_fails _) fun _ => FailsOnly.pure _

/-- A command does not touch the sink, so it cannot fail at it. -/
theorem dispatch_fails (code : UInt8) : FailsOnly NotAtSink (dispatch link code) := by
  intro st e t h
  unfold dispatch bracket at h
  cases hEnter : onLink link.enterBlocking st with
  | error e' st' =>
    rw [hEnter] at h
    cases h
    exact onLink_fails _ _ _ _ hEnter
  | ok u st' =>
    rw [hEnter] at h
    simp only at h
    cases hBody : carryOut link code st' with
    | ok a st'' =>
      rw [hBody] at h
      cases h
    | error e' st'' =>
      rw [hBody] at h
      cases h
      exact carryOut_fails link code _ _ _ hBody

end

end Session

/-- A failure that is not one of the sink. Such a failure costs the link. -/
def Breaks {σ α : Type} (r : EStateM.Result ServeError σ α) : Prop :=
  ∃ e s, r = .error e s ∧ Session.NotAtSink e

theorem not_breaks_ok {σ α : Type} (a : α) (s : σ) :
    ¬ Breaks (.ok a s : EStateM.Result ServeError σ α) := by
  rintro ⟨e, t, h, -⟩
  cases h

theorem breaks_error_iff {σ α : Type} {e : ServeError} {s : σ} :
    Breaks (.error e s : EStateM.Result ServeError σ α) ↔ Session.NotAtSink e := by
  constructor
  · rintro ⟨e', t, h, hNot⟩
    cases h
    exact hNot
  · exact fun hNot => ⟨e, s, rfl, hNot⟩

instance {σ α : Type} (r : EStateM.Result ServeError σ α) : Decidable (Breaks r) :=
  match r with
  | .ok a s => isFalse (not_breaks_ok a s)
  | .error (.sink f) _ => isFalse fun h => breaks_error_iff.mp h f rfl
  | .error (.transport _) _ | .error (.pool _) _ | .error (.invalidPoolSize _) _ =>
    isTrue (breaks_error_iff.mpr fun _ h => by cases h)

end MemoryBridge
