import MemoryBridge.Proofs.Settling.Bytes
import MemoryBridge.Proofs.Wire

/-!
# Counting

A session counts what it passes through, the commands that it carries out, codes that name no
command, and commands that come too early. `counters_account` says that these counters leave nothing
out: for every byte there is a counter, a failure that was reported, or a frame that is still open
or was dropped with its link.

It says so of every link and every sink, byte by byte another one if need be, and whatever happens
to mailbox and world in between. A rejected command is counted as soon as its integers are there, so
a failure that follows does not matter.
-/

namespace MemoryBridge

variable {σ : Type}

/-! ## Commands that come too early -/

namespace Wire

variable {source : Source σ} {n : Nat} {w v : σ}

theorem succeeds_readInts_ok {value : Int32} (h : readInt source w = .ok value v) :
    succeeds (readInts source (n + 1) w) = succeeds (readInts source n v) := by
  rw [readInts, bind_ok h]
  cases hRest : readInts source n v with
  | ok values u =>
    rw [bind_ok hRest]
    rfl
  | error f u => rw [bind_error hRest]

theorem succeeds_readInts_error {f : Fault} (h : readInt source w = .error f v) :
    succeeds (readInts source (n + 1) w) = false := by
  rw [readInts, bind_error h]
  rfl

end Wire

namespace Session

open Serve

/-- The command comes too early, a new pool before `init` or an access to the pool before there is
one, and the integers that belong to it are all there. -/
def rejects (s : Session) (link : Link σ) (w : σ) : Command → Bool
  | .initPool => !s.initialized && succeeds (Wire.readInts link.toSource 1 w)
  | .read | .write => s.pool.isNone && succeeds (Wire.readInts link.toSource 2 w)
  | _ => false

/-- From `a` to `b` so many commands were rejected. -/
def Rejects (n : Nat) (a b : Serving σ) : Prop :=
  b.session.counters.rejectedCommands = a.session.counters.rejectedCommands + n

theorem rejects_durable : Durable (Rejects (σ := σ) 0) where
  refl _ := rfl
  trans h₁ h₂ := h₂.trans h₁

theorem onLink_rejects {α : Type} (act : EStateM Fault σ α) : Moves (Rejects 0) (onLink act) := by
  intro st
  unfold onLink onWorld
  cases act st.world <;> rfl

section

variable {link : Link σ} {st : Serving σ}

theorem handleInitPool_rejects :
    Rejects (st.session.rejects link st.world .initPool).toNat st
      (endState (handleInitPool link st)) := by
  have hSession : ∀ w, session (⟨st.session, w⟩ : Serving σ) = .ok st.session ⟨st.session, w⟩ :=
    fun _ => rfl
  unfold handleInitPool rejects
  cases hRead : Wire.readInt link.toSource st.world with
  | error f w =>
    rw [bind_error (onLink_error hRead), Wire.succeeds_readInts_error hRead, Bool.and_false]
    rfl
  | ok size w =>
    rw [bind_ok (onLink_ok hRead), bind_ok (hSession w), Wire.succeeds_readInts_ok hRead]
    cases st.session.initialized with
    | false => rfl
    | true =>
      simp only [if_true]
      split <;> rfl

/-- An access to the pool reads its integers first. Without a pool it is rejected as soon
as both are there. -/
theorem access_rejects {next : Int32 → Int32 → Serve σ Unit}
    (hNext : ∀ index size w,
      Rejects st.session.pool.isNone.toNat st (endState (next index size ⟨st.session, w⟩))) :
    let access : Serve σ Unit := do
      let index ← onLink (Wire.readInt link.toSource)
      let size ← onLink (Wire.readInt link.toSource)
      next index size
    Rejects (st.session.pool.isNone && succeeds (Wire.readInts link.toSource 2 st.world)).toNat st
      (endState (access st)) := by
  intro access
  show Rejects _ st (endState ((onLink (Wire.readInt link.toSource) >>= _) st))
  cases hIndex : Wire.readInt link.toSource st.world with
  | error f w =>
    rw [bind_error (onLink_error hIndex), Wire.succeeds_readInts_error hIndex, Bool.and_false]
    rfl
  | ok index w =>
    rw [bind_ok (onLink_ok hIndex), Wire.succeeds_readInts_ok hIndex]
    cases hSize : Wire.readInt link.toSource w with
    | error f v =>
      have hFails : onLink (Wire.readInt link.toSource) ⟨st.session, w⟩ =
          .error (.transport f) ⟨st.session, v⟩ :=
        onLink_error hSize
      rw [bind_error hFails, Wire.succeeds_readInts_error hSize, Bool.and_false]
      rfl
    | ok size v =>
      have hOk : onLink (Wire.readInt link.toSource) ⟨st.session, w⟩ = .ok size ⟨st.session, v⟩ :=
        onLink_ok hSize
      rw [bind_ok hOk, Wire.succeeds_readInts_ok hSize]
      exact (Bool.and_true _).symm ▸ hNext index size v

theorem handleRead_rejects :
    Rejects (st.session.rejects link st.world .read).toNat st (endState (handleRead link st)) := by
  refine access_rejects fun index size w => ?_
  have hSession : session (⟨st.session, w⟩ : Serving σ) = .ok st.session ⟨st.session, w⟩ := rfl
  rw [bind_ok hSession]
  cases st.session.pool with
  | none => rfl
  | some p =>
    exact Moves.bind rejects_durable (check_moves rejects_durable _ _) (fun _ => onLink_rejects _)
      ⟨st.session, w⟩

theorem handleWrite_rejects :
    Rejects (st.session.rejects link st.world .write).toNat st
      (endState (handleWrite link st)) := by
  refine access_rejects fun index size w => ?_
  have hSession : session (⟨st.session, w⟩ : Serving σ) = .ok st.session ⟨st.session, w⟩ := rfl
  rw [bind_ok hSession]
  cases st.session.pool with
  | none =>
    -- The count stands before the data is skipped, so it does not matter whether that succeeds.
    exact onLink_rejects (link.discard size.toInt.toNat) ⟨st.session.countRejected, w⟩
  | some p =>
    refine Moves.bind rejects_durable (check_moves rejects_durable _ _) (fun range => ?_)
      ⟨st.session, w⟩
    refine Moves.bind rejects_durable (onLink_rejects _) fun data => ?_
    exact Moves.bind rejects_durable (check_moves rejects_durable _ _) fun written =>
      update_moves fun _ => rfl

/-- A command is counted as rejected if it comes too early and its integers are there, however it
ends. -/
theorem handle_rejects (link : Link σ) (command : Command) (st : Serving σ) :
    Rejects (st.session.rejects link st.world command).toNat st
      (endState (handle link command st)) := by
  cases command with
  | initPool => exact handleInitPool_rejects
  | read => exact handleRead_rejects
  | write => exact handleWrite_rejects
  | _ => exact (handle_changes link _ st).rejectedCommands (by decide)

end

end Session

/-! ## What becomes of a byte -/

/-- What becomes of a byte. -/
inductive Fate
  /-- The sink took it. -/
  | shown
  /-- The sink failed. -/
  | lost
  /-- It opened a frame. -/
  | opened
  /-- It was the code of a command, which was carried out. -/
  | served
  /-- It was a code that names no command. -/
  | unknown
  /-- It was a code, and its dispatch failed. -/
  | failed
  deriving DecidableEq, Repr

namespace Fate

/-- What becomes of the code of a frame, by the result of its dispatch. -/
def ofDispatch : Except ServeError (Option Command) → Fate
  | .ok (some _) => .served
  | .ok none => .unknown
  | .error _ => .failed

/-- What the result of a byte tells of it. -/
def told : Except ServeError Handled → Fate
  | .ok .passthrough => .shown
  | .ok .frameStart => .opened
  | .ok (.dispatched command?) => ofDispatch (.ok command?)
  | .error (.sink _) => .lost
  | .error e => ofDispatch (.error e)

end Fate

namespace Session

open Serve

variable (link : Link σ) (sink : Sink σ) (b : UInt8) (st : Serving σ)

/-- The session between two frames. -/
def closed (s : Session) : Session :=
  { s with framing := .idle }

/-- What becomes of the byte `b`, by what is done with it. -/
def fate : Fate :=
  match st.session.framing with
  | .idle =>
    if b = st.session.config.initValue then .opened
    else if succeeds (sink.writeAll [b] st.world) then .shown
    else .lost
  | .awaitingCommand => .ofDispatch (toExcept (dispatch link b ⟨st.session.closed, st.world⟩))

/-- The byte is the code of a command that comes too early, and the integers of this
command are all there. -/
def rejectsByte : Bool :=
  match st.session.framing, link.enterBlocking st.world, Command.ofCode? b with
  | .awaitingCommand, .ok () w, some command => st.session.rejects link w command
  | _, _, _ => false

/-- How many bytes of a frame have come whose code has not. -/
def pending (s : Session) : Nat :=
  if s.framing = .awaitingCommand then 1 else 0

/-- From `s` to `t` the counters account for bytes with such fates, for so many commands that came
too early, and for so many open frames that were dropped. -/
structure Tallies (fates : List Fate) (rejected dropped : Nat) (s t : Session) : Prop where
  bytes : s.pending + fates.length = fates.count .shown + fates.count .lost +
    2 * (fates.count .served + fates.count .unknown + fates.count .failed) + dropped + t.pending
  passthroughBytes : t.counters.passthroughBytes = s.counters.passthroughBytes + fates.count .shown
  commands : t.counters.commands = s.counters.commands + fates.count .served
  unknownCommands : t.counters.unknownCommands = s.counters.unknownCommands + fates.count .unknown
  rejectedCommands : t.counters.rejectedCommands = s.counters.rejectedCommands + rejected

theorem Tallies.trans {fates later : List Fate} {rejected rejected' dropped dropped' : Nat}
    {s t u : Session} (h : Tallies fates rejected dropped s t)
    (h' : Tallies later rejected' dropped' t u) :
    Tallies (fates ++ later) (rejected + rejected') (dropped + dropped') s u where
  bytes := by
    have hFirst := h.bytes
    have hLater := h'.bytes
    simp only [List.length_append, List.count_append]
    omega
  passthroughBytes := by
    rw [h'.passthroughBytes, h.passthroughBytes, List.count_append, Nat.add_assoc]
  commands := by rw [h'.commands, h.commands, List.count_append, Nat.add_assoc]
  unknownCommands := by rw [h'.unknownCommands, h.unknownCommands, List.count_append, Nat.add_assoc]
  rejectedCommands := by rw [h'.rejectedCommands, h.rejectedCommands, Nat.add_assoc]

theorem tallies_failed {rejected : Nat} {s t : Session} (hOpen : s.framing = .awaitingCommand)
    (hUntouched : s.closed.Untouched t)
    (hRejected : t.counters.rejectedCommands = s.counters.rejectedCommands + rejected) :
    Tallies [.failed] rejected 0 s t where
  bytes := by simp [pending, hOpen, hUntouched.framing, closed]
  passthroughBytes := hUntouched.passthroughBytes
  commands := hUntouched.commands
  unknownCommands := hUntouched.unknownCommands
  rejectedCommands := hRejected

theorem tallies_served {rejected : Nat} {s t : Session} (hOpen : s.framing = .awaitingCommand)
    (hUntouched : s.closed.Untouched t)
    (hRejected : t.counters.rejectedCommands = s.counters.rejectedCommands + rejected) :
    Tallies [.served] rejected 0 s t.countCommand where
  bytes := by simp [pending, hOpen, hUntouched.framing, closed, countCommand]
  passthroughBytes := hUntouched.passthroughBytes
  commands := congrArg (· + 1) hUntouched.commands
  unknownCommands := hUntouched.unknownCommands
  rejectedCommands := hRejected

theorem tallies_unknown {s : Session} (hOpen : s.framing = .awaitingCommand) :
    Tallies [.unknown] 0 0 s s.closed.countUnknown where
  bytes := by simp [pending, hOpen, closed, countUnknown]
  passthroughBytes := rfl
  commands := rfl
  unknownCommands := rfl
  rejectedCommands := rfl

/-- A known command on a link in blocking mode. -/
theorem carryOut_tallies {s : Session} (hOpen : s.framing = .awaitingCommand) {command : Command}
    (hCode : Command.ofCode? b = some command) (w : σ) :
    let r := carryOut link b ⟨s.closed, w⟩
    Tallies [.ofDispatch (toExcept r)] (s.rejects link w command).toNat 0 s
      (endState r).session := by
  intro r
  have hRun : r = carryOut link b ⟨s.closed, w⟩ := rfl
  have hUntouched := handle_untouched link command ⟨s.closed, w⟩
  have hRejected := handle_rejects link command ⟨s.closed, w⟩
  unfold carryOut at hRun
  rw [hCode] at hRun
  simp only at hRun
  cases hHandle : handle link command ⟨s.closed, w⟩ with
  | error e t =>
    rw [hHandle] at hUntouched hRejected
    rw [hRun, bind_error hHandle]
    exact tallies_failed hOpen hUntouched hRejected
  | ok u t =>
    rw [hHandle] at hUntouched hRejected
    rw [hRun, bind_ok hHandle]
    cases hFlush : link.flush t.world with
    | error f v =>
      rw [bind_error (onLink_error hFlush)]
      exact tallies_failed hOpen hUntouched hRejected
    | ok u v =>
      rw [bind_ok (onLink_ok hFlush)]
      exact tallies_served hOpen hUntouched hRejected

/-- The second byte of a frame stands for both. -/
theorem dispatch_tallies {s : Session} (hOpen : s.framing = .awaitingCommand) (w : σ) :
    let r := dispatch link b ⟨s.closed, w⟩
    Tallies [.ofDispatch (toExcept r)] (rejectsByte link b ⟨s, w⟩).toNat 0 s
      (endState r).session := by
  intro r
  unfold rejectsByte
  rw [hOpen]
  cases hEnter : link.enterBlocking w with
  | error f v =>
    have hFails : onLink link.enterBlocking ⟨s.closed, w⟩ = .error (.transport f) ⟨s.closed, v⟩ :=
      onLink_error hEnter
    have hRun : r = .error (.transport f) ⟨s.closed, v⟩ := by
      show bracket _ _ _ = _
      unfold bracket
      rw [hFails]
    rw [hRun]
    exact tallies_failed hOpen (untouched_durable.refl _) rfl
  | ok u v =>
    obtain ⟨hOutcome, -, hEnd⟩ : toExcept r = _ ∧ succeeds r = _ ∧ endState r = _ :=
      bracket_entered hEnter
    rw [hOutcome, hEnd]
    cases hCode : Command.ofCode? b with
    | none =>
      rw [carryOut_unknown hCode]
      exact tallies_unknown hOpen
    | some command => exact carryOut_tallies link b hOpen hCode v

/-- The first byte of a message that is no frame is passed through, or the sink fails. -/
theorem output_tallies {s : Session} (hIdle : s.framing = .idle) :
    Tallies [.shown] 0 0 s s.countPassthrough ∧ Tallies [.lost] 0 0 s s ∧
      Tallies [.opened] 0 0 s { s with framing := .awaitingCommand } := by
  refine ⟨⟨?_, rfl, rfl, rfl, rfl⟩, ⟨?_, rfl, rfl, rfl, rfl⟩, ⟨?_, rfl, rfl, rfl, rfl⟩⟩
  all_goals simp [pending, hIdle, countPassthrough]

/-- A byte is accounted for by what becomes of it. -/
theorem processByte_tallies :
    Tallies [fate link sink b st] (rejectsByte link b st).toNat 0 st.session
      (endState (processByte link sink b st)).session := by
  cases hFraming : st.session.framing with
  | idle =>
    obtain ⟨hShown, hLost, hOpened⟩ := output_tallies hFraming
    unfold fate rejectsByte
    rw [hFraming]
    by_cases hb : b = st.session.config.initValue
    · subst hb
      rw [processByte_opens hFraming]
      simpa using hOpened
    · rw [processByte_passes hFraming hb]
      simp only [if_neg hb]
      cases sink.writeAll [b] st.world with
      | ok u w => exact hShown
      | error f w => exact hLost
  | awaitingCommand =>
    have hDispatch := dispatch_tallies link b hFraming st.world
    unfold fate
    rw [hFraming, processByte_dispatches b hFraming]
    have hRun : dispatch link b { st with session := { st.session with framing := .idle } } =
        dispatch link b ⟨st.session.closed, st.world⟩ := rfl
    rw [hRun]
    generalize dispatch link b ⟨st.session.closed, st.world⟩ = r at hDispatch
    cases r with
    | ok command? t => exact hDispatch
    | error e t => exact hDispatch

/-- What becomes of a byte can be told by the result of handling it. -/
theorem told_processByte :
    Fate.told (toExcept (processByte link sink b st)) = fate link sink b st := by
  cases hFraming : st.session.framing with
  | idle =>
    unfold fate
    rw [hFraming]
    by_cases hb : b = st.session.config.initValue
    · subst hb
      rw [processByte_opens hFraming]
      simp [Fate.told]
    · rw [processByte_passes hFraming hb]
      simp only [if_neg hb]
      cases sink.writeAll [b] st.world with
      | ok u w => rfl
      | error f w => rfl
  | awaitingCommand =>
    have hNotAtSink := dispatch_fails link b ⟨st.session.closed, st.world⟩
    unfold fate
    rw [hFraming, processByte_dispatches b hFraming]
    have hRun : dispatch link b { st with session := { st.session with framing := .idle } } =
        dispatch link b ⟨st.session.closed, st.world⟩ := rfl
    rw [hRun]
    generalize dispatch link b ⟨st.session.closed, st.world⟩ = r at hNotAtSink
    cases r with
    | ok command? t => rfl
    | error e t =>
      have hNot := hNotAtSink e t rfl
      cases e with
      | sink f => exact absurd rfl (hNot f)
      | _ => rfl

end Session

/-! ## Sequences of bytes -/

/-- What may come to a session next. -/
inductive Occasion (σ : Type)
  /-- A byte, with the link that it came from and the sink. -/
  | byte (link : Link σ) (sink : Sink σ) (b : UInt8)
  /-- The link was given up. -/
  | reset
  /-- Others use the mailbox, and the world moves on. -/
  | meanwhile (input : Mailbox → Mailbox) (change : σ → σ)

def Occasion.isByte : Occasion σ → Bool
  | .byte _ _ _ => true
  | _ => false

/-- A serving after an occasion. A byte that fails counts like one that is handled. -/
def Serving.after (st : Serving σ) : Occasion σ → Serving σ
  | .byte link sink b => endState (Session.processByte link sink b st)
  | .reset => { st with session := st.session.resetLink }
  | .meanwhile input change =>
    ⟨{ st.session with mailbox := input st.session.mailbox }, change st.world⟩

/-- An occasion and the serving that it finds. -/
structure Scene (σ : Type) where
  before : Serving σ
  occasion : Occasion σ

namespace Scene

/-- The scenes of a sequence of occasions. -/
def course (st : Serving σ) : List (Occasion σ) → List (Scene σ)
  | [] => []
  | occasion :: occasions => ⟨st, occasion⟩ :: course (st.after occasion) occasions

/-- What becomes of the byte that comes. -/
def fate? : Scene σ → Option Fate
  | ⟨st, .byte link sink b⟩ => some (Session.fate link sink b st)
  | _ => none

/-- What is reported of the byte that comes. -/
def result? : Scene σ → Option (Except ServeError Handled)
  | ⟨st, .byte link sink b⟩ => some (toExcept (Session.processByte link sink b st))
  | _ => none

/-- A command comes too early, and its integers are all there. -/
def isRejected : Scene σ → Bool
  | ⟨st, .byte link _ b⟩ => Session.rejectsByte link b st
  | _ => false

/-- A frame is dropped of which only the first byte has come. -/
def dropsFrame : Scene σ → Bool
  | ⟨st, .reset⟩ => decide (st.session.framing = .awaitingCommand)
  | _ => false

theorem fates_cons (x : Scene σ) (scenes : List (Scene σ)) :
    (x :: scenes).filterMap fate? = x.fate?.toList ++ scenes.filterMap fate? := by
  cases h : x.fate? <;> simp [h]

theorem countP_scenes (p : Scene σ → Bool) (x : Scene σ) (scenes : List (Scene σ)) :
    (x :: scenes).countP p = (p x).toNat + scenes.countP p := by
  rw [List.countP_cons, Nat.add_comm]
  cases p x <;> rfl

open Session

/-- Whatever comes next is accounted for. -/
theorem after_tallies (st : Serving σ) (occasion : Occasion σ) :
    let x : Scene σ := ⟨st, occasion⟩
    Tallies x.fate?.toList x.isRejected.toNat x.dropsFrame.toNat st.session
      (st.after occasion).session := by
  cases occasion with
  | byte link sink b => exact processByte_tallies link sink b st
  | meanwhile input change => exact ⟨Nat.zero_add _ |>.symm, rfl, rfl, rfl, rfl⟩
  | reset =>
    refine ⟨?_, rfl, rfl, rfl, rfl⟩
    cases hFraming : st.session.framing <;>
      simp [fate?, dropsFrame, pending, Serving.after, resetLink, hFraming]

theorem course_tallies (st : Serving σ) (occasions : List (Occasion σ)) :
    Tallies ((course st occasions).filterMap fate?) ((course st occasions).countP isRejected)
      ((course st occasions).countP dropsFrame) st.session
        (occasions.foldl Serving.after st).session := by
  induction occasions generalizing st with
  | nil => exact ⟨Nat.zero_add _ |>.symm, rfl, rfl, rfl, rfl⟩
  | cons occasion occasions ih =>
    rw [course, fates_cons, countP_scenes, countP_scenes]
    exact (after_tallies st occasion).trans (ih (st.after occasion))

/-- There is a fate for every byte. -/
theorem length_fates (st : Serving σ) (occasions : List (Occasion σ)) :
    ((course st occasions).filterMap fate?).length = occasions.countP Occasion.isByte := by
  induction occasions generalizing st with
  | nil => rfl
  | cons occasion occasions ih =>
    rw [course, fates_cons, List.length_append, ih, List.countP_cons, Nat.add_comm]
    cases occasion <;> rfl

/-- What becomes of bytes is what is reported of them. -/
theorem told_results (scenes : List (Scene σ)) :
    (scenes.filterMap result?).map Fate.told = scenes.filterMap fate? := by
  have hTold : ∀ x : Scene σ, x.result?.map Fate.told = x.fate? := by
    rintro ⟨st, occasion⟩
    cases occasion with
    | byte link sink b => exact congrArg some (told_processByte link sink b st)
    | _ => rfl
  rw [List.map_filterMap]
  exact congrArg (scenes.filterMap ·) (funext hTold)

end Scene

/-- **The counters leave nothing out.** A session that was just made gets any bytes, over any links
and sinks, in between its link is given up, and others use the mailbox and the world. Then every
byte was passed through or lost at the sink, belongs to a frame that was served, unknown or failed,
or has opened a frame that was dropped or is open still. Each counter has counted what it should:
what the sink took, the commands that were carried out, the unknown codes, and the commands that
came too early and whose integers were there, whether or not they failed after that. -/
theorem counters_account (config : SessionConfig) (mailbox : Mailbox) (w : σ)
    (occasions : List (Occasion σ)) :
    let start : Serving σ := ⟨{ config, mailbox }, w⟩
    let scenes := Scene.course start occasions
    let fates := scenes.filterMap Scene.fate?
    let s := (occasions.foldl Serving.after start).session
    (occasions.countP Occasion.isByte = s.counters.passthroughBytes + fates.count .lost +
        2 * (s.counters.commands + s.counters.unknownCommands + fates.count .failed) +
        scenes.countP Scene.dropsFrame + if s.framing = .awaitingCommand then 1 else 0) ∧
      s.counters.passthroughBytes = fates.count .shown ∧
      s.counters.commands = fates.count .served ∧
      s.counters.unknownCommands = fates.count .unknown ∧
      s.counters.rejectedCommands = scenes.countP Scene.isRejected ∧
      (scenes.filterMap Scene.result?).map Fate.told = fates := by
  intro start scenes fates s
  have hTallies : Session.Tallies fates (scenes.countP Scene.isRejected)
      (scenes.countP Scene.dropsFrame) start.session s :=
    Scene.course_tallies start occasions
  have hLength : fates.length = occasions.countP Occasion.isByte :=
    Scene.length_fates start occasions
  have hFresh : start.session.pending = 0 := rfl
  have hShown : s.counters.passthroughBytes = fates.count .shown :=
    hTallies.passthroughBytes.trans (Nat.zero_add _)
  have hServed : s.counters.commands = fates.count .served :=
    hTallies.commands.trans (Nat.zero_add _)
  have hUnknown : s.counters.unknownCommands = fates.count .unknown :=
    hTallies.unknownCommands.trans (Nat.zero_add _)
  have hRejected : s.counters.rejectedCommands = scenes.countP Scene.isRejected :=
    hTallies.rejectedCommands.trans (Nat.zero_add _)
  have hBytes := hTallies.bytes
  rw [hFresh, hLength, ← hShown, ← hServed, ← hUnknown, Nat.zero_add] at hBytes
  exact ⟨hBytes, hShown, hServed, hUnknown, hRejected, Scene.told_results scenes⟩

end MemoryBridge
