import MemoryBridge.Proofs.Channel

/-!
# Serving over the plain link

What each step of serving does when the world is a channel. A step that reads succeeds exactly if
enough bytes are left; a step that writes always does; a switch of mode changes nothing, so a
command in its bracket is the command alone (`dispatch_known`, `dispatch_unknown`).
-/

namespace MemoryBridge.Channel

open Serve Session

variable {ending : Ending} {α : Type}

/-! ## Steps -/

/-- A step that takes bytes off the channel and makes something of them. -/
theorem take_run {β : Type} (f : Bytes → β) (fault : Fault) (s : Session) (ch : Channel) (n : Nat) :
    onLink (f <$> take fault n) ⟨s, ch⟩ =
      if n ≤ ch.incoming.length then
        .ok (f (ch.incoming.take n)) ⟨s, { ch with incoming := ch.incoming.drop n }⟩
      else .error (.transport fault) ⟨s, { ch with incoming := [] }⟩ := by
  show onWorld .transport (EStateM.map f (take fault n)) ⟨s, ch⟩ = _
  unfold onWorld EStateM.map take
  by_cases hEnough : n ≤ ch.incoming.length
  · simp only [if_pos hEnough]
  · simp only [if_neg hEnough]

theorem readExact_run (s : Session) (ch : Channel) (n : Nat) :
    onLink ((link ending).readExact n) ⟨s, ch⟩ =
      if n ≤ ch.incoming.length then
        .ok (ch.incoming.take n) ⟨s, { ch with incoming := ch.incoming.drop n }⟩
      else .error (.transport ending.readFault) ⟨s, { ch with incoming := [] }⟩ := by
  have hTake := take_run id ending.readFault s ch n
  rw [id_map] at hTake
  rw [readExact_eq]
  exact hTake

theorem discard_run (s : Session) (ch : Channel) (n : Nat) :
    onLink ((link ending).discard n) ⟨s, ch⟩ =
      if n ≤ ch.incoming.length then .ok () ⟨s, { ch with incoming := ch.incoming.drop n }⟩
      else .error (.transport ending.skipFault) ⟨s, { ch with incoming := [] }⟩ := by
  rw [discard_eq]
  exact take_run (fun _ => ()) ending.skipFault s ch n

theorem readInt_run (s : Session) (ch : Channel) :
    onLink (Wire.readInt (link ending).toSource) ⟨s, ch⟩ =
      if 4 ≤ ch.incoming.length then
        .ok (Wire.decode (ch.incoming.take 4)) ⟨s, { ch with incoming := ch.incoming.drop 4 }⟩
      else .error (.transport ending.readFault) ⟨s, { ch with incoming := [] }⟩ := by
  unfold Wire.readInt Wire.intSize
  rw [readExact_eq]
  exact take_run Wire.decode ending.readFault s ch 4

/-- An integer at the front of the channel is read. -/
theorem readInt_encode (s : Session) (ch : Channel) {v : Int32} {rest : Bytes}
    (h : ch.incoming = Wire.encode v ++ rest) :
    onLink (Wire.readInt (link ending).toSource) ⟨s, ch⟩ =
      .ok v ⟨s, { ch with incoming := rest }⟩ := by
  have hLength : (Wire.encode v).length = 4 := Wire.length_encode v
  rw [readInt_run, h, if_pos (by simp), List.take_left' hLength, List.drop_left' hLength,
    Wire.decode_encode]

/-- Bytes at the front of the channel are read. -/
theorem readExact_append (s : Session) (ch : Channel) {bs rest : Bytes}
    (h : ch.incoming = bs ++ rest) :
    onLink ((link ending).readExact bs.length) ⟨s, ch⟩ =
      .ok bs ⟨s, { ch with incoming := rest }⟩ := by
  rw [readExact_run, h, if_pos (by simp), List.take_left, List.drop_left]

@[simp] theorem writeAll_run (s : Session) (ch : Channel) (bs : Bytes) :
    onLink ((link ending).writeAll bs) ⟨s, ch⟩ = .ok () ⟨s, ch.send bs⟩ := by
  simp only [onLink, onWorld, writeAll_eq]

@[simp] theorem writeInt_run (s : Session) (ch : Channel) (v : Int32) :
    onLink (Wire.writeInt (link ending).toSink v) ⟨s, ch⟩ = .ok () ⟨s, ch.send (Wire.encode v)⟩ :=
  writeAll_run s ch _

@[simp] theorem flush_run (s : Session) (ch : Channel) :
    onLink (link ending).flush ⟨s, ch⟩ = .ok () ⟨s, ch⟩ := rfl

@[simp] theorem pass_run (s : Session) (ch : Channel) (bs : Bytes) :
    onSink (sink.writeAll bs) ⟨s, ch⟩ = .ok () ⟨s, ch.pass bs⟩ := by
  simp only [onSink, onWorld, sink_writeAll_eq]

@[simp] theorem session_run (s : Session) (ch : Channel) : session ⟨s, ch⟩ = .ok s ⟨s, ch⟩ := rfl

@[simp] theorem update_run (s : Session) (ch : Channel) (f : Session → Session) :
    update f ⟨s, ch⟩ = .ok () ⟨f s, ch⟩ := rfl

@[simp] theorem check_run {ε : Type} (s : Session) (ch : Channel) (wrap : ε → ServeError) (a : α) :
    check wrap (.ok a) ⟨s, ch⟩ = .ok a ⟨s, ch⟩ := rfl

/-! ## Commands and bytes -/

theorem bracket_eq (body : Serve Channel α) : bracket (link ending) body = body := by
  funext st
  have hEnter : onLink (link ending).enterBlocking st = .ok () st := rfl
  unfold bracket
  rw [hEnter]
  simp only
  cases body st <;> rfl

/-- A known command is carried out and counted. -/
theorem dispatch_known {code : UInt8} {command : Command} (h : Command.ofCode? code = some command)
    (s : Session) (ch : Channel) :
    dispatch (link ending) code ⟨s, ch⟩ =
      match handle (link ending) command ⟨s, ch⟩ with
      | .ok () st => .ok (some command) { st with session := st.session.countCommand }
      | .error e st => .error e st := by
  unfold dispatch carryOut
  rw [bracket_eq, h]
  simp only
  cases hRun : handle (link ending) command ⟨s, ch⟩ with
  | ok u st =>
    rw [bind_ok hRun, bind_ok (flush_run st.session st.world), bind_ok (update_run _ _ _)]
    rfl
  | error e st => rw [bind_error hRun]

theorem dispatch_unknown {code : UInt8} (h : Command.ofCode? code = none) (s : Session)
    (ch : Channel) : dispatch (link ending) code ⟨s, ch⟩ = .ok none ⟨s.countUnknown, ch⟩ := by
  unfold dispatch carryOut
  rw [bracket_eq, h]
  rfl

theorem processByte_passthrough {s : Session} {b : UInt8} (hIdle : s.framing = .idle)
    (hb : b ≠ s.config.initValue) (ch : Channel) :
    processByte (link ending) sink b ⟨s, ch⟩ =
      .ok .passthrough ⟨s.countPassthrough, ch.pass [b]⟩ := by
  rw [processByte_passes hIdle hb, sink_writeAll_eq]

theorem processByte_frameStart {s : Session} (hIdle : s.framing = .idle) (ch : Channel) :
    processByte (link ending) sink s.config.initValue ⟨s, ch⟩ =
      .ok .frameStart ⟨{ s with framing := .awaitingCommand }, ch⟩ :=
  @processByte_opens _ (link ending) sink ⟨s, ch⟩ hIdle

theorem processByte_command {s : Session} (hOpen : s.framing = .awaitingCommand) (code : UInt8)
    (ch : Channel) :
    processByte (link ending) sink code ⟨s, ch⟩ =
      match dispatch (link ending) code ⟨{ s with framing := .idle }, ch⟩ with
      | .ok command st => .ok (.dispatched command) st
      | .error e st => .error e st := by
  rw [processByte_dispatches code hOpen]
  cases dispatch (link ending) code ⟨{ s with framing := .idle }, ch⟩ <;> rfl

theorem pumpByte_cons (s : Session) {ch : Channel} {b : UInt8} {rest : Bytes}
    (h : ch.incoming = b :: rest) :
    pumpByte (supply ending) ⟨s, ch⟩ =
      processByte (link ending) sink b ⟨s, { ch with incoming := rest }⟩ := by
  have hRead : onLink ((supply ending).link.readExact 1) ⟨s, ch⟩ =
      .ok [b] ⟨s, { ch with incoming := rest }⟩ := by
    show onLink ((link ending).readExact 1) ⟨s, ch⟩ = _
    rw [readExact_run, h]
    simp
  unfold pumpByte
  rw [bind_ok hRead]
  rfl

theorem pumpByte_nil (s : Session) {ch : Channel} (h : ch.incoming = []) :
    pumpByte (supply ending) ⟨s, ch⟩ = .error (.transport ending.readFault) ⟨s, ch⟩ := by
  have hRead : onLink ((supply ending).link.readExact 1) ⟨s, ch⟩ =
      .error (.transport ending.readFault) ⟨s, ch⟩ := by
    show onLink ((link ending).readExact 1) ⟨s, ch⟩ = _
    have hShort : ¬ 1 ≤ ch.incoming.length := by simp [h]
    rw [readExact_run, if_neg hShort, ← h]
  exact bind_error hRead

theorem supply_more {ch : Channel} {b : UInt8} {rest : Bytes} (h : ch.incoming = b :: rest) :
    (supply ending).more ch = true := by
  show (!ch.incoming.isEmpty) = true
  rw [h]
  rfl

theorem supply_drained {ch : Channel} (h : ch.incoming = []) : (supply ending).more ch = false := by
  show (!ch.incoming.isEmpty) = false
  rw [h]
  rfl

end MemoryBridge.Channel
