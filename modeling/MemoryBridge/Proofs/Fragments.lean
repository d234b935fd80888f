import MemoryBridge.Proofs.Message

/-!
# Fragments

A link may hand over and take bytes in pieces of any size, with interruptions in between.
`dispatch_unfragmented` says that a command does not notice: over two lossless links that carry the
same bytes and come to an end in the same way, whatever their pieces are, it has the same outcome,
leaves the same session, sends the same bytes and leaves the same bytes unread.

The texts of faults are not compared. What two links find at their ends may read differently, as
long as it is the end of the stream for both, or a fault of the same kind.
-/

namespace MemoryBridge

variable {σ τ α β : Type}

/-! ## Lossless links -/

/-- `Carries w incoming sent` says that in the world `w` the bytes `incoming` are still to be read
from the link and that `sent` was sent over it. In such a world a read hands over some of
`incoming`, and a write takes some of what it is offered, unless it is interrupted. -/
structure Lossless (link : Link σ) (ending : Ending)
    (Carries : σ → Bytes → Bytes → Prop) : Prop where
  read_ok : ∀ {n w bs v incoming sent}, Carries w incoming sent → 0 < n → link.read n w = .ok bs v →
    ∃ rest, incoming = bs ++ rest ∧ Carries v rest sent ∧ (bs = [] → rest = [] ∧ ending = .closed)
  read_error : ∀ {n w f v incoming sent}, Carries w incoming sent → 0 < n →
    link.read n w = .error f v →
    Carries v incoming sent ∧ (f.kind = .interrupted ∨ incoming = [] ∧ ∃ h, ending = .silent f h)
  write_ok : ∀ {bs w n v incoming sent}, Carries w incoming sent → bs ≠ [] →
    link.write bs w = .ok n v →
    0 < n ∧ Carries v incoming (sent ++ bs.take n)
  write_error : ∀ {bs w f v incoming sent}, Carries w incoming sent → bs ≠ [] →
    link.write bs w = .error f v →
    f.kind = .interrupted ∧ Carries v incoming sent
  flush : ∀ {w incoming sent}, Carries w incoming sent →
    ∃ v, link.flush w = .ok () v ∧ Carries v incoming sent
  setMode : ∀ {mode w incoming sent}, Carries w incoming sent →
    ∃ v, link.setMode mode w = .ok () v ∧ Carries v incoming sent

/-- A sink that takes everything and does nothing. -/
def Sink.void : Sink σ where
  write := fun bs w => .ok bs.length w
  flush := fun w => .ok () w
  writePatience := fun _ => 0
  write_le_length := fun h => by
    cases h
    exact Nat.le_refl _
  write_interrupted := fun h => by cases h

namespace Lossless

variable {link : Link σ} {ending : Ending} {Carries : σ → Bytes → Bytes → Prop}

/-- A lossless link is faultless from now on, beside a sink that nothing is asked of. -/
theorem faultless (h : Lossless link ending Carries) (sent : Bytes) :
    Faultless link Sink.void ending fun w ch => Carries w ch.incoming (sent ++ ch.sent) where
  read_ok hs hn hRead := h.read_ok hs hn hRead
  read_error hs hn hRead := h.read_error hs hn hRead
  write_ok {bs w n v ch} hs hbs hWrite := by
    obtain ⟨hn, hCarries⟩ := h.write_ok hs hbs hWrite
    rw [List.append_assoc] at hCarries
    exact ⟨hn, hCarries⟩
  write_error hs hbs hWrite := h.write_error hs hbs hWrite
  flush hs := h.flush hs
  setMode hs := h.setMode hs
  pass_ok {bs w n v ch} hs hbs hWrite := by
    cases hWrite
    exact ⟨List.length_pos_iff.mpr hbs, hs⟩
  pass_error _ _ hWrite := by cases hWrite
  flush_sink {w ch} hs := ⟨w, rfl, hs⟩

end Lossless

/-- A faultless link is lossless, whatever was passed through beside it. -/
theorem Faultless.lossless {link : Link σ} {sink : Sink σ} {ending : Ending}
    {Shows : σ → Channel → Prop} (h : Faultless link sink ending Shows) :
    Lossless link ending fun w incoming sent => ∃ shown, Shows w ⟨incoming, sent, shown⟩ where
  read_ok := by
    rintro n w bs v incoming sent ⟨shown, hShows⟩ hn hRead
    obtain ⟨rest, hIncoming, hRest, hEnd⟩ := h.read_ok hShows hn hRead
    exact ⟨rest, hIncoming, ⟨shown, hRest⟩, hEnd⟩
  read_error := by
    rintro n w f v incoming sent ⟨shown, hShows⟩ hn hRead
    obtain ⟨hSame, hEnd⟩ := h.read_error hShows hn hRead
    exact ⟨⟨shown, hSame⟩, hEnd⟩
  write_ok := by
    rintro bs w n v incoming sent ⟨shown, hShows⟩ hbs hWrite
    obtain ⟨hn, hSent⟩ := h.write_ok hShows hbs hWrite
    exact ⟨hn, shown, hSent⟩
  write_error := by
    rintro bs w f v incoming sent ⟨shown, hShows⟩ hbs hWrite
    obtain ⟨hKind, hSame⟩ := h.write_error hShows hbs hWrite
    exact ⟨hKind, shown, hSame⟩
  flush := by
    rintro w incoming sent ⟨shown, hShows⟩
    obtain ⟨v, hFlush, hSame⟩ := h.flush hShows
    exact ⟨v, hFlush, shown, hSame⟩
  setMode := by
    rintro mode w incoming sent ⟨shown, hShows⟩
    obtain ⟨v, hMode, hSame⟩ : ∃ v, link.setMode mode w = .ok () v ∧
        Shows v ⟨incoming, sent, shown⟩ :=
      h.setMode hShows
    exact ⟨v, hMode, shown, hSame⟩

/-! ## Texts of faults -/

namespace Ending

/-- The end of the stream for both, or faults of one kind. -/
def Agrees : Ending → Ending → Prop
  | .closed, .closed => True
  | .silent f _, .silent g _ => f.kind = g.kind
  | _, _ => False

theorem Agrees.readFault {ending other : Ending} (h : ending.Agrees other) :
    ending.readFault.kind = other.readFault.kind := by
  cases ending <;> cases other <;> first | exact h | exact h.elim | rfl

theorem Agrees.skipFault {ending other : Ending} (h : ending.Agrees other) :
    ending.skipFault.kind = other.skipFault.kind := by
  cases ending <;> cases other <;> first | exact h | exact h.elim | rfl

end Ending

/-- Two failures that differ in the text of a link fault at most. -/
def ServeError.Agrees : ServeError → ServeError → Prop
  | .transport f, .transport g => f.kind = g.kind
  | e, e' => e = e'

theorem ServeError.Agrees.refl (e : ServeError) : e.Agrees e := by
  cases e <;> rfl

/-- The same answer, or failures that differ in the text of a link fault at most. -/
inductive SameOutcome : Except ServeError α → Except ServeError α → Prop
  | ok (a : α) : SameOutcome (.ok a) (.ok a)
  | error {e e' : ServeError} (h : e.Agrees e') : SameOutcome (.error e) (.error e')

/-- From every state, `act` and `other` come to the same state and the same outcome. -/
def Agree (act other : EStateM ServeError σ α) : Prop :=
  ∀ s, SameOutcome (toExcept (act s)) (toExcept (other s)) ∧ endState (act s) = endState (other s)

namespace Agree

theorem refl (act : EStateM ServeError σ α) : Agree act act := by
  intro s
  refine ⟨?_, rfl⟩
  cases act s with
  | ok a t => exact .ok a
  | error e t => exact .error (ServeError.Agrees.refl e)

theorem bind {act other : EStateM ServeError σ α} {next otherNext : α → EStateM ServeError σ β}
    (hAct : Agree act other) (hNext : ∀ a, Agree (next a) (otherNext a)) :
    Agree (act >>= next) (other >>= otherNext) := by
  intro s
  obtain ⟨hOutcome, hEnd⟩ := hAct s
  cases hRun : act s with
  | ok a t =>
    cases hOther : other s with
    | ok b u =>
      rw [hRun, hOther] at hOutcome hEnd
      cases hOutcome
      cases hEnd
      rw [bind_ok hRun, bind_ok hOther]
      exact hNext a t
    | error e u =>
      rw [hRun, hOther] at hOutcome
      cases hOutcome
  | error e t =>
    cases hOther : other s with
    | ok b u =>
      rw [hRun, hOther] at hOutcome
      cases hOutcome
    | error e' u =>
      rw [hRun, hOther] at hOutcome hEnd
      rw [bind_error hRun, bind_error hOther]
      cases hOutcome with
      | error h => exact ⟨.error h, hEnd⟩

end Agree

/-! ## Commands over plain links -/

namespace Channel

open Serve Session

/-- Every operation of the plain link leaves a part of what was to be read. -/
theorem link_consumes (ending : Ending) :
    (link ending).Keeps fun ch ch' : Channel => ch'.incoming <:+ ch.incoming where
  read n ch := by
    show (endState (read ending n ch)).incoming <:+ ch.incoming
    unfold read
    split
    · exact List.suffix_refl _
    · exact List.suffix_refl _
    · rename_i hIncoming
      rw [hIncoming]
      exact List.drop_suffix _ _
  write _ _ := List.suffix_refl _
  flush _ := List.suffix_refl _
  setMode _ _ := List.suffix_refl _

theorem consumes_durable : Durable fun ch ch' : Channel => ch'.incoming <:+ ch.incoming :=
  ⟨fun _ => List.suffix_refl _, fun h h' => h'.trans h⟩

section

variable {ending other : Ending} (h : ending.Agrees other)

include h

theorem readInt_agree :
    Agree (onLink (Wire.readInt (link ending).toSource))
      (onLink (Wire.readInt (link other).toSource)) := by
  rintro ⟨s, ch⟩
  rw [readInt_run, readInt_run]
  split
  · exact ⟨.ok _, rfl⟩
  · exact ⟨.error h.readFault, rfl⟩

theorem readExact_agree (n : Nat) :
    Agree (onLink ((link ending).readExact n)) (onLink ((link other).readExact n)) := by
  rintro ⟨s, ch⟩
  rw [readExact_run, readExact_run]
  split
  · exact ⟨.ok _, rfl⟩
  · exact ⟨.error h.readFault, rfl⟩

theorem discard_agree (n : Nat) :
    Agree (onLink ((link ending).discard n)) (onLink ((link other).discard n)) := by
  rintro ⟨s, ch⟩
  rw [discard_run, discard_run]
  split
  · exact ⟨.ok _, rfl⟩
  · exact ⟨.error h.skipFault, rfl⟩

/-- Only reads tell the links apart. -/
theorem handle_agree (command : Command) :
    Agree (handle (link ending) command) (handle (link other) command) := by
  have hWrite : ∀ bs, onLink ((link ending).writeAll bs) = onLink ((link other).writeAll bs) := by
    intro bs
    funext st
    exact (writeAll_run st.session st.world bs).trans (writeAll_run st.session st.world bs).symm
  have hWriteInt : ∀ v, onLink (Wire.writeInt (link ending).toSink v) =
      onLink (Wire.writeInt (link other).toSink v) :=
    fun v => hWrite _
  cases command with
  | init =>
    refine Agree.bind (Agree.refl _) fun _ => Agree.bind (Agree.refl _) fun s => ?_
    rw [hWrite]
    exact Agree.refl _
  | initPool => exact Agree.bind (readInt_agree h) fun size => Agree.refl _
  | read =>
    refine Agree.bind (readInt_agree h) fun index => Agree.bind (readInt_agree h) fun size => ?_
    simp only [hWrite]
    exact Agree.refl _
  | write =>
    refine Agree.bind (readInt_agree h) fun index => Agree.bind (readInt_agree h) fun size => ?_
    refine Agree.bind (Agree.refl _) fun s => ?_
    split
    · exact Agree.bind (Agree.refl _) fun _ => discard_agree h _
    · refine Agree.bind (Agree.refl _) fun range => ?_
      exact Agree.bind (readExact_agree h _) fun data => Agree.refl _
  | inputAvailable =>
    unfold handle handleInputAvailable
    simp only [hWriteInt]
    exact Agree.refl _
  | inputRequest =>
    refine Agree.bind (readInt_agree h) fun requested => ?_
    simp only [hWrite, hWriteInt]
    exact Agree.refl _
  | inputPeek =>
    unfold handle handleInputPeek
    simp only [hWrite]
    exact Agree.refl _
  | ping =>
    unfold handle handlePing
    simp only [hWrite]
    exact Agree.refl _

theorem dispatch_agree (code : UInt8) :
    Agree (dispatch (link ending) code) (dispatch (link other) code) := by
  unfold dispatch carryOut
  rw [bracket_eq, bracket_eq]
  split
  · exact Agree.refl _
  · exact Agree.bind (handle_agree h _) fun _ => Agree.refl _

end

end Channel

/-! ## Commands over lossless links -/

namespace Session

variable {link : Link σ} {other : Link τ} {ending otherEnding : Ending}
  {Carries : σ → Bytes → Bytes → Prop} {OtherCarries : τ → Bytes → Bytes → Prop}

/-- A command over a lossless link is the command over the plain one. -/
theorem dispatch_plain (h : Lossless link ending Carries) (code : UInt8) (s : Session) {w : σ}
    {incoming sent : Bytes} (hCarries : Carries w incoming sent) :
    Alike (SameSession fun w ch => Carries w ch.incoming (sent ++ ch.sent))
      (dispatch link code ⟨s, w⟩)
      (dispatch (Channel.link ending) code ⟨s, { incoming }⟩) := by
  have hShows : Carries w incoming (sent ++ []) := by
    rw [List.append_nil]
    exact hCarries
  exact dispatch_follows (h.faultless sent).link_follows code _ _ ⟨rfl, hShows⟩

/-- A command does not notice how its bytes are cut. Let two lossless links carry the same incoming
bytes, whatever was sent over them before, and let them end in the same way. Then for every session
and code, with `r` and `r'` for what the command comes to over the one and over the other:

* The outcome is the same: the same command, the same refusal, or link faults of the same kind.
* The sessions are the same.
* The same reply was sent over both links, once and in order, and nothing else.
* The same bytes are unread, a part of those that were incoming.
-/
theorem dispatch_unfragmented (h : Lossless link ending Carries)
    (h' : Lossless other otherEnding OtherCarries) (hEnding : ending.Agrees otherEnding)
    (code : UInt8) (s : Session) {w : σ} {v : τ} {incoming sent sent' : Bytes}
    (hCarries : Carries w incoming sent) (hCarries' : OtherCarries v incoming sent') :
    let r := dispatch link code ⟨s, w⟩
    let r' := dispatch other code ⟨s, v⟩
    SameOutcome (toExcept r) (toExcept r') ∧ (endState r).session = (endState r').session ∧
      ∃ reply unread, unread <:+ incoming ∧ Carries (endState r).world unread (sent ++ reply) ∧
        OtherCarries (endState r').world unread (sent' ++ reply) := by
  intro r r'
  have hRun := dispatch_plain h code s hCarries
  have hRun' := dispatch_plain h' code s hCarries'
  obtain ⟨hOutcome, hEnd⟩ := Channel.dispatch_agree hEnding code ⟨s, { incoming }⟩
  have hConsumes : (endState (dispatch (Channel.link ending) code ⟨s, { incoming }⟩)).world.incoming
      <:+ incoming :=
    dispatch_moves Channel.consumes_durable (Channel.link_consumes ending) code ⟨s, { incoming }⟩
  obtain ⟨hSession, hWorld⟩ := hRun.ends
  obtain ⟨hSession', hWorld'⟩ := hRun'.ends
  rw [← hEnd] at hSession' hWorld'
  refine ⟨?_, hSession.trans hSession'.symm, _, _, hConsumes, hWorld, hWorld'⟩
  rw [toExcept_of_alike hRun, toExcept_of_alike hRun']
  exact hOutcome

/-- A `read` over a link that hands over single bytes and takes single bytes with an interruption,
and over the plain link with an end of its own. -/
theorem dispatch_unfragmented_read :
    let s : Session := { config := {}, pool := some ⟨[5, 6, 7, 8]⟩ }
    let incoming : Bytes := (DeviceRequest.read 1 3).payload ++ [0xFF, 7]
    let w : World :=
      { lines := [{
          arrivals := incoming.map fun b => .data [b]
          acceptances := [.take 1, .fault .interrupted] }] }
    let late : Ending := .silent ⟨MemoryLink.noData.kind, "late"⟩ (by decide)
    let r := dispatch (World.link false 0) Command.read.code ⟨s, w⟩
    SameOutcome (toExcept r)
      (toExcept (dispatch (Channel.link late) Command.read.code ⟨s, { incoming }⟩)) ∧
      ∃ shown, (endState r).world.Plays 0 ⟨[0xFF, 7], [6, 7, 8], shown⟩ := by
  intro s incoming w late r
  have hPlays : w.Plays 0 { incoming } := by
    refine ⟨_, rfl, ⟨?_, ?_, rfl, rfl, ⟨rfl, rfl, rfl⟩, by decide, rfl⟩, ⟨by simp [w], rfl, rfl⟩⟩
    · simp only [List.mem_map]
      rintro c ⟨d, -, rfl⟩
      simp [Arrival.IsPiece]
    · simp [Acceptance.Yields]
  obtain ⟨hOutcome, -, reply, unread, -, hCarries, hPlain⟩ :=
    dispatch_unfragmented (World.faultless false 0).lossless
      (Channel.faultless late).lossless (v := { incoming }) rfl Command.read.code s
        ⟨[], hPlays⟩ ⟨[], rfl⟩
  have hAdmits : s.Admits (.read 1 3) := by
    rintro p hp
    cases hp
    decide
  have hRun : dispatch (Channel.link late) Command.read.code ⟨s, { incoming }⟩ = _ :=
    Channel.dispatch_request (r := .read 1 3) hAdmits {} [0xFF, 7]
  rw [hRun] at hPlain
  obtain ⟨shown, hEnd⟩ := hPlain
  have hUnread : unread = [0xFF, 7] := (congrArg Channel.incoming hEnd).symm
  have hReply : reply = [6, 7, 8] := (congrArg Channel.sent hEnd).symm
  subst hUnread hReply
  exact ⟨hOutcome, hCarries⟩

end Session

end MemoryBridge
