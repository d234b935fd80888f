import Mathlib
import MemoryBridge.Proofs.Message

/-!
# Pulling input

Input is appended to the mailbox and the device pulls it with three commands. `Answer` says, turn by
turn and without any links or sessions, what each of these commands is answered with and what it
leaves. `pulled_in_order` says that over a faultless link every sequence of turns is answered like
that, and that the input comes out as it went in: what the replies to requests for input have
delivered, and then what the mailbox still holds, is what the mailbox held and what was appended.

The turns may be in any order and the bytes on the link may be anything, so a command of another
kind may fail, and a request for input may be cut short by the end of the link. Of other commands it
is said only that they leave the mailbox alone.
-/

namespace MemoryBridge

/-- What happens to a mailbox next. -/
inductive Turn
  | append (bytes : Bytes)
  | dispatch (code : UInt8)

namespace Turn

/-- The input that comes in. -/
def appended : Turn → Bytes
  | .append bytes => bytes
  | .dispatch _ => []

/-- The input that goes out with a reply. It stands behind its length. -/
def delivered (reply : Bytes) : Turn → Bytes
  | .append _ => []
  | .dispatch code => if code = Command.inputRequest.code then reply.drop Wire.intSize else []

def run {σ : Type} (link : Link σ) : Turn → Serve σ (Option Command)
  | .append bytes => do
    Serve.update fun s => { s with mailbox := s.mailbox.append bytes }
    return none
  | .dispatch code => Session.dispatch link code

end Turn

/-- How a turn is answered when the mailbox holds `input` and the bytes `incoming` are on the link:
whether it succeeds, its reply, and what is left in the mailbox and on the link. -/
inductive Answer (input incoming : Bytes) : Turn → Bool → Bytes → Bytes → Bytes → Prop
  | append (bytes : Bytes) : Answer input incoming (.append bytes) true [] (input ++ bytes) incoming
  | available {count : Int32} (hCount : count.toInt = min input.length 2147483647) :
    Answer input incoming (.dispatch Command.inputAvailable.code) true
      (Wire.encode count) input incoming
  /-- The count is the number of bytes that follow it. A negative limit asks for none. -/
  | request {limit count : Int32} {left : Bytes} (hIncoming : incoming = Wire.encode limit ++ left)
    (hCount : count.toInt = min (max limit.toInt 0) input.length) :
    Answer input incoming (.dispatch Command.inputRequest.code) true
      (Wire.encode count ++ input.take count.toInt.toNat) (input.drop count.toInt.toNat) left
  | requestCutShort (hShort : incoming.length < Wire.intSize) :
    Answer input incoming (.dispatch Command.inputRequest.code) false [] input []
  | peekEmpty (hEmpty : input = []) : Answer input incoming (.dispatch Command.inputPeek.code) true
      [0] input incoming
  | peek {front : UInt8} {rest : Bytes} (hFront : input = front :: rest) :
    Answer input incoming (.dispatch Command.inputPeek.code) true [1, front] input incoming
  | other {code : UInt8} (hOther : code ∉
      [Command.inputAvailable.code, Command.inputRequest.code, Command.inputPeek.code])
    (ok : Bool) (reply left : Bytes) : Answer input incoming (.dispatch code) ok reply input left

theorem Alike.succeeds_eq {ε σ τ α : Type} {R : σ → τ → Prop} {r : EStateM.Result ε σ α}
    {r' : EStateM.Result ε τ α} (h : Alike R r r') : succeeds r = succeeds r' := by
  cases h with
  | ok h => rfl
  | error h => rfl

/-! ## One turn over the plain link -/

namespace Channel

open Session Serve

variable {ending : Ending}

theorem link_sends (ending : Ending) :
    (link ending).Keeps fun ch ch' : Channel => ∃ reply, ch'.sent = ch.sent ++ reply where
  read n ch := by
    refine ⟨[], ?_⟩
    rw [List.append_nil]
    show (endState (read ending n ch)).sent = ch.sent
    unfold read
    split <;> rfl
  write bs ch := ⟨bs, rfl⟩
  flush ch := ⟨[], by rw [List.append_nil]; rfl⟩
  setMode _ ch := ⟨[], by rw [List.append_nil]; rfl⟩

theorem sends_durable : Durable fun ch ch' : Channel => ∃ reply, ch'.sent = ch.sent ++ reply where
  refl ch := ⟨[], by rw [List.append_nil]⟩
  trans := by
    rintro ch₁ ch₂ ch₃ ⟨reply, h⟩ ⟨reply', h'⟩
    exact ⟨reply ++ reply', by rw [h', h, List.append_assoc]⟩

theorem dispatch_mailbox (ending : Ending) {code : UInt8}
    (hOther : code ≠ Command.inputRequest.code) (s : Session) (ch : Channel) :
    (endState (dispatch (link ending) code ⟨s, ch⟩)).session.mailbox = s.mailbox := by
  cases hCode : Command.ofCode? code with
  | none =>
    rw [dispatch_unknown hCode]
    rfl
  | some command =>
    have hNot : command ≠ .inputRequest := by
      rintro rfl
      exact hOther (Command.code_of_ofCode? hCode).symm
    have hMailbox := (handle_changes (link ending) command ⟨s, ch⟩).mailbox hNot
    rw [dispatch_known hCode]
    cases hRun : handle (link ending) command ⟨s, ch⟩ with
    | ok u st =>
      rw [hRun] at hMailbox
      exact hMailbox
    | error e st =>
      rw [hRun] at hMailbox
      exact hMailbox

/-- A request whose limit is on the link is answered with as many bytes as there are up to the
limit. -/
theorem dispatch_inputRequest (s : Session) (ch : Channel) {limit : Int32} {left : Bytes}
    (hIncoming : ch.incoming = Wire.encode limit ++ left) :
    ∃ reply, let r := dispatch (link ending) Command.inputRequest.code ⟨s, ch⟩
      (endState r).world.sent = ch.sent ++ reply ∧
        Answer s.mailbox.bytes ch.incoming (.dispatch Command.inputRequest.code) (succeeds r) reply
          (endState r).session.mailbox.bytes (endState r).world.incoming := by
  let input := s.mailbox.bytes
  let count := Int32.ofNat (input.take limit.toInt.toNat).length
  have hSame : { ch with incoming := Wire.encode limit ++ left } = ch := by rw [← hIncoming]
  have hRun : handle (link ending) .inputRequest ⟨s, ch⟩ =
      .ok () ⟨s.effect (.inputRequest limit),
        { ch with incoming := left }.send (s.reply (.inputRequest limit))⟩ := by
    rw [← hSame]
    exact handle_inputRequest s limit _ left
  -- The count is the limit, or the length where that is less, so it says which bytes go
  -- and which stay.
  have hLength : (input.take limit.toInt.toNat).length = min limit.toInt.toNat input.length :=
    List.length_take
  have hExact : count.toInt = (input.take limit.toInt.toNat).length :=
    Int32.toInt_ofNat_of_lt (Nat.lt_succ_of_le (length_take_limit input limit))
  have hCount : count.toInt = min (max limit.toInt 0) input.length := by omega
  have hTake : input.take limit.toInt.toNat = input.take count.toInt.toNat := by
    rw [List.take_eq_take_iff]
    omega
  have hDrop : input.drop limit.toInt.toNat = input.drop count.toInt.toNat := by
    have hSplit := (input.take_append_drop limit.toInt.toNat).trans
      (input.take_append_drop count.toInt.toNat).symm
    rw [hTake] at hSplit
    exact List.append_cancel_left hSplit
  refine ⟨Wire.encode count ++ input.take count.toInt.toNat, ?_⟩
  rw [dispatch_known rfl, hRun]
  simp only [endState_ok]
  have hReply : s.reply (.inputRequest limit) =
      Wire.encode count ++ input.take limit.toInt.toNat := rfl
  have hMailbox : (s.effect (.inputRequest limit)).countCommand.mailbox.bytes =
      input.drop limit.toInt.toNat := rfl
  rw [hReply, hMailbox, hTake, hDrop]
  exact ⟨rfl, .request hIncoming hCount⟩

/-- A request that is cut short finds out before it takes anything from the mailbox. -/
theorem dispatch_inputRequest_short (s : Session) {ch : Channel}
    (hShort : ch.incoming.length < Wire.intSize) :
    dispatch (link ending) Command.inputRequest.code ⟨s, ch⟩ =
      .error (.transport ending.readFault) ⟨s, { ch with incoming := [] }⟩ := by
  have hRead : onLink (Wire.readInt (link ending).toSource) ⟨s, ch⟩ =
      .error (.transport ending.readFault) ⟨s, { ch with incoming := [] }⟩ := by
    have hNot : ¬ 4 ≤ ch.incoming.length := Nat.not_le.mpr hShort
    rw [readInt_run, if_neg hNot]
  have hRun : handle (link ending) .inputRequest ⟨s, ch⟩ =
      .error (.transport ending.readFault) ⟨s, { ch with incoming := [] }⟩ := by
    show handleInputRequest (link ending) ⟨s, ch⟩ = _
    unfold handleInputRequest
    rw [bind_error hRead]
  rw [dispatch_known rfl, hRun]

theorem dispatch_answer (ending : Ending) (code : UInt8) (s : Session) (ch : Channel) :
    ∃ reply, let r := dispatch (link ending) code ⟨s, ch⟩
      (endState r).world.sent = ch.sent ++ reply ∧
        Answer s.mailbox.bytes ch.incoming (.dispatch code) (succeeds r) reply
          (endState r).session.mailbox.bytes (endState r).world.incoming := by
  by_cases hRequest : code = Command.inputRequest.code
  · subst hRequest
    by_cases hShort : ch.incoming.length < Wire.intSize
    · rw [dispatch_inputRequest_short s hShort]
      exact ⟨[], (List.append_nil _).symm, .requestCutShort hShort⟩
    · have hLimit : (ch.incoming.take 4).length = 4 := List.length_take_of_le (Nat.not_lt.mp hShort)
      have hIncoming : ch.incoming = Wire.encode (Wire.decode (ch.incoming.take 4)) ++
          ch.incoming.drop 4 := by
        rw [Wire.encode_decode hLimit, List.take_append_drop]
      exact dispatch_inputRequest s ch hIncoming
  have hMailbox := dispatch_mailbox ending hRequest s ch
  by_cases hAvailable : code = Command.inputAvailable.code
  · subst hAvailable
    have hRun : handle (link ending) .inputAvailable ⟨s, ch⟩ = _ := handle_inputAvailable s ch
    have hCount : (Int32.ofNat (min s.mailbox.bytes.length 2147483647)).toInt =
        min s.mailbox.bytes.length 2147483647 :=
      Int32.toInt_ofNat_of_lt (Nat.lt_succ_of_le (Nat.min_le_right _ _))
    rw [dispatch_known rfl, hRun]
    exact ⟨_, rfl, .available hCount⟩
  by_cases hPeek : code = Command.inputPeek.code
  · subst hPeek
    have hRun : handle (link ending) .inputPeek ⟨s, ch⟩ = _ := handle_inputPeek s ch
    have hSame : (s.effect .inputPeek).countCommand.mailbox.bytes = s.mailbox.bytes := rfl
    rw [dispatch_known rfl, hRun]
    refine ⟨_, rfl, ?_⟩
    simp only [endState_ok, hSame, reply]
    cases hInput : s.mailbox.bytes with
    | nil => exact .peekEmpty rfl
    | cons front rest => exact .peek rfl
  obtain ⟨reply, hSent⟩ := dispatch_moves sends_durable (link_sends ending) code ⟨s, ch⟩
  refine ⟨reply, hSent, ?_⟩
  rw [hMailbox]
  exact .other (by simp [hRequest, hAvailable, hPeek]) _ _ _

end Channel

/-! ## Conversations over a faultless link -/

section

variable {σ : Type} {link : Link σ} {sink : Sink σ} {ending : Ending} {Shows : σ → Channel → Prop}

/-- A faultless link answers a turn as the plain one does. -/
theorem Faultless.answer (h : Faultless link sink ending Shows) (t : Turn) {st : Serving σ}
    {ch : Channel} (hShows : Shows st.world ch) :
    ∃ reply ch', Shows (endState (t.run link st)).world ch' ∧ ch'.sent = ch.sent ++ reply ∧
      Answer st.session.mailbox.bytes ch.incoming t (succeeds (t.run link st)) reply
        (endState (t.run link st)).session.mailbox.bytes ch'.incoming := by
  cases t with
  | append bytes => exact ⟨[], ch, hShows, (List.append_nil _).symm, .append bytes⟩
  | dispatch code =>
    have hStart : SameSession Shows st ⟨st.session, ch⟩ := ⟨rfl, hShows⟩
    have hRuns : Alike (SameSession Shows) (Session.dispatch link code st)
        (Session.dispatch (Channel.link ending) code ⟨st.session, ch⟩) :=
      Session.dispatch_follows h.link_follows code _ _ hStart
    obtain ⟨hSession, hWorld⟩ := hRuns.ends
    obtain ⟨reply, hSent, hAnswer⟩ := Channel.dispatch_answer ending code st.session ch
    rw [← hSession, ← hRuns.succeeds_eq] at hAnswer
    exact ⟨reply, _, hWorld, hSent, hAnswer⟩

/-- A conversation, turn by turn with the replies: it leads from one serving and the channel that it
shows to another, and every turn on the way is answered as it should be. -/
inductive Conversation (link : Link σ) (Shows : σ → Channel → Prop) :
    Serving σ → Channel → List (Turn × Bytes) → Serving σ → Channel → Prop
  | nil {st ch} (hShows : Shows st.world ch) : Conversation link Shows st ch [] st ch
  | cons {st ch t reply mid talk st' ch'} (hShows : Shows st.world ch)
    (hSent : mid.sent = ch.sent ++ reply)
    (hAnswer : Answer st.session.mailbox.bytes ch.incoming t (succeeds (t.run link st)) reply
      (endState (t.run link st)).session.mailbox.bytes mid.incoming)
    (hLater : Conversation link Shows (endState (t.run link st)) mid talk st' ch') :
    Conversation link Shows st ch ((t, reply) :: talk) st' ch'

/-- What a turn brings in is put at the back, and what it delivers is taken from the front. -/
theorem Answer.conserves {input incoming reply input' left : Bytes} {t : Turn} {ok : Bool}
    (h : Answer input incoming t ok reply input' left) :
    input ++ t.appended = t.delivered reply ++ input' := by
  cases h with
  | append bytes => rfl
  | @request limit count left hIncoming hCount =>
    have hReply : Turn.delivered (Wire.encode count ++ input.take count.toInt.toNat)
        (.dispatch Command.inputRequest.code) = input.take count.toInt.toNat := by
      unfold Turn.delivered
      simp only [if_true]
      exact List.drop_left' (Wire.length_encode count)
    rw [hReply, List.take_append_drop]
    exact List.append_nil _
  | @other code hOther =>
    have hNot : code ≠ Command.inputRequest.code := fun hCode => hOther (by simp [hCode])
    have hNothing : Turn.delivered reply (.dispatch code) = [] := if_neg hNot
    rw [hNothing]
    exact List.append_nil _
  | _ => exact List.append_nil _

theorem Conversation.sent_eq {st st' : Serving σ} {ch ch' : Channel} {talk : List (Turn × Bytes)}
    (h : Conversation link Shows st ch talk st' ch') :
    ch'.sent = ch.sent ++ talk.flatMap Prod.snd := by
  induction h with
  | nil _ => exact (List.append_nil _).symm
  | cons _ hSent _ _ ih => rw [ih, hSent, List.flatMap_cons, List.append_assoc]

/-- Input comes out in the order in which it came in. -/
theorem Conversation.conserves {st st' : Serving σ} {ch ch' : Channel} {talk : List (Turn × Bytes)}
    (h : Conversation link Shows st ch talk st' ch') :
    st.session.mailbox.bytes ++ talk.flatMap (·.1.appended) =
      talk.flatMap (fun x => x.1.delivered x.2) ++ st'.session.mailbox.bytes := by
  induction h with
  | nil _ => exact List.append_nil _
  | cons _ _ hAnswer _ ih =>
    simp only [List.flatMap_cons]
    -- What comes in later stands behind what this turn has left.
    rw [← List.append_assoc, hAnswer.conserves, List.append_assoc, ih, List.append_assoc]

/-- A serving after some turns, whether they succeed or not. -/
def afterTurns (link : Link σ) (st : Serving σ) (ts : List Turn) : Serving σ :=
  ts.foldl (fun st t => endState (t.run link st)) st

theorem Faultless.converses (h : Faultless link sink ending Shows) (ts : List Turn) {st : Serving σ}
    {ch : Channel} (hShows : Shows st.world ch) :
    ∃ talk ch', talk.map Prod.fst = ts ∧
      Conversation link Shows st ch talk (afterTurns link st ts) ch' := by
  induction ts generalizing st ch with
  | nil => exact ⟨[], ch, rfl, .nil hShows⟩
  | cons t ts ih =>
    obtain ⟨reply, mid, hMid, hSent, hAnswer⟩ := h.answer t hShows
    obtain ⟨talk, ch', hTurns, hLater⟩ := ih hMid
    exact ⟨(t, reply) :: talk, ch',
      by rw [List.map_cons, hTurns], .cons hShows hSent hAnswer hLater⟩

/-- Input is pulled in the order in which it came in. Over a faultless link, from any session and
any mailbox, every sequence of turns is a conversation.

* Every turn is answered as `Answer` says, with what the mailbox holds and what is on the link
  when its turn comes.
* What is sent to the device is the replies.
* What the mailbox held at first, with all that was appended, is what the replies to requests for
  input have delivered, with what the mailbox holds at last.
-/
theorem pulled_in_order (hLink : Faultless link sink ending Shows) (ts : List Turn) (s : Session)
    {w : σ} {ch : Channel} (hShows : Shows w ch) :
    ∃ talk ch', talk.map Prod.fst = ts ∧
      Conversation link Shows ⟨s, w⟩ ch talk (afterTurns link ⟨s, w⟩ ts) ch' ∧
      ch'.sent = ch.sent ++ talk.flatMap Prod.snd ∧
      s.mailbox.bytes ++ ts.flatMap Turn.appended =
        talk.flatMap (fun x => x.1.delivered x.2) ++
          (afterTurns link ⟨s, w⟩ ts).session.mailbox.bytes := by
  have hStart : Shows (Serving.mk s w).world ch := hShows
  obtain ⟨talk, ch', hTurns, hTalk⟩ := hLink.converses ts hStart
  have hAppended : ts.flatMap Turn.appended = talk.flatMap (·.1.appended) := by
    rw [← hTurns, List.flatMap_map]
  rw [hAppended]
  exact ⟨talk, ch', hTurns, hTalk, hTalk.sent_eq, hTalk.conserves⟩

/-- A device that asks for too little and for too much while input comes in, over a link that takes
its replies in pieces. -/
theorem pulled_in_order_from_two_appends :
    let ts : List Turn :=
      [.dispatch 6, .append [1, 2], .dispatch 5, .dispatch 4, .append [3], .dispatch 6, .dispatch 9,
      .dispatch 5, .dispatch 4, .dispatch 5]
    let w : World :=
      { lines := [{
          arrivals := [.data (Wire.encode (-1)), .data (Wire.encode 9)]
          acceptances := [.take 1, .fault .interrupted] }] }
    let s : Session := { config := {} }
    ∃ talk ch', talk.map Prod.fst = ts ∧
      Conversation (World.link false 0) (World.Plays · 0) ⟨s, w⟩
        { incoming := Wire.encode (-1) ++ Wire.encode 9 } talk
        (afterTurns (World.link false 0) ⟨s, w⟩ ts) ch' ∧
      talk.flatMap (fun x => x.1.delivered x.2) = [1, 2, 3] := by
  intro ts w s
  have hPlays : w.Plays 0 { incoming := Wire.encode (-1) ++ Wire.encode 9 } := by
    refine ⟨_, rfl, ⟨?_, ?_, rfl, rfl, ⟨rfl, rfl, rfl⟩, by decide, rfl⟩, ⟨by simp [w], rfl, rfl⟩⟩
    · simp [Arrival.IsPiece, ← List.length_eq_zero_iff]
    · simp [Acceptance.Yields]
  have hEmpty : (afterTurns (World.link false 0) ⟨s, w⟩ ts).session.mailbox.bytes = [] := by cbv
  obtain ⟨talk, ch', hTurns, hTalk, -, hInput⟩ :=
    pulled_in_order (World.faultless false 0) ts s hPlays
  rw [hEmpty, List.append_nil] at hInput
  exact ⟨talk, ch', hTurns, hTalk, hInput.symm⟩

end

end MemoryBridge
