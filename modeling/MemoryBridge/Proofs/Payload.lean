import MemoryBridge.Proofs.Message

/-!
# How far a message reaches

Where a message of the device ends is written in the stream alone. `Framing.readByte` reads one byte
off a stream, and with the code of a command its whole payload, without asking any session.
`pump_reads` says that every session reads the stream so: whether it carries a command out or
rejects it, whatever its pool, its mailbox and its configuration are, it takes the same bytes,
passes the same bytes through and stands at the same place afterwards.

What is answered and what is stored may differ, and so may the bytes at which two sessions fail. A
session that fails has left the stream anywhere in the payload.
-/

namespace MemoryBridge

/-- How many bytes follow the code of a command. A write says itself how long its data is. -/
def Command.payloadLength (incoming : Bytes) : Command → Nat
  | .initPool | .inputRequest => 4
  | .read => 8
  | .write => 8 + (Wire.decode ((incoming.drop 4).take 4)).toInt.toNat
  | .init | .inputAvailable | .inputPeek | .ping => 0

/-- How many bytes follow a code. -/
def payloadLength (code : UInt8) (incoming : Bytes) : Nat :=
  match Command.ofCode? code with
  | some command => command.payloadLength incoming
  | none => 0

/-- What has come of a stream up to some place. -/
structure Reading where
  handled : List Handled
  shown : Bytes
  framing : Framing
  /-- Not read yet. -/
  rest : Bytes

namespace Framing

/-- Reads one byte, and with a code its payload. A payload that is cut short is not read. -/
def readByte (initValue : UInt8) (framing : Framing) : Bytes → Option Reading
  | [] => none
  | b :: rest =>
    match framing.classify initValue b with
    | (.passthrough b, next) => some ⟨[.passthrough], [b], next, rest⟩
    | (.frameStart, next) => some ⟨[.frameStart], [], next, rest⟩
    | (.command code, next) =>
      if payloadLength code rest ≤ rest.length then
        some ⟨[.dispatched (Command.ofCode? code)], [], next, rest.drop (payloadLength code rest)⟩
      else none

/-- Reads `n` bytes, those of payloads not counted. -/
def readFor (initValue : UInt8) : Nat → Framing → Bytes → Option Reading
  | 0, framing, incoming => some ⟨[], [], framing, incoming⟩
  | n + 1, framing, incoming =>
    match framing.readByte initValue incoming with
    | none => none
    | some first =>
      match readFor initValue n first.framing first.rest with
      | none => none
      | some later =>
        some ⟨first.handled ++ later.handled, first.shown ++ later.shown, later.framing, later.rest⟩

/-- A stream is used up after one number of bytes only. -/
theorem readFor_end {initValue : UInt8} {n m : Nat} {framing : Framing} {incoming : Bytes}
    {r r' : Reading} (hr : readFor initValue n framing incoming = some r) (hEnd : r.rest = [])
    (hr' : readFor initValue m framing incoming = some r') (hEnd' : r'.rest = []) : m = n := by
  -- Nothing is read off an empty rest, so the reading that is shorter can only be as long as the
  -- other.
  have hNone : ∀ framing : Framing, framing.readByte initValue [] = none := fun _ => rfl
  induction n generalizing m framing incoming r r' with
  | zero =>
    cases hr
    simp only at hEnd
    subst hEnd
    cases m with
    | zero => rfl
    | succ m => simp [readFor, hNone] at hr'
  | succ n ih =>
    cases m with
    | zero =>
      cases hr'
      simp only at hEnd'
      subst hEnd'
      simp [readFor, hNone] at hr
    | succ m =>
      unfold readFor at hr hr'
      cases hFirst : framing.readByte initValue incoming with
      | none => simp [hFirst] at hr
      | some first =>
        simp only [hFirst] at hr hr'
        cases hLater : readFor initValue n first.framing first.rest with
        | none => simp [hLater] at hr
        | some later =>
          cases hLater' : readFor initValue m first.framing first.rest with
          | none => simp [hLater'] at hr'
          | some later' =>
            rw [hLater] at hr
            rw [hLater'] at hr'
            cases hr
            cases hr'
            rw [ih hLater hEnd hLater' hEnd']

end Framing

/-! ## Taking bytes from a channel -/

/-- The first `n` bytes have been taken, and nothing was passed through. -/
structure Channel.Takes (n : Nat) (ch ch' : Channel) : Prop where
  enough : n ≤ ch.incoming.length
  incoming : ch'.incoming = ch.incoming.drop n
  shown : ch'.shown = ch.shown

namespace Channel

open Serve Session

variable {ending : Ending} {α : Type}

theorem Takes.refl (ch : Channel) : Takes 0 ch ch :=
  ⟨Nat.zero_le _, rfl, rfl⟩

theorem Takes.trans {n m : Nat} {ch ch' ch'' : Channel} (h : Takes n ch ch')
    (h' : Takes m ch' ch'') : Takes (n + m) ch ch'' := by
  have hEnough := h'.enough
  rw [h.incoming, List.length_drop] at hEnough
  have := h.enough
  refine ⟨by omega, ?_, h'.shown.trans h.shown⟩
  rw [h'.incoming, h.incoming, List.drop_drop]

/-- Steps that take nothing can follow each other. -/
theorem takes_durable : Durable (WorldRel (Takes 0)) :=
  ⟨fun st => Takes.refl st.world, fun h h' => h.trans h'⟩

theorem writeAll_takes (bs : Bytes) :
    Moves (WorldRel (Takes 0)) (onLink ((link ending).writeAll bs)) := by
  intro st
  rw [writeAll_run]
  exact ⟨Nat.zero_le _, rfl, rfl⟩

theorem takes_of_moves {act : Serve Channel α} (h : Moves (WorldRel (Takes 0)) act)
    {st st' : Serving Channel} {a : α} (hRun : act st = .ok a st') :
    Takes 0 st.world st'.world := by
  have := h st
  rwa [hRun] at this

theorem readInt_takes {st st' : Serving Channel} {v : Int32}
    (h : onLink (Wire.readInt (link ending).toSource) st = .ok v st') :
    v = Wire.decode (st.world.incoming.take 4) ∧ Takes 4 st.world st'.world := by
  rw [readInt_run] at h
  split at h <;> cases h
  rename_i hEnough
  exact ⟨rfl, hEnough, rfl, rfl⟩

theorem readExact_takes {st st' : Serving Channel} {n : Nat} {bs : Bytes}
    (h : onLink ((link ending).readExact n) st = .ok bs st') : Takes n st.world st'.world := by
  rw [readExact_run] at h
  split at h <;> cases h
  rename_i hEnough
  exact ⟨hEnough, rfl, rfl⟩

theorem discard_takes {st st' : Serving Channel} {n : Nat} {u : Unit}
    (h : onLink ((link ending).discard n) st = .ok u st') : Takes n st.world st'.world := by
  rw [discard_run] at h
  split at h <;> cases h
  rename_i hEnough
  exact ⟨hEnough, rfl, rfl⟩

/-! ## Commands -/

theorem handleInitPool_takes {st st' : Serving Channel} {u : Unit}
    (h : handleInitPool (link ending) st = .ok u st') : Takes 4 st.world st'.world := by
  obtain ⟨size, mid, hRead, hRest⟩ := of_bind_ok h
  have hTakes := (readInt_takes hRead).2
  have hQuiet : Takes 0 mid.world st'.world := by
    refine takes_of_moves ?_ hRest
    refine Moves.bind takes_durable (session_moves takes_durable) fun s => ?_
    split
    · split
      · exact fun st => takes_durable.refl st
      · exact Moves.throw takes_durable _
    · exact fun st => takes_durable.refl st
  exact hTakes.trans hQuiet

theorem handleRead_takes {st st' : Serving Channel} {u : Unit}
    (h : handleRead (link ending) st = .ok u st') : Takes 8 st.world st'.world := by
  obtain ⟨index, mid, hIndex, h⟩ := of_bind_ok h
  obtain ⟨size, mid', hSize, hRest⟩ := of_bind_ok h
  have hTakes := (readInt_takes hIndex).2.trans (readInt_takes hSize).2
  have hQuiet : Takes 0 mid'.world st'.world := by
    refine takes_of_moves ?_ hRest
    refine Moves.bind takes_durable (session_moves takes_durable) fun s => ?_
    split
    · exact fun st => takes_durable.refl st
    · exact Moves.bind takes_durable (check_moves takes_durable _ _) fun data => writeAll_takes data
  exact hTakes.trans hQuiet

/-- A pool has as many bytes for a write as its size says, so a write takes the same whether
there is a pool or not. -/
theorem handleWrite_takes {st st' : Serving Channel} {u : Unit}
    (h : handleWrite (link ending) st = .ok u st') :
    Takes (8 + (Wire.decode ((st.world.incoming.drop 4).take 4)).toInt.toNat) st.world
      st'.world := by
  obtain ⟨index, mid, hIndex, hRest⟩ := of_bind_ok h
  obtain ⟨size, asked, hSize, hRest⟩ := of_bind_ok hRest
  have hFirst := (readInt_takes hIndex).2
  obtain ⟨hDecoded, hSecond⟩ := readInt_takes hSize
  rw [hFirst.incoming] at hDecoded
  rw [← hDecoded]
  refine (hFirst.trans hSecond).trans ?_
  obtain ⟨s, known, hSession, hRest⟩ := of_bind_ok hRest
  cases hSession
  cases hPool : asked.session.pool with
  | none =>
    simp only [hPool] at hRest
    obtain ⟨_, counted, hCount, hDiscard⟩ := of_bind_ok hRest
    cases hCount
    have hDropped := discard_takes hDiscard
    exact hDropped
  | some pool =>
    simp only [hPool] at hRest
    obtain ⟨range, checked, hCheck, hRest⟩ := of_bind_ok hRest
    obtain ⟨hRange, hSame⟩ := check_ok hCheck
    obtain ⟨data, held, hData, hRest⟩ := of_bind_ok hRest
    have hTaken := readExact_takes hData
    -- The range that was checked is as long as the size, which is what the other branch drops.
    rw [Pool.range_length hRange, hSame] at hTaken
    refine hTaken.trans (takes_of_moves ?_ hRest)
    refine Moves.bind takes_durable (check_moves takes_durable _ _) fun written => ?_
    exact fun st => takes_durable.refl st

theorem handleInputRequest_takes {st st' : Serving Channel} {u : Unit}
    (h : handleInputRequest (link ending) st = .ok u st') : Takes 4 st.world st'.world := by
  obtain ⟨requested, mid, hRead, hRest⟩ := of_bind_ok h
  have hTakes := (readInt_takes hRead).2
  have hQuiet : Takes 0 mid.world st'.world := by
    refine takes_of_moves ?_ hRest
    refine Moves.bind takes_durable (session_moves takes_durable) fun s => ?_
    refine Moves.bind takes_durable (fun st => takes_durable.refl st) fun _ => ?_
    exact Moves.bind takes_durable (writeAll_takes _) fun _ => writeAll_takes _
  exact hTakes.trans hQuiet

/-- A command that succeeds takes its payload, whether it is carried out or rejected. -/
theorem handle_takes {command : Command} {st st' : Serving Channel} {u : Unit}
    (h : handle (link ending) command st = .ok u st') :
    Takes (command.payloadLength st.world.incoming) st.world st'.world := by
  cases command with
  | init =>
    refine takes_of_moves ?_ h
    refine Moves.bind takes_durable (fun st => takes_durable.refl st) fun _ => ?_
    refine Moves.bind takes_durable (session_moves takes_durable) fun s => ?_
    split
    · exact writeAll_takes _
    · exact Moves.pure takes_durable _
  | initPool => exact handleInitPool_takes h
  | read => exact handleRead_takes h
  | write => exact handleWrite_takes h
  | inputAvailable =>
    refine takes_of_moves ?_ h
    exact Moves.bind takes_durable (session_moves takes_durable) fun s => writeAll_takes _
  | inputRequest => exact handleInputRequest_takes h
  | inputPeek =>
    refine takes_of_moves ?_ h
    refine Moves.bind takes_durable (session_moves takes_durable) fun s => ?_
    split <;> exact writeAll_takes _
  | ping =>
    refine takes_of_moves ?_ h
    exact Moves.bind takes_durable (session_moves takes_durable) fun s => writeAll_takes _

end Channel

/-! ## Reading a stream -/

/-- Whether a byte has completed a known command. -/
def Handled.isCommand : Handled → Bool
  | .dispatched (some _) => true
  | _ => false

/-- Serving has come from `st` to `st'` and read `r` off the stream. What was sent to the device is
left open, and so are the handshake, the pool, the mailbox and the count of rejected commands. -/
structure Reading.Leads (r : Reading) (st st' : Serving Channel) : Prop where
  framing : st'.session.framing = r.framing
  incoming : st'.world.incoming = r.rest
  shown : st'.world.shown = st.world.shown ++ r.shown
  config : st'.session.config = st.session.config
  passthroughBytes : st'.session.counters.passthroughBytes =
    st.session.counters.passthroughBytes + r.handled.countP (· = .passthrough)
  commands : st'.session.counters.commands =
    st.session.counters.commands + r.handled.countP Handled.isCommand
  unknownCommands : st'.session.counters.unknownCommands =
    st.session.counters.unknownCommands + r.handled.countP (· = .dispatched none)

theorem Reading.Leads.trans {r r' : Reading} {st st' st'' : Serving Channel} (h : r.Leads st st')
    (h' : r'.Leads st' st'') :
    Reading.Leads ⟨r.handled ++ r'.handled, r.shown ++ r'.shown, r'.framing, r'.rest⟩ st st'' where
  framing := h'.framing
  incoming := h'.incoming
  shown := by rw [h'.shown, h.shown, List.append_assoc]
  config := h'.config.trans h.config
  passthroughBytes := by
    rw [h'.passthroughBytes, h.passthroughBytes, List.countP_append]
    omega
  commands := by
    rw [h'.commands, h.commands, List.countP_append]
    omega
  unknownCommands := by
    rw [h'.unknownCommands, h.unknownCommands, List.countP_append]
    omega

namespace Channel

open Serve Session

variable {ending : Ending}

/-- What a dispatch takes is settled by the code and the stream. -/
theorem dispatch_reads {code : UInt8} {st st' : Serving Channel} {command : Option Command}
    (h : dispatch (link ending) code st = .ok command st') :
    command = Command.ofCode? code ∧
      payloadLength code st.world.incoming ≤ st.world.incoming.length ∧
      Reading.Leads ⟨[.dispatched command], [], st.session.framing,
        st.world.incoming.drop (payloadLength code st.world.incoming)⟩ st st' := by
  unfold payloadLength
  cases hCode : Command.ofCode? code with
  | none =>
    rw [dispatch_unknown hCode] at h
    cases h
    exact ⟨rfl, Nat.zero_le _, rfl, rfl, (List.append_nil _).symm, rfl, rfl, rfl, rfl⟩
  | some known =>
    rw [dispatch_known hCode] at h
    have hKept := handle_untouched (link ending) known st
    cases hRun : handle (link ending) known st with
    | error e mid =>
      rw [hRun] at h
      cases h
    | ok _ mid =>
      have hTakes := handle_takes hRun
      rw [hRun] at h hKept
      cases h
      exact ⟨rfl, hTakes.enough, {
        framing := hKept.framing
        incoming := hTakes.incoming
        shown := by rw [hTakes.shown, List.append_nil]
        config := hKept.config
        passthroughBytes := hKept.passthroughBytes
        commands := congrArg (· + 1) hKept.commands
        unknownCommands := hKept.unknownCommands }⟩

theorem pumpByte_reads {st st' : Serving Channel} {handled : Handled}
    (h : pumpByte (supply ending) st = .ok handled st') :
    ∃ r, st.session.framing.readByte st.session.config.initValue st.world.incoming = some r ∧
      r.handled = [handled] ∧ r.Leads st st' := by
  obtain ⟨s, ch⟩ := st
  cases hIn : ch.incoming with
  | nil =>
    rw [pumpByte_nil s hIn] at h
    cases h
  | cons b rest =>
    rw [pumpByte_cons s hIn] at h
    simp only [Framing.readByte]
    cases hFraming : s.framing with
    | idle =>
      by_cases hb : b = s.config.initValue
      · subst hb
        rw [processByte_frameStart hFraming] at h
        cases h
        simp only [Framing.classify, if_true]
        exact ⟨_, rfl, rfl, rfl, rfl, (List.append_nil _).symm, rfl, rfl, rfl, rfl⟩
      · rw [processByte_passthrough hFraming hb] at h
        cases h
        simp only [Framing.classify, if_neg hb]
        exact ⟨_, rfl, rfl, hFraming, rfl, rfl, rfl, rfl, rfl, rfl⟩
    | awaitingCommand =>
      rw [processByte_command hFraming] at h
      cases hRun : dispatch (link ending) b ⟨{ s with framing := .idle },
          { ch with incoming := rest }⟩ with
      | error e st =>
        rw [hRun] at h
        cases h
      | ok command st =>
        rw [hRun] at h
        cases h
        obtain ⟨rfl, hEnough, hLeads⟩ := dispatch_reads hRun
        simp only [Framing.classify, if_pos hEnough]
        exact ⟨_, rfl, rfl, { hLeads with }⟩

/-- Bytes that a session handles are read off the stream as the stream says. -/
theorem pumpFor_reads {n : Nat} {st st' : Serving Channel} {handled : List Handled}
    (h : pumpFor (supply ending) n st = .ok handled st') :
    ∃ r, Framing.readFor st.session.config.initValue n st.session.framing st.world.incoming =
      some r ∧
      r.handled = handled ∧ r.Leads st st' := by
  induction n generalizing st handled with
  | zero =>
    cases h
    exact ⟨_, rfl, rfl, rfl, rfl, (List.append_nil _).symm, rfl, rfl, rfl, rfl⟩
  | succ n ih =>
    obtain ⟨head, mid, tail, hFirst, hLater, rfl⟩ := pumpFor_succ_ok h
    obtain ⟨first, hReadFirst, hHead, hLeadsFirst⟩ := pumpByte_reads hFirst
    obtain ⟨later, hReadLater, hTail, hLeadsLater⟩ := ih hLater
    rw [hLeadsFirst.config, hLeadsFirst.framing, hLeadsFirst.incoming] at hReadLater
    refine ⟨_, ?_, ?_, hLeadsFirst.trans hLeadsLater⟩
    · simp only [Framing.readFor, hReadFirst, hReadLater]
    · rw [hHead, hTail]
      rfl

end Channel

/-! ## Two sessions on the same stream -/

/-- Serving has come from `st`, where the world showed `ch`, to `st'` and read `r` off the
stream. -/
def Reading.Reaches {σ : Type} (r : Reading) (Shows : σ → Channel → Prop) (st : Serving σ)
    (ch : Channel) (st' : Serving σ) : Prop :=
  ∃ ch', Shows st'.world ch' ∧ r.Leads ⟨st.session, ch⟩ ⟨st'.session, ch'⟩

namespace Session

variable {σ τ : Type} {supply : Supply σ} {other : Supply τ} {ending otherEnding : Ending}
  {Shows : σ → Channel → Prop} {OtherShows : τ → Channel → Prop}

theorem pumpFor_reaches (hSupply : supply.Faultless ending Shows) {n : Nat} {st st' : Serving σ}
    {ch : Channel} {handled : List Handled} (hShows : Shows st.world ch)
    (h : pumpFor supply n st = .ok handled st') :
    ∃ r, Framing.readFor st.session.config.initValue n st.session.framing ch.incoming = some r ∧
      r.handled = handled ∧ r.Reaches Shows st ch st' := by
  have hSame : SameSession Shows st ⟨st.session, ch⟩ := ⟨rfl, hShows⟩
  obtain ⟨plain, hPlain, hSession, hWorld⟩ := (pumpFor_follows hSupply.follows n).of_ok hSame h
  obtain ⟨r, hRead, hHandled, hLeads⟩ := Channel.pumpFor_reads hPlain
  refine ⟨r, hRead, hHandled, plain.world, hWorld, ?_⟩
  rw [hSession]
  exact hLeads

/-- A pump that ends without an error has read the stream to its end. -/
theorem pump_reaches (hSupply : supply.Faultless ending Shows) {st : Serving σ} {ch : Channel}
    (hShows : Shows st.world ch) (h : (pump supply st).error = none) :
    pumpFor supply (pump supply st).handled.length st =
      .ok (pump supply st).handled (pump supply st).serving ∧
      ∃ r, Framing.readFor st.session.config.initValue
        (pump supply st).handled.length st.session.framing
          ch.incoming = some r ∧
        r.rest = [] ∧ r.handled = (pump supply st).handled ∧
        r.Reaches Shows st ch (pump supply st).serving := by
  obtain ⟨u, hRun, hEnd⟩ := pump_eq supply st
  rw [h] at hEnd
  obtain ⟨rfl, hDrained⟩ := hEnd
  obtain ⟨r, hRead, hHandled, ch', hWorld, hLeads⟩ := pumpFor_reaches hSupply hShows hRun
  refine ⟨hRun, r, hRead, ?_, hHandled, ch', hWorld, hLeads⟩
  rw [hSupply.more hWorld] at hDrained
  rw [← hLeads.incoming]
  simpa using hDrained

/-- How a stream is read does not depend on the state of the session. Take two servings with the
same init value that stand at the same place of the same stream, and that may differ in everything
else, the supplies included.

* If both pump some number of bytes, they read the same.
* If both pump the stream to its end, they read the same, and have done so at every byte on the way.
* A dispatch that succeeds takes as many bytes as code and stream say. -/
theorem pump_reads (hSupply : supply.Faultless ending Shows)
    (hOther : other.Faultless otherEnding OtherShows) {a : Serving σ} {b : Serving τ}
    {ch otherCh : Channel} (ha : Shows a.world ch) (hb : OtherShows b.world otherCh)
    (hInit : b.session.config.initValue = a.session.config.initValue)
    (hFraming : b.session.framing = a.session.framing) (hIn : otherCh.incoming = ch.incoming) :
    (∀ {n handled handled' a' b'}, pumpFor supply n a = .ok handled a' →
      pumpFor other n b = .ok handled' b' →
      ∃ r : Reading, handled = r.handled ∧ handled' = r.handled ∧
        r.Reaches Shows a ch a' ∧ r.Reaches OtherShows b otherCh b') ∧
    ((pump supply a).error = none → (pump other b).error = none →
      ∃ r : Reading, r.rest = [] ∧ (pump supply a).handled = r.handled ∧
        (pump other b).handled = r.handled ∧
        r.Reaches Shows a ch (pump supply a).serving ∧
        r.Reaches OtherShows b otherCh (pump other b).serving ∧
        ∀ n ≤ r.handled.length, ∃ a' b', pumpFor supply n a = .ok (r.handled.take n) a' ∧
          pumpFor other n b = .ok (r.handled.take n) b') ∧
    (∀ {code command a'}, dispatch supply.link code a = .ok command a' →
      command = Command.ofCode? code ∧ payloadLength code ch.incoming ≤ ch.incoming.length ∧
        ∃ ch', Shows a'.world ch' ∧
          ch'.incoming = ch.incoming.drop (payloadLength code ch.incoming) ∧
          ch'.shown = ch.shown) := by
  refine ⟨?_, ?_, ?_⟩
  · intro n handled handled' a' b' hRun hOtherRun
    obtain ⟨r, hRead, rfl, hReaches⟩ := pumpFor_reaches hSupply ha hRun
    obtain ⟨r', hRead', rfl, hReaches'⟩ := pumpFor_reaches hOther hb hOtherRun
    rw [hInit, hFraming, hIn, hRead] at hRead'
    cases hRead'
    exact ⟨r, rfl, rfl, hReaches, hReaches'⟩
  · intro hDone hOtherDone
    obtain ⟨hRun, r, hRead, hEnd, hHandled, hReaches⟩ := pump_reaches hSupply ha hDone
    obtain ⟨hRun', r', hRead', hEnd', hHandled', hReaches'⟩ := pump_reaches hOther hb hOtherDone
    rw [hInit, hFraming, hIn] at hRead'
    rw [Framing.readFor_end hRead hEnd hRead' hEnd', hRead] at hRead'
    cases hRead'
    refine ⟨r, hEnd, hHandled.symm, hHandled'.symm, hReaches, hReaches', fun n hn => ?_⟩
    rw [← hHandled] at hRun
    rw [← hHandled'] at hRun'
    obtain ⟨a', ha'⟩ := pumpFor_prefix hRun hn
    obtain ⟨b', hb'⟩ := pumpFor_prefix hRun' hn
    exact ⟨a', b', ha', hb'⟩
  · intro code command a' hRun
    have hSame : SameSession Shows a ⟨a.session, ch⟩ := ⟨rfl, ha⟩
    obtain ⟨plain, hPlain, -, hWorld⟩ :=
      (dispatch_follows hSupply.follows.link code).of_ok hSame hRun
    obtain ⟨hCommand, hEnough, hLeads⟩ := Channel.dispatch_reads hPlain
    refine ⟨hCommand, hEnough, plain.world, hWorld, hLeads.incoming, ?_⟩
    rw [hLeads.shown, List.append_nil]

/-- A device that asks too early and one that has a pool already, over a link of single bytes
and over the plain one. The requests before `init` are rejected by the first session and carried
out by the second. -/
theorem pump_reads_rejected_and_obeyed :
    let ms : List (Message 0xFF) :=
      [.request (.initPool 4), .request (.write 1 2 [0xFF, 0] rfl), .output 0x41 (by decide),
        .request (.read 0 4), .request (.unknown 9 rfl), .request .init]
    let early : Session := { config := { ackInit := true }, mailbox := ⟨[0x68]⟩ }
    let late : Session := { config := {}, initialized := true, pool := some (.zeros 8) }
    let w : World :=
      { lines := [{ arrivals := (ms.flatMap Message.encode).map fun b => .data [b] }] }
    let a : Serving World := ⟨early, w⟩
    let b : Serving Channel := ⟨late, { incoming := ms.flatMap Message.encode }⟩
    ∃ r : Reading, r.rest = [] ∧ r.handled = ms.flatMap Message.handled ∧
      r.Reaches (World.Plays · 0) a { incoming := ms.flatMap Message.encode }
        (pump (World.supply 0) a).serving ∧
      r.Reaches Eq b b.world (pump (Channel.supply .closed) b).serving ∧
      (pump (World.supply 0) a).serving.session.counters.rejectedCommands = 3 ∧
      (pump (Channel.supply .closed) b).serving.session.counters.rejectedCommands = 0 := by
  intro ms early late w a b
  have hEarly : early.AdmitsAll ms := by
    simp [AdmitsAll, Admits, ms, early, obey, effect, hear, DeviceRequest.command?]
    decide
  have hLate : late.AdmitsAll ms := by
    simp [AdmitsAll, Admits, ms, late, obey, effect, hear, DeviceRequest.command?, Pool.Covers]
    decide
  have hPlays : w.Plays 0 { incoming := ms.flatMap Message.encode } := by
    refine ⟨_, rfl, ⟨?_, ?_, rfl, rfl, ⟨rfl, rfl, rfl⟩, by decide, rfl⟩, ⟨by simp [w], rfl, rfl⟩⟩
    · simp only [List.mem_map]
      rintro c ⟨d, -, rfl⟩
      simp [Arrival.IsPiece]
    · simp
  have hPlain :
      pump (Channel.supply World.silence) ⟨early, { incoming := ms.flatMap Message.encode }⟩ = _ :=
    pump_plain ms rfl rfl hEarly {}
  have hLatePlain : pump (Channel.supply .closed) b = _ := pump_plain ms rfl rfl hLate {}
  obtain ⟨-, hError, hSession, -⟩ := pump_follows (World.supply_faultless 0).follows
    (a := a) (b := ⟨early, { incoming := ms.flatMap Message.encode }⟩) ⟨rfl, hPlays⟩
  rw [hPlain] at hError hSession
  have hLateError : (pump (Channel.supply .closed) b).error = none := by rw [hLatePlain]
  obtain ⟨-, hPumps, -⟩ := pump_reads (World.supply_faultless 0) (Channel.supply_faultless .closed)
    (a := a) (b := b) hPlays rfl rfl rfl rfl
  obtain ⟨r, hEnd, -, hHandled, hReaches, hLateReaches, -⟩ := hPumps hError hLateError
  refine ⟨r, hEnd, ?_, hReaches, hLateReaches, ?_, ?_⟩
  · rw [← hHandled, hLatePlain]
  · rw [hSession]
    decide
  · rw [hLatePlain]
    decide

end Session

end MemoryBridge
