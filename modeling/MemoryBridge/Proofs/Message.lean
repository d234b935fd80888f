import MemoryBridge.Proofs.Channel.Serving
import MemoryBridge.Proofs.Pool
import MemoryBridge.Proofs.Rehearsal

/-!
# The messages of a device

A device sends bytes of console output and requests, and every request is a frame with its whole
payload. `Session.obey` and `Session.reply` say what a request means for a session and what is
answered, message by message and without any bytes in between. `pump_messages` says that a session
understands the device: whatever it sends, pumping the bytes of its messages over a faultless link
comes to the same as obeying the messages.

Excluded are requests that end a session: a pool of negative size, and an access outside of the
pool. A request that only comes at a wrong time, before `init` or before there is a pool, is not
excluded. It is rejected, and what follows it is understood.
-/

namespace MemoryBridge

/-- A request of the device, with everything that belongs to it. -/
inductive DeviceRequest
  | init
  | initPool (size : Int32)
  | read (index size : Int32)
  /-- As many bytes as the size says; none if it is negative. -/
  | write (index size : Int32) (data : Bytes) (whole : data.length = size.toInt.toNat)
  | inputAvailable
  | inputRequest (limit : Int32)
  | inputPeek
  | ping
  /-- A code that names no command has no payload. -/
  | unknown (code : UInt8) (foreign : Command.ofCode? code = none)

namespace DeviceRequest

def command? : DeviceRequest → Option Command
  | .init => some .init
  | .initPool _ => some .initPool
  | .read _ _ => some .read
  | .write _ _ _ _ => some .write
  | .inputAvailable => some .inputAvailable
  | .inputRequest _ => some .inputRequest
  | .inputPeek => some .inputPeek
  | .ping => some .ping
  | .unknown _ _ => none

def code : DeviceRequest → UInt8
  | .init => 0
  | .initPool _ => 1
  | .read _ _ => 2
  | .write _ _ _ _ => 3
  | .inputAvailable => 4
  | .inputRequest _ => 5
  | .inputPeek => 6
  | .ping => 7
  | .unknown code _ => code

def payload : DeviceRequest → Bytes
  | .initPool size => Wire.encode size
  | .read index size => Wire.encode index ++ Wire.encode size
  | .write index size data _ => Wire.encode index ++ Wire.encode size ++ data
  | .inputRequest limit => Wire.encode limit
  | _ => []

theorem ofCode?_code (r : DeviceRequest) : Command.ofCode? r.code = r.command? := by
  cases r with
  | unknown code foreign => exact foreign
  | _ => rfl

end DeviceRequest

/-- What a device sends whose frames begin with `initValue`. -/
inductive Message (initValue : UInt8)
  /-- Console output never contains the init value. -/
  | output (b : UInt8) (plain : b ≠ initValue)
  | request (r : DeviceRequest)

namespace Message

variable {initValue : UInt8}

/-- A message as the device sends it. -/
def encode : Message initValue → Bytes
  | .output b _ => [b]
  | .request r => initValue :: r.code :: r.payload

/-- What a message passes through. -/
def shown : Message initValue → Bytes
  | .output b _ => [b]
  | .request _ => []

/-- What becomes of the bytes of a message, those of a payload not counted. -/
def handled : Message initValue → List Handled
  | .output _ _ => [.passthrough]
  | .request r => [.frameStart, .dispatched r.command?]

end Message

/-! ## The meaning of a message -/

namespace Session

variable {initValue : UInt8}

/-- What a request does to a session, apart from being counted. -/
def effect (s : Session) : DeviceRequest → Session
  | .init => { s with initialized := true, pool := none }
  | .initPool size =>
    if s.initialized then { s with pool := some (.zeros size.toInt.toNat) } else s.countRejected
  | .read _ _ => if s.pool.isSome then s else s.countRejected
  | .write index _ data _ =>
    match s.pool with
    | some p => { s with pool := some (p.overlay index.toInt.toNat data) }
    | none => s.countRejected
  | .inputRequest limit => { s with mailbox := ⟨s.mailbox.bytes.drop limit.toInt.toNat⟩ }
  | _ => s

/-- A session after a request. -/
def obey (s : Session) (r : DeviceRequest) : Session :=
  match r.command? with
  | some _ => (s.effect r).countCommand
  | none => s.countUnknown

/-- What a request is answered with. -/
def reply (s : Session) : DeviceRequest → Bytes
  | .init => if s.config.ackInit then [s.config.initValue, 0] else []
  | .read index size =>
    match s.pool with
    | some p => p.slice ⟨index.toInt.toNat, size.toInt.toNat⟩
    | none => []
  | .inputAvailable => Wire.encode (Int32.ofNat (min s.mailbox.length 2147483647))
  | .inputRequest limit =>
    let bytes := s.mailbox.bytes.take limit.toInt.toNat
    Wire.encode (Int32.ofNat bytes.length) ++ bytes
  | .inputPeek =>
    match s.mailbox.bytes with
    | [] => [0]
    | b :: _ => [1, b]
  | .ping => [s.config.initValue, 7]
  | .initPool _ | .write _ _ _ _ | .unknown _ _ => []

/-- A request that does not end the session: no pool of negative size is asked for, and no bytes
outside of the pool. -/
def Admits (s : Session) : DeviceRequest → Prop
  | .initPool size => s.initialized = true → 0 ≤ size.toInt
  | .read index size | .write index size _ _ =>
    ∀ p, s.pool = some p → p.Covers index.toInt size.toInt
  | _ => True

/-- A session after a message. -/
def hear (s : Session) : Message initValue → Session
  | .output _ _ => s.countPassthrough
  | .request r => s.obey r

/-- A session after some messages. -/
def hearAll (s : Session) (ms : List (Message initValue)) : Session :=
  ms.foldl hear s

/-- What some messages are answered with. -/
def replies (s : Session) : List (Message initValue) → Bytes
  | [] => []
  | .output b plain :: ms => (s.hear (.output b plain)).replies ms
  | .request r :: ms => s.reply r ++ (s.obey r).replies ms

/-- Each of some messages is admitted when its turn comes. -/
def AdmitsAll (s : Session) : List (Message initValue) → Prop
  | [] => True
  | .output b plain :: ms => (s.hear (.output b plain)).AdmitsAll ms
  | .request r :: ms => s.Admits r ∧ (s.obey r).AdmitsAll ms

end Session

/-! ## Requests over the plain link -/

namespace Channel

open Session Serve

variable {ending : Ending}

theorem handle_init (s : Session) (ch : Channel) :
    handleInit (link ending) ⟨s, ch⟩ = .ok () ⟨s.effect .init, ch.send (s.reply .init)⟩ := by
  unfold handleInit
  rw [bind_ok (update_run s ch _), bind_ok (session_run _ ch)]
  by_cases hAck : s.config.ackInit
  · rw [if_pos hAck, writeAll_run]
    simp only [reply, if_pos hAck]
    rfl
  · rw [if_neg hAck]
    simp only [reply, if_neg hAck, send_nil]
    rfl

theorem handle_initPool {s : Session} {size : Int32} (hAdm : s.Admits (.initPool size))
    (ch : Channel) (rest : Bytes) :
    handleInitPool (link ending) ⟨s, { ch with incoming := Wire.encode size ++ rest }⟩ =
      .ok () ⟨s.effect (.initPool size), { ch with incoming := rest }⟩ := by
  unfold handleInitPool
  rw [bind_ok (readInt_encode s _ rfl), bind_ok (session_run s _)]
  by_cases hInit : s.initialized
  · rw [if_pos hInit, if_pos (hAdm hInit)]
    simp only [update_run, effect, if_pos hInit]
  · rw [if_neg hInit]
    simp only [update_run, effect, if_neg hInit]

theorem handle_read {s : Session} {index size : Int32} (hAdm : s.Admits (.read index size))
    (ch : Channel) (rest : Bytes) :
    handleRead (link ending)
        ⟨s, { ch with incoming := Wire.encode index ++ (Wire.encode size ++ rest) }⟩ =
      .ok () ⟨s.effect (.read index size),
        { ch with incoming := rest }.send (s.reply (.read index size))⟩ := by
  unfold handleRead
  rw [bind_ok (readInt_encode s _ rfl), bind_ok (readInt_encode s _ rfl), bind_ok (session_run s _)]
  cases hPool : s.pool with
  | none => simp [update_run, effect, reply, hPool]
  | some p =>
    simp only [Pool.read_of_covers (hAdm p hPool), effect, reply, hPool,
      Option.isSome_some, if_true]
    rw [bind_ok (check_run s _ _ _), writeAll_run]

theorem handle_write {s : Session} {index size : Int32} {data : Bytes}
    {whole : data.length = size.toInt.toNat} (hAdm : s.Admits (.write index size data whole))
    (ch : Channel) (rest : Bytes) :
    handleWrite (link ending)
        ⟨s, { ch with incoming := Wire.encode index ++ (Wire.encode size ++ (data ++ rest)) }⟩ =
      .ok () ⟨s.effect (.write index size data whole), { ch with incoming := rest }⟩ := by
  unfold handleWrite
  rw [bind_ok (readInt_encode s _ rfl), bind_ok (readInt_encode s _ rfl), bind_ok (session_run s _)]
  cases hPool : s.pool with
  | none =>
    simp only
    rw [bind_ok (update_run s _ _), discard_run]
    simp [← whole, effect, hPool]
  | some p =>
    have hCovers := hAdm p hPool
    simp only [Pool.range_of_covers hCovers]
    rw [bind_ok (check_run s _ _ _), ← whole, bind_ok (readExact_append s _ rfl),
      Pool.write_of_covers whole hCovers, bind_ok (check_run s _ _ _), update_run]
    simp only [effect, hPool]

/-- No limit allows more bytes than a reply can count. -/
theorem length_take_limit (bytes : Bytes) (limit : Int32) :
    (bytes.take limit.toInt.toNat).length ≤ 2147483647 := by
  have hLimit : limit.toInt ≤ 2147483647 := limit.toInt_le
  rw [List.length_take]
  omega

theorem clampLength_of_le {n : Nat} (h : n ≤ 2147483647) : clampLength n = Int32.ofNat n := by
  unfold clampLength
  rw [Nat.min_eq_left h]

theorem handle_inputRequest (s : Session) (limit : Int32) (ch : Channel) (rest : Bytes) :
    handleInputRequest (link ending) ⟨s, { ch with incoming := Wire.encode limit ++ rest }⟩ =
      .ok () ⟨s.effect (.inputRequest limit),
        { ch with incoming := rest }.send (s.reply (.inputRequest limit))⟩ := by
  have hCount := length_take_limit s.mailbox.bytes limit
  unfold handleInputRequest
  rw [bind_ok (readInt_encode s _ rfl), bind_ok (session_run s _)]
  simp only [Mailbox.drain]
  rw [bind_ok (update_run s _ _), bind_ok (writeInt_run _ _ _), writeAll_run, send_send,
    clampLength_of_le hCount]
  rfl

theorem handle_inputAvailable (s : Session) (ch : Channel) :
    handleInputAvailable (link ending) ⟨s, ch⟩ =
      .ok () ⟨s.effect .inputAvailable, ch.send (s.reply .inputAvailable)⟩ := by
  unfold handleInputAvailable
  rw [bind_ok (session_run s ch), writeInt_run]
  rfl

theorem handle_inputPeek (s : Session) (ch : Channel) :
    handleInputPeek (link ending) ⟨s, ch⟩ =
      .ok () ⟨s.effect .inputPeek, ch.send (s.reply .inputPeek)⟩ := by
  unfold handleInputPeek Mailbox.peek reply
  rw [bind_ok (session_run s ch)]
  cases s.mailbox.bytes <;> exact writeAll_run s ch _

theorem handle_ping (s : Session) (ch : Channel) :
    handlePing (link ending) ⟨s, ch⟩ = .ok () ⟨s.effect .ping, ch.send (s.reply .ping)⟩ := by
  unfold handlePing
  rw [bind_ok (session_run s ch)]
  exact writeAll_run s ch _

/-- A request that is admitted takes its payload, and no more, and is answered. -/
theorem handle_request {r : DeviceRequest} {command : Command}
    (hCommand : r.command? = some command) {s : Session} (hAdm : s.Admits r) (ch : Channel)
    (rest : Bytes) :
    handle (link ending) command ⟨s, { ch with incoming := r.payload ++ rest }⟩ =
      .ok () ⟨s.effect r, { ch with incoming := rest }.send (s.reply r)⟩ := by
  cases r with
  | init =>
    cases hCommand
    exact handle_init s _
  | initPool size =>
    cases hCommand
    simpa [handle, DeviceRequest.payload, reply] using handle_initPool hAdm ch rest
  | read index size =>
    cases hCommand
    simpa [handle, DeviceRequest.payload] using handle_read hAdm ch rest
  | write index size data whole =>
    cases hCommand
    simpa [handle, DeviceRequest.payload, reply] using handle_write hAdm ch rest
  | inputAvailable =>
    cases hCommand
    exact handle_inputAvailable s _
  | inputRequest limit =>
    cases hCommand
    exact handle_inputRequest s limit ch rest
  | inputPeek =>
    cases hCommand
    exact handle_inputPeek s _
  | ping =>
    cases hCommand
    exact handle_ping s _
  | unknown code foreign => cases hCommand

theorem dispatch_request {r : DeviceRequest} {s : Session} (hAdm : s.Admits r) (ch : Channel)
    (rest : Bytes) :
    dispatch (link ending) r.code ⟨s, { ch with incoming := r.payload ++ rest }⟩ =
      .ok r.command? ⟨s.obey r, { ch with incoming := rest }.send (s.reply r)⟩ := by
  cases hCommand : r.command? with
  | some command =>
    rw [dispatch_known (r.ofCode?_code.trans hCommand), handle_request hCommand hAdm]
    simp only [obey, hCommand]
  | none =>
    rw [dispatch_unknown (r.ofCode?_code.trans hCommand)]
    simp only [obey, hCommand]
    cases r with
    | unknown code foreign => simp [DeviceRequest.payload, reply]
    | _ => cases hCommand

end Channel

/-! ## Understanding the device -/

namespace Session

open Channel

variable {initValue : UInt8} {ending : Ending}

theorem effect_keeps (s : Session) (r : DeviceRequest) :
    (s.effect r).config = s.config ∧ (s.effect r).framing = s.framing := by
  cases r with
  | initPool size =>
    simp only [effect]
    split
    · exact ⟨rfl, rfl⟩
    · exact ⟨rfl, rfl⟩
  | read index size =>
    simp only [effect]
    split
    · exact ⟨rfl, rfl⟩
    · exact ⟨rfl, rfl⟩
  | write index size data whole =>
    simp only [effect]
    split
    · exact ⟨rfl, rfl⟩
    · exact ⟨rfl, rfl⟩
  | _ => exact ⟨rfl, rfl⟩

/-- A message leaves the configuration and the place in the stream alone. -/
theorem hear_keeps (s : Session) (m : Message initValue) :
    (s.hear m).config = s.config ∧ (s.hear m).framing = s.framing := by
  cases m with
  | output b plain => exact ⟨rfl, rfl⟩
  | request r =>
    show (s.obey r).config = s.config ∧ (s.obey r).framing = s.framing
    unfold obey
    split
    · exact s.effect_keeps r
    · exact ⟨rfl, rfl⟩

theorem hearAll_framing (s : Session) (ms : List (Message initValue)) :
    (s.hearAll ms).framing = s.framing := by
  induction ms generalizing s with
  | nil => rfl
  | cons m ms ih => exact (ih (s.hear m)).trans (s.hear_keeps m).2

/-- Console output is passed through. -/
theorem pump_output {s : Session} (hIdle : s.framing = .idle) {b : UInt8}
    (hb : b ≠ s.config.initValue) (ch : Channel) (rest : Bytes) :
    pump (supply ending) ⟨s, { ch with incoming := b :: rest }⟩ =
      let after := pump (supply ending) ⟨s.countPassthrough, { ch with incoming := rest }.pass [b]⟩
      { after with handled := .passthrough :: after.handled } := by
  refine pump_of_ok (supply_more rfl) ?_
  rw [pumpByte_cons s rfl, processByte_passthrough hIdle hb]

/-- A request takes its frame and its payload and is answered. -/
theorem pump_request {s : Session} (hIdle : s.framing = .idle) {r : DeviceRequest}
    (hAdm : s.Admits r) (ch : Channel) (rest : Bytes) :
    pump (supply ending)
        ⟨s, { ch with incoming := s.config.initValue :: r.code :: (r.payload ++ rest) }⟩ =
      let after := pump (supply ending) ⟨s.obey r, { ch with incoming := rest }.send (s.reply r)⟩
      { after with handled := .frameStart :: .dispatched r.command? :: after.handled } := by
  have hSame : { s with framing := .idle } = s := by rw [← hIdle]
  have hOpens : pumpByte (supply ending)
      ⟨s, { ch with incoming := s.config.initValue :: r.code :: (r.payload ++ rest) }⟩ =
      .ok .frameStart ⟨{ s with framing := .awaitingCommand },
        { ch with incoming := r.code :: (r.payload ++ rest) }⟩ := by
    rw [pumpByte_cons s rfl, processByte_frameStart hIdle]
  have hCloses : pumpByte (supply ending)
      ⟨{ s with framing := .awaitingCommand },
        { ch with incoming := r.code :: (r.payload ++ rest) }⟩ =
      .ok (.dispatched r.command?) ⟨s.obey r, { ch with incoming := rest }.send (s.reply r)⟩ := by
    rw [pumpByte_cons _ rfl, processByte_command rfl]
    simp only [hSame, dispatch_request hAdm]
  rw [pump_of_ok (supply_more rfl) hOpens, pump_of_ok (supply_more rfl) hCloses]

/-- What `pump_messages` says, of the plain link. -/
theorem pump_plain (ms : List (Message initValue)) {s : Session}
    (hInit : s.config.initValue = initValue) (hIdle : s.framing = .idle) (hAdm : s.AdmitsAll ms)
    (ch : Channel) :
    pump (supply ending) ⟨s, { ch with incoming := ms.flatMap Message.encode }⟩ =
      { handled := ms.flatMap Message.handled
        error := none
        serving := ⟨s.hearAll ms,
            ⟨[], ch.sent ++ s.replies ms, ch.shown ++ ms.flatMap Message.shown⟩⟩ } := by
  induction ms generalizing s ch with
  | nil =>
    rw [pump_of_drained rfl]
    simp [hearAll, replies]
  | cons m ms ih =>
    have hInit' : (s.hear m).config.initValue = initValue := by rw [(s.hear_keeps m).1, hInit]
    have hIdle' : (s.hear m).framing = .idle := (s.hear_keeps m).2.trans hIdle
    cases m with
    | output b plain =>
      have hRest := ih hInit' hIdle' hAdm (ch.pass [b])
      simp only [List.flatMap_cons, Message.encode, List.singleton_append]
      rw [pump_output hIdle (hInit ▸ plain)]
      simp only [Channel.pass, hear] at hRest ⊢
      simp only [hRest]
      simp [Message.handled, Message.shown, hearAll, replies, hear]
    | request r =>
      have hRest := ih hInit' hIdle' hAdm.2 (ch.send (s.reply r))
      simp only [List.flatMap_cons, Message.encode, List.cons_append, ← hInit]
      rw [pump_request hIdle hAdm.1]
      simp only [Channel.send, hear] at hRest ⊢
      simp only [hRest]
      simp [Message.handled, Message.shown, hearAll, replies, hear]

/-- A session understands what the device sends, from any state between two frames. It takes the
messages to the last byte, passes through the console output, answers each request, and stands
between two frames again. -/
theorem pump_messages {σ : Type} {supply : Supply σ} {Shows : σ → Channel → Prop}
    (hSupply : supply.Faultless ending Shows) (ms : List (Message initValue)) {s : Session}
    (hInit : s.config.initValue = initValue) (hIdle : s.framing = .idle)
    (hAdm : s.AdmitsAll ms) {w : σ} {ch : Channel} (hShows : Shows w ch)
    (hIn : ch.incoming = ms.flatMap Message.encode) :
    ∃ w', pump supply ⟨s, w⟩ =
        { handled := ms.flatMap Message.handled, error := none, serving := ⟨s.hearAll ms, w'⟩ } ∧
      (s.hearAll ms).framing = .idle ∧
      Shows w' ⟨[], ch.sent ++ s.replies ms, ch.shown ++ ms.flatMap Message.shown⟩ := by
  have hSame : { ch with incoming := ms.flatMap Message.encode } = ch := by rw [← hIn]
  have hPlain : pump (Channel.supply ending) ⟨s, ch⟩ = _ :=
    hSame ▸ pump_plain ms hInit hIdle hAdm ch
  have hab : SameSession Shows ⟨s, w⟩ ⟨s, ch⟩ := ⟨rfl, hShows⟩
  have hRuns := pump_follows hSupply.follows hab
  rw [hPlain] at hRuns
  generalize pump supply ⟨s, w⟩ = run at hRuns
  obtain ⟨handled, error, session, w'⟩ := run
  obtain ⟨rfl, rfl, rfl, hWorld⟩ := hRuns
  exact ⟨w', rfl, (s.hearAll_framing ms).trans hIdle, hWorld⟩

/-- A device that asks for everything, first too early and then in time, over a link that hands
over single bytes. -/
theorem pump_messages_early_and_late :
    let early : List (Message 0xFF) :=
      [.request (.initPool 4), .request (.write 1 2 [0xFF, 0] rfl), .request (.read 0 4)]
    let late : List (Message 0xFF) :=
      [.request .init, .request (.initPool 4), .request (.write 1 2 [0xFF, 0] rfl),
        .output 0x41 (by decide),
        .request (.read 0 3), .request .inputAvailable, .request (.inputRequest 1),
          .request .inputPeek,
        .request (.unknown 0xFF rfl), .request .ping]
    let s : Session := { config := { ackInit := true }, mailbox := ⟨[0x68, 0x69]⟩ }
    let w : World :=
      { lines := [{
          arrivals := ((early ++ late).flatMap Message.encode).map fun b => .data [b]
          acceptances := [.take 1, .fault .interrupted] }] }
    ∃ w', pump (World.supply 0) ⟨s, w⟩ =
        { handled := (early ++ late).flatMap Message.handled
          error := none
          serving := ⟨s.hearAll (early ++ late), w'⟩ } ∧
      (s.hearAll (early ++ late)).framing = .idle ∧
      w'.Plays 0 ⟨[],
        [0xFF, 0, 0, 0xFF, 0, 2, 0, 0, 0, 1, 0, 0, 0, 0x68, 1, 0x69, 0xFF, 7], [0x41]⟩ := by
  intro early late s w
  have hAdm : s.AdmitsAll (early ++ late) := by
    simp [AdmitsAll, Admits, early, late, s, obey, effect, hear, DeviceRequest.command?,
      Pool.Covers]
    decide
  have hPlays : w.Plays 0 { incoming := (early ++ late).flatMap Message.encode } := by
    refine ⟨_, rfl, ⟨?_, ?_, rfl, rfl, ⟨rfl, rfl, rfl⟩, by decide, rfl⟩, ⟨by simp [w], rfl, rfl⟩⟩
    · simp only [List.mem_map]
      rintro a ⟨b, -, rfl⟩
      simp [Arrival.IsPiece]
    · simp [Acceptance.Yields]
  have hSent : s.replies (early ++ late) =
      [0xFF, 0, 0, 0xFF, 0, 2, 0, 0, 0, 1, 0, 0, 0, 0x68, 1, 0x69, 0xFF, 7] := by decide
  obtain ⟨w', hRun, hFraming, hShows⟩ :=
    pump_messages (World.supply_faultless 0) (early ++ late) rfl rfl hAdm hPlays rfl
  rw [hSent] at hShows
  exact ⟨w', hRun, hFraming, hShows⟩

end Session

end MemoryBridge
