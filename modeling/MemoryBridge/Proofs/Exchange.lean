import MemoryBridge.Proofs.Message
import MemoryBridge.Proofs.Recording.Traffic

/-!
# What a command exchanges with the device

A command fetches a payload and writes a reply. `Session.owed` is the reply that is due for a
payload, taken from the meaning of the request that the payload completes, and `Session.pulled` is
the input that leaves the mailbox with it. `handle_answers` says that on a recorded link a command
writes what is owed and nothing else: all of it, or, when the link refuses a write, a part of it.
The input has left the mailbox in either case.

Nothing is owed for a payload that is cut short, and for a request that ends the session.
-/

namespace MemoryBridge

namespace DeviceRequest

/-- The request of a command with the given payload, if the payload is whole. -/
def ofPayload? (command : Command) (payload : Bytes) : Option DeviceRequest :=
  let first := Wire.decode (payload.take 4)
  let second := Wire.decode ((payload.drop 4).take 4)
  let request? : Option DeviceRequest :=
    match command with
    | .init => some .init
    | .initPool => some (.initPool first)
    | .read => some (.read first second)
    | .write =>
      if whole : (payload.drop 8).length = second.toInt.toNat then
        some (.write first second (payload.drop 8) whole)
      else none
    | .inputAvailable => some .inputAvailable
    | .inputRequest => some (.inputRequest first)
    | .inputPeek => some .inputPeek
    | .ping => some .ping
  request?.filter (·.payload = payload)

theorem ofPayload?_eq_some_iff {command : Command} {payload : Bytes} {r : DeviceRequest} :
    ofPayload? command payload = some r ↔ r.command? = some command ∧ r.payload = payload := by
  constructor
  · intro h
    obtain ⟨hRequest, hPayload⟩ := Option.filter_eq_some_iff.mp h
    refine ⟨?_, by simpa using hPayload⟩
    cases command with
    | write =>
      simp only at hRequest
      split at hRequest <;> cases hRequest
      rfl
    | _ =>
      cases hRequest
      rfl
  · rintro ⟨hCommand, rfl⟩
    refine Option.filter_eq_some_iff.mpr ⟨?_, by simp⟩
    have hFirst : ∀ (v : Int32) rest,
        Wire.decode ((Wire.encode v ++ rest).take 4) = v := fun v rest => by
          rw [List.take_left' (Wire.length_encode v), Wire.decode_encode]
    have hRest : ∀ (v : Int32) rest, (Wire.encode v ++ rest).drop 4 = rest := fun v rest =>
      List.drop_left' (Wire.length_encode v)
    have hOnly : ∀ v : Int32, Wire.decode ((Wire.encode v).take 4) = v := fun v => by
      rw [← List.append_nil (Wire.encode v), hFirst]
    cases r with
    | initPool size =>
      cases hCommand
      simp [payload, hOnly]
    | read index size =>
      cases hCommand
      simp [payload, hRest, hOnly, Wire.decode_encode]
    | write index size data whole =>
      cases hCommand
      have hData : (Wire.encode index ++ (Wire.encode size ++ data)).drop 8 = data := by
        rw [← List.drop_drop (i := 4) (j := 4), hRest, hRest]
      simp only [payload, List.append_assoc, hFirst, hRest, hData]
      rw [dif_pos whole]
    | inputRequest limit =>
      cases hCommand
      simp [payload, hOnly]
    | unknown code foreign => cases hCommand
    | _ =>
      cases hCommand
      rfl

end DeviceRequest

namespace Session

open Serve

variable {σ : Type}

instance (s : Session) (r : DeviceRequest) : Decidable (s.Admits r) :=
  match r with
  | .initPool size => inferInstanceAs (Decidable (s.initialized = true → 0 ≤ size.toInt))
  | .read index size => inferInstanceAs (Decidable (∀ p ∈ s.pool, p.Covers index.toInt size.toInt))
  | .write index size _ _ =>
    inferInstanceAs (Decidable (∀ p ∈ s.pool, p.Covers index.toInt size.toInt))
  | .init | .inputAvailable | .inputRequest _ | .inputPeek | .ping | .unknown _ _ => isTrue trivial

/-- The reply that is due after the payload of a command. -/
def owed (s : Session) (command : Command) (payload : Bytes) : Bytes :=
  match DeviceRequest.ofPayload? command payload with
  | some r => if s.Admits r then s.reply r else []
  | none => []

/-- The input that leaves the mailbox with that reply. -/
def pulled (s : Session) (command : Command) (payload : Bytes) : Bytes :=
  match DeviceRequest.ofPayload? command payload with
  | some (.inputRequest limit) => s.mailbox.bytes.take limit.toInt.toNat
  | _ => []

theorem owed_framing (s : Session) (framing : Framing) (command : Command) (payload : Bytes) :
    ({ s with framing } : Session).owed command payload = s.owed command payload := by
  unfold owed
  split
  · rename_i r _
    cases r <;> rfl
  · rfl

theorem owed_of_request {s : Session} {command : Command} {payload : Bytes} {r : DeviceRequest}
    (hCommand : r.command? = some command) (hPayload : r.payload = payload) :
    s.owed command payload = if s.Admits r then s.reply r else [] := by
  unfold owed
  rw [DeviceRequest.ofPayload?_eq_some_iff.mpr ⟨hCommand, hPayload⟩]

/-- A payload that belongs to no request is cut short, and nothing is owed for it. -/
theorem owed_of_none {s : Session} {command : Command} {payload : Bytes}
    (h : ∀ r : DeviceRequest, r.command? = some command → r.payload ≠ payload) :
    s.owed command payload = [] := by
  have hNone : DeviceRequest.ofPayload? command payload = none := by
    rw [Option.eq_none_iff_forall_ne_some]
    intro r hr
    obtain ⟨hCommand, hPayload⟩ := DeviceRequest.ofPayload?_eq_some_iff.mp hr
    exact h r hCommand hPayload
  unfold owed
  rw [hNone]

theorem owed_read_short {s : Session} {payload : Bytes} (h : payload.length < 8) :
    s.owed .read payload = [] := by
  refine owed_of_none fun r hCommand hPayload => ?_
  cases r <;> cases hCommand
  rename_i index size
  have hLength : payload.length = 8 := by
    rw [← hPayload]
    simp [DeviceRequest.payload]
  omega

theorem owed_inputRequest_short {s : Session} {payload : Bytes} (h : payload.length < 4) :
    s.owed .inputRequest payload = [] := by
  refine owed_of_none fun r hCommand hPayload => ?_
  cases r <;> cases hCommand
  rename_i limit
  have hLength : payload.length = 4 := by
    rw [← hPayload]
    exact Wire.length_encode limit
  omega

theorem owed_of_silent {s : Session} {command : Command}
    (hSilent : command = .initPool ∨ command = .write) (payload : Bytes) :
    s.owed command payload = [] := by
  unfold owed
  split
  · rename_i r hr
    obtain ⟨hCommand, -⟩ := DeviceRequest.ofPayload?_eq_some_iff.mp hr
    have hReply : s.reply r = [] := by
      cases r <;> rcases hSilent with rfl | rfl <;> first | rfl | cases hCommand
    rw [hReply, ite_self]
  · rfl

theorem pulled_inputRequest {s : Session} {payload : Bytes} (h : payload.length = 4) :
    s.pulled .inputRequest payload = s.mailbox.bytes.take (Wire.decode payload).toInt.toNat := by
  unfold pulled
  rw [DeviceRequest.ofPayload?_eq_some_iff (r := .inputRequest (Wire.decode payload)) |>.mpr
    ⟨rfl, Wire.encode_decode h⟩]

theorem pulled_of_none {s : Session} {command : Command} {payload : Bytes}
    (h : command = .inputRequest → payload.length < 4) : s.pulled command payload = [] := by
  unfold pulled
  split
  · rename_i limit hr
    obtain ⟨hCommand, hPayload⟩ := DeviceRequest.ofPayload?_eq_some_iff.mp hr
    cases hCommand
    have hLength : payload.length = 4 := by
      rw [← hPayload]
      exact Wire.length_encode limit
    have hShort := h rfl
    omega
  · rfl

/-- A command without a payload has its effect and writes its reply at once. -/
theorem handle_at_once (link : Link σ) {r : DeviceRequest} {command : Command}
    (hCommand : r.command? = some command)
    (hAtOnce : command ∈ [.init, .inputAvailable, .inputPeek, .ping]) (st : Serving σ) :
    handle link command st =
      onLink (link.writeAll (st.session.reply r)) ⟨st.session.effect r, st.world⟩ := by
  have hSession : session st = .ok st.session st := rfl
  cases r with
  | init =>
    cases hCommand
    let started : Session := st.session.effect .init
    have hUpdate : update (fun s => { s with initialized := true, pool := none }) st =
        .ok () { st with session := started } := rfl
    have hStarted : session { st with session := started } =
        .ok started { st with session := started } := rfl
    show handleInit link st = _
    unfold handleInit
    rw [bind_ok hUpdate, bind_ok hStarted]
    by_cases hAck : st.session.config.ackInit = true
    · have hStartedAck : started.config.ackInit = true := hAck
      simp only [reply, if_pos hAck, if_pos hStartedAck]
      rfl
    · have hStartedAck : ¬ started.config.ackInit = true := hAck
      simp only [reply, if_neg hAck, if_neg hStartedAck, onLink, onWorld, Sink.writeAll]
      rfl
  | inputAvailable =>
    cases hCommand
    show handleInputAvailable link st = _
    unfold handleInputAvailable
    rw [bind_ok hSession]
    rfl
  | inputPeek =>
    cases hCommand
    show handleInputPeek link st = _
    unfold handleInputPeek Mailbox.peek
    rw [bind_ok hSession]
    simp only [reply]
    cases st.session.mailbox.bytes <;> rfl
  | ping =>
    cases hCommand
    show handlePing link st = _
    unfold handlePing
    rw [bind_ok hSession]
    rfl
  | unknown code foreign => cases hCommand
  | _ =>
    cases hCommand
    simp at hAtOnce

end Session

/-! ## Commands on a recorded link -/

namespace Recorded

open Serve Session

variable {σ : Type} {host : Host σ} {k : LinkId}

/-- The command has fetched `payload` and answered with `pieces`, as far as the link let it. What it
pulled has left the mailbox. -/
structure Answers (k : LinkId) (command : Command) (payload : Bytes) (pieces : List Bytes)
    (st : Serving (Recorded σ))
    (r : EStateM.Result ServeError (Serving (Recorded σ)) Unit) : Prop where
  carries : Carries k payload pieces st.world (endState r).world
  asked : (endState r).world.asked = st.world.asked
  taken : Whole (st.session.owed command payload) pieces ∨
    Refused (st.session.owed command payload) pieces ∧ ∃ e t, r = .error e t
  mailbox : st.session.mailbox.bytes = st.session.pulled command payload ++
    (endState r).session.mailbox.bytes

/-- A command fetches its payload first and writes its reply then. -/
theorem answers_of_takes {command : Command} {payload : Bytes} {st : Serving (Recorded σ)}
    {t : Recorded σ} {r : EStateM.Result ServeError (Serving (Recorded σ)) Unit}
    (hFetched : Carries k payload [] st.world t) (hAsked : t.asked = st.world.asked)
    (hTakes : Takes k (st.session.owed command payload) t r) (hMailbox : st.session.mailbox.bytes =
      st.session.pulled command payload ++ (endState r).session.mailbox.bytes) :
    ∃ payload pieces, Answers k command payload pieces st r := by
  obtain ⟨pieces, hCarries, hAsked', hTaken⟩ := hTakes
  have hAll := hFetched.trans hCarries
  rw [List.append_nil, List.nil_append] at hAll
  exact ⟨payload, pieces, hAll, hAsked'.trans hAsked, hTaken, hMailbox⟩

theorem mailbox_of_other (host : Host σ) (k : LinkId) {command : Command}
    (hOther : command ≠ .inputRequest) (payload : Bytes) (st : Serving (Recorded σ)) :
    st.session.mailbox.bytes =
      st.session.pulled command payload ++
        (endState (handle (link host k) command st)).session.mailbox.bytes := by
  have hMailbox := (handle_changes (link host k) command st).mailbox hOther
  have hNone : st.session.pulled command payload = [] := pulled_of_none fun h => absurd h hOther
  rw [hNone, hMailbox, List.nil_append]

/-! ### Without a reply -/

/-- Setting up a pool and writing to it only read the link. -/
theorem handle_listens (host : Host σ) (k : LinkId) {command : Command}
    (hSilent : command = .initPool ∨ command = .write) :
    Moves (MemoryBridge.WorldRel (Listens k)) (handle (link host k) command) := by
  have hD : Durable (MemoryBridge.WorldRel (@Listens σ k)) := (listens_durable k).worldRel
  have hExact : ∀ n, Moves (Listens k) ((link host k).readExact n) :=
    Source.readExact_moves (listens_durable k) (link_read_listens host k)
  have hDiscard : ∀ n, Moves (Listens k) ((link host k).discard n) :=
    Source.discard_moves (listens_durable k) (link_read_listens host k)
  have hInt : Moves (MemoryBridge.WorldRel (Listens k))
      (onLink (Wire.readInt (link host k).toSource)) :=
    onLink_moves (Moves.map _ (hExact _))
  have hUpdate : ∀ f,
      Moves (MemoryBridge.WorldRel (Listens k)) (update f : Serve (Recorded σ) Unit) :=
    fun f => update_moves fun st => (listens_durable k).refl st.world
  rcases hSilent with rfl | rfl
  · refine Moves.bind hD hInt fun size => Moves.bind hD (session_moves hD) fun s => ?_
    split
    · split
      · exact hUpdate _
      · exact Moves.throw hD _
    · exact hUpdate _
  · refine Moves.bind hD hInt fun index => Moves.bind hD hInt fun size => ?_
    refine Moves.bind hD (session_moves hD) fun s => ?_
    split
    · exact Moves.bind hD (hUpdate _) fun _ => onLink_moves (hDiscard _)
    · refine Moves.bind hD (check_moves hD _ _) fun range => ?_
      refine Moves.bind hD (onLink_moves (hExact _)) fun data => ?_
      exact Moves.bind hD (check_moves hD _ _) fun written => hUpdate _

theorem handle_silent_answers {command : Command} (hSilent : command = .initPool ∨ command = .write)
    {st : Serving (Recorded σ)} (hMode : st.world.asked k = .blocking) :
    ∃ payload pieces, Answers k command payload pieces st (handle (link host k) command st) := by
  obtain ⟨⟨payload, hCarries⟩, hAsked⟩ := handle_listens host k hSilent st hMode
  have hOther : command ≠ .inputRequest := by
    rcases hSilent with rfl | rfl <;> simp
  refine answers_of_takes hCarries hAsked ?_ (mailbox_of_other host k hOther payload st)
  rw [owed_of_silent hSilent]
  exact takes_nothing rfl

/-! ### With a reply -/

theorem handle_answers_at_once {r : DeviceRequest} {command : Command}
    (hCommand : r.command? = some command)
    (hAtOnce : command ∈ [.init, .inputAvailable, .inputPeek, .ping]) (st : Serving (Recorded σ)) :
    ∃ payload pieces, Answers k command payload pieces st (handle (link host k) command st) := by
  have hOther : command ≠ .inputRequest := by
    rintro rfl
    simp at hAtOnce
  have hMailbox := mailbox_of_other host k hOther [] st
  have hOwed : st.session.owed command [] = st.session.reply r := by
    have hPayload : r.payload = [] := by
      cases r <;> first | rfl | (cases hCommand; simp at hAtOnce)
    have hAdmits : st.session.Admits r := by
      -- Only requests with a payload may be refused.
      cases r <;> trivial
    rw [owed_of_request hCommand hPayload, if_pos hAdmits]
  rw [handle_at_once (link host k) hCommand hAtOnce st] at hMailbox ⊢
  refine answers_of_takes (Carries.refl k st.world) rfl ?_ hMailbox
  rw [hOwed]
  exact writeAll_takes host k _ _ st.world

theorem readPool_takes (s : Session) (index size : Int32) (w : Recorded σ) :
    Takes k (if s.Admits (.read index size) then s.reply (.read index size) else []) w
      ((match s.pool with
        | none => update countRejected
        | some pool => do
          let data ← check .pool (pool.read index size)
          onLink ((link host k).writeAll data) : Serve (Recorded σ) Unit) ⟨s, w⟩) := by
  cases hPool : s.pool with
  | none =>
    simp only [reply, hPool, ite_self]
    exact takes_nothing rfl
  | some p =>
    have hAdmits : s.Admits (.read index size) ↔ p.Covers index.toInt size.toInt := by
      simp [Admits, hPool]
    by_cases hCovers : p.Covers index.toInt size.toInt
    · have hCheck : check .pool (p.read index size) (⟨s, w⟩ : Serving (Recorded σ)) =
          .ok (p.slice ⟨index.toInt.toNat, size.toInt.toNat⟩) ⟨s, w⟩ := by
        rw [Pool.read_of_covers hCovers]
        rfl
      simp only [reply, hPool]
      rw [if_pos (hAdmits.mpr hCovers), bind_ok hCheck]
      exact writeAll_takes host k s _ w
    · have hCheck : check .pool (p.read index size) (⟨s, w⟩ : Serving (Recorded σ)) =
          .error (.pool ⟨index.toInt, size.toInt, p.length⟩) ⟨s, w⟩ := by
        unfold Pool.read
        rw [Pool.range_of_not_covers hCovers]
        rfl
      simp only
      rw [if_neg (mt hAdmits.mp hCovers), bind_error hCheck]
      exact takes_nothing rfl

theorem handleRead_answers {st : Serving (Recorded σ)} (hMode : st.world.asked k = .blocking) :
    ∃ payload pieces, Answers k .read payload pieces st (handle (link host k) .read st) := by
  have hMailbox : ∀ payload, st.session.mailbox.bytes = st.session.pulled .read payload ++
      (endState (handleRead (link host k) st)).session.mailbox.bytes :=
    fun payload => mailbox_of_other host k (by simp) payload st
  show ∃ payload pieces, Answers k .read payload pieces st (handleRead (link host k) st)
  obtain ⟨first, t, hFirst, hAsked, ⟨hRun, hLength⟩ | ⟨f, hRun, hLength⟩⟩ :=
    readInt_cases host k st.session hMode
  case inr =>
    have hShort : first.length < 8 := by omega
    refine answers_of_takes hFirst hAsked ?_ (hMailbox first)
    unfold handleRead
    rw [bind_error hRun, owed_read_short hShort]
    exact takes_nothing rfl
  obtain ⟨second, u, hSecond, hAsked', ⟨hRun', hLength'⟩ | ⟨f, hRun', hLength'⟩⟩ :=
    readInt_cases host k st.session (w := t) (by rw [hAsked, hMode])
  case inr =>
    have hShort : (first ++ second).length < 8 := by
      rw [List.length_append]
      omega
    refine answers_of_takes (hFirst.trans hSecond) (hAsked'.trans hAsked) ?_
      (hMailbox (first ++ second))
    unfold handleRead
    rw [bind_ok hRun, bind_error hRun', owed_read_short hShort]
    exact takes_nothing rfl
  have hPayload : (DeviceRequest.read (Wire.decode first) (Wire.decode second)).payload =
      first ++ second := by
    simp only [DeviceRequest.payload, Wire.encode_decode hLength, Wire.encode_decode hLength']
  have hOwed : st.session.owed .read (first ++ second) = _ := owed_of_request rfl hPayload
  have hSession : session (⟨st.session, u⟩ : Serving (Recorded σ)) =
      .ok st.session ⟨st.session, u⟩ := rfl
  refine answers_of_takes (hFirst.trans hSecond) (hAsked'.trans hAsked) ?_
    (hMailbox (first ++ second))
  unfold handleRead
  rw [bind_ok hRun, bind_ok hRun', bind_ok hSession, hOwed]
  exact readPool_takes st.session _ _ u

/-- The input that is pulled leaves the mailbox before it is written, so a link that refuses it does
not bring it back. -/
theorem handleInputRequest_answers {st : Serving (Recorded σ)}
    (hMode : st.world.asked k = .blocking) :
    ∃ payload pieces,
      Answers k .inputRequest payload pieces st (handle (link host k) .inputRequest st) := by
  show ∃ payload pieces, Answers k .inputRequest payload pieces st
    (handleInputRequest (link host k) st)
  obtain ⟨payload, t, hCarries, hAsked, ⟨hRun, hLength⟩ | ⟨f, hRun, hLength⟩⟩ :=
    readInt_cases host k st.session hMode
  case inr =>
    have hNone : st.session.pulled .inputRequest payload = [] := pulled_of_none fun _ => hLength
    unfold handleInputRequest
    rw [bind_error hRun]
    refine answers_of_takes hCarries hAsked ?_ ?_
    · rw [owed_inputRequest_short hLength]
      exact takes_nothing rfl
    · rw [hNone]
      rfl
  let limit := Wire.decode payload
  let rest : Session :=
    { st.session with mailbox := ⟨st.session.mailbox.bytes.drop limit.toInt.toNat⟩ }
  let bytes := st.session.mailbox.bytes.take limit.toInt.toNat
  have hSession : session (⟨st.session, t⟩ : Serving (Recorded σ)) =
      .ok st.session ⟨st.session, t⟩ := rfl
  have hUpdate :
      update (fun s => { s with mailbox := ⟨st.session.mailbox.bytes.drop limit.toInt.toNat⟩ })
      (⟨st.session, t⟩ : Serving (Recorded σ)) = .ok () ⟨rest, t⟩ := rfl
  have hCount : bytes.length ≤ 2147483647 := Channel.length_take_limit _ limit
  have hOwed : st.session.owed .inputRequest payload = Wire.encode (clampLength bytes.length) ++
      bytes := by
    rw [owed_of_request (r := .inputRequest limit) rfl (Wire.encode_decode hLength),
      Channel.clampLength_of_le hCount]
    exact if_pos trivial
  have hWrites : handleInputRequest (link host k) st =
      (do onLink ((link host k).writeAll (Wire.encode (clampLength bytes.length)))
          onLink ((link host k).writeAll bytes) : Serve (Recorded σ) Unit) ⟨rest, t⟩ := by
    unfold handleInputRequest
    rw [bind_ok hRun, bind_ok hSession]
    simp only [Mailbox.drain]
    rw [bind_ok hUpdate]
    rfl
  rw [hWrites]
  -- The count and the bytes are two writes, and the mailbox has changed before either.
  refine answers_of_takes hCarries hAsked ?_ ?_
  · rw [hOwed]
    exact writeAll_writeAll_takes host k rest _ _ t
  · have hSame : Durable (SessionRel (σ := Recorded σ) Eq) := ⟨fun _ => rfl, Eq.trans⟩
    have hWrite : ∀ bs, Moves (SessionRel Eq) (onLink ((link host k).writeAll bs)) :=
      fun bs => onWorld_moves_iff.mpr fun _ _ => rfl
    have hKept := Moves.bind hSame (hWrite (Wire.encode (clampLength bytes.length))) fun _ =>
      hWrite bytes
    have hRest := hKept ⟨rest, t⟩
    rw [pulled_inputRequest hLength, ← hRest]
    exact (List.take_append_drop _ _).symm

/-- A command on a link in blocking mode writes what is owed for the payload that it has fetched. -/
theorem handle_answers (host : Host σ) (command : Command) {st : Serving (Recorded σ)}
    (hMode : st.world.asked k = .blocking) :
    ∃ payload pieces, Answers k command payload pieces st (handle (link host k) command st) := by
  cases command with
  | init => exact handle_answers_at_once (r := .init) rfl (by simp) st
  | initPool => exact handle_silent_answers (Or.inl rfl) hMode
  | read => exact handleRead_answers hMode
  | write => exact handle_silent_answers (Or.inr rfl) hMode
  | inputAvailable => exact handle_answers_at_once (r := .inputAvailable) rfl (by simp) st
  | inputRequest => exact handleInputRequest_answers hMode
  | inputPeek => exact handle_answers_at_once (r := .inputPeek) rfl (by simp) st
  | ping => exact handle_answers_at_once (r := .ping) rfl (by simp) st

end Recorded

end MemoryBridge
