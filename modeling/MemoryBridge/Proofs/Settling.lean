import MemoryBridge.Proofs.Exchange

/-!
# What a command leaves of its session

A command changes its session by the payload that it has fetched and by nothing else:
`Session.settled` is the session that a payload leaves, taken from the meaning of the request that
the payload completes, and `Session.Breach` says that a payload asks for what ends the session.
`handle_settles` is the proof, for every link on which one can tell what was fetched, whatever
faults that link has: a `Meter` tells it.

A payload that is cut short leaves the session as it was. The one exception is a `write` without a
pool, which is rejected when its header is there and reads its data then.
-/

namespace MemoryBridge

variable {σ : Type}

/-! ## Metered links -/

/-- In the worlds that are `ready` it is known which bytes were fetched. -/
structure Meter (σ : Type) where
  ready : σ → Prop
  fetched : σ → Bytes

namespace Meter

variable {m : Meter σ}

/-- From `w` to `v` the bytes `payload` were fetched. -/
def Took (m : Meter σ) (payload : Bytes) (w v : σ) : Prop :=
  m.ready v ∧ m.fetched v = m.fetched w ++ payload

theorem Took.refl {w : σ} (h : m.ready w) : m.Took [] w w :=
  ⟨h, by rw [List.append_nil]⟩

theorem Took.trans {payload payload' : Bytes} {w v u : σ} (h : m.Took payload w v)
    (h' : m.Took payload' v u) : m.Took (payload ++ payload') w u :=
  ⟨h'.1, by rw [h'.2, h.2, List.append_assoc]⟩

/-- Nothing is fetched from a world that is ready. -/
def Still (m : Meter σ) (w v : σ) : Prop :=
  m.ready w → m.Took [] w v

theorem still_durable (m : Meter σ) : Durable m.Still where
  refl _ h := Took.refl h
  trans h h' hReady := by
    have hFirst := h hReady
    have hBoth := hFirst.trans (h' hFirst.1)
    rwa [List.append_nil] at hBoth

end Meter

/-- The meter counts what is read from the link, and a world that is ready stays ready. -/
structure Link.Metered (m : Meter σ) (link : Link σ) : Prop where
  read_ok : ∀ {n w bs v}, m.ready w → link.read n w = .ok bs v → m.Took bs w v
  read_error : ∀ {n w f v}, m.ready w → link.read n w = .error f v → m.Took [] w v
  write : ∀ bs, Moves m.Still (link.write bs)
  flush : Moves m.Still link.flush

namespace Link.Metered

open Serve

variable {m : Meter σ} {link : Link σ} (h : link.Metered m)

include h

/-- A full read fetches what it answers, or fails and has fetched less. -/
theorem readExact_took (n : Nat) {w : σ} (hReady : m.ready w) :
    ∃ payload v, m.Took payload w v ∧ (link.readExact n w = .ok payload v ∧ payload.length = n ∨
      ∃ f, link.readExact n w = .error f v ∧ payload.length < n) := by
  fun_induction link.readExact n w with
  | case1 w => exact ⟨[], w, Meter.Took.refl hReady, Or.inl ⟨rfl, rfl⟩⟩
  | case2 n w hn v hr => exact ⟨[], v, h.read_ok hReady hr, Or.inr ⟨_, rfl, by simp; omega⟩⟩
  | case3 n w hn b bs v hr rest u hu ih =>
    have hFirst := h.read_ok hReady hr
    have hLength := link.read_length_le hr
    obtain ⟨payload, u', hTook, ⟨hRun, hRest⟩ | ⟨f, hRun, -⟩⟩ := ih hFirst.1
    · cases hu.symm.trans hRun
      refine ⟨_, u, hFirst.trans hTook, Or.inl ⟨rfl, ?_⟩⟩
      rw [List.length_append, hRest]
      omega
    · cases hu.symm.trans hRun
  | case4 n w hn b bs v hr f u hu ih =>
    have hFirst := h.read_ok hReady hr
    have hLength := link.read_length_le hr
    obtain ⟨payload, u', hTook, ⟨hRun, -⟩ | ⟨f', hRun, hRest⟩⟩ := ih hFirst.1
    · cases hu.symm.trans hRun
    · cases hu.symm.trans hRun
      refine ⟨_, u, hFirst.trans hTook, Or.inr ⟨f, rfl, ?_⟩⟩
      rw [List.length_append]
      omega
  | case5 n w hn f v hr hf ih =>
    have hFirst := h.read_error hReady hr
    obtain ⟨payload, u, hTook, hRun⟩ := ih hFirst.1
    exact ⟨payload, u, hFirst.trans hTook, hRun⟩
  | case6 n w hn f v hr hf =>
    exact ⟨[], v, h.read_error hReady hr, Or.inr ⟨f, rfl, by simp; omega⟩⟩

/-- A skip fetches as many bytes as it drops, or fails and has fetched less. -/
theorem discard_took (n : Nat) {w : σ} (hReady : m.ready w) :
    ∃ payload v, m.Took payload w v ∧ (link.discard n w = .ok () v ∧ payload.length = n ∨
      ∃ f, link.discard n w = .error f v ∧ payload.length < n) := by
  fun_induction link.discard n w with
  | case1 w => exact ⟨[], w, Meter.Took.refl hReady, Or.inl ⟨rfl, rfl⟩⟩
  | case2 n w hn v hr => exact ⟨[], v, h.read_ok hReady hr, Or.inr ⟨_, rfl, by simp; omega⟩⟩
  | case3 n w hn b bs v hr ih =>
    have hFirst := h.read_ok hReady hr
    have hLength := Nat.le_trans (link.read_length_le hr) (Nat.min_le_left _ _)
    obtain ⟨payload, u, hTook, ⟨hRun, hRest⟩ | ⟨f, hRun, hRest⟩⟩ := ih hFirst.1
    · refine ⟨_, u, hFirst.trans hTook, Or.inl ⟨hRun, ?_⟩⟩
      rw [List.length_append, hRest]
      omega
    · refine ⟨_, u, hFirst.trans hTook, Or.inr ⟨f, hRun, ?_⟩⟩
      rw [List.length_append]
      omega
  | case4 n w hn f v hr hf ih =>
    have hFirst := h.read_error hReady hr
    obtain ⟨payload, u, hTook, hRun⟩ := ih hFirst.1
    exact ⟨payload, u, hFirst.trans hTook, hRun⟩
  | case5 n w hn f v hr hf =>
    exact ⟨[], v, h.read_error hReady hr, Or.inr ⟨f, rfl, by simp; omega⟩⟩

theorem readInt_took (s : Session) {w : σ} (hReady : m.ready w) :
    ∃ payload v, m.Took payload w v ∧
      (onLink (Wire.readInt link.toSource) ⟨s, w⟩ = .ok (Wire.decode payload) ⟨s, v⟩ ∧
        payload.length = 4 ∨
        ∃ f, onLink (Wire.readInt link.toSource) ⟨s, w⟩ = .error (.transport f) ⟨s, v⟩ ∧
          payload.length < 4) := by
  obtain ⟨payload, v, hTook, hRun⟩ := h.readExact_took Wire.intSize hReady
  have hMap : ∀ r, link.readExact Wire.intSize w = r →
      Wire.readInt link.toSource w = EStateM.map Wire.decode (fun _ => r) w := by
    rintro r rfl
    rfl
  refine ⟨payload, v, hTook, ?_⟩
  rcases hRun with ⟨hRun, hLength⟩ | ⟨f, hRun, hLength⟩
  · exact Or.inl ⟨onLink_ok (hMap _ hRun), hLength⟩
  · exact Or.inr ⟨f, onLink_error (hMap _ hRun), hLength⟩

end Link.Metered

/-- Two operations of the link, one after the other. -/
theorem Serve.onLink_bind {α β : Type} (act : EStateM Fault σ α) (next : α → EStateM Fault σ β) :
    Serve.onLink (act >>= next) = Serve.onLink act >>= fun a => Serve.onLink (next a) := by
  funext st
  cases hRun : act st.world with
  | ok a w =>
    have hFirst : Serve.onLink act st = .ok a { st with world := w } := Serve.onLink_ok hRun
    rw [bind_ok hFirst]
    unfold Serve.onLink Serve.onWorld
    rw [bind_ok hRun]
  | error f w =>
    have hFirst : Serve.onLink act st = .error (.transport f) { st with world := w } :=
      Serve.onLink_error hRun
    rw [bind_error hFirst]
    exact Serve.onLink_error (bind_error hRun)

/-! ## The session that a payload leaves -/

/-- The device has asked for what ends the session. -/
def ServeError.isBreach : ServeError → Bool
  | .pool _ | .invalidPoolSize _ => true
  | .transport _ | .sink _ => false

namespace Session

open Serve

/-- The payload asks for what ends the session: a pool of negative size, or bytes outside of the
pool. -/
def Breach (s : Session) (command : Command) (payload : Bytes) : Prop :=
  match command with
  | .initPool => s.initialized = true ∧ payload.length = 4 ∧ (Wire.decode payload).toInt < 0
  | .read | .write => 8 ≤ payload.length ∧ ∃ p, s.pool = some p ∧
      ¬ p.Covers (Wire.decode (payload.take 4)).toInt (Wire.decode ((payload.drop 4).take 4)).toInt
  | _ => False

/-- Without a pool there is nothing to leave. -/
theorem not_breach_of_none {s : Session} {command : Command} {payload : Bytes}
    (hPool : s.pool = none) (hAccess : command = .read ∨ command = .write) :
    ¬ s.Breach command payload := by
  rcases hAccess with rfl | rfl
  all_goals
    rintro ⟨-, p, hSome, -⟩
    cases hPool.symm.trans hSome

/-- A session after a command that has fetched `payload`, apart from the count of the command. -/
def settled (s : Session) (command : Command) (payload : Bytes) : Session :=
  match DeviceRequest.ofPayload? command payload with
  | some r => if s.Admits r then s.effect r else s
  | none => if command = .write ∧ s.pool = none ∧ 8 ≤ payload.length then s.countRejected else s

theorem settled_of_request {s : Session} {command : Command} {payload : Bytes} {r : DeviceRequest}
    (hCommand : r.command? = some command) (hPayload : r.payload = payload) :
    s.settled command payload = if s.Admits r then s.effect r else s := by
  unfold settled
  rw [DeviceRequest.ofPayload?_eq_some_iff.mpr ⟨hCommand, hPayload⟩]

/-- The length of the payload of a command, data not counted. -/
def headerLength : Command → Nat
  | .initPool | .inputRequest => 4
  | .read | .write => 8
  | .init | .inputAvailable | .inputPeek | .ping => 0

/-- The two integers that a payload begins with. -/
theorem header_fields {index size : Int32} {payload rest : Bytes}
    (hPayload : Wire.encode index ++ (Wire.encode size ++ rest) = payload) :
    Wire.decode (payload.take 4) = index ∧ Wire.decode ((payload.drop 4).take 4) = size ∧
      payload.drop 8 = rest := by
  have hIndex : (Wire.encode index).length = 4 := Wire.length_encode index
  have hSize : (Wire.encode size).length = 4 := Wire.length_encode size
  have hDrop : payload.drop 4 = Wire.encode size ++ rest := by
    rw [← hPayload, List.drop_left' hIndex]
  refine ⟨?_, ?_, ?_⟩
  · rw [← hPayload, List.take_left' hIndex, Wire.decode_encode]
  · rw [hDrop, List.take_left' hSize, Wire.decode_encode]
  · rw [← List.drop_drop (i := 4) (j := 4), hDrop, List.drop_left' hSize]

theorem headerLength_le {r : DeviceRequest} {command : Command}
    (hCommand : r.command? = some command) : headerLength command ≤ r.payload.length := by
  cases r <;> cases hCommand <;> simp [headerLength, DeviceRequest.payload]
  omega

theorem ofPayload?_short {command : Command} {payload : Bytes}
    (h : payload.length < headerLength command) :
    DeviceRequest.ofPayload? command payload = none := by
  rw [Option.eq_none_iff_forall_ne_some]
  intro r hr
  obtain ⟨hCommand, hPayload⟩ := DeviceRequest.ofPayload?_eq_some_iff.mp hr
  have hLength := headerLength_le hCommand
  rw [hPayload] at hLength
  omega

/-- A command of which not even the header has come leaves the session as it was. -/
theorem settled_short {s : Session} {command : Command} {payload : Bytes}
    (h : payload.length < headerLength command) : s.settled command payload = s := by
  unfold settled
  rw [ofPayload?_short h]
  refine if_neg fun hWrite => ?_
  obtain ⟨rfl, -, hLength⟩ := hWrite
  simp only [headerLength] at h
  omega

/-- Such a command is no breach either. -/
theorem not_breach_short {s : Session} {command : Command} {payload : Bytes}
    (h : payload.length < headerLength command) : ¬ s.Breach command payload := by
  unfold Breach
  cases command <;> simp [headerLength] at h ⊢ <;> omega

/-- An access to the pool is a breach if the pool does not cover it. -/
theorem breach_iff {s : Session} {p : Pool} {command : Command} (hPool : s.pool = some p)
    (hAccess : command = .read ∨ command = .write) {index size : Int32} {payload rest : Bytes}
    (hPayload : Wire.encode index ++ (Wire.encode size ++ rest) = payload) :
    s.Breach command payload ↔ ¬ p.Covers index.toInt size.toInt := by
  obtain ⟨hIndex, hSize, -⟩ := header_fields hPayload
  have hLength : 8 ≤ payload.length := by
    rw [← hPayload]
    simp only [List.length_append, Wire.length_encode]
    omega
  rcases hAccess with rfl | rfl
  all_goals
    unfold Breach
    simp only [hIndex, hSize, hPool, Option.some.injEq, hLength, true_and]
    constructor
    · rintro ⟨q, rfl, hOutside⟩
      exact hOutside
    · exact fun hOutside => ⟨p, rfl, hOutside⟩

theorem ofPayload?_cut_short {index size : Int32} {data payload : Bytes}
    (hPayload : Wire.encode index ++ (Wire.encode size ++ data) = payload)
    (hShort : data.length < size.toInt.toNat) : DeviceRequest.ofPayload? .write payload = none := by
  rw [Option.eq_none_iff_forall_ne_some]
  intro r hr
  obtain ⟨hCommand, hSame⟩ := DeviceRequest.ofPayload?_eq_some_iff.mp hr
  cases r <;> cases hCommand
  rename_i index' size' data' whole
  rw [DeviceRequest.payload, List.append_assoc] at hSame
  obtain ⟨-, hSize, hData⟩ := header_fields hPayload
  obtain ⟨-, hSize', hData'⟩ := header_fields hSame
  rw [← hSize', hSize, ← hData', hData] at whole
  omega

/-- A `write` to a pool without all of its data leaves the session as it was. -/
theorem settled_cut_short {s : Session} {p : Pool} (hPool : s.pool = some p) {index size : Int32}
    {data payload : Bytes} (hPayload : Wire.encode index ++ (Wire.encode size ++ data) = payload)
    (hShort : data.length < size.toInt.toNat) : s.settled .write payload = s := by
  unfold settled
  rw [ofPayload?_cut_short hPayload hShort]
  refine if_neg fun hRejected => ?_
  cases hPool.symm.trans hRejected.2.1

theorem settled_rejected {s : Session} {payload : Bytes} (hPool : s.pool = none)
    (hHeader : 8 ≤ payload.length) : s.settled .write payload = s.countRejected := by
  cases hRequest : DeviceRequest.ofPayload? .write payload with
  | none =>
    unfold settled
    rw [hRequest]
    exact if_pos ⟨rfl, hPool, hHeader⟩
  | some r =>
    obtain ⟨hCommand, hPayload⟩ := DeviceRequest.ofPayload?_eq_some_iff.mp hRequest
    rw [settled_of_request hCommand hPayload]
    cases r <;> cases hCommand
    rename_i index size data whole
    have hAdmits : s.Admits (.write index size data whole) := fun p hp => by
      rw [hPool] at hp
      cases hp
    rw [if_pos hAdmits]
    simp only [effect, hPool]

/-- A breach leaves the session as it was. -/
theorem settled_breach {s : Session} {command : Command} {payload : Bytes}
    (h : s.Breach command payload) : s.settled command payload = s := by
  cases hRequest : DeviceRequest.ofPayload? command payload with
  | none =>
    unfold settled
    rw [hRequest]
    refine if_neg fun hRejected => ?_
    exact not_breach_of_none hRejected.2.1 (Or.inr hRejected.1) h
  | some r =>
    obtain ⟨hCommand, hPayload⟩ := DeviceRequest.ofPayload?_eq_some_iff.mp hRequest
    rw [settled_of_request hCommand hPayload]
    refine if_neg fun hAdmits => ?_
    cases r with
    | initPool size =>
      cases hCommand
      obtain ⟨hInit, -, hNegative⟩ := h
      have hSize : Wire.decode payload = size := by
        rw [← hPayload]
        exact Wire.decode_encode size
      have hNow := hAdmits hInit
      rw [hSize] at hNegative
      omega
    | read index size =>
      cases hCommand
      have hFields : Wire.encode index ++ (Wire.encode size ++ []) = payload := by
        rw [List.append_nil]
        exact hPayload
      obtain ⟨p, hPool⟩ : ∃ p, s.pool = some p := ⟨_, h.2.choose_spec.1⟩
      exact (breach_iff hPool (Or.inl rfl) hFields).mp h (hAdmits p hPool)
    | write index size data whole =>
      cases hCommand
      have hFields : Wire.encode index ++ (Wire.encode size ++ data) = payload := by
        rw [← List.append_assoc]
        exact hPayload
      obtain ⟨p, hPool⟩ : ∃ p, s.pool = some p := ⟨_, h.2.choose_spec.1⟩
      exact (breach_iff hPool (Or.inr rfl) hFields).mp h (hAdmits p hPool)
    | unknown code foreign => cases hCommand
    | _ =>
      cases hCommand
      exact h.elim

/-! ## What commands do -/

/-- The command has fetched `payload` and has left the session that this payload leaves. It has
failed at the device exactly if the payload is a breach. -/
structure Settles (m : Meter σ) (command : Command) (payload : Bytes) (st : Serving σ)
    (r : EStateM.Result ServeError (Serving σ) Unit) : Prop where
  took : m.Took payload st.world (endState r).world
  session : (endState r).session = st.session.settled command payload
  breach : (∃ e t, r = .error e t ∧ e.isBreach = true) ↔ st.session.Breach command payload

section

variable {m : Meter σ} {command : Command} {payload : Bytes} {st : Serving σ} {s : Session} {v : σ}

theorem settles_ok (hTook : m.Took payload st.world v)
    (hSession : s = st.session.settled command payload)
    (hNot : ¬ st.session.Breach command payload) :
    Settles m command payload st (.ok () ⟨s, v⟩) where
  took := hTook
  session := hSession
  breach := by simp [hNot]

theorem settles_transport (hTook : m.Took payload st.world v)
    (hSession : s = st.session.settled command payload) (hNot : ¬ st.session.Breach command payload)
    (f : Fault) : Settles m command payload st (.error (.transport f) ⟨s, v⟩) where
  took := hTook
  session := hSession
  breach := by simp [hNot, ServeError.isBreach]

theorem settles_breach (hTook : m.Took payload st.world v)
    (hBreach : st.session.Breach command payload) {e : ServeError} (he : e.isBreach = true) :
    Settles m command payload st (.error e ⟨st.session, v⟩) where
  took := hTook
  session := (settled_breach hBreach).symm
  breach := by simp [hBreach, he]

/-- A command that has not even got its header. -/
theorem settles_short (hTook : m.Took payload st.world v)
    (hShort : payload.length < headerLength command) (f : Fault) :
    Settles m command payload st (.error (.transport f) ⟨st.session, v⟩) :=
  settles_transport hTook (settled_short hShort).symm (not_breach_short hShort) f

/-- A reply changes nothing any more. -/
theorem settles_reply {act : EStateM Fault σ Unit} (hAct : Moves m.Still act)
    (hTook : m.Took payload st.world v) (hSession : s = st.session.settled command payload)
    (hNot : ¬ st.session.Breach command payload) :
    Settles m command payload st (onLink act ⟨s, v⟩) := by
  have hStill := hTook.trans (hAct v hTook.1)
  rw [List.append_nil] at hStill
  cases hRun : act v with
  | ok u v' =>
    rw [hRun] at hStill
    have hOk : onLink act ⟨s, v⟩ = .ok () ⟨s, v'⟩ := onLink_ok hRun
    rw [hOk]
    exact settles_ok hStill hSession hNot
  | error f v' =>
    rw [hRun] at hStill
    have hError : onLink act ⟨s, v⟩ = .error (.transport f) ⟨s, v'⟩ := onLink_error hRun
    rw [hError]
    exact settles_transport hStill hSession hNot f

end

variable {m : Meter σ} {link : Link σ} (h : link.Metered m) {st : Serving σ}
  (hReady : m.ready st.world)

include h hReady

theorem handle_at_once_settles {r : DeviceRequest} {command : Command}
    (hCommand : r.command? = some command)
    (hAtOnce : command ∈ [.init, .inputAvailable, .inputPeek, .ping]) :
    ∃ payload, Settles m command payload st (handle link command st) := by
  have hPayload : r.payload = [] := by
    cases r <;> first | rfl | (cases hCommand; simp at hAtOnce)
  have hAdmits : st.session.Admits r := by
    -- Only requests with a payload may be refused.
    cases r <;> first | exact trivial | (cases hCommand; simp at hAtOnce)
  have hNot : ¬ st.session.Breach command [] := by
    unfold Breach
    cases command <;> simp at hAtOnce ⊢
  rw [handle_at_once link hCommand hAtOnce st]
  refine ⟨[],
    settles_reply (Sink.writeAll_moves m.still_durable h.write _) (Meter.Took.refl hReady) ?_ hNot⟩
  rw [settled_of_request hCommand hPayload, if_pos hAdmits]

theorem handleInitPool_settles :
    ∃ payload, Settles m .initPool payload st (handle link .initPool st) := by
  obtain ⟨payload, v, hTook, ⟨hRun, hLength⟩ | ⟨f, hRun, hShort⟩⟩ :=
    h.readInt_took st.session hReady
  case inr =>
    have hFails : handle link .initPool st = .error (.transport f) ⟨st.session, v⟩ :=
      bind_error hRun
    have hHeader : payload.length < headerLength .initPool := hShort
    rw [hFails]
    exact ⟨payload, settles_short hTook hHeader f⟩
  let size := Wire.decode payload
  have hSession : session (⟨st.session, v⟩ : Serving σ) = .ok st.session ⟨st.session, v⟩ := rfl
  have hSettled : st.session.settled .initPool payload =
      if st.session.Admits (.initPool size) then st.session.effect (.initPool size)
      else st.session :=
    settled_of_request rfl (Wire.encode_decode hLength)
  refine ⟨payload, ?_⟩
  show Settles m .initPool payload st (handleInitPool link st)
  unfold handleInitPool
  rw [bind_ok hRun, bind_ok hSession]
  by_cases hInit : st.session.initialized = true
  case neg =>
    have hAdmits : st.session.Admits (.initPool size) := fun hNow => absurd hNow hInit
    rw [if_neg hInit]
    refine settles_ok hTook ?_ fun hBreach => hInit hBreach.1
    rw [hSettled, if_pos hAdmits]
    simp only [effect, if_neg hInit]
  rw [if_pos hInit]
  by_cases hSize : 0 ≤ size.toInt
  · have hAdmits : st.session.Admits (.initPool size) := fun _ => hSize
    rw [if_pos hSize]
    refine settles_ok hTook ?_ fun hBreach => absurd hSize (Int.not_le.mpr hBreach.2.2)
    rw [hSettled, if_pos hAdmits]
    simp only [effect, if_pos hInit, size]
  · have hBreach : st.session.Breach .initPool payload := ⟨hInit, hLength, Int.not_le.mp hSize⟩
    rw [if_neg hSize]
    exact settles_breach hTook hBreach rfl

/-- The header of an access to the pool: its two integers, or a fault and less than two. -/
theorem header_took :
    (∃ index size v, m.Took (Wire.encode index ++ Wire.encode size) st.world v ∧
      ∀ {α : Type} (next : Int32 → Int32 → Serve σ α),
        (do let i ← onLink (Wire.readInt link.toSource)
            let n ← onLink (Wire.readInt link.toSource)
            next i n) st = next index size ⟨st.session, v⟩) ∨
      ∃ payload f v, m.Took payload st.world v ∧ payload.length < 8 ∧
        ∀ {α : Type} (next : Int32 → Int32 → Serve σ α),
          (do let i ← onLink (Wire.readInt link.toSource)
              let n ← onLink (Wire.readInt link.toSource)
              next i n) st = .error (.transport f) ⟨st.session, v⟩ := by
  obtain ⟨first, t, hFirst, ⟨hRun, hLength⟩ | ⟨f, hRun, hShort⟩⟩ := h.readInt_took st.session hReady
  case inr => exact Or.inr ⟨first, f, t, hFirst, by omega, fun next => bind_error hRun⟩
  obtain ⟨second, u, hSecond, ⟨hRun', hLength'⟩ | ⟨f, hRun', hShort⟩⟩ :=
    h.readInt_took st.session hFirst.1
  case inr =>
    refine Or.inr ⟨first ++ second, f, u, hFirst.trans hSecond, ?_, fun next => ?_⟩
    · rw [List.length_append]
      omega
    · rw [bind_ok hRun]
      exact bind_error hRun'
  refine Or.inl ⟨Wire.decode first, Wire.decode second, u, ?_, fun next => ?_⟩
  · rw [Wire.encode_decode hLength, Wire.encode_decode hLength']
    exact hFirst.trans hSecond
  · rw [bind_ok hRun, bind_ok hRun']

theorem handleRead_settles : ∃ payload, Settles m .read payload st (handle link .read st) := by
  obtain ⟨index, size, v, hTook, hRun⟩ | ⟨payload, f, v, hTook, hShort, hRun⟩ :=
    header_took h hReady
  case inr =>
    have hFails : handle link .read st = .error (.transport f) ⟨st.session, v⟩ := hRun _
    have hHeader : payload.length < headerLength .read := hShort
    rw [hFails]
    exact ⟨payload, settles_short hTook hHeader f⟩
  have hSession : session (⟨st.session, v⟩ : Serving σ) = .ok st.session ⟨st.session, v⟩ := rfl
  have hFields : Wire.encode index ++ (Wire.encode size ++ []) =
      Wire.encode index ++ Wire.encode size := by
    rw [List.append_nil]
  have hSettled : st.session.settled .read (Wire.encode index ++ Wire.encode size) =
      if st.session.Admits (.read index size) then st.session.effect (.read index size)
      else st.session :=
    settled_of_request rfl rfl
  refine ⟨Wire.encode index ++ Wire.encode size, ?_⟩
  show Settles m .read (Wire.encode index ++ Wire.encode size) st (handleRead link st)
  unfold handleRead
  rw [hRun, bind_ok hSession]
  cases hPool : st.session.pool with
  | none =>
    have hAdmits : st.session.Admits (.read index size) := fun p hp => by
      cases hPool.symm.trans hp
    refine settles_ok hTook ?_ (not_breach_of_none hPool (Or.inl rfl))
    rw [hSettled, if_pos hAdmits]
    simp [effect, hPool]
  | some p =>
    have hBreach := breach_iff hPool (Or.inl rfl) hFields
    simp only
    by_cases hCovers : p.Covers index.toInt size.toInt
    · have hAdmits : st.session.Admits (.read index size) := fun q hq => by
        cases hPool.symm.trans hq
        exact hCovers
      have hCheck : check .pool (p.read index size) (⟨st.session, v⟩ : Serving σ) =
          .ok (p.slice ⟨index.toInt.toNat, size.toInt.toNat⟩) ⟨st.session, v⟩ := by
        rw [Pool.read_of_covers hCovers]
        rfl
      rw [bind_ok hCheck]
      refine settles_reply (Sink.writeAll_moves m.still_durable h.write _) hTook ?_ fun hNow =>
        hBreach.mp hNow hCovers
      rw [hSettled, if_pos hAdmits]
      simp [effect, hPool]
    · have hCheck : check .pool (p.read index size) (⟨st.session, v⟩ : Serving σ) =
          .error (.pool ⟨index.toInt, size.toInt, p.length⟩) ⟨st.session, v⟩ := by
        unfold Pool.read
        rw [Pool.range_of_not_covers hCovers]
        rfl
      rw [bind_error hCheck]
      exact settles_breach hTook (hBreach.mpr hCovers) rfl

omit hReady in
/-- Without a pool, data is fetched and dropped after the rejection is counted. -/
theorem write_rejected {index size : Int32} {v : σ}
    (hHeader : m.Took (Wire.encode index ++ Wire.encode size) st.world v)
    (hPool : st.session.pool = none) :
    ∃ payload, Settles m .write payload st
      ((do update countRejected
           onLink (link.discard size.toInt.toNat) : Serve σ Unit) ⟨st.session, v⟩) := by
  have hUpdate : update countRejected (⟨st.session, v⟩ : Serving σ) =
      .ok () ⟨st.session.countRejected, v⟩ := rfl
  obtain ⟨data, u, hData, hRun⟩ := h.discard_took size.toInt.toNat hHeader.1
  have hSettled : st.session.countRejected =
      st.session.settled .write (Wire.encode index ++ Wire.encode size ++ data) := by
    refine (settled_rejected hPool ?_).symm
    simp only [List.length_append, Wire.length_encode]
    omega
  have hNot := @not_breach_of_none st.session .write (Wire.encode index ++ Wire.encode size ++
      data) hPool (Or.inr rfl)
  refine ⟨Wire.encode index ++ Wire.encode size ++ data, ?_⟩
  rw [bind_ok hUpdate]
  rcases hRun with ⟨hRun, -⟩ | ⟨f, hRun, -⟩
  · have hOk : onLink (link.discard size.toInt.toNat) ⟨st.session.countRejected, v⟩ =
        .ok () ⟨_, u⟩ := onLink_ok hRun
    rw [hOk]
    exact settles_ok (hHeader.trans hData) hSettled hNot
  · have hError : onLink (link.discard size.toInt.toNat) ⟨st.session.countRejected, v⟩ =
        .error (.transport f) ⟨_, u⟩ :=
      onLink_error hRun
    rw [hError]
    exact settles_transport (hHeader.trans hData) hSettled hNot f

omit hReady in
/-- With a pool, the range is checked first, and the data is stored when all of it is there. -/
theorem write_stored {index size : Int32} {v : σ}
    (hHeader : m.Took (Wire.encode index ++ Wire.encode size) st.world v) {p : Pool}
    (hPool : st.session.pool = some p) :
    ∃ payload, Settles m .write payload st
      ((do let range ← check .pool (p.range index.toInt size.toInt)
           let data ← onLink (link.readExact range.length)
           let written ← check .pool (p.write index data)
           update fun s => { s with pool := some written } : Serve σ Unit) ⟨st.session, v⟩) := by
  by_cases hCovers : p.Covers index.toInt size.toInt
  case neg =>
    have hFields : Wire.encode index ++ (Wire.encode size ++ []) =
        Wire.encode index ++ Wire.encode size := by
      rw [List.append_nil]
    have hCheck : check .pool (p.range index.toInt size.toInt) (⟨st.session, v⟩ : Serving σ) =
        .error (.pool ⟨index.toInt, size.toInt, p.length⟩) ⟨st.session, v⟩ := by
      rw [Pool.range_of_not_covers hCovers]
      rfl
    rw [bind_error hCheck]
    exact ⟨_, settles_breach hHeader ((breach_iff hPool (Or.inr rfl) hFields).mpr hCovers) rfl⟩
  have hCheck : check .pool (p.range index.toInt size.toInt) (⟨st.session, v⟩ : Serving σ) =
      .ok ⟨index.toInt.toNat, size.toInt.toNat⟩ ⟨st.session, v⟩ := by
    rw [Pool.range_of_covers hCovers]
    rfl
  obtain ⟨data, u, hData, hRun⟩ := h.readExact_took size.toInt.toNat hHeader.1
  have hFields : Wire.encode index ++ (Wire.encode size ++ data) =
      Wire.encode index ++ Wire.encode size ++ data :=
    (List.append_assoc _ _ _).symm
  have hNot : ¬ st.session.Breach .write (Wire.encode index ++ Wire.encode size ++
        data) := fun hNow =>
          (breach_iff hPool (Or.inr rfl) hFields).mp hNow hCovers
  refine ⟨Wire.encode index ++ Wire.encode size ++ data, ?_⟩
  rw [bind_ok hCheck]
  rcases hRun with ⟨hRun, hLength⟩ | ⟨f, hRun, hShort⟩
  · have hRead : onLink (link.readExact size.toInt.toNat) ⟨st.session, v⟩ =
        .ok data ⟨st.session, u⟩ := onLink_ok hRun
    have hStore : check .pool (p.write index data) (⟨st.session, u⟩ : Serving σ) =
        .ok (p.overlay index.toInt.toNat data) ⟨st.session, u⟩ := by
      rw [Pool.write_of_covers hLength hCovers]
      rfl
    have hAdmits : st.session.Admits (.write index size data hLength) := fun q hq => by
      cases hPool.symm.trans hq
      exact hCovers
    have hSettled : st.session.settled .write (Wire.encode index ++ Wire.encode size ++ data) =
        if st.session.Admits (.write index size data hLength) then
          st.session.effect (.write index size data hLength)
        else st.session :=
      settled_of_request rfl rfl
    rw [bind_ok hRead, bind_ok hStore]
    refine settles_ok (hHeader.trans hData) ?_ hNot
    rw [hSettled, if_pos hAdmits]
    simp only [effect, hPool]
  · have hRead : onLink (link.readExact size.toInt.toNat) ⟨st.session, v⟩ =
        .error (.transport f) ⟨st.session, u⟩ :=
      onLink_error hRun
    rw [bind_error hRead]
    exact settles_transport (hHeader.trans hData)
      (settled_cut_short hPool hFields hShort).symm hNot f

theorem handleWrite_settles : ∃ payload, Settles m .write payload st (handle link .write st) := by
  obtain ⟨index, size, v, hTook, hRun⟩ | ⟨payload, f, v, hTook, hShort, hRun⟩ :=
    header_took h hReady
  case inr =>
    have hFails : handle link .write st = .error (.transport f) ⟨st.session, v⟩ := hRun _
    have hHeader : payload.length < headerLength .write := hShort
    rw [hFails]
    exact ⟨payload, settles_short hTook hHeader f⟩
  have hSession : session (⟨st.session, v⟩ : Serving σ) = .ok st.session ⟨st.session, v⟩ := rfl
  show ∃ payload, Settles m .write payload st (handleWrite link st)
  unfold handleWrite
  rw [hRun, bind_ok hSession]
  cases hPool : st.session.pool with
  | none => exact write_rejected h hTook hPool
  | some p => exact write_stored h hTook hPool

/-- The mailbox is drained before the reply is written. -/
theorem handleInputRequest_settles :
    ∃ payload, Settles m .inputRequest payload st (handle link .inputRequest st) := by
  obtain ⟨payload, v, hTook, ⟨hRun, hLength⟩ | ⟨f, hRun, hShort⟩⟩ :=
    h.readInt_took st.session hReady
  case inr =>
    have hFails : handle link .inputRequest st = .error (.transport f) ⟨st.session, v⟩ :=
      bind_error hRun
    have hHeader : payload.length < headerLength .inputRequest := hShort
    rw [hFails]
    exact ⟨payload, settles_short hTook hHeader f⟩
  let limit := (Wire.decode payload).toInt.toNat
  let bytes := st.session.mailbox.bytes.take limit
  let rest : Session := { st.session with mailbox := ⟨st.session.mailbox.bytes.drop limit⟩ }
  have hSession : session (⟨st.session, v⟩ : Serving σ) = .ok st.session ⟨st.session, v⟩ := rfl
  have hUpdate : update (fun s => { s with mailbox := ⟨st.session.mailbox.bytes.drop limit⟩ })
      (⟨st.session, v⟩ : Serving σ) = .ok () ⟨rest, v⟩ := rfl
  have hSettled : st.session.settled .inputRequest payload = rest := by
    rw [settled_of_request (r := .inputRequest (Wire.decode payload)) rfl
      (Wire.encode_decode hLength)]
    exact if_pos trivial
  let count : EStateM Fault σ Unit := Wire.writeInt link.toSink (clampLength bytes.length)
  let input : EStateM Fault σ Unit := link.writeAll bytes
  have hWrites : handle link .inputRequest st = onLink (count >>= fun _ => input) ⟨rest, v⟩ := by
    show handleInputRequest link st = _
    unfold handleInputRequest
    rw [bind_ok hRun, bind_ok hSession]
    simp only [Mailbox.drain]
    rw [bind_ok hUpdate, onLink_bind]
  refine ⟨payload, ?_⟩
  rw [hWrites]
  refine settles_reply ?_ hTook hSettled.symm (fun hNow => hNow)
  have hWrite := fun bs => Sink.writeAll_moves m.still_durable h.write bs
  exact Moves.bind m.still_durable (hWrite _) fun _ => hWrite _

/-- Every command fetches a payload and leaves the session that this payload leaves. -/
theorem handle_settles (command : Command) :
    ∃ payload, Settles m command payload st (handle link command st) := by
  cases command with
  | init => exact handle_at_once_settles (r := .init) h hReady rfl (by simp)
  | initPool => exact handleInitPool_settles h hReady
  | read => exact handleRead_settles h hReady
  | write => exact handleWrite_settles h hReady
  | inputAvailable => exact handle_at_once_settles (r := .inputAvailable) h hReady rfl (by simp)
  | inputRequest => exact handleInputRequest_settles h hReady
  | inputPeek => exact handle_at_once_settles (r := .inputPeek) h hReady rfl (by simp)
  | ping => exact handle_at_once_settles (r := .ping) h hReady rfl (by simp)

end Session

end MemoryBridge
