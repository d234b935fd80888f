import MemoryBridge.Proofs.Keeping
import MemoryBridge.Proofs.Tracing.Tick

/-!
# Commands take effect as a whole

A command changes the pool as the whole of it says, or not at all, whatever the link does meanwhile.
`dispatch_whole` says so of every session, every code and every link: the pool afterwards is the old
one or the one that the complete request leaves, a command that is carried out has got all of its
payload, and every failure before that leaves alone what the session holds.

It also says when the device itself is to blame. A pool of negative size and an access outside of
the pool are refused as soon as the header of the command is there: no data is read for them and
nothing is written.

What a command has read is taken from the trace of a traced link. A link that fails in a payload and
one that fails in a reply are told apart by the operation that fails.
-/

namespace MemoryBridge

variable {σ : Type}

/-! ## Operations -/

namespace Operation

/-- A read of a payload that fails, or finds the stream at its end. An interrupted read is tried
again. -/
def cutsPayload : Operation → Bool
  | .read _ .blocking _ (.error f) => f.kind != .interrupted
  | .read _ .blocking _ (.ok bs) => bs.isEmpty
  | _ => false

def isWrite : Operation → Bool
  | .write _ _ _ => true
  | _ => false

theorem costsLink_of_cutsPayload {op : Operation} (h : op.cutsPayload = true) :
    op.costsLink = true := by
  cases op with
  | read k mode n result =>
    cases mode with
    | poll => cases h
    | blocking => cases result <;> exact h
  | _ => cases h

end Operation

namespace Traced

/-- From `s` to `t` only such operations were made. -/
def Adds (p : Operation → Prop) (s t : Traced σ) : Prop :=
  ∃ ops, t.trace = s.trace ++ ops ∧ ∀ op ∈ ops, p op

theorem adds_durable (p : Operation → Prop) : Durable (Adds (σ := σ) p) where
  refl s := ⟨[], by rw [List.append_nil], by simp⟩
  trans := by
    rintro s t u ⟨ops, hTrace, hOps⟩ ⟨later, hTrace', hLater⟩
    refine ⟨ops ++ later, by rw [hTrace', hTrace, List.append_assoc], ?_⟩
    intro op hOp
    rcases List.mem_append.mp hOp with hOp | hOp
    · exact hOps op hOp
    · exact hLater op hOp

theorem Adds.all {p : Operation → Prop} {s t : Traced σ} {ops : List Operation} (h : Adds p s t)
    (hTrace : t.trace = s.trace ++ ops) : ∀ op ∈ ops, p op := by
  obtain ⟨ops', hTrace', hOps⟩ := h
  rw [hTrace] at hTrace'
  rwa [List.append_cancel_left hTrace']

theorem note_adds {α : Type} {p : Operation → Prop} {operation : Except Fault α → Operation}
    (act : EStateM Fault σ α) (h : ∀ result, p (operation result)) :
    Moves (Adds p) (note operation act) := by
  intro s
  refine ⟨_, (note_end operation act s).1, ?_⟩
  intro op hOp
  rw [List.mem_singleton.mp hOp]
  exact h _

/-- No payload was cut short. -/
def Uncut : Traced σ → Traced σ → Prop :=
  Adds fun op => op.cutsPayload = false

/-- Nothing was written to a link. -/
def Silent : Traced σ → Traced σ → Prop :=
  Adds fun op => op.isWrite = false

variable (host : Host σ) (k : LinkId)

theorem write_uncut (bs : Bytes) : Moves Uncut ((link host k).write bs) := by
  intro s
  rw [link_write]
  exact note_adds (p := fun op => op.cutsPayload = false) _ (fun _ => rfl) s

theorem flush_uncut : Moves Uncut (link host k).flush := by
  intro s
  rw [link_flush]
  exact note_adds (p := fun op => op.cutsPayload = false) _ (fun _ => rfl) s

theorem read_silent (n : Nat) : Moves Silent ((link host k).read n) := by
  intro s
  rw [link_read]
  exact note_adds (p := fun op => op.isWrite = false) _ (fun _ => rfl) s

end Traced

/-! ## What a command asks for -/

/-- The pool that a request leaves of a session. A request that the session does not admit leaves it
alone. -/
def DeviceRequest.LeavesPool (s : Session) (after : Option Pool) : DeviceRequest → Prop
  | .init => after = none
  | .initPool size =>
    after = if s.initialized ∧ 0 ≤ size.toInt then some (.zeros size.toInt.toNat) else s.pool
  | .write index size data _ =>
    match s.pool with
    | none => after = none
    | some p =>
      if p.Covers index.toInt size.toInt then
        ∃ q, after = some q ∧ p.Stores q index.toInt.toNat data
      else after = some p
  | _ => after = s.pool

theorem leavesPool_after (s : Session) (r : DeviceRequest) :
    r.LeavesPool s (s.holdings.after (.received r)).pool := by
  cases r with
  | initPool size =>
    by_cases h : s.initialized = true ∧ 0 ≤ size.toInt
    · simp [DeviceRequest.LeavesPool, Holdings.after, Session.holdings, h]
    · simp [DeviceRequest.LeavesPool, Holdings.after, Session.holdings, h]
  | write index size data whole =>
    cases hPool : s.pool with
    | none => simp [DeviceRequest.LeavesPool, Holdings.after, Session.holdings, hPool]
    | some p =>
      by_cases hCovers : p.Covers index.toInt size.toInt
      · have hFits : index.toInt.toNat + data.length ≤ p.length := by
          obtain ⟨hIndex, hSize, hEnd⟩ := hCovers
          omega
        simpa [DeviceRequest.LeavesPool, Holdings.after, Session.holdings, hPool,
          hCovers] using Pool.overlay_stores hFits
      · simp [DeviceRequest.LeavesPool, Holdings.after, Session.holdings, hPool, hCovers]
  | _ => rfl

namespace Session

open Serve Traced

/-- The error by which a command fails whose payload asks for what ends the session. -/
def complaint (s : Session) (command : Command) (payload : Bytes) : ServeError :=
  match command with
  | .initPool => .invalidPoolSize (Wire.decode payload)
  | _ => .pool ⟨(Wire.decode (payload.take 4)).toInt, (Wire.decode ((payload.drop 4).take 4)).toInt,
      (s.pool.map Pool.length).getD 0⟩

/-- What the course of a command on the link `k` tells. Its payload was `payload`. -/
structure Course {α : Type} (k : LinkId) (command : Command) (payload : Bytes)
    (st : Serving (Traced σ)) (r : EStateM.Result ServeError (Serving (Traced σ)) α) : Prop where
  took : (meter k).Took payload st.world (endState r).world
  whole : succeeds r = true → ∃ q, DeviceRequest.ofPayload? command payload = some q
  uncut : DeviceRequest.ofPayload? command payload = none ∨ Uncut st.world (endState r).world
  complains : ∀ e, toExcept r = .error e → e.isBreach = true →
    e = st.session.complaint command payload ∧ payload.length = headerLength command ∧
      Silent st.world (endState r).world

section

variable {α : Type} {k : LinkId} {command : Command} {payload : Bytes} {st : Serving (Traced σ)}
  {s : Session} {v : Traced σ} {q : DeviceRequest}

/-- The link has failed, in the payload or when all of it was there. -/
theorem course_transport (hTook : (meter k).Took payload st.world v)
    (hCut : DeviceRequest.ofPayload? command payload = none ∨ Uncut st.world v) (f : Fault) :
    Course k command payload st
      (.error (.transport f) ⟨s, v⟩ : EStateM.Result ServeError (Serving (Traced σ)) α) where
  took := hTook
  whole h := by cases h
  uncut := hCut
  complains e he hBreach := by
    cases he
    cases hBreach

/-- A failure is a failure of all that it is part of. -/
theorem Course.fails {β : Type} {e : ServeError} {t : Serving (Traced σ)}
    (h : Course k command payload st
      (.error e t : EStateM.Result ServeError (Serving (Traced σ)) α)) :
    Course k command payload st
      (.error e t : EStateM.Result ServeError (Serving (Traced σ)) β) where
  took := h.took
  whole hOk := by cases hOk
  uncut := h.uncut
  complains e' he hBreach := by
    cases he
    exact h.complains e rfl hBreach

theorem course_ok (a : α) (hTook : (meter k).Took payload st.world v)
    (hWhole : DeviceRequest.ofPayload? command payload = some q) (hUncut : Uncut st.world v) :
    Course k command payload st
      (.ok a ⟨s, v⟩ : EStateM.Result ServeError (Serving (Traced σ)) α) where
  took := hTook
  whole _ := ⟨q, hWhole⟩
  uncut := Or.inr hUncut
  complains e he := by cases he

/-- A command ends with a reply, or with none. -/
theorem course_reply {act : EStateM Fault (Traced σ) Unit} (hStill : Moves (meter k).Still act)
    (hMoves : Moves Uncut act) (hTook : (meter k).Took payload st.world v)
    (hWhole : DeviceRequest.ofPayload? command payload = some q) (hUncut : Uncut st.world v) :
    Course k command payload st (onLink act ⟨s, v⟩) := by
  have hSame := hTook.trans (hStill v hTook.1)
  have hBoth := (adds_durable _).trans hUncut (hMoves v)
  rw [List.append_nil] at hSame
  cases hRun : act v with
  | ok u v' =>
    rw [hRun] at hSame hBoth
    have hOk : onLink act ⟨s, v⟩ = .ok () ⟨s, v'⟩ := onLink_ok hRun
    rw [hOk]
    exact course_ok () hSame hWhole hBoth
  | error f v' =>
    rw [hRun] at hSame hBoth
    have hError : onLink act ⟨s, v⟩ = .error (.transport f) ⟨s, v'⟩ := onLink_error hRun
    rw [hError]
    exact course_transport hSame (Or.inr hBoth) f

theorem course_complaint {e : ServeError} (hTook : (meter k).Took payload st.world v)
    (he : e = st.session.complaint command payload)
    (hLength : payload.length = headerLength command) (hUncut : Uncut st.world v)
    (hSilent : Silent st.world v) :
    Course k command payload st
      (.error e ⟨s, v⟩ : EStateM.Result ServeError (Serving (Traced σ)) α) where
  took := hTook
  whole h := by cases h
  uncut := Or.inr hUncut
  complains e' he' _ := by
    cases he'
    exact ⟨he, hLength, hSilent⟩

end

section

variable {α : Type} (host : Host σ) {k : LinkId}

/-- A step that succeeds has not cut a payload short. -/
theorem uncut_of_ok {act : Serve (Traced σ) α} (h : Accounts k .blocking act)
    {st t : Serving (Traced σ)} {a : α} (hMode : st.world.asked k = .blocking)
    (hRun : act st = .ok a t) : Uncut st.world t.world := by
  obtain ⟨ops, hOps⟩ := h st hMode
  rw [hRun] at hOps
  refine ⟨ops, hOps.trace, ?_⟩
  intro op hOp
  by_contra hCuts
  have hCost := Operation.costsLink_of_cutsPayload (by simpa using hCuts)
  have hNone : ops.any Operation.costsLink = false := hOps.link
  rw [List.any_eq_false] at hNone
  exact hNone op hOp hCost

theorem readInt_silent :
    Moves (WorldRel Silent) (onLink (Wire.readInt (host.traced.link k).toSource)) :=
  onLink_moves (Moves.map _ (Source.readExact_moves (adds_durable _) (read_silent host k) _))

theorem writeAll_uncut (bs : Bytes) : Moves Uncut ((host.traced.link k).writeAll bs) :=
  Sink.writeAll_moves (adds_durable _) (write_uncut host k) bs

theorem writeAll_still (bs : Bytes) : Moves (meter k).Still ((host.traced.link k).writeAll bs) :=
  Sink.writeAll_moves (meter k).still_durable (meters host k).link.write bs

variable {st : Serving (Traced σ)} (hMode : st.world.asked k = .blocking)

include hMode

/-- One integer: it is there, or less than it and a fault. -/
theorem readInt_course :
    (∃ size v, (meter k).Took (Wire.encode size) st.world v ∧ Uncut st.world v ∧ Silent st.world v ∧
      onLink (Wire.readInt (host.traced.link k).toSource) st = .ok size ⟨st.session, v⟩) ∨
      ∃ payload f v, (meter k).Took payload st.world v ∧ payload.length < 4 ∧
        onLink (Wire.readInt (host.traced.link k).toSource) st =
          .error (.transport f) ⟨st.session, v⟩ := by
  have hTaken := (meters host k).link.readInt_took st.session hMode
  obtain ⟨payload, v, hTook, ⟨hRun, hLength⟩ | ⟨f, hRun, hShort⟩⟩ := hTaken
  · have hSilent :
        WorldRel Silent st (endState (onLink (Wire.readInt (host.traced.link k).toSource) st)) :=
      readInt_silent host st
    rw [show onLink (Wire.readInt (host.traced.link k).toSource) st = _ from hRun] at hSilent
    rw [← Wire.encode_decode hLength] at hTook
    exact Or.inl ⟨_, v, hTook, uncut_of_ok (readInt_accounts host k) hMode hRun, hSilent, hRun⟩
  · exact Or.inr ⟨payload, f, v, hTook, hShort, hRun⟩

/-- The header of an access to the pool: its two integers, or less than two and a fault. -/
theorem header_course :
    (∃ index size v, (meter k).Took (Wire.encode index ++ Wire.encode size) st.world v ∧
      Uncut st.world v ∧
      Silent st.world v ∧ ∀ {β : Type} (next : Int32 → Int32 → Serve (Traced σ) β),
        (do let i ← onLink (Wire.readInt (host.traced.link k).toSource)
            let n ← onLink (Wire.readInt (host.traced.link k).toSource)
            next i n) st = next index size ⟨st.session, v⟩) ∨
      ∃ payload f v, (meter k).Took payload st.world v ∧ payload.length < 8 ∧
        ∀ {β : Type} (next : Int32 → Int32 → Serve (Traced σ) β),
          (do let i ← onLink (Wire.readInt (host.traced.link k).toSource)
              let n ← onLink (Wire.readInt (host.traced.link k).toSource)
              next i n) st = .error (.transport f) ⟨st.session, v⟩ := by
  rcases header_took (meters host k).link hMode with ⟨index, size, v, hTook, hRun⟩ | hShort
  case inr => exact Or.inr hShort
  let both : Serve (Traced σ) (Int32 × Int32) := do
    let i ← onLink (Wire.readInt (host.traced.link k).toSource)
    let n ← onLink (Wire.readInt (host.traced.link k).toSource)
    pure (i, n)
  have hBoth : both st = .ok (index, size) ⟨st.session, v⟩ := hRun fun i n => pure (i, n)
  have hAccounts : Accounts k .blocking both :=
    Traced.Accounts.bind (readInt_accounts host k) fun i =>
      Traced.Accounts.bind (readInt_accounts host k) fun n => Traced.Accounts.pure (i, n)
  have hD : Durable (WorldRel (Silent (σ := σ))) := (adds_durable _).worldRel
  have hSilent : Moves (WorldRel Silent) both :=
    Moves.bind hD (readInt_silent host) fun i => Moves.bind hD (readInt_silent host) fun n =>
      Moves.pure hD (i, n)
  have hQuiet := hSilent st
  rw [hBoth] at hQuiet
  exact Or.inl ⟨index, size, v, hTook, uncut_of_ok hAccounts hMode hBoth, hQuiet, hRun⟩

/-! ## The commands one by one -/

theorem handle_at_once_course {q : DeviceRequest} {command : Command}
    (hCommand : q.command? = some command)
    (hAtOnce : command ∈ [.init, .inputAvailable, .inputPeek, .ping]) :
    ∃ payload, Course k command payload st (handle (host.traced.link k) command st) := by
  have hPayload : q.payload = [] := by
    cases q <;> first | rfl | (cases hCommand; simp at hAtOnce)
  have hWhole : DeviceRequest.ofPayload? command [] = some q :=
    DeviceRequest.ofPayload?_eq_some_iff.mpr ⟨hCommand, hPayload⟩
  rw [handle_at_once (host.traced.link k) hCommand hAtOnce st]
  have hNothing : Uncut st.world st.world := (adds_durable _).refl _
  exact ⟨[], course_reply (writeAll_still host _) (writeAll_uncut host _)
    (Meter.Took.refl hMode) hWhole hNothing⟩

theorem handleInitPool_course :
    ∃ payload, Course k .initPool payload st (handle (host.traced.link k) .initPool st) := by
  rcases readInt_course host hMode with
    ⟨size, v, hTook, hUncut, hSilent, hRun⟩ | ⟨payload, f, v, hTook, hShort, hRun⟩
  case inr =>
    have hFails : handle (host.traced.link k) .initPool st =
        .error (.transport f) ⟨st.session, v⟩ := bind_error hRun
    have hHeader : payload.length < headerLength .initPool := hShort
    rw [hFails]
    exact ⟨payload, course_transport hTook (Or.inl (ofPayload?_short hHeader)) f⟩
  have hSession : session (⟨st.session, v⟩ : Serving (Traced σ)) =
      .ok st.session ⟨st.session, v⟩ := rfl
  have hWhole : DeviceRequest.ofPayload? .initPool (Wire.encode size) = some (.initPool size) :=
    DeviceRequest.ofPayload?_eq_some_iff.mpr ⟨rfl, rfl⟩
  refine ⟨Wire.encode size, ?_⟩
  show Course k .initPool _ st (handleInitPool (host.traced.link k) st)
  unfold handleInitPool
  rw [bind_ok hRun, bind_ok hSession]
  by_cases hInit : st.session.initialized = true
  · rw [if_pos hInit]
    by_cases hSize : 0 ≤ size.toInt
    · rw [if_pos hSize]
      exact course_ok () hTook hWhole hUncut
    · rw [if_neg hSize]
      refine course_complaint hTook ?_ (Wire.length_encode size) hUncut hSilent
      rw [complaint, Wire.decode_encode]
  · rw [if_neg hInit]
    exact course_ok () hTook hWhole hUncut

omit hMode in
/-- A range that a pool does not cover. -/
theorem access_complaint {command : Command} (hAccess : command = .read ∨ command = .write)
    {index size : Int32} {p : Pool} (hPool : st.session.pool = some p) {v : Traced σ}
    (hTook : (meter k).Took (Wire.encode index ++ Wire.encode size) st.world v)
    (hUncut : Uncut st.world v) (hSilent : Silent st.world v) :
    Course k command (Wire.encode index ++ Wire.encode size) st
      (.error (.pool ⟨index.toInt, size.toInt, p.length⟩) ⟨st.session, v⟩ :
        EStateM.Result ServeError (Serving (Traced σ)) Unit) := by
  have hFields : Wire.encode index ++ (Wire.encode size ++ []) =
      Wire.encode index ++ Wire.encode size := by
    rw [List.append_nil]
  obtain ⟨hIndex, hSize, -⟩ := header_fields hFields
  rcases hAccess with rfl | rfl
  all_goals
    refine course_complaint hTook ?_ (by simp [headerLength]) hUncut hSilent
    simp only [complaint, hIndex, hSize, hPool, Option.map_some, Option.getD_some]

theorem handleRead_course :
    ∃ payload, Course k .read payload st (handle (host.traced.link k) .read st) := by
  rcases header_course host hMode with
    ⟨index, size, v, hTook, hUncut, hSilent, hRun⟩ | ⟨payload, f, v, hTook, hShort, hRun⟩
  case inr =>
    have hFails : handle (host.traced.link k) .read st = .error (.transport f) ⟨st.session, v⟩ :=
      hRun _
    have hHeader : payload.length < headerLength .read := hShort
    rw [hFails]
    exact ⟨payload, course_transport hTook (Or.inl (ofPayload?_short hHeader)) f⟩
  have hSession : session (⟨st.session, v⟩ : Serving (Traced σ)) =
      .ok st.session ⟨st.session, v⟩ := rfl
  have hWhole : DeviceRequest.ofPayload? .read (Wire.encode index ++ Wire.encode size) =
      some (.read index size) :=
    DeviceRequest.ofPayload?_eq_some_iff.mpr ⟨rfl, rfl⟩
  refine ⟨Wire.encode index ++ Wire.encode size, ?_⟩
  show Course k .read _ st (handleRead (host.traced.link k) st)
  unfold handleRead
  rw [hRun, bind_ok hSession]
  cases hPool : st.session.pool with
  | none => exact course_ok () hTook hWhole hUncut
  | some p =>
    simp only
    by_cases hCovers : p.Covers index.toInt size.toInt
    · have hCheck : check .pool (p.read index size) (⟨st.session, v⟩ : Serving (Traced σ)) =
          .ok (p.slice ⟨index.toInt.toNat, size.toInt.toNat⟩) ⟨st.session, v⟩ := by
        rw [Pool.read_of_covers hCovers]
        rfl
      rw [bind_ok hCheck]
      exact course_reply (writeAll_still host _) (writeAll_uncut host _) hTook hWhole hUncut
    · have hCheck : check .pool (p.read index size) (⟨st.session, v⟩ : Serving (Traced σ)) =
          .error (.pool ⟨index.toInt, size.toInt, p.length⟩) ⟨st.session, v⟩ := by
        unfold Pool.read
        rw [Pool.range_of_not_covers hCovers]
        rfl
      rw [bind_error hCheck]
      exact access_complaint (Or.inl rfl) hPool hTook hUncut hSilent

omit hMode in
/-- Data for a pool that does not exist. -/
theorem write_dropped {index size : Int32} {v : Traced σ}
    (hHeader : (meter k).Took (Wire.encode index ++ Wire.encode size) st.world v)
    (hUncut : Uncut st.world v) :
    ∃ payload, Course k .write payload st
      ((do update countRejected
           onLink ((host.traced.link k).discard size.toInt.toNat) :
             Serve (Traced σ) Unit) ⟨st.session, v⟩) := by
  have hUpdate : update countRejected (⟨st.session, v⟩ : Serving (Traced σ)) =
      .ok () ⟨st.session.countRejected, v⟩ := rfl
  have hAccounts : Accounts k .blocking (onLink ((host.traced.link k).discard size.toInt.toNat)) :=
    onLink_accounts (discard_accounts host k _)
  have hBusy : ({ session := st.session.countRejected, world := v } :
        Serving (Traced σ)).world.asked k = .blocking :=
    hHeader.1
  obtain ⟨data, u, hData, hRun⟩ := (meters host k).link.discard_took size.toInt.toNat hHeader.1
  refine ⟨Wire.encode index ++ Wire.encode size ++ data, ?_⟩
  rw [bind_ok hUpdate]
  rcases hRun with ⟨hRun, hLength⟩ | ⟨f, hRun, hShort⟩
  · have hOk :
        onLink ((host.traced.link k).discard size.toInt.toNat) ⟨st.session.countRejected, v⟩ =
        .ok () ⟨_, u⟩ := onLink_ok hRun
    have hRest := uncut_of_ok hAccounts hBusy hOk
    have hWhole : DeviceRequest.ofPayload? .write (Wire.encode index ++ Wire.encode size ++ data) =
        some (.write index size data hLength) := DeviceRequest.ofPayload?_eq_some_iff.mpr ⟨rfl, rfl⟩
    rw [hOk]
    exact course_ok () (hHeader.trans hData) hWhole ((adds_durable _).trans hUncut hRest)
  · have hError :
        onLink ((host.traced.link k).discard size.toInt.toNat) ⟨st.session.countRejected, v⟩ =
        .error (.transport f) ⟨_, u⟩ := onLink_error hRun
    rw [hError]
    exact course_transport (hHeader.trans hData)
      (Or.inl (ofPayload?_cut_short (List.append_assoc _ _ _).symm hShort)) f

omit hMode in
/-- Data for a pool that covers it is read in full and stored. -/
theorem write_covered {index size : Int32} {p : Pool} {v : Traced σ}
    (hHeader : (meter k).Took (Wire.encode index ++ Wire.encode size) st.world v)
    (hUncut : Uncut st.world v) (hCovers : p.Covers index.toInt size.toInt) :
    ∃ payload, Course k .write payload st
      ((do let data ← onLink ((host.traced.link k).readExact size.toInt.toNat)
           let written ← check .pool (p.write index data)
           update fun s =>
             { s with pool := some written } : Serve (Traced σ) Unit) ⟨st.session, v⟩) := by
  have hAccounts :
      Accounts k .blocking (onLink ((host.traced.link k).readExact size.toInt.toNat)) :=
    onLink_accounts (readExact_accounts host k _)
  have hBusy : ({ session := st.session, world := v } : Serving (Traced σ)).world.asked k =
      .blocking := hHeader.1
  obtain ⟨data, u, hData, hRun⟩ := (meters host k).link.readExact_took size.toInt.toNat hHeader.1
  refine ⟨Wire.encode index ++ Wire.encode size ++ data, ?_⟩
  rcases hRun with ⟨hRun, hLength⟩ | ⟨f, hRun, hShort⟩
  · have hOk : onLink ((host.traced.link k).readExact size.toInt.toNat) ⟨st.session, v⟩ =
        .ok data ⟨_, u⟩ :=
      onLink_ok hRun
    have hRest := uncut_of_ok hAccounts hBusy hOk
    have hWhole : DeviceRequest.ofPayload? .write (Wire.encode index ++ Wire.encode size ++ data) =
        some (.write index size data hLength) := DeviceRequest.ofPayload?_eq_some_iff.mpr ⟨rfl, rfl⟩
    have hStore : check .pool (p.write index data) (⟨st.session, u⟩ : Serving (Traced σ)) =
        .ok (p.overlay index.toInt.toNat data) ⟨st.session, u⟩ := by
      rw [Pool.write_of_covers hLength hCovers]
      rfl
    rw [bind_ok hOk, bind_ok hStore]
    exact course_ok () (hHeader.trans hData) hWhole ((adds_durable _).trans hUncut hRest)
  · have hError : onLink ((host.traced.link k).readExact size.toInt.toNat) ⟨st.session, v⟩ =
        .error (.transport f) ⟨_, u⟩ := onLink_error hRun
    rw [bind_error hError]
    exact course_transport (hHeader.trans hData)
      (Or.inl (ofPayload?_cut_short (List.append_assoc _ _ _).symm hShort)) f

theorem handleWrite_course :
    ∃ payload, Course k .write payload st (handle (host.traced.link k) .write st) := by
  rcases header_course host hMode with
    ⟨index, size, v, hTook, hUncut, hSilent, hRun⟩ | ⟨payload, f, v, hTook, hShort, hRun⟩
  case inr =>
    have hFails : handle (host.traced.link k) .write st = .error (.transport f) ⟨st.session, v⟩ :=
      hRun _
    have hHeader : payload.length < headerLength .write := hShort
    rw [hFails]
    exact ⟨payload, course_transport hTook (Or.inl (ofPayload?_short hHeader)) f⟩
  have hSession : session (⟨st.session, v⟩ : Serving (Traced σ)) =
      .ok st.session ⟨st.session, v⟩ := rfl
  show ∃ payload, Course k .write payload st (handleWrite (host.traced.link k) st)
  unfold handleWrite
  rw [hRun, bind_ok hSession]
  cases hPool : st.session.pool with
  | none => exact write_dropped host hTook hUncut
  | some p =>
    simp only
    by_cases hCovers : p.Covers index.toInt size.toInt
    · have hCheck :
          check .pool (p.range index.toInt size.toInt) (⟨st.session, v⟩ : Serving (Traced σ)) =
          .ok ⟨index.toInt.toNat, size.toInt.toNat⟩ ⟨st.session, v⟩ := by
        rw [Pool.range_of_covers hCovers]
        rfl
      rw [bind_ok hCheck]
      exact write_covered host hTook hUncut hCovers
    · have hCheck :
          check .pool (p.range index.toInt size.toInt) (⟨st.session, v⟩ : Serving (Traced σ)) =
          .error (.pool ⟨index.toInt, size.toInt, p.length⟩) ⟨st.session, v⟩ := by
        rw [Pool.range_of_not_covers hCovers]
        rfl
      rw [bind_error hCheck]
      exact ⟨_, access_complaint (Or.inr rfl) hPool hTook hUncut hSilent⟩

theorem handleInputRequest_course :
    ∃ payload, Course k .inputRequest payload st
      (handle (host.traced.link k) .inputRequest st) := by
  rcases readInt_course host hMode with
    ⟨limit, v, hTook, hUncut, -, hRun⟩ | ⟨payload, f, v, hTook, hShort, hRun⟩
  case inr =>
    have hFails : handle (host.traced.link k) .inputRequest st =
        .error (.transport f) ⟨st.session, v⟩ := bind_error hRun
    have hHeader : payload.length < headerLength .inputRequest := hShort
    rw [hFails]
    exact ⟨payload, course_transport hTook (Or.inl (ofPayload?_short hHeader)) f⟩
  have hSession : session (⟨st.session, v⟩ : Serving (Traced σ)) =
      .ok st.session ⟨st.session, v⟩ := rfl
  have hWhole : DeviceRequest.ofPayload? .inputRequest (Wire.encode limit) =
      some (.inputRequest limit) :=
    DeviceRequest.ofPayload?_eq_some_iff.mpr ⟨rfl, rfl⟩
  let bytes := st.session.mailbox.bytes.take limit.toInt.toNat
  let rest : Session :=
    { st.session with mailbox := ⟨st.session.mailbox.bytes.drop limit.toInt.toNat⟩ }
  have hUpdate :
      update (fun s => { s with mailbox := ⟨st.session.mailbox.bytes.drop limit.toInt.toNat⟩ })
      (⟨st.session, v⟩ : Serving (Traced σ)) = .ok () ⟨rest, v⟩ := rfl
  let count : EStateM Fault (Traced σ) Unit :=
    Wire.writeInt (host.traced.link k).toSink (clampLength bytes.length)
  let input : EStateM Fault (Traced σ) Unit := (host.traced.link k).writeAll bytes
  have hWrites : handle (host.traced.link k) .inputRequest st =
      onLink (count >>= fun _ => input) ⟨rest, v⟩ := by
    show handleInputRequest (host.traced.link k) st = _
    unfold handleInputRequest
    rw [bind_ok hRun, bind_ok hSession]
    simp only [Mailbox.drain]
    rw [bind_ok hUpdate, onLink_bind]
  refine ⟨Wire.encode limit, ?_⟩
  rw [hWrites]
  refine course_reply ?_ ?_ hTook hWhole hUncut
  · exact Moves.bind (meter k).still_durable (writeAll_still host _) fun _ => writeAll_still host _
  · exact Moves.bind (adds_durable _) (writeAll_uncut host _) fun _ => writeAll_uncut host _

theorem handle_course (command : Command) :
    ∃ payload, Course k command payload st (handle (host.traced.link k) command st) := by
  cases command with
  | init => exact handle_at_once_course host (q := .init) hMode rfl (by simp)
  | initPool => exact handleInitPool_course host hMode
  | read => exact handleRead_course host hMode
  | write => exact handleWrite_course host hMode
  | inputAvailable => exact handle_at_once_course host (q := .inputAvailable) hMode rfl (by simp)
  | inputRequest => exact handleInputRequest_course host hMode
  | inputPeek => exact handle_at_once_course host (q := .inputPeek) hMode rfl (by simp)
  | ping => exact handle_at_once_course host (q := .ping) hMode rfl (by simp)

/-- A command with the flush that ends it. -/
theorem carryOut_course {code : UInt8} {command : Command}
    (hCode : Command.ofCode? code = some command) :
    ∃ payload, Course k command payload st (carryOut (host.traced.link k) code st) := by
  obtain ⟨payload, hCourse⟩ := handle_course host hMode command
  refine ⟨payload, ?_⟩
  unfold carryOut
  rw [hCode]
  simp only
  cases hHandle : handle (host.traced.link k) command st with
  | error e t =>
    rw [hHandle] at hCourse
    rw [bind_error hHandle]
    exact hCourse.fails
  | ok u t =>
    rw [hHandle] at hCourse
    rw [bind_ok hHandle]
    obtain ⟨q, hWhole⟩ := hCourse.whole rfl
    have hUncut : Uncut st.world t.world := by
      rcases hCourse.uncut with hCut | hUncut
      · cases hWhole.symm.trans hCut
      · exact hUncut
    have hFlush : Moves Uncut (host.traced.link k).flush := flush_uncut host k
    have hTook := hCourse.took.trans ((meters host k).link.flush t.world hCourse.took.1)
    have hBoth := (adds_durable _).trans hUncut (hFlush t.world)
    rw [List.append_nil] at hTook
    cases hRun : (host.traced.link k).flush t.world with
    | error f v =>
      have hFails : onLink (host.traced.link k).flush t =
          .error (.transport f) { t with world := v } := onLink_error hRun
      rw [hRun] at hTook hBoth
      rw [bind_error hFails]
      exact course_transport hTook (Or.inr hBoth) f
    | ok u v =>
      have hDone : onLink (host.traced.link k).flush t = .ok () { t with world := v } :=
        onLink_ok hRun
      rw [hRun] at hTook hBoth
      rw [bind_ok hDone]
      exact course_ok (some command) hTook hWhole hBoth

end

/-! ## Complaints -/

section

variable {s : Session} {command : Command} {payload : Bytes}

/-- A session complains about the size of a pool if it is initialized and the size is negative. -/
theorem complains_initPool_iff {n : Int32} :
    s.Breach command payload ∧ s.complaint command payload = .invalidPoolSize n ↔
      command = .initPool ∧ s.initialized = true ∧ payload = Wire.encode n ∧ n.toInt < 0 := by
  constructor
  · rintro ⟨hBreach, hComplaint⟩
    cases command with
    | initPool =>
      obtain ⟨hInit, hLength, hNegative⟩ := hBreach
      cases hComplaint
      exact ⟨rfl, hInit, (Wire.encode_decode hLength).symm, hNegative⟩
    | _ => cases hComplaint
  · rintro ⟨rfl, hInit, rfl, hNegative⟩
    refine ⟨⟨hInit, Wire.length_encode n, ?_⟩, ?_⟩
    · rwa [Wire.decode_encode]
    · rw [complaint, Wire.decode_encode]

/-- It complains about an access if it has a pool that does not cover it. -/
theorem complains_access_iff {e : PoolError} :
    s.Breach command payload ∧ s.complaint command payload = .pool e ↔
      (command = .read ∨ command = .write) ∧ ∃ p index size, s.pool = some p ∧
        Wire.encode index ++ Wire.encode size <+: payload ∧ ¬ p.Covers index.toInt size.toInt ∧
        e = ⟨index.toInt, size.toInt, p.length⟩ := by
  constructor
  · rintro ⟨hBreach, hComplaint⟩
    have hAccess : command = .read ∨ command = .write := by
      cases command with
      | read => exact Or.inl rfl
      | write => exact Or.inr rfl
      | initPool => cases hComplaint
      | _ => exact hBreach.elim
    refine ⟨hAccess, ?_⟩
    obtain ⟨hLength, p, hPool, hOutside⟩ : 8 ≤ payload.length ∧ ∃ p, s.pool = some p ∧
        ¬ p.Covers (Wire.decode (payload.take 4)).toInt
          (Wire.decode ((payload.drop 4).take 4)).toInt := by
      rcases hAccess with rfl | rfl
      · exact hBreach
      · exact hBreach
    have hIndex : (payload.take 4).length = 4 := by
      rw [List.length_take]
      omega
    have hSize : ((payload.drop 4).take 4).length = 4 := by
      rw [List.length_take, List.length_drop]
      omega
    have hFields : Wire.encode (Wire.decode (payload.take 4)) ++
        Wire.encode (Wire.decode ((payload.drop 4).take 4)) =
        payload.take 8 := by
      rw [Wire.encode_decode hIndex, Wire.encode_decode hSize, ← List.take_add]
    refine ⟨p, _, _, hPool, ?_, hOutside, ?_⟩
    · rw [hFields]
      exact List.take_prefix 8 payload
    · rcases hAccess with rfl | rfl
      all_goals
        simp only [complaint, hPool, Option.map_some, Option.getD_some] at hComplaint
        cases hComplaint
        rfl
  · rintro ⟨hAccess, p, index, size, hPool, ⟨rest, hPrefix⟩, hOutside, rfl⟩
    have hFields : Wire.encode index ++ (Wire.encode size ++ rest) = payload := by
      rw [← List.append_assoc]
      exact hPrefix
    obtain ⟨hIndex, hSize, -⟩ := header_fields hFields
    refine ⟨(breach_iff hPool hAccess hFields).mpr hOutside, ?_⟩
    rcases hAccess with rfl | rfl
    all_goals simp only [complaint, hIndex, hSize, hPool, Option.map_some, Option.getD_some]

end

/-! ## Dispatching -/

/-- A code stands for no command but its own. -/
theorem code_eq_iff {code : UInt8} {command : Command} (hCode : Command.ofCode? code = some command)
    (other : Command) : code = other.code ↔ command = other := by
  rw [← Command.code_of_ofCode? hCode]
  refine ⟨fun h => ?_, congrArg Command.code⟩
  have hSame := command.ofCode?_code
  rw [h, other.ofCode?_code] at hSame
  cases hSame
  rfl

/-- What the complete request of a payload leaves of the pool. -/
theorem leavesPool_of_payload {code : UInt8} {command : Command}
    (hCode : Command.ofCode? code = some command) {s t : Session} {payload : Bytes}
    (hSettled : t.holdings = (s.settled command payload).holdings) {q : DeviceRequest}
    (hq : DeviceRequest.ofPayload? command payload = some q) :
    q.code = code ∧ q.payload = payload ∧ q.LeavesPool s t.pool := by
  obtain ⟨hCommand, hPayload⟩ := DeviceRequest.ofPayload?_eq_some_iff.mp hq
  have hSame : q.code = command.code :=
    (Command.code_of_ofCode? (q.ofCode?_code.trans hCommand)).symm
  have hPool : t.pool = (s.holdings.after (.received q)).pool := by
    have hHoldings := congrArg Holdings.pool (hSettled.trans (holdings_settled _ _ _))
    rwa [hq] at hHoldings
  refine ⟨hSame.trans (Command.code_of_ofCode? hCode), hPayload, ?_⟩
  rw [hPool]
  exact leavesPool_after s q

/-- What the operations `ops` of a command with the given code tell about how it ends and what it
leaves of the session. -/
structure Dispatched (k : LinkId) (code : UInt8) (s : Session) (ops : List Operation)
    (r : EStateM.Result ServeError (Serving (Traced σ)) (Option Command)) : Prop where
  /-- The pool is the old one, or the one that the complete request leaves. -/
  pool : (endState r).session.pool = s.pool ∨ ∃ q : DeviceRequest, q.code = code ∧
    q.payload = ops.flatMap (Operation.fetched k) ∧ q.LeavesPool s (endState r).session.pool
  /-- A command that ends well was complete. -/
  done : succeeds r = true →
    ∃ q : DeviceRequest, q.code = code ∧ q.payload = ops.flatMap (Operation.fetched k) ∧
    q.LeavesPool s (endState r).session.pool
  /-- A payload that is cut short is a fault of the link and leaves alone what is held. -/
  cut : (∃ op ∈ ops, op.cutsPayload = true) →
    (∃ f, toExcept r = .error (.transport f)) ∧ (endState r).session.holdings = s.holdings
  invalidPoolSize : ∀ n, toExcept r = .error (.invalidPoolSize n) ↔ code = Command.initPool.code ∧
    s.initialized = true ∧ ops.flatMap (Operation.fetched k) = Wire.encode n ∧ n.toInt < 0
  outOfRange : ∀ e, toExcept r = .error (.pool e) ↔
    (code = Command.read.code ∨ code = Command.write.code) ∧
    ∃ p index size, s.pool = some p ∧
      Wire.encode index ++ Wire.encode size <+: ops.flatMap (Operation.fetched k) ∧
      ¬ p.Covers index.toInt size.toInt ∧ e = ⟨index.toInt, size.toInt, p.length⟩
  /-- What the device may not ask for is refused when the header is there, before data is read and
  anything is written. -/
  refused : ∀ e, toExcept r = .error e → e.isBreach = true →
    (endState r).session.holdings = s.holdings ∧
    (∀ op ∈ ops, op.isWrite = false) ∧
    ∃ command, command.code = code ∧
      (ops.flatMap (Operation.fetched k)).length = headerLength command

/-- A link that does not take blocking mode. -/
theorem dispatched_closed (k : LinkId) (code : UInt8) (st : Serving (Traced σ)) (f : Fault)
    (w : Traced σ) :
    Dispatched k code st.session [.setMode k .blocking (.error f)]
      (.error (.transport f) ⟨st.session, w⟩ : EStateM.Result ServeError (Serving (Traced σ))
        (Option Command)) where
  pool := Or.inl rfl
  done h := by cases h
  cut h := by simp [Operation.cutsPayload] at h
  invalidPoolSize n := by
    refine iff_of_false (fun h => by cases h) ?_
    rintro ⟨-, -, hPayload, -⟩
    have hLength := congrArg List.length hPayload
    simp [Operation.fetched] at hLength
  outOfRange e := by
    refine iff_of_false (fun h => by cases h) ?_
    rintro ⟨-, p, index, size, -, hPrefix, -⟩
    have hLength := hPrefix.length_le
    simp [Operation.fetched] at hLength
  refused e he hBreach := by
    cases he
    cases hBreach

/-- An unknown code has no payload, and nothing comes of it. -/
theorem dispatched_unknown (k : LinkId) {code : UInt8} (hCode : Command.ofCode? code = none)
    (st : Serving (Traced σ)) :
    Dispatched k code st.session [] (.ok none ⟨st.session.countUnknown, st.world⟩ :
      EStateM.Result ServeError (Serving (Traced σ)) (Option Command)) := by
  have hNot : ∀ command : Command, code ≠ command.code := by
    rintro command rfl
    cases command.ofCode?_code.symm.trans hCode
  exact {
    pool := Or.inl rfl
    done := fun _ => ⟨.unknown code hCode, rfl, rfl, rfl⟩
    cut := fun h => by simp at h
    invalidPoolSize := fun n => iff_of_false (fun h => by cases h) fun h => hNot _ h.1
    outOfRange := fun e => iff_of_false (fun h => by cases h) fun h => h.1.elim (hNot _) (hNot _)
    refused := fun e he => by cases he }

variable (host : Host σ) (k : LinkId)

/-- A known command on a link in blocking mode. -/
theorem carryOut_dispatched {code : UInt8} {command : Command}
    (hCode : Command.ofCode? code = some command) {st : Serving (Traced σ)}
    (hMode : st.world.asked k = .blocking) :
    let r := carryOut (host.traced.link k) code st
    ∃ ops, (endState r).world.trace = st.world.trace ++ ops ∧
      Dispatched k code st.session ops r := by
  intro r
  obtain ⟨ops, hOps⟩ := carryOut_accounts host k code st hMode
  obtain ⟨payload, hCourse⟩ := carryOut_course host hMode hCode
  obtain ⟨payload', hTook, hSession, hBreach⟩ := carryOut_settles (meters host k).link hCode hMode
  have hOps : Accounted k .serving .blocking st.world (endState r).world r ops := hOps
  have hCourse : Course k command payload st r := hCourse
  -- Trace and meter tell the same payload.
  have hFetched : (meter k).fetched (endState r).world =
      (meter k).fetched st.world ++ ops.flatMap (Operation.fetched k) := by
    show (endState r).world.trace.flatMap _ = _
    rw [hOps.trace, List.flatMap_append]
    rfl
  obtain rfl : payload = ops.flatMap (Operation.fetched k) :=
    List.append_cancel_left (hCourse.took.2.symm.trans hFetched)
  obtain rfl : payload' = ops.flatMap (Operation.fetched k) :=
    List.append_cancel_left (hTook.symm.trans hFetched)
  have hSettled : (endState r).session.holdings =
      (st.session.settled command (ops.flatMap (Operation.fetched k))).holdings := by
    rw [show (endState r).session = _ from hSession]
    simp only
    split
    · rfl
    · rfl
  have hNone : DeviceRequest.ofPayload? command (ops.flatMap (Operation.fetched k)) = none →
      (endState r).session.holdings = st.session.holdings := by
    intro hNone
    rw [hSettled, holdings_settled, hNone]
  -- A failure at the device is its complaint about the payload.
  have hComplains : ∀ e, e.isBreach = true → (toExcept r = .error e ↔
      st.session.Breach command (ops.flatMap (Operation.fetched k)) ∧
        st.session.complaint command (ops.flatMap (Operation.fetched k)) = e) := by
    intro e he
    constructor
    · intro hFails
      exact ⟨hBreach.mp ⟨e, hFails, he⟩, (hCourse.complains e hFails he).1.symm⟩
    · rintro ⟨hNow, rfl⟩
      obtain ⟨e', hFails, he'⟩ := hBreach.mpr hNow
      rw [← (hCourse.complains e' hFails he').1]
      exact hFails
  refine ⟨ops, hOps.trace, ?_⟩
  exact {
    pool := by
      cases hq : DeviceRequest.ofPayload? command (ops.flatMap (Operation.fetched k)) with
      | none => exact Or.inl (congrArg Holdings.pool (hNone hq))
      | some q => exact Or.inr ⟨q, leavesPool_of_payload hCode hSettled hq⟩
    done := fun hOk => by
      obtain ⟨q, hq⟩ := hCourse.whole hOk
      exact ⟨q, leavesPool_of_payload hCode hSettled hq⟩
    cut := by
      rintro ⟨op, hOp, hCuts⟩
      have hCost := List.any_eq_true.mpr ⟨op, hOp, Operation.costsLink_of_cutsPayload hCuts⟩
      rw [hOps.link] at hCost
      refine ⟨?_, ?_⟩
      · obtain ⟨e, hFails, he⟩ := failsBy_iff.mp hCost
        cases e with
        | transport f => exact ⟨f, hFails⟩
        | _ => cases he
      · rcases hCourse.uncut with hCut | hUncut
        · exact hNone hCut
        · cases (hUncut.all hOps.trace op hOp).symm.trans hCuts
    invalidPoolSize := fun n => by
      rw [hComplains _ rfl, complains_initPool_iff, code_eq_iff hCode]
    outOfRange := fun e => by
      rw [hComplains _ rfl, complains_access_iff, code_eq_iff hCode, code_eq_iff hCode]
    refused := by
      intro e hFails he
      obtain ⟨-, hLength, hSilent⟩ := hCourse.complains e hFails he
      refine ⟨?_, hSilent.all hOps.trace, command, Command.code_of_ofCode? hCode, hLength⟩
      rw [hSettled, settled_breach (hBreach.mp ⟨e, hFails, he⟩)] }

/-- The switches of mode around a command tell nothing more. -/
theorem dispatched_bracket {k : LinkId} {code : UInt8} {s : Session} {ops : List Operation}
    {result : Except Fault Unit}
    {r r' : EStateM.Result ServeError (Serving (Traced σ)) (Option Command)}
    (h : Dispatched k code s ops r) (hOutcome : toExcept r' = toExcept r)
    (hSession : (endState r').session = (endState r).session) :
    Dispatched k code s
      (.setMode k .blocking (.ok ()) :: (ops ++ [.setMode k .poll result])) r' := by
  have hFetched :
      (Operation.setMode k .blocking (.ok ()) :: (ops ++ [.setMode k .poll result])).flatMap
      (Operation.fetched k) = ops.flatMap (Operation.fetched k) := by
    simp [Operation.fetched]
  have hSucceeds : succeeds r' = succeeds r := by
    cases r <;> cases r' <;> cases hOutcome <;> rfl
  refine ⟨?_, ?_, ?_, ?_, ?_, ?_⟩ <;> simp only [hFetched, hOutcome, hSession, hSucceeds]
  · exact h.pool
  · exact h.done
  · intro hCuts
    exact h.cut (by simpa [Operation.cutsPayload] using hCuts)
  · exact h.invalidPoolSize
  · exact h.outOfRange
  · intro e he hBreach
    obtain ⟨hHoldings, hSilent, hLength⟩ := h.refused e he hBreach
    refine ⟨hHoldings, ?_, hLength⟩
    intro op hOp
    obtain rfl | hOp |
        rfl : op = .setMode k .blocking (.ok ()) ∨ op ∈ ops ∨ op = .setMode k .poll result := by
      simpa using hOp
    · rfl
    · exact hSilent op hOp
    · rfl

/-- **Commands take effect as a whole.** Every command on every link, traced: it leaves the old pool
or the one that the complete request leaves; a payload that is cut short, a link that does not take
blocking mode and a request that the device may not make leave alone what the session holds; and the
two refusals come exactly for such requests, before any data is read and anything is written. When
the data of a `write` is there, the check that is made as it is stored cannot fail. -/
theorem dispatch_whole (host : Host σ) (k : LinkId) (code : UInt8) (st : Serving (Traced σ)) :
    let r := dispatch (host.traced.link k) code st
    Alike (SameSession Traced.Erases) r (dispatch (host.link k) code ⟨st.session, st.world.world⟩) ∧
      (∃ ops, (endState r).world.trace = st.world.trace ++ ops ∧
        Dispatched k code st.session ops r) ∧
      (∀ f w, (host.traced.link k).setMode .blocking st.world = .error f w →
        r = .error (.transport f) ⟨st.session, w⟩) ∧
      ∀ (p : Pool) (index size : Int32) (range : Pool.Range) (data : Bytes),
        p.range index.toInt size.toInt = .ok range → data.length = range.length →
          ∃ written, p.write index data = .ok written := by
  intro r
  have hClosed : ∀ f w, (host.traced.link k).setMode .blocking st.world = .error f w →
      r = .error (.transport f) ⟨st.session, w⟩ := by
    intro f w hEnter
    show bracket _ _ _ = _
    unfold bracket Link.enterBlocking
    rw [onLink_error hEnter]
  refine ⟨?_, ?_, hClosed,
    fun p index size range data hRange hData => ⟨_, Pool.write_of_range hRange hData⟩⟩
  · exact dispatch_follows ((Traced.follows host).link k).follows code st
      ⟨st.session, st.world.world⟩ ⟨rfl, rfl⟩
  have hTrace : (endState ((host.traced.link k).setMode .blocking st.world)).trace =
      st.world.trace ++
        [.setMode k .blocking (toExcept ((host.traced.link k).setMode .blocking st.world))] :=
    (note_end (.setMode k .blocking) ((host.link k).setMode .blocking) (st.world.ask k .blocking)).1
  cases hEnter : (host.traced.link k).setMode .blocking st.world with
  | error f w =>
    rw [hEnter] at hTrace
    rw [hClosed f w hEnter]
    exact ⟨_, hTrace, dispatched_closed k code st f w⟩
  | ok u w =>
    rw [hEnter] at hTrace
    have hMode : ({ st with world := w } : Serving (Traced σ)).world.asked k = .blocking :=
      (meters host k).enter hEnter
    have hBody : ∃ ops,
        (endState (carryOut (host.traced.link k) code { st with world := w })).world.trace =
          w.trace ++ ops ∧
          Dispatched k code st.session ops
            (carryOut (host.traced.link k) code { st with world := w }) := by
      cases hCode : Command.ofCode? code with
      | none =>
        rw [carryOut_unknown hCode]
        exact ⟨[], (List.append_nil _).symm, dispatched_unknown k hCode { st with world := w }⟩
      | some command => exact carryOut_dispatched host k hCode hMode
    obtain ⟨ops, hOps, hDispatched⟩ := hBody
    obtain ⟨hOutcome, -, hEnd⟩ : toExcept r = _ ∧ succeeds r = _ ∧ endState r = _ :=
      bracket_entered hEnter
    let done := endState (carryOut (host.traced.link k) code { st with world := w })
    obtain ⟨result, hLeft, -⟩ := leaveBlocking_end host k done.world
    have hLeave : (endState r).world.trace = done.world.trace ++ [.setMode k .poll result] := by
      rw [hEnd]
      exact hLeft
    refine ⟨.setMode k .blocking (.ok ()) :: (ops ++ [.setMode k .poll result]), ?_,
      dispatched_bracket hDispatched hOutcome (by rw [hEnd])⟩
    rw [hLeave, hOps, show w.trace = _ from hTrace, List.append_assoc, List.append_assoc]
    rfl

end Session

end MemoryBridge
