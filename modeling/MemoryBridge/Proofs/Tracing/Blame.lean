import MemoryBridge.Proofs.Tracing

/-!
# Failures and the operations that they come from

A computation that serves the device fails at the link exactly if one of its operations costs the
link, and it fails at the sink exactly if one of its operations fails the sink. `Accounts` says so
of a computation, and that it uses one link and the sink; it is kept by sequencing, so it holds of
every command, every byte and every request for a handshake.

The same fault is judged by where it comes up (`Operation.costsLink`): a timeout is idle while a
link is polled and a fault in a payload; an interruption is idle while a link is polled, tried again
in a payload, and a fault in a flush.

What the device asks for can end a session too, without any operation that fails. That is
`Session.Breach`.
-/

namespace MemoryBridge

namespace Operation

/-- The faults by which a poll says that nothing is pending. -/
def idleKinds : List FaultKind :=
  [.timedOut, .wouldBlock, .interrupted]

theorem isIdle_eq (f : Fault) : f.isIdle = idleKinds.contains f.kind := by
  unfold Fault.isIdle
  cases f.kind <;> rfl

/-- A write that is not tried again: it took nothing, or it failed and was not just interrupted. -/
def refuses : Except Fault Nat → Bool
  | .error f => f.kind != .interrupted
  | .ok n => n == 0

/-- The operation ends what it belongs to, by a fault of the link. -/
def costsLink : Operation → Bool
  | .read _ .poll _ (.error f) => !idleKinds.contains f.kind
  | .read _ .blocking _ (.error f) => f.kind != .interrupted
  | .read _ .blocking _ (.ok bs) => bs.isEmpty
  | .write _ _ result => refuses result
  | .flush _ (.error _) => true
  | .setMode _ .blocking (.error _) => true
  | _ => false

/-- The operation ends what it belongs to, by a fault of the sink. -/
def failsSink : Operation → Bool
  | .pass _ result => refuses result
  | .passFlush (.error _) => true
  | _ => false

/-- The link was polled and had nothing. -/
def findsNothing : Operation → Bool
  | .read _ .poll _ (.error f) => idleKinds.contains f.kind
  | .read _ .poll _ (.ok bs) => bs.isEmpty
  | _ => false

/-- To find nothing is no fault. -/
theorem free_of_findsNothing {op : Operation} (h : op.findsNothing = true) :
    op.costsLink = false ∧ op.failsSink = false := by
  cases op with
  | read k mode n result =>
    cases mode with
    | poll =>
      cases result with
      | ok bs => exact ⟨rfl, rfl⟩
      | error f =>
        have hIdle : idleKinds.contains f.kind = true := h
        exact ⟨by rw [costsLink, hIdle, Bool.not_true], rfl⟩
    | blocking => cases h
  | _ => cases h

/-- The same fault at a poll, in a payload and in a flush. -/
example :
    (read 0 .poll 1 (.error ⟨.timedOut, ""⟩)).costsLink = false ∧
      (read 0 .blocking 4 (.error ⟨.timedOut, ""⟩)).costsLink = true ∧
      (read 0 .blocking 4 (.error ⟨.interrupted, ""⟩)).costsLink = false ∧
      (flush 0 (.error ⟨.interrupted, ""⟩)).costsLink = true := by
  decide

/-- The operation is one of the link `k` or of the sink. -/
def isAt (k : LinkId) : Operation → Bool
  | .read j _ _ _ | .write j _ _ | .flush j _ | .setMode j _ _ => j == k
  | .pass _ _ | .passFlush _ => true
  | .opening _ => false

/-- The operation is an attempt to open a link, or puts a link in poll mode. -/
def opens : Operation → Bool
  | .opening _ | .setMode _ .poll _ => true
  | _ => false

/-- The bytes that were read from the link `k` in blocking mode. -/
def fetched (k : LinkId) : Operation → Bytes
  | .read j .blocking _ (.ok bs) => if j = k then bs else []
  | _ => []

end Operation

def ServeError.isSink : ServeError → Bool
  | .sink _ => true
  | _ => false

/-- Which failures are failures of the link, and which of the sink. -/
structure Blame (ε : Type) where
  link : ε → Bool
  sink : ε → Bool

namespace Blame

def ofLink : Blame Fault := ⟨fun _ => true, fun _ => false⟩

def ofSink : Blame Fault := ⟨fun _ => false, fun _ => true⟩

def serving : Blame ServeError := ⟨ServeError.isTransport, ServeError.isSink⟩

end Blame

namespace Traced

variable {σ τ ε α β : Type} {k : LinkId} {mode : ReadMode}

/-- From `s` to `t` the operations `new` were made, and they account for how the run `r` has ended.
Afterwards the link is in the given mode again, unless it has failed. -/
structure Accounted (k : LinkId) (blame : Blame ε) (mode : ReadMode) (s t : Traced σ)
    (r : EStateM.Result ε τ α) (new : List Operation) : Prop where
  trace : t.trace = s.trace ++ new
  link : new.any Operation.costsLink = failsBy blame.link r
  sink : new.any Operation.failsSink = failsBy blame.sink r
  proper : ∀ op ∈ new, op.isAt k = true ∧ op.findsNothing = false
  asked : failsBy blame.link r = false → t.asked k = mode

namespace Accounted

variable {blame : Blame ε} {s t u : Traced σ} {new later : List Operation} {op : Operation}

/-- The same operations account for another run that ends alike. -/
theorem recast {ε' τ' : Type} {blame' : Blame ε'} {r : EStateM.Result ε τ α}
    {r' : EStateM.Result ε' τ' β} (h : Accounted k blame mode s t r new)
    (hLink : failsBy blame'.link r' = failsBy blame.link r)
    (hSink : failsBy blame'.sink r' = failsBy blame.sink r) :
    Accounted k blame' mode s t r' new where
  trace := h.trace
  link := h.link.trans hLink.symm
  sink := h.sink.trans hSink.symm
  proper := h.proper
  asked hHolds := h.asked (hLink.symm.trans hHolds)

/-- No operation, and no failure of the link or the sink. -/
theorem nothing {r : EStateM.Result ε τ α} (hMode : s.asked k = mode)
    (hLink : failsBy blame.link r = false) (hSink : failsBy blame.sink r = false) :
    Accounted k blame mode s s r [] where
  trace := (List.append_nil _).symm
  link := hLink.symm
  sink := hSink.symm
  proper := by simp
  asked _ := hMode

/-- A single operation. -/
theorem single {r : EStateM.Result ε τ α} (hTrace : t.trace = s.trace ++ [op])
    (hLink : op.costsLink = failsBy blame.link r) (hSink : op.failsSink = failsBy blame.sink r)
    (hProper : op.isAt k = true ∧ op.findsNothing = false) (hAsked : t.asked k = mode) :
    Accounted k blame mode s t r [op] where
  trace := hTrace
  link := by rw [List.any_cons, List.any_nil, Bool.or_false, hLink]
  sink := by rw [List.any_cons, List.any_nil, Bool.or_false, hSink]
  proper op' hOp := by
    rw [List.mem_singleton.mp hOp]
    exact hProper
  asked _ := hAsked

theorem trans {a : α} {st : τ} {r : EStateM.Result ε τ β}
    (h : Accounted k blame mode s t (.ok a st : EStateM.Result ε τ α) new)
    (h' : Accounted k blame mode t u r later) : Accounted k blame mode s u r (new ++ later) where
  trace := by rw [h'.trace, h.trace, List.append_assoc]
  link := by
    have hNoFault : new.any Operation.costsLink = false := h.link
    rw [List.any_append, hNoFault, Bool.false_or, h'.link]
  sink := by
    have hNoFault : new.any Operation.failsSink = false := h.sink
    rw [List.any_append, hNoFault, Bool.false_or, h'.sink]
  proper op hOp := by
    rcases List.mem_append.mp hOp with hOp | hOp
    · exact h.proper op hOp
    · exact h'.proper op hOp
  asked := h'.asked

/-- A run that goes on after an operation that is no fault. -/
theorem cons {r : EStateM.Result ε τ α} (hTrace : t.trace = s.trace ++ [op])
    (hLink : op.costsLink = false) (hSink : op.failsSink = false)
    (hProper : op.isAt k = true ∧ op.findsNothing = false)
    (hLater : Accounted k blame mode t u r new) (hAsked : t.asked k = mode) :
    Accounted k blame mode s u r (op :: new) := by
  have hFirst : Accounted k blame mode s t (.ok () (endState r) : EStateM.Result ε τ Unit) [op] :=
    single hTrace hLink hSink hProper hAsked
  exact hFirst.trans hLater

/-- An operation that is no fault, when all is done. -/
theorem concat {r : EStateM.Result ε τ α} {other : ReadMode} (h : Accounted k blame mode s t r new)
    (hTrace : u.trace = t.trace ++ [op]) (hLink : op.costsLink = false)
    (hSink : op.failsSink = false) (hProper : op.isAt k = true ∧ op.findsNothing = false)
    (hAsked : u.asked k = other) : Accounted k blame other s u r (new ++ [op]) where
  trace := by rw [hTrace, h.trace, List.append_assoc]
  link := by rw [List.any_append, h.link, List.any_cons, List.any_nil, hLink, Bool.or_false,
    Bool.or_false]
  sink := by rw [List.any_append, h.sink, List.any_cons, List.any_nil, hSink, Bool.or_false,
    Bool.or_false]
  proper op' hOp := by
    rcases List.mem_append.mp hOp with hOp | hOp
    · exact h.proper op' hOp
    · rw [List.mem_singleton.mp hOp]
      exact hProper
  asked _ := hAsked

end Accounted

/-- From the given mode on, the operations of a run account for how it ends. -/
def Accounts (k : LinkId) (blame : Blame ε) (mode : ReadMode) (view : τ → Traced σ)
    (act : EStateM ε τ α) : Prop :=
  ∀ st, (view st).asked k = mode →
    ∃ new, Accounted k blame mode (view st) (view (endState (act st))) (act st) new

namespace Accounts

variable {blame : Blame ε} {view : τ → Traced σ}

/-- A computation that makes no operation and does not fail at the link or the sink. -/
theorem still {act : EStateM ε τ α} (hView : ∀ st, view (endState (act st)) = view st)
    (hLink : ∀ st, failsBy blame.link (act st) = false)
    (hSink : ∀ st, failsBy blame.sink (act st) = false) : Accounts k blame mode view act := by
  intro st hMode
  rw [hView]
  exact ⟨[], .nothing hMode (hLink st) (hSink st)⟩

theorem pure (a : α) : Accounts k blame mode view (Pure.pure a : EStateM ε τ α) :=
  still (fun _ => rfl) (fun _ => rfl) fun _ => rfl

theorem bind {act : EStateM ε τ α} {next : α → EStateM ε τ β}
    (hAct : Accounts k blame mode view act) (hNext : ∀ a, Accounts k blame mode view (next a)) :
    Accounts k blame mode view (act >>= next) := by
  intro st hMode
  obtain ⟨new, hFirst⟩ := hAct st hMode
  cases hRun : act st with
  | error e st' =>
    rw [hRun] at hFirst
    rw [bind_error hRun]
    exact ⟨new, hFirst.recast rfl rfl⟩
  | ok a st' =>
    rw [hRun] at hFirst
    obtain ⟨later, hLater⟩ := hNext a st' (hFirst.asked rfl)
    rw [bind_ok hRun]
    exact ⟨new ++ later, hFirst.trans hLater⟩

theorem map {act : EStateM ε τ α} (f : α → β) (hAct : Accounts k blame mode view act) :
    Accounts k blame mode view (f <$> act) := by
  intro st hMode
  obtain ⟨new, h⟩ := hAct st hMode
  refine ⟨new, ?_⟩
  show Accounted k blame mode (view st) (view (endState (EStateM.map f act st)))
    (EStateM.map f act st) new
  unfold EStateM.map
  cases hRun : act st with
  | ok a st' =>
    rw [hRun] at h
    exact h.recast rfl rfl
  | error e st' =>
    rw [hRun] at h
    exact h.recast rfl rfl

end Accounts

end Traced

/-! ## Links and sinks -/

namespace Traced

variable {σ : Type}

/-! ### Reads in blocking mode -/

section

variable {α : Type} {host : Host σ} {k : LinkId} {n : Nat} {s t u : Traced σ} {f : Fault}

theorem read_proper (k : LinkId) (n : Nat) (result : Except Fault Bytes) :
    (Operation.read k .blocking n result).isAt k = true ∧
      (Operation.read k .blocking n result).findsNothing = false :=
  ⟨beq_self_eq_true k, rfl⟩

/-- The stream has ended inside of a payload. -/
theorem accounted_of_end (hMode : s.asked k = .blocking) (hr : (link host k).read n s = .ok [] t)
    (e : Fault) :
    ∃ new, Accounted k .ofLink .blocking s t
      (.error e t : EStateM.Result Fault (Traced σ) α) new := by
  rw [link_read, hMode] at hr
  obtain ⟨w, -, rfl⟩ := note_ok hr
  exact ⟨_, .single rfl rfl rfl (read_proper k n (.ok [])) hMode⟩

theorem accounted_of_fault (hMode : s.asked k = .blocking)
    (hr : (link host k).read n s = .error f t) (hf : ¬ f.kind = .interrupted) :
    ∃ new, Accounted k .ofLink .blocking s t
      (.error f t : EStateM.Result Fault (Traced σ) α) new := by
  rw [link_read, hMode] at hr
  obtain ⟨w, -, rfl⟩ := note_error hr
  have hFault : (Operation.read k .blocking n (.error f)).costsLink = true := by
    simpa [Operation.costsLink] using hf
  exact ⟨_, .single rfl hFault rfl (read_proper k n (.error f)) hMode⟩

variable {r : EStateM.Result Fault (Traced σ) α}

theorem accounted_of_bytes {b : UInt8} {bs : Bytes} (hMode : s.asked k = .blocking)
    (hr : (link host k).read n s = .ok (b :: bs) t)
    (hLater : t.asked k = .blocking → ∃ new, Accounted k .ofLink .blocking t u r new) :
    ∃ new, Accounted k .ofLink .blocking s u r new := by
  rw [link_read, hMode] at hr
  obtain ⟨w, -, rfl⟩ := note_ok hr
  obtain ⟨new, hNew⟩ := hLater hMode
  exact ⟨_, .cons rfl rfl rfl (read_proper k n (.ok (b :: bs))) hNew hMode⟩

/-- An interrupted read is tried again. -/
theorem accounted_of_interrupted (hMode : s.asked k = .blocking)
    (hr : (link host k).read n s = .error f t) (hf : f.kind = .interrupted)
    (hLater : t.asked k = .blocking → ∃ new, Accounted k .ofLink .blocking t u r new) :
    ∃ new, Accounted k .ofLink .blocking s u r new := by
  rw [link_read, hMode] at hr
  obtain ⟨w, -, rfl⟩ := note_error hr
  obtain ⟨new, hNew⟩ := hLater hMode
  have hRetried : (Operation.read k .blocking n (.error f)).costsLink = false := by
    simp [Operation.costsLink, hf]
  exact ⟨_, .cons rfl hRetried rfl (read_proper k n (.error f)) hNew hMode⟩

end

variable (host : Host σ) (k : LinkId)

theorem readExact_accounts (n : Nat) :
    Accounts k .ofLink .blocking id ((link host k).readExact n) := by
  intro s hMode
  have hMode' : s.asked k = .blocking := hMode
  show ∃ new, Accounted k .ofLink .blocking s _ _ new
  clear hMode
  fun_induction Source.readExact (link host k).toSource n s with
  | case1 s => exact ⟨[], .nothing hMode' rfl rfl⟩
  | case2 n s hn t hr => exact accounted_of_end hMode' hr .endOfStream
  | case3 n s hn b bs t hr rest u hu ih =>
    refine accounted_of_bytes hMode' hr fun hStill => ?_
    obtain ⟨new, hLater⟩ := ih hStill
    rw [hu] at hLater
    exact ⟨new, hLater.recast rfl rfl⟩
  | case4 n s hn b bs t hr f u hu ih =>
    refine accounted_of_bytes hMode' hr fun hStill => ?_
    rw [hu] at ih
    exact ih hStill
  | case5 n s hn f t hr hf ih => exact accounted_of_interrupted hMode' hr hf ih
  | case6 n s hn f t hr hf => exact accounted_of_fault hMode' hr hf

theorem discard_accounts (n : Nat) : Accounts k .ofLink .blocking id ((link host k).discard n) := by
  intro s hMode
  have hMode' : s.asked k = .blocking := hMode
  show ∃ new, Accounted k .ofLink .blocking s _ _ new
  clear hMode
  fun_induction Source.discard (link host k).toSource n s with
  | case1 s => exact ⟨[], .nothing hMode' rfl rfl⟩
  | case2 n s hn t hr => exact accounted_of_end hMode' hr .payloadCutShort
  | case3 n s hn b bs t hr ih => exact accounted_of_bytes hMode' hr ih
  | case4 n s hn f t hr hf ih => exact accounted_of_interrupted hMode' hr hf ih
  | case5 n s hn f t hr hf => exact accounted_of_fault hMode' hr hf

/-! ### Writes -/

/-- Writes are counted alike on links and sinks. They differ in who is to blame. -/
theorem sink_writeAll_accounts {sink : Sink (Traced σ)} {inner : Sink σ} {blame : Blame Fault}
    {operation : Bytes → Except Fault Nat → Operation} {k : LinkId}
    (hWrite : ∀ bs s, sink.write bs s = note (operation bs) (inner.write bs) s)
    (hLink : ∀ bs result f,
      (operation bs result).costsLink = (Operation.refuses result && blame.link f))
    (hSink : ∀ bs result f,
      (operation bs result).failsSink = (Operation.refuses result && blame.sink f))
    (hProper : ∀ bs result, (operation bs result).isAt k = true ∧
      (operation bs result).findsNothing = false)
    (mode : ReadMode) (bs : Bytes) : Accounts k blame mode id (sink.writeAll bs) := by
  intro s hMode
  have hMode' : s.asked k = mode := hMode
  show ∃ new, Accounted k blame mode s _ _ new
  -- A write that is no refusal is no fault, whoever would be to blame.
  have hFree : ∀ bs result, Operation.refuses result = false →
      (operation bs result).costsLink = false ∧ (operation bs result).failsSink = false := by
    intro bs result hTaken
    rw [hLink bs result .nothingAccepted, hSink bs result .nothingAccepted, hTaken]
    exact ⟨rfl, rfl⟩
  clear hMode
  fun_induction Sink.writeAll sink bs s with
  | case1 s => exact ⟨[], .nothing hMode' rfl rfl⟩
  | case2 s b rest t hw =>
    rw [hWrite] at hw
    obtain ⟨w, -, rfl⟩ := note_ok hw
    exact ⟨_, .single rfl (hLink _ (.ok 0) _) (hSink _ (.ok 0) _) (hProper _ (.ok 0)) hMode'⟩
  | case3 s b rest n t hw ih =>
    rw [hWrite] at hw
    obtain ⟨w, -, rfl⟩ := note_ok hw
    obtain ⟨hNoFault, hNoLoss⟩ := hFree (b :: rest) (.ok (n + 1)) rfl
    obtain ⟨new, hLater⟩ := ih hMode'
    exact ⟨_, .cons rfl hNoFault hNoLoss (hProper _ (.ok (n + 1))) hLater hMode'⟩
  | case4 s b rest f t hw hf ih =>
    rw [hWrite] at hw
    obtain ⟨w, -, rfl⟩ := note_error hw
    obtain ⟨hNoFault, hNoLoss⟩ := hFree (b :: rest) (.error f) (by simp [Operation.refuses, hf])
    obtain ⟨new, hLater⟩ := ih hMode'
    exact ⟨_, .cons rfl hNoFault hNoLoss (hProper _ (.error f)) hLater hMode'⟩
  | case5 s b rest f t hw hf =>
    rw [hWrite] at hw
    obtain ⟨w, -, rfl⟩ := note_error hw
    have hRefused : Operation.refuses (.error f) = true := by simpa [Operation.refuses] using hf
    have hFault := hLink (b :: rest) (.error f) f
    have hLoss := hSink (b :: rest) (.error f) f
    rw [hRefused, Bool.true_and] at hFault hLoss
    exact ⟨_, .single rfl hFault hLoss (hProper _ (.error f)) hMode'⟩

theorem writeAll_accounts (mode : ReadMode) (bs : Bytes) :
    Accounts k .ofLink mode id ((link host k).writeAll bs) :=
  sink_writeAll_accounts (fun bs s => link_write host k s bs)
    (by simp [Operation.costsLink, Blame.ofLink])
    (by simp [Operation.failsSink, Blame.ofLink]) (fun _ _ => ⟨beq_self_eq_true k, rfl⟩) mode bs

theorem pass_accounts (mode : ReadMode) (bs : Bytes) :
    Accounts k .ofSink mode id ((sink host).writeAll bs) :=
  sink_writeAll_accounts (fun bs s => sink_write host s bs)
    (by simp [Operation.costsLink, Blame.ofSink])
    (by simp [Operation.failsSink, Blame.ofSink]) (fun _ _ => ⟨rfl, rfl⟩) mode bs

theorem flush_accounts (mode : ReadMode) : Accounts k .ofLink mode id (link host k).flush := by
  intro s hMode
  have hMode' : s.asked k = mode := hMode
  show ∃ new, Accounted k .ofLink mode s _ _ new
  have hProper : ∀ result : Except Fault Unit, (Operation.flush k result).isAt k = true ∧
      (Operation.flush k result).findsNothing = false := fun _ => ⟨beq_self_eq_true k, rfl⟩
  cases hRun : (link host k).flush s with
  | ok u t =>
    rw [link_flush] at hRun
    obtain ⟨w, -, rfl⟩ := note_ok hRun
    exact ⟨_, .single rfl rfl rfl (hProper (.ok u)) hMode'⟩
  | error f t =>
    rw [link_flush] at hRun
    obtain ⟨w, -, rfl⟩ := note_error hRun
    exact ⟨_, .single rfl rfl rfl (hProper (.error f)) hMode'⟩

end Traced

/-! ## Serving -/

namespace Session

open Serve Traced

variable {σ α : Type}

/-- A step of serving whose operations account for how it ends. -/
def Accounts (k : LinkId) (mode : ReadMode) (act : Serve (Traced σ) α) : Prop :=
  Traced.Accounts k .serving mode Serving.world act

section

variable {k : LinkId} {mode : ReadMode}

theorem onLink_accounts {act : EStateM Fault (Traced σ) α}
    (h : Traced.Accounts k .ofLink mode id act) : Accounts k mode (onLink act) := by
  intro st hMode
  obtain ⟨new, hAct⟩ := h st.world hMode
  refine ⟨new, ?_⟩
  cases hRun : act st.world with
  | ok a w =>
    rw [hRun] at hAct
    rw [onLink_ok hRun]
    exact hAct.recast rfl rfl
  | error f w =>
    rw [hRun] at hAct
    rw [onLink_error hRun]
    exact hAct.recast rfl rfl

theorem onSink_accounts {act : EStateM Fault (Traced σ) α}
    (h : Traced.Accounts k .ofSink mode id act) : Accounts k mode (onSink act) := by
  intro st hMode
  obtain ⟨new, hAct⟩ := h st.world hMode
  refine ⟨new, ?_⟩
  unfold onSink onWorld
  cases hRun : act st.world with
  | ok a w =>
    rw [hRun] at hAct
    exact hAct.recast rfl rfl
  | error f w =>
    rw [hRun] at hAct
    exact hAct.recast rfl rfl

theorem session_accounts : Accounts k mode (session : Serve (Traced σ) Session) :=
  Accounts.still (fun _ => rfl) (fun _ => rfl) fun _ => rfl

theorem update_accounts (f : Session → Session) :
    Accounts k mode (update f : Serve (Traced σ) Unit) :=
  Accounts.still (fun _ => rfl) (fun _ => rfl) fun _ => rfl

/-- What the device asks for is no fault of the link or of the sink. -/
theorem throw_accounts {e : ServeError} (he : e.isBreach = true) :
    Accounts k mode (throw e : Serve (Traced σ) α) := by
  refine Accounts.still (fun _ => rfl) (fun _ => ?_) fun _ => ?_
  · cases e with
    | transport f => cases he
    | _ => rfl
  · cases e with
    | sink f => cases he
    | _ => rfl

theorem check_accounts (r : Except PoolError α) :
    Accounts k mode (check .pool r : Serve (Traced σ) α) := by
  cases r with
  | ok a => exact Accounts.pure a
  | error e => exact throw_accounts rfl

end

variable (host : Host σ) (k : LinkId)

theorem readInt_accounts :
    Accounts k .blocking (onLink (Wire.readInt (Traced.link host k).toSource)) :=
  onLink_accounts (Accounts.map _ (readExact_accounts host k _))

theorem send_accounts (mode : ReadMode) (bs : Bytes) :
    Accounts k mode (onLink ((Traced.link host k).writeAll bs)) :=
  onLink_accounts (writeAll_accounts host k mode bs)

/-- Every command, in blocking mode. -/
theorem handle_accounts (command : Command) :
    Accounts k .blocking (handle (Traced.link host k) command) := by
  have hInt := readInt_accounts host k
  have hSend := send_accounts host k .blocking
  cases command with
  | init =>
    refine Accounts.bind (update_accounts _) fun _ => Accounts.bind session_accounts fun s => ?_
    split
    · exact hSend _
    · exact Accounts.pure _
  | initPool =>
    refine Accounts.bind hInt fun size => Accounts.bind session_accounts fun s => ?_
    split
    · split
      · exact update_accounts _
      · exact throw_accounts rfl
    · exact update_accounts _
  | read =>
    refine Accounts.bind hInt fun index => Accounts.bind hInt fun size =>
      Accounts.bind session_accounts fun s => ?_
    split
    · exact update_accounts _
    · exact Accounts.bind (check_accounts _) fun data => hSend data
  | write =>
    refine Accounts.bind hInt fun index => Accounts.bind hInt fun size =>
      Accounts.bind session_accounts fun s => ?_
    split
    · exact Accounts.bind (update_accounts _) fun _ => onLink_accounts (discard_accounts host k _)
    · refine Accounts.bind (check_accounts _) fun range => ?_
      refine Accounts.bind (onLink_accounts (readExact_accounts host k _)) fun data => ?_
      exact Accounts.bind (check_accounts _) fun written => update_accounts _
  | inputAvailable => exact Accounts.bind session_accounts fun s => hSend _
  | inputRequest =>
    refine Accounts.bind hInt fun requested => Accounts.bind session_accounts fun s => ?_
    refine Accounts.bind (update_accounts _) fun _ => Accounts.bind (hSend _) fun _ => hSend _
  | inputPeek =>
    refine Accounts.bind session_accounts fun s => ?_
    split
    · exact hSend _
    · exact hSend _
  | ping => exact Accounts.bind session_accounts fun s => hSend _

theorem carryOut_accounts (code : UInt8) :
    Accounts k .blocking (carryOut (Traced.link host k) code) := by
  unfold carryOut
  split
  · exact Accounts.bind (update_accounts _) fun _ => Accounts.pure _
  · refine Accounts.bind (handle_accounts host k _) fun _ => ?_
    refine Accounts.bind (onLink_accounts (flush_accounts host k _)) fun _ => ?_
    exact Accounts.bind (update_accounts _) fun _ => Accounts.pure _

theorem leaveBlocking_end (s : Traced σ) : ∃ result,
    ((Traced.link host k).leaveBlocking s).trace = s.trace ++ [.setMode k .poll result] ∧
      ((Traced.link host k).leaveBlocking s).asked k = .poll := by
  obtain ⟨hTrace, hMode⟩ :=
    note_end (.setMode k .poll) ((host.link k).setMode .poll) (s.ask k .poll)
  unfold Link.leaveBlocking
  rw [link_setMode]
  exact ⟨_, hTrace, (congrFun hMode k).trans (if_pos rfl)⟩

/-- A switch to blocking mode can cost the link. The switch back cannot. -/
theorem bracket_accounts {body : Serve (Traced σ) α} (hBody : Accounts k .blocking body) :
    Accounts k .poll (bracket (Traced.link host k) body) := by
  intro st _
  have hSwitch : ∀ mode (result : Except Fault Unit),
      (Operation.setMode k mode result).isAt k = true ∧
      (Operation.setMode k mode result).findsNothing = false := fun _ _ => ⟨beq_self_eq_true k, rfl⟩
  unfold bracket onLink onWorld
  cases hEnter : (Traced.link host k).enterBlocking st.world with
  | error f w =>
    have hSet : (Traced.link host k).setMode .blocking st.world = .error f w := hEnter
    rw [link_setMode] at hSet
    obtain ⟨v, -, rfl⟩ := note_error hSet
    exact ⟨_, rfl, rfl, rfl,
      by simpa using hSwitch .blocking (.error f), fun hHolds => by cases hHolds⟩
  | ok u w =>
    have hSet : (Traced.link host k).setMode .blocking st.world = .ok u w := hEnter
    rw [link_setMode] at hSet
    obtain ⟨v, -, hEntered⟩ := note_ok hSet
    have hTrace : w.trace = st.world.trace ++ [.setMode k .blocking (.ok u)] := by
      rw [hEntered]
      rfl
    have hMode : w.asked k = .blocking := by
      rw [hEntered]
      exact if_pos rfl
    obtain ⟨new, hNew⟩ := hBody ⟨st.session, w⟩ hMode
    have hAll := Accounted.cons hTrace rfl rfl (hSwitch .blocking (.ok u)) hNew hMode
    simp only
    cases hRun : body ⟨st.session, w⟩ with
    | ok a t =>
      rw [hRun] at hAll
      obtain ⟨result, hLeft, hPoll⟩ := leaveBlocking_end host k t.world
      exact ⟨_, (hAll.concat hLeft rfl rfl (hSwitch .poll result) hPoll).recast rfl rfl⟩
    | error e t =>
      rw [hRun] at hAll
      obtain ⟨result, hLeft, hPoll⟩ := leaveBlocking_end host k t.world
      exact ⟨_, (hAll.concat hLeft rfl rfl (hSwitch .poll result) hPoll).recast rfl rfl⟩

/-- Every byte, from poll mode on. -/
theorem processByte_accounts (b : UInt8) :
    Accounts k .poll (processByte (Traced.link host k) (Traced.sink host) b) := by
  refine Accounts.bind session_accounts fun s => ?_
  refine Accounts.bind (update_accounts _) fun _ => ?_
  split
  · refine Accounts.bind (onSink_accounts (pass_accounts host k .poll _)) fun _ => ?_
    exact Accounts.bind (update_accounts _) fun _ => Accounts.pure _
  · exact Accounts.pure _
  · exact Accounts.bind (bracket_accounts host k (carryOut_accounts host k _)) fun _ =>
      Accounts.pure _

end Session

end MemoryBridge
