import MemoryBridge.Proofs.Handoff

/-!
# What a loop costs

A gauge reads off a state how many steps were made, and how much is left of what steps use up.
`Costs k c act` says that `act` pays for its steps: each takes one, and `k` steps are paid with
every unit that it uses up, all but `c` of them. So the costs of a sequence add up, and an iteration
of a loop that uses up something pays for itself (`Paces.spends`).

A host is paced if every single operation is one step that gives nothing back, and if every
operation that a full read, a skip or a full write tries again has used up something. Then
everything that a connection does is paid for, loop in loop: full reads and writes, commands, ticks,
the wait for a link, and the poll loop (`pollLoop_costs`, `run_costs`).
-/

namespace MemoryBridge

variable {ε ρ τ α β : Type}

/-! ## Gauges -/

/-- How far a state has come: the steps that were made, and what is left for further ones. -/
structure Gauge (ρ : Type) where
  steps : ρ → Nat
  left : ρ → Nat

namespace Gauge

/-- The gauge of a part of a state. -/
def on (g : Gauge τ) (view : ρ → τ) : Gauge ρ where
  steps s := g.steps (view s)
  left s := g.left (view s)

/-- From `s` to `t` nothing was given back, and all steps but `c` were paid for, `k` with every
unit that was used up. -/
structure Paces (g : Gauge ρ) (k c : Nat) (s t : ρ) : Prop where
  left : g.left t ≤ g.left s
  steps : g.steps t + k * g.left t ≤ g.steps s + k * g.left s + c

/-- Every run of `act` is paid for. -/
def Costs (g : Gauge ρ) (k c : Nat) (act : EStateM ε ρ α) : Prop :=
  Moves (g.Paces k c) act

section

variable {g : Gauge ρ} {k k' c c' j : Nat} {s t u : ρ}

theorem Paces.refl (g : Gauge ρ) (k : Nat) (s : ρ) : g.Paces k 0 s s :=
  ⟨Nat.le_refl _, Nat.le_refl _⟩

theorem Paces.trans (h : g.Paces k c s t) (h' : g.Paces k c' t u) : g.Paces k (c + c') s u := by
  obtain ⟨hLeft, hSteps⟩ := h
  obtain ⟨hLeft', hSteps'⟩ := h'
  constructor
  · omega
  · omega

theorem Paces.loosen (h : g.Paces k c s t) (hk : k ≤ k') (hc : c ≤ c') : g.Paces k' c' s t := by
  obtain ⟨hLeft, hSteps⟩ := h
  obtain ⟨more, rfl⟩ := Nat.exists_eq_add_of_le hk
  have hMore := Nat.mul_le_mul_left more hLeft
  refine ⟨hLeft, ?_⟩
  rw [Nat.add_mul, Nat.add_mul]
  omega

theorem Paces.upTo (h : g.Paces k c s t) (hc : c ≤ c') : g.Paces k c' s t :=
  h.loosen (Nat.le_refl k) hc

/-- The steps are no more than what was there to pay for them. -/
theorem Paces.steps_le (h : g.Paces k c s t) : g.steps t ≤ g.steps s + (k * g.left s + c) := by
  obtain ⟨-, hSteps⟩ := h
  omega

/-- What has used up something pays for `j` more steps. -/
theorem Paces.spends (h : g.Paces k (c + j) s t) (hSpent : g.left t < g.left s) :
    g.Paces (k + j) c s t := by
  obtain ⟨hLeft, hSteps⟩ := h
  have hPaid := Nat.mul_le_mul_left j (Nat.succ_le_of_lt hSpent)
  rw [Nat.mul_succ] at hPaid
  refine ⟨hLeft, ?_⟩
  rw [Nat.add_mul, Nat.add_mul]
  omega

end

namespace Costs

variable {g : Gauge ρ} {k k' c c' : Nat}

theorem pure (g : Gauge ρ) (k : Nat) (a : α) : g.Costs k 0 (Pure.pure a : EStateM ε ρ α) :=
  fun s => Paces.refl g k s

theorem throw (g : Gauge ρ) (k : Nat) (e : ε) : g.Costs k 0 (MonadExcept.throw e : EStateM ε ρ α) :=
  fun s => Paces.refl g k s

theorem loosen {act : EStateM ε ρ α} (h : g.Costs k c act) (hk : k ≤ k') (hc : c ≤ c') :
    g.Costs k' c' act :=
  fun s => (h s).loosen hk hc

theorem upTo {act : EStateM ε ρ α} (h : g.Costs k c act) (hc : c ≤ c') : g.Costs k c' act :=
  h.loosen (Nat.le_refl k) hc

theorem bind {act : EStateM ε ρ α} {next : α → EStateM ε ρ β} (h : g.Costs k c act)
    (hNext : ∀ a, g.Costs k c' (next a)) : g.Costs k (c + c') (act >>= next) := by
  intro s
  have hAct := h s
  cases hRun : act s with
  | error e t =>
    rw [hRun] at hAct
    rw [bind_error hRun]
    exact hAct.upTo (Nat.le_add_right c c')
  | ok a t =>
    rw [hRun] at hAct
    rw [bind_ok hRun]
    exact hAct.trans (hNext a t)

theorem map {act : EStateM ε ρ α} (f : α → β) (h : g.Costs k c act) : g.Costs k c (f <$> act) := by
  intro s
  have hAct := h s
  show g.Paces k c s (endState (EStateM.map f act s))
  unfold EStateM.map
  cases hRun : act s with
  | error e t =>
    rw [hRun] at hAct
    exact hAct
  | ok a t =>
    rw [hRun] at hAct
    exact hAct

end Costs

end Gauge

/-! ## Sources, sinks and links -/

/-- A read is one step, and one that gets through or was interrupted has used up something. -/
structure Source.Paced (g : Gauge τ) (source : Source τ) : Prop where
  read : ∀ n, g.Costs 0 1 (source.read n)
  spends : ∀ {n s bs t}, source.read n s = .ok bs t → 0 < n → g.left t < g.left s
  interrupted : ∀ {n s f t}, source.read n s = .error f t → f.kind = .interrupted →
    g.left t < g.left s

/-- A write is one step, and one that leaves something to be written or was interrupted has
used up something. -/
structure Sink.Paced (g : Gauge τ) (sink : Sink τ) : Prop where
  write : ∀ bs, g.Costs 0 1 (sink.write bs)
  flush : g.Costs 0 1 sink.flush
  leaves : ∀ {bs s n t}, sink.write bs s = .ok n t → n < bs.length → g.left t < g.left s
  interrupted : ∀ {bs s f t}, sink.write bs s = .error f t → f.kind = .interrupted →
    g.left t < g.left s

structure Link.Paced (g : Gauge τ) (link : Link τ) : Prop where
  source : link.toSource.Paced g
  sink : link.toSink.Paced g
  setMode : ∀ mode, g.Costs 0 1 (link.setMode mode)

namespace Source

variable {g : Gauge τ} {source : Source τ} (h : source.Paced g)

include h

theorem read_paces {n : Nat} {s : τ} {r : EStateM.Result Fault τ Bytes}
    (hRead : source.read n s = r) : g.Paces 0 1 s (endState r) := by
  subst hRead
  exact h.read n s

/-- All reads of a full read are paid for but the last one. -/
theorem readExact_costs (n : Nat) : g.Costs 1 1 (source.readExact n) := by
  intro s
  fun_induction source.readExact n s with
  | case1 s => exact (Gauge.Paces.refl g 1 s).upTo (Nat.zero_le 1)
  | case2 n s hn t hRead => exact (read_paces h hRead).loosen (Nat.zero_le 1) (Nat.le_refl 1)
  | case3 n s hn b bs t hRead rest u hRest ih =>
    have hOnce : g.Paces 0 (0 + 1) s t := read_paces h hRead
    rw [hRest] at ih
    exact (hOnce.spends (h.spends hRead (Nat.pos_of_ne_zero hn))).trans ih
  | case4 n s hn b bs t hRead f u hRest ih =>
    have hOnce : g.Paces 0 (0 + 1) s t := read_paces h hRead
    rw [hRest] at ih
    exact (hOnce.spends (h.spends hRead (Nat.pos_of_ne_zero hn))).trans ih
  | case5 n s hn f t hRead hAgain ih =>
    have hOnce : g.Paces 0 (0 + 1) s t := read_paces h hRead
    exact (hOnce.spends (h.interrupted hRead hAgain)).trans ih
  | case6 n s hn f t hRead hEnds =>
    exact (read_paces h hRead).loosen (Nat.zero_le 1) (Nat.le_refl 1)

theorem discard_costs (n : Nat) : g.Costs 1 1 (source.discard n) := by
  intro s
  fun_induction source.discard n s with
  | case1 s => exact (Gauge.Paces.refl g 1 s).upTo (Nat.zero_le 1)
  | case2 n s hn t hRead => exact (read_paces h hRead).loosen (Nat.zero_le 1) (Nat.le_refl 1)
  | case3 n s hn b bs t hRead ih =>
    have hOnce : g.Paces 0 (0 + 1) s t := read_paces h hRead
    exact (hOnce.spends (h.spends hRead (skipPiece_pos hn))).trans ih
  | case4 n s hn f t hRead hAgain ih =>
    have hOnce : g.Paces 0 (0 + 1) s t := read_paces h hRead
    exact (hOnce.spends (h.interrupted hRead hAgain)).trans ih
  | case5 n s hn f t hRead hEnds =>
    exact (read_paces h hRead).loosen (Nat.zero_le 1) (Nat.le_refl 1)

theorem readInt_costs : g.Costs 1 1 (Wire.readInt source) :=
  (readExact_costs h Wire.intSize).map Wire.decode

end Source

namespace Sink

variable {g : Gauge τ} {sink : Sink τ} (h : sink.Paced g)

include h

theorem write_paces {bs : Bytes} {s : τ} {r : EStateM.Result Fault τ Nat}
    (hWrite : sink.write bs s = r) : g.Paces 0 1 s (endState r) := by
  subst hWrite
  exact h.write bs s

/-- All writes of a full write are paid for but the last one. -/
theorem writeAll_costs (bs : Bytes) : g.Costs 1 1 (sink.writeAll bs) := by
  intro s
  fun_induction sink.writeAll bs s with
  | case1 s => exact (Gauge.Paces.refl g 1 s).upTo (Nat.zero_le 1)
  | case2 s b rest t hWrite => exact (write_paces h hWrite).loosen (Nat.zero_le 1) (Nat.le_refl 1)
  | case3 s b rest n t hWrite ih =>
    have hOnce : g.Paces 0 (0 + 1) s t := write_paces h hWrite
    by_cases hAll : rest.length ≤ n
    · -- All of it is taken, and there is nothing left to write.
      have hDone : sink.writeAll (rest.drop n) t = .ok () t := by
        rw [List.drop_eq_nil_of_le hAll, writeAll]
      rw [hDone]
      exact hOnce.loosen (Nat.zero_le 1) (Nat.le_refl 1)
    · have hSome : n + 1 < (b :: rest).length := by
        rw [List.length_cons]
        omega
      exact (hOnce.spends (h.leaves hWrite hSome)).trans ih
  | case4 s b rest f t hWrite hAgain ih =>
    have hOnce : g.Paces 0 (0 + 1) s t := write_paces h hWrite
    exact (hOnce.spends (h.interrupted hWrite hAgain)).trans ih
  | case5 s b rest f t hWrite hEnds =>
    exact (write_paces h hWrite).loosen (Nat.zero_le 1) (Nat.le_refl 1)

end Sink

/-! ## Serving -/

namespace Serve

variable {g : Gauge τ} {k c : Nat}

/-- The gauge of the world of a serving. -/
def gauge (g : Gauge τ) : Gauge (Serving τ) :=
  g.on Serving.world

theorem onWorld_costs {wrap : Fault → ServeError} {act : EStateM Fault τ α} (h : g.Costs k c act) :
    (gauge g).Costs k c (onWorld wrap act) := by
  intro st
  have hAct := h st.world
  unfold onWorld
  cases hRun : act st.world with
  | ok a w =>
    rw [hRun] at hAct
    exact ⟨hAct.left, hAct.steps⟩
  | error f w =>
    rw [hRun] at hAct
    exact ⟨hAct.left, hAct.steps⟩

theorem onLink_costs {act : EStateM Fault τ α} (h : g.Costs k c act) :
    (gauge g).Costs k c (onLink act) :=
  onWorld_costs h

theorem session_costs : (gauge g).Costs k 0 (session : Serve τ Session) :=
  fun st => Gauge.Paces.refl _ k st

theorem update_costs (f : Session → Session) : (gauge g).Costs k 0 (update f : Serve τ Unit) :=
  fun _ => ⟨Nat.le_refl _, Nat.le_refl _⟩

theorem check_costs (wrap : ε → ServeError) (r : Except ε α) :
    (gauge g).Costs k 0 (check wrap r : Serve τ α) := by
  cases r with
  | ok a => exact .pure _ k a
  | error e => exact .throw _ k (wrap e)

end Serve

namespace Session

open Serve

variable {g : Gauge τ} {link : Link τ} (h : link.Paced g)

include h

theorem handleInit_costs : (gauge g).Costs 1 3 (handleInit link) := by
  have hWrite := fun bs => onLink_costs (Sink.writeAll_costs h.sink bs)
  have hAct : (gauge g).Costs 1 (0 + (0 + 1)) (handleInit link) := by
    refine .bind (update_costs _) fun _ => ?_
    refine .bind session_costs fun s => ?_
    split
    · exact hWrite _
    · exact (Gauge.Costs.pure _ 1 _).upTo (Nat.zero_le 1)
  exact hAct.upTo (by omega)

theorem handleInitPool_costs : (gauge g).Costs 1 3 (handleInitPool link) := by
  have hAct : (gauge g).Costs 1 (1 + (0 + 0)) (handleInitPool link) := by
    refine .bind (onLink_costs (Source.readInt_costs h.source)) fun size => ?_
    refine .bind session_costs fun s => ?_
    split
    · split
      · exact update_costs _
      · exact .throw _ 1 _
    · exact update_costs _
  exact hAct.upTo (by omega)

theorem handleRead_costs : (gauge g).Costs 1 3 (handleRead link) := by
  have hInt := onLink_costs (Source.readInt_costs h.source)
  have hAct : (gauge g).Costs 1 (1 + (1 + (0 + 1))) (handleRead link) := by
    refine .bind hInt fun index => .bind hInt fun size => .bind session_costs fun s => ?_
    split
    · exact (update_costs _).upTo (Nat.zero_le 1)
    · have hReply : ∀ data, (gauge g).Costs 1 1 (onLink (link.writeAll data)) := fun data =>
        onLink_costs (Sink.writeAll_costs h.sink data)
      exact (Gauge.Costs.bind (check_costs _ _) hReply).upTo (by omega)
  exact hAct

theorem handleWrite_costs : (gauge g).Costs 1 3 (handleWrite link) := by
  have hInt := onLink_costs (Source.readInt_costs h.source)
  have hAct : (gauge g).Costs 1 (1 + (1 + (0 + 1))) (handleWrite link) := by
    refine .bind hInt fun index => .bind hInt fun size => .bind session_costs fun s => ?_
    split
    · exact (Gauge.Costs.bind (update_costs _) fun _ =>
          onLink_costs (Source.discard_costs h.source _)).upTo (by omega)
    · have hData := fun n => onLink_costs (Source.readExact_costs h.source n)
      refine Gauge.Costs.upTo (?_ : (gauge g).Costs 1 (0 + (1 + (0 + 0))) _) (by omega)
      refine .bind (check_costs _ _) fun range => .bind (hData _) fun data => ?_
      exact .bind (check_costs _ _) fun written => update_costs _
  exact hAct

theorem handleInputAvailable_costs : (gauge g).Costs 1 3 (handleInputAvailable link) := by
  have hAct : (gauge g).Costs 1 (0 + 1) (handleInputAvailable link) :=
    .bind session_costs fun _ => onLink_costs (Sink.writeAll_costs h.sink _)
  exact hAct.upTo (by omega)

theorem handleInputRequest_costs : (gauge g).Costs 1 3 (handleInputRequest link) := by
  have hAct : (gauge g).Costs 1 (1 + (0 + (0 + (1 + 1)))) (handleInputRequest link) := by
    refine .bind (onLink_costs (Source.readInt_costs h.source)) fun requested =>
      .bind session_costs fun s => ?_
    refine .bind (update_costs _) fun _ => ?_
    exact .bind (onLink_costs (Sink.writeAll_costs h.sink _)) fun _ =>
      onLink_costs (Sink.writeAll_costs h.sink _)
  exact hAct

theorem handleInputPeek_costs : (gauge g).Costs 1 3 (handleInputPeek link) := by
  have hAct : (gauge g).Costs 1 (0 + 1) (handleInputPeek link) := by
    refine .bind session_costs fun s => ?_
    split
    · exact onLink_costs (Sink.writeAll_costs h.sink _)
    · exact onLink_costs (Sink.writeAll_costs h.sink _)
  exact hAct.upTo (by omega)

theorem handlePing_costs : (gauge g).Costs 1 3 (handlePing link) := by
  have hAct : (gauge g).Costs 1 (0 + 1) (handlePing link) :=
    .bind session_costs fun _ => onLink_costs (Sink.writeAll_costs h.sink _)
  exact hAct.upTo (by omega)

/-- A command is made of three full reads and writes at most. -/
theorem handle_costs (command : Command) : (gauge g).Costs 1 3 (handle link command) := by
  cases command with
  | init => exact handleInit_costs h
  | initPool => exact handleInitPool_costs h
  | read => exact handleRead_costs h
  | write => exact handleWrite_costs h
  | inputAvailable => exact handleInputAvailable_costs h
  | inputRequest => exact handleInputRequest_costs h
  | inputPeek => exact handleInputPeek_costs h
  | ping => exact handlePing_costs h

theorem carryOut_costs (code : UInt8) : (gauge g).Costs 1 4 (carryOut link code) := by
  unfold carryOut
  split
  · refine Gauge.Costs.upTo (?_ : (gauge g).Costs 1 (0 + 0) _) (by omega)
    exact .bind (update_costs _) fun _ => .pure _ 1 _
  · have hFlush := (onLink_costs h.sink.flush).loosen (Nat.zero_le 1) (Nat.le_refl 1)
    refine Gauge.Costs.upTo (?_ : (gauge g).Costs 1 (3 + (1 + (0 + 0))) _) (by omega)
    refine .bind (handle_costs h _) fun _ => .bind hFlush fun _ => ?_
    exact .bind (update_costs _) fun _ => .pure _ 1 _

/-- A command with the switches of mode around it. -/
theorem dispatch_costs (code : UInt8) : (gauge g).Costs 1 6 (dispatch link code) := by
  intro st
  have hEnter := (onLink_costs (h.setMode .blocking)).loosen (Nat.zero_le 1) (Nat.le_refl 1) st
  have hLeave : ∀ w, g.Paces 1 1 w (link.leaveBlocking w) := fun w =>
    (h.setMode .poll w).loosen (Nat.zero_le 1) (Nat.le_refl 1)
  have hEnter : (gauge g).Paces 1 1 st (endState (onLink link.enterBlocking st)) := hEnter
  unfold dispatch bracket
  cases hRun : onLink link.enterBlocking st with
  | error e t =>
    rw [hRun] at hEnter
    exact hEnter.upTo (by omega)
  | ok u t =>
    rw [hRun] at hEnter
    have hBody := carryOut_costs h code t
    simp only
    cases hBodyRun : carryOut link code t with
    | error e v =>
      rw [hBodyRun] at hBody
      have hLeft : (gauge g).Paces 1 1 v { v with world := link.leaveBlocking v.world } :=
        ⟨(hLeave v.world).left, (hLeave v.world).steps⟩
      exact (hEnter.trans hBody).trans hLeft
    | ok a v =>
      rw [hBodyRun] at hBody
      have hLeft : (gauge g).Paces 1 1 v { v with world := link.leaveBlocking v.world } :=
        ⟨(hLeave v.world).left, (hLeave v.world).steps⟩
      exact (hEnter.trans hBody).trans hLeft

theorem processByte_costs {sink : Sink τ} (hSink : sink.Paced g) (b : UInt8) :
    (gauge g).Costs 1 6 (processByte link sink b) := by
  have hPass : ∀ bs, (gauge g).Costs 1 1 (onSink (sink.writeAll bs)) := fun bs =>
    onWorld_costs (Sink.writeAll_costs hSink bs)
  refine Gauge.Costs.upTo (?_ : (gauge g).Costs 1 (0 + (0 + (6 + 0))) _) (by omega)
  refine .bind session_costs fun s => .bind (update_costs _) fun _ => ?_
  split
  · refine Gauge.Costs.upTo (?_ : (gauge g).Costs 1 (1 + (0 + 0)) _) (by omega)
    exact .bind (hPass _) fun _ => .bind (update_costs _) fun _ => .pure _ 1 _
  · exact (Gauge.Costs.pure _ 1 _).upTo (Nat.zero_le _)
  · exact .bind (dispatch_costs h _) fun _ => .pure _ 1 _

end Session

/-! ## Ticks -/

namespace Connection

/-- The gauge of the world of a connection. -/
def gauge (g : Gauge τ) : Gauge (Connection τ) :=
  g.on fun c => c.world

section

variable {g : Gauge τ} {k c : Nat}

theorem serve_costs {act : Serve τ α} (h : (Serve.gauge g).Costs k c act) :
    (gauge g).Costs k c (serve act) := by
  intro d
  have hAct := h d.toServing
  unfold serve
  cases hRun : act d.toServing with
  | ok a st =>
    rw [hRun] at hAct
    exact ⟨hAct.left, hAct.steps⟩
  | error e st =>
    rw [hRun] at hAct
    exact ⟨hAct.left, hAct.steps⟩

theorem get_costs : (gauge g).Costs k 0 (get : Tick τ (Connection τ)) :=
  fun d => Gauge.Paces.refl _ k d

theorem modify_costs {f : Connection τ → Connection τ} (h : ∀ d, (f d).world = d.world) :
    (gauge g).Costs k 0 (modify f : Tick τ Unit) := by
  intro d
  have hSame : (f d).world = d.world := h d
  show (gauge g).Paces k 0 d (f d)
  refine ⟨?_, ?_⟩
  · show g.left (f d).world ≤ g.left d.world
    rw [hSame]
  · show g.steps (f d).world + k * g.left (f d).world ≤ _
    rw [hSame]
    exact Nat.le_refl _

variable {host : Host τ} {link : Link τ} (h : link.Paced g) (hSink : host.sink.Paced g)

include h

theorem requestHandshake_costs : (gauge g).Costs 8 2 (requestHandshake host link) := by
  have hWrite := fun bs => (serve_costs (Serve.onLink_costs (Sink.writeAll_costs h.sink bs))).loosen
    (show 1 ≤ 8 by omega) (Nat.le_refl 1)
  have hFlush :=
    (serve_costs (Serve.onLink_costs h.sink.flush)).loosen (Nat.zero_le 8) (Nat.le_refl 1)
  refine Gauge.Costs.upTo (?_ : (gauge g).Costs 8 (0 + (1 + (1 + 0))) _) (by omega)
  refine .bind get_costs fun d => ?_
  split
  · exact .bind (hWrite _) fun _ => .bind hFlush fun _ => modify_costs fun _ => rfl
  · exact (Gauge.Costs.pure _ 8 _).upTo (Nat.zero_le _)

theorem pollByte_costs : (gauge g).Costs 0 1 (pollByte link) := by
  intro d
  have hRead := h.source.read 1 d.world
  unfold pollByte
  cases hRun : link.read 1 d.world with
  | ok bs w =>
    rw [hRun] at hRead
    exact ⟨hRead.left, hRead.steps⟩
  | error f w =>
    rw [hRun] at hRead
    simp only
    split
    · exact ⟨hRead.left, hRead.steps⟩
    · exact ⟨hRead.left, hRead.steps⟩

/-- A byte that was polled has used up something. -/
theorem pollByte_left {c d : Connection τ} {b : UInt8} (hPoll : pollByte link c = .ok (some b) d) :
    g.left d.world < g.left c.world := by
  unfold pollByte at hPoll
  cases hRun : link.read 1 c.world with
  | ok bs w =>
    rw [hRun] at hPoll
    obtain ⟨-, rfl⟩ := EStateM.Result.ok.inj hPoll
    exact h.source.spends hRun Nat.one_pos
  | error f w =>
    rw [hRun] at hPoll
    simp only at hPoll
    split at hPoll <;> cases hPoll

include hSink

theorem handleByte_costs (b : UInt8) : (gauge g).Costs 1 6 (handleByte host link b) := by
  refine Gauge.Costs.upTo (?_ : (gauge g).Costs 1 (6 + 0) _) (by omega)
  refine .bind (serve_costs (Session.processByte_costs h hSink b)) fun handled => ?_
  split
  · exact modify_costs fun _ => rfl
  · exact .pure _ 1 _

/-- A byte that was polled pays for its read and for all that becomes of it. -/
theorem byte_paces {c d : Connection τ} {b : UInt8} (hPoll : pollByte link c = .ok (some b) d) :
    (gauge g).Paces 8 0 c (endState (handleByte host link b d)) := by
  have hPolled : (gauge g).Paces 0 1 c d := by
    have hRead := pollByte_costs h c
    rwa [hPoll] at hRead
  have hHandled := handleByte_costs h hSink b d
  have hBoth : (gauge g).Paces 1 (0 + 7) c (endState (handleByte host link b d)) :=
    (hPolled.loosen (Nat.zero_le 1) (Nat.le_refl 1)).trans hHandled
  exact hBoth.spends (Nat.lt_of_le_of_lt hHandled.left (pollByte_left h hPoll))

/-- All of a tick is paid for but its last read. -/
theorem pollBytes_costs (started n : Nat) :
    (gauge g).Costs 8 1 (pollBytes host link started n) := by
  intro c
  induction n generalizing c with
  | zero => exact (Gauge.Paces.refl _ 8 c).upTo (Nat.zero_le 1)
  | succ n ih =>
    have hRead := pollByte_costs h c
    unfold pollBytes
    cases hPoll : pollByte link c with
    | error e d =>
      rw [hPoll] at hRead
      rw [bind_error hPoll]
      exact hRead.loosen (Nat.zero_le 8) (Nat.le_refl 1)
    | ok polled d =>
      rw [hPoll] at hRead
      rw [bind_ok hPoll]
      cases polled with
      | none => exact hRead.loosen (Nat.zero_le 8) (Nat.le_refl 1)
      | some b =>
        have hByte := byte_paces h hSink hPoll
        simp only
        cases hHandle : handleByte host link b d with
        | error e u =>
          rw [hHandle] at hByte
          rw [bind_error hHandle]
          exact hByte.upTo (Nat.zero_le 1)
        | ok v u =>
          rw [hHandle] at hByte
          rw [bind_ok hHandle, bind_ok (get_run u)]
          split
          · exact hByte.upTo (Nat.zero_le 1)
          · exact hByte.trans (ih u)

theorem poll_costs : (gauge g).Costs 8 4 (poll host link) := by
  have hFlush : (gauge g).Costs 8 1 (serve (Serve.onSink host.sink.flush)) :=
    (serve_costs (Serve.onWorld_costs hSink.flush)).loosen (Nat.zero_le 8) (Nat.le_refl 1)
  refine Gauge.Costs.upTo (?_ : (gauge g).Costs 8 (2 + (0 + (1 + 1))) _) (by omega)
  refine .bind (requestHandshake_costs h) fun _ => .bind get_costs fun d => ?_
  exact .bind (pollBytes_costs h hSink _ _) fun _ => hFlush

end

end Connection

/-! ## Hosts -/

/-- How many steps were made, and the budget that is left. -/
def BridgeHost.gauge (host : BridgeHost τ) (steps : τ → Nat) : Gauge τ where
  steps := steps
  left := host.budget

/-- Every single operation is one step, and what is tried again inside of a full read or a full
write has used up some of the budget. -/
structure BridgeHost.Paced (host : BridgeHost τ) (steps : τ → Nat) : Prop where
  link : ∀ k, (host.link k).Paced (host.gauge steps)
  sink : host.sink.Paced (host.gauge steps)
  tryOpen : (host.gauge steps).Costs 0 1 host.tryOpen
  pause : ∀ ms s, (host.gauge steps).Paces 0 1 s (host.pause ms s)
  receive : ∀ s, (host.gauge steps).Paces 0 1 s (host.receive s).2

/-- What is tried again inside of a full read or a full write has used up some of the budget. -/
structure BridgeHost.Drains (host : BridgeHost τ) : Prop where
  read : ∀ {k n s bs t}, (host.link k).read n s = .ok bs t → 0 < n → host.budget t < host.budget s
  readAgain : ∀ {k n s f t}, (host.link k).read n s = .error f t → f.kind = .interrupted →
    host.budget t < host.budget s
  write : ∀ {k bs s n t}, (host.link k).write bs s = .ok n t → n < bs.length →
    host.budget t < host.budget s
  writeAgain : ∀ {k bs s f t}, (host.link k).write bs s = .error f t → f.kind = .interrupted →
    host.budget t < host.budget s
  pass : ∀ {bs s n t}, host.sink.write bs s = .ok n t → n < bs.length →
    host.budget t < host.budget s
  passAgain : ∀ {bs s f t}, host.sink.write bs s = .error f t → f.kind = .interrupted →
    host.budget t < host.budget s

/-- An attempt to open a link that is followed by another one has used up some of the budget. -/
theorem Host.retry_spends (host : Host τ) {delay : Nat} {s t u : τ} {f : Fault}
    (hOpen : host.openLink s = .error f t) (hSleep : host.sleep delay t = (true, u)) :
    host.budget u < host.budget s := by
  have hSpends := (host.openLink_spends s).2
  have hAfter := host.sleep_after delay t
  have hRuns := host.sleep_not_stopped hSleep
  rw [hOpen] at hSpends
  rw [hSleep] at hAfter
  rcases hSpends with hStopped | hSpent
  · cases hRuns.symm.trans (hAfter.1 hStopped)
  · exact Nat.lt_of_le_of_lt hAfter.2 hSpent

namespace BridgeHost.Paced

variable {host : BridgeHost τ} {steps : τ → Nat} (h : host.Paced steps)

include h

theorem drains : host.Drains where
  read {k} := (h.link k).source.spends
  readAgain {k} := (h.link k).source.interrupted
  write {k} := (h.link k).sink.leaves
  writeAgain {k} := (h.link k).sink.interrupted
  pass := h.sink.leaves
  passAgain := h.sink.interrupted

theorem openLink_costs : (host.gauge steps).Costs 0 2 host.openLink := by
  intro s
  have hOpening := h.tryOpen s
  unfold Host.openLink
  cases hTry : host.tryOpen s with
  | error f t =>
    rw [hTry] at hOpening
    exact hOpening.upTo (by omega)
  | ok k t =>
    have hSwitch := (h.link k).setMode .poll t
    rw [hTry] at hOpening
    simp only
    cases hSet : (host.link k).setMode .poll t with
    | error f u =>
      rw [hSet] at hSwitch
      exact hOpening.trans hSwitch
    | ok a u =>
      rw [hSet] at hSwitch
      exact hOpening.trans hSwitch

theorem sleep_paces (ms : Nat) (s : τ) : (host.gauge steps).Paces 0 1 s (host.sleep ms s).2 := by
  rcases host.sleep_cases ms s with hSame | hPaused
  · rw [hSame]
    exact (Gauge.Paces.refl _ 0 s).upTo (Nat.zero_le 1)
  · rw [hPaused]
    exact h.pause ms s

/-- Every attempt to get a link is paid for but the last one. -/
theorem awaitLink_costs (delay : Nat) : (host.gauge steps).Costs 3 3 (host.awaitLink delay) := by
  intro s
  fun_induction host.awaitLink delay s with
  | case1 s hStopped => exact (Gauge.Paces.refl _ 3 s).upTo (Nat.zero_le 3)
  | case2 s hRuns k t hOpen =>
    have hOpened := openLink_costs h s
    rw [hOpen] at hOpened
    exact hOpened.loosen (Nat.zero_le 3) (by omega)
  | case3 s hRuns f t hOpen u hSleep =>
    have hOpened := openLink_costs h s
    have hSlept := sleep_paces h delay t
    rw [hOpen] at hOpened
    rw [hSleep] at hSlept
    exact (hOpened.trans hSlept).loosen (Nat.zero_le 3) (by omega)
  | case4 s hRuns f t hOpen u hSleep ih =>
    have hOpened := openLink_costs h s
    have hSlept := sleep_paces h delay t
    rw [hOpen] at hOpened
    rw [hSleep] at hSlept
    have hBoth : (host.gauge steps).Paces 0 (0 + 3) s u := hOpened.trans hSlept
    exact (hBoth.spends (host.retry_spends hOpen hSleep)).trans ih

end BridgeHost.Paced

namespace Connection

variable {host : BridgeHost τ} {steps : τ → Nat} (h : host.Paced steps)

include h

theorem connect_costs : (gauge (host.gauge steps)).Costs 3 4 (connect host.toHost) := by
  intro c
  have hAwait := h.awaitLink_costs c.dropLink.timing.reconnectDelay c.dropLink.world
  have hSleep :=
    fun w => (h.sleep_paces c.dropLink.timing.settleDelay w).loosen (Nat.zero_le 3) (Nat.le_refl 1)
  unfold connect
  simp only
  cases hRun : host.awaitLink c.dropLink.timing.reconnectDelay c.dropLink.world with
  | error e w =>
    rw [hRun] at hAwait
    exact ⟨hAwait.left, Nat.le_succ_of_le hAwait.steps⟩
  | ok k w =>
    rw [hRun] at hAwait
    have hBoth := hAwait.trans (hSleep w)
    simp only
    cases hSlept : host.sleep c.dropLink.timing.settleDelay w with
    | mk rested v =>
      rw [hSlept] at hBoth
      cases rested with
      | false => exact ⟨hBoth.left, hBoth.steps⟩
      | true => exact ⟨hBoth.left, hBoth.steps⟩

/-- A polled byte has used up some of the budget, whatever becomes of it. -/
theorem byte_spends {k : LinkId} {b : UInt8} {c d : Connection τ}
    (hPoll : pollByte (host.link k) c = .ok (some b) d) :
    host.budget (endState (handleByte host.toHost (host.link k) b d)).world <
      host.budget c.world := by
  have hPolled := pollByte_left (h.link k) hPoll
  have hHandled := handleByte_costs (h.link k) h.sink b d
  exact Nat.lt_of_le_of_lt hHandled.left hPolled

/-- A tick is a poll and a reconnect at most. -/
theorem update_costs (c : Connection τ) :
    (gauge (host.gauge steps)).Paces 8 8 c (endState (update host.toHost c)) := by
  have hConnect : ∀ d,
      (gauge (host.gauge steps)).Paces 8 4 d (endState (connect host.toHost d)) := fun d =>
        (connect_costs h d).loosen (by omega) (Nat.le_refl 4)
  cases hLink : c.link with
  | none =>
    rw [update_unlinked hLink]
    exact (hConnect c).upTo (by omega)
  | some k =>
    have hPoll := poll_costs (h.link k) h.sink c
    rcases (@update_cases _ host.toHost c k hLink) with ⟨d, hRun, hEnd⟩ | ⟨f, d, hRun, hEnd⟩ |
      ⟨e, d, hRun, -, hEnd⟩
    · rw [hRun] at hPoll
      rw [hEnd]
      exact hPoll.upTo (by omega)
    · rw [hRun] at hPoll
      rw [hEnd]
      exact hPoll.upTo (by omega)
    · rw [hRun] at hPoll
      rw [hEnd, reconnect_end]
      have hLost :=
        hConnect { d with link := none, phase := .disconnected, reconnects := d.reconnects + 1 }
      have hDropped : (gauge (host.gauge steps)).Paces 8 4 d _ := ⟨hLost.left, hLost.steps⟩
      exact hPoll.trans hDropped

end Connection

/-! ## Poll loops -/

namespace Bridge

open Connection

/-- A round after which the world runs has used up some of the budget. -/
theorem round_spends (host : BridgeHost τ) {inputOpen : Bool} {c d : Connection τ}
    (hUpdate : update host.toHost c = .ok () d)
    (hRuns : ¬ host.stopped (takeInputIf host inputOpen d).2.world = true) :
    host.budget (takeInputIf host inputOpen d).2.world < host.budget c.world := by
  have hSpent := (update_spends host hUpdate).later (takeInputIf_after host inputOpen d)
  rcases hSpent with hStopped | hSpent
  · exact absurd hStopped hRuns
  · exact hSpent

/-- A loop has no more rounds than its budget allows, and one more after which the world is
stopped. -/
theorem Loop.rounds_le {host : BridgeHost τ} {start c : Connection τ} {inputOpen : Bool}
    {rounds : List (Round τ)} (h : Loop host start inputOpen rounds c) :
    rounds.length + host.budget c.world ≤ host.budget start.world ∨
      host.stopped c.world = true ∧ rounds.length ≤ host.budget start.world + 1 := by
  induction h with
  | start => exact Or.inl (by simp)
  | @round inputOpen rounds c d before runs ticks ih =>
    rw [List.length_append, List.length_singleton]
    rcases ih with hRounds | ⟨hStopped, -⟩
    · by_cases hEnds : host.stopped (takeInputIf host inputOpen d).2.world = true
      · exact Or.inr ⟨hEnds, by omega⟩
      · have hSpent := round_spends host ticks hEnds
        exact Or.inl (by omega)
    · exact absurd hStopped runs

section

variable {host : BridgeHost τ} {steps : τ → Nat} (h : host.Paced steps)

include h

theorem takeInputIf_paces (inputOpen : Bool) (c : Connection τ) :
    (gauge (host.gauge steps)).Paces 0 1 c (takeInputIf host inputOpen c).2 := by
  have hReceive := h.receive c.world
  unfold takeInputIf
  cases inputOpen with
  | false => exact (Gauge.Paces.refl _ 0 c).upTo (Nat.zero_le 1)
  | true =>
    show (gauge (host.gauge steps)).Paces 0 1 c (takeInput host c).2
    unfold takeInput
    cases hFound : host.receive c.world with
    | mk r w =>
      rw [hFound] at hReceive
      cases r with
      | chunk bytes => exact ⟨hReceive.left, hReceive.steps⟩
      | empty => exact ⟨hReceive.left, hReceive.steps⟩
      | disconnected => exact ⟨hReceive.left, hReceive.steps⟩

/-- Every round of a poll loop is paid for but the last one. -/
theorem pollLoop_costs (inputOpen : Bool) (c : Connection τ) :
    (gauge (host.gauge steps)).Paces 17 9 c (endState (pollLoop host inputOpen c)) := by
  fun_induction pollLoop host inputOpen c with
  | case1 inputOpen c hStopped => exact (Gauge.Paces.refl _ 17 c).upTo (Nat.zero_le 9)
  | case2 inputOpen c hRuns d hUpdate =>
    have hTick := update_costs h c
    rw [hUpdate] at hTick
    exact hTick.loosen (by omega) (by omega)
  | case3 inputOpen c hRuns f d hUpdate =>
    have hTick := update_costs h c
    rw [hUpdate] at hTick
    exact hTick.loosen (by omega) (by omega)
  | case4 inputOpen c hRuns d hUpdate ih =>
    have hTick := update_costs h c
    have hLook := (takeInputIf_paces h inputOpen d).loosen (Nat.zero_le 8) (Nat.le_refl 1)
    rw [hUpdate] at hTick
    have hRound : (gauge (host.gauge steps)).Paces 8 (0 + 9) c (takeInputIf host inputOpen d).2 :=
      hTick.trans hLook
    by_cases hStopped : host.stopped (takeInputIf host inputOpen d).2.world = true
    · rw [pollLoop_of_stopped host _ hStopped]
      exact hRound.loosen (by omega) (by omega)
    · exact (hRound.spends (round_spends host hUpdate hStopped)).trans ih

theorem run_costs : (gauge (host.gauge steps)).Costs 17 13 (run host) := by
  intro c
  have hConnect := (connect_costs h c).loosen (show 3 ≤ 17 by omega) (Nat.le_refl 4)
  unfold run
  cases hRun : connect host.toHost c with
  | error e d =>
    rw [hRun] at hConnect
    exact hConnect.upTo (by omega)
  | ok u d =>
    rw [hRun] at hConnect
    exact hConnect.trans (pollLoop_costs h true d)

end

end Bridge

end MemoryBridge
