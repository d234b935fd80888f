import MemoryBridge.Proofs.Settling.Ticks
import MemoryBridge.Proofs.Tracing.Blame

/-!
# The operations of a tick

`poll_ticked` says what the operations of a tick tell: whether it fails at the link, whether it
fails at the sink, and that the link is in poll mode again if it has not failed. A poll that finds
nothing is the last thing that a tick does on its link.

A trace also tells what commands have fetched, so it measures every link (`Traced.meters`).
-/

namespace MemoryBridge

variable {σ α : Type}

/-! ## What was fetched -/

namespace Traced

/-- What commands have read from the link `k`, while it is in blocking mode. -/
def meter (k : LinkId) : Meter (Traced σ) where
  ready s := s.asked k = .blocking
  fetched s := s.trace.flatMap (Operation.fetched k)

section

variable {k : LinkId} {s t : Traced σ} {op : Operation}

theorem meter_fetched (h : t.trace = s.trace ++ [op]) :
    (meter k).fetched t = (meter k).fetched s ++ op.fetched k := by
  show t.trace.flatMap _ = _
  rw [h, List.flatMap_append, List.flatMap_singleton]
  rfl

/-- An operation that fetches nothing. -/
theorem note_same {operation : Except Fault α → Operation} (act : EStateM Fault σ α)
    (hNothing : ∀ result, (operation result).fetched k = []) :
    Moves (fun s t => t.asked = s.asked ∧ (meter k).fetched t = (meter k).fetched s)
      (note operation act) := by
  intro s
  obtain ⟨hTrace, hAsked⟩ := note_end operation act s
  refine ⟨hAsked, ?_⟩
  rw [meter_fetched hTrace, hNothing, List.append_nil]

theorem still_of_same (h : t.asked = s.asked ∧ (meter k).fetched t = (meter k).fetched s) :
    (meter k).Still s t := by
  intro hReady
  refine ⟨(congrFun h.1 k).trans hReady, ?_⟩
  rw [h.2, List.append_nil]

end

/-- A trace measures every link. -/
theorem meters (host : Host σ) (k : LinkId) : host.traced.Meters k (meter k) where
  link := {
    read_ok := fun {n s bs t} hReady hRead => by
      have hMode : s.asked k = .blocking := hReady
      have hRead : (link host k).read n s = .ok bs t := hRead
      rw [link_read, hMode] at hRead
      obtain ⟨w, -, rfl⟩ := note_ok hRead
      refine ⟨hReady, (meter_fetched rfl).trans ?_⟩
      rw [Operation.fetched, if_pos rfl]
    read_error := fun {n s f t} hReady hRead => by
      have hRead : (link host k).read n s = .error f t := hRead
      rw [link_read] at hRead
      obtain ⟨w, -, rfl⟩ := note_error hRead
      refine ⟨hReady, (meter_fetched rfl).trans ?_⟩
      cases s.asked k <;> rfl
    write := fun bs s => still_of_same (note_same ((host.link k).write bs) (fun _ => rfl) s)
    flush := fun s => still_of_same (note_same (host.link k).flush (fun _ => rfl) s) }
  enter := fun {w v} hEnter => by
    have hAsked :=
      (note_end (.setMode k .blocking) ((host.link k).setMode .blocking) (w.ask k .blocking)).2
    have hSet : note (.setMode k .blocking) ((host.link k).setMode .blocking) (w.ask k .blocking) =
        .ok () v := hEnter
    rw [hSet] at hAsked
    exact (congrFun hAsked k).trans (if_pos rfl)
  setMode mode s := (note_same ((host.link k).setMode mode) (fun _ => rfl) (s.ask k mode)).2
  sink := {
    write := fun bs s => (note_same (host.sink.write bs) (fun _ => rfl) s).2
    flush := fun s => (note_same host.sink.flush (fun _ => rfl) s).2 }

end Traced

/-! ## Polling -/

namespace Connection

/-- A step of a tick whose operations account for how it ends. -/
def Accounts (k : LinkId) (act : Tick (Traced σ) α) : Prop :=
  Traced.Accounts k .serving .poll (fun c => c.world) act

section

variable {k : LinkId}

theorem serve_accounts {act : Serve (Traced σ) α} (h : Session.Accounts k .poll act) :
    Accounts k (serve act) := by
  intro c hMode
  obtain ⟨new, hAct⟩ := h c.toServing hMode
  refine ⟨new, ?_⟩
  unfold serve
  cases hRun : act c.toServing with
  | ok a st =>
    rw [hRun] at hAct
    exact hAct.recast rfl rfl
  | error e st =>
    rw [hRun] at hAct
    exact hAct.recast rfl rfl

theorem modify_accounts {f : Connection (Traced σ) → Connection (Traced σ)}
    (h : ∀ c, (f c).world = c.world) : Accounts k (modify f : Tick (Traced σ) Unit) :=
  Traced.Accounts.still h (fun _ => rfl) fun _ => rfl

theorem get_accounts : Accounts k (get : Tick (Traced σ) (Connection (Traced σ))) :=
  Traced.Accounts.still (fun _ => rfl) (fun _ => rfl) fun _ => rfl

/-- From `s` to `t` the link was polled for up to so many bytes, and the operations account for how
the run `r` has ended. A poll that found nothing was the last one, and then the run succeeds. -/
inductive Polled (k : LinkId) (s t : Traced σ)
    (r : EStateM.Result ServeError (Connection (Traced σ)) Unit) : Prop
  | all {new : List Operation} (h : Traced.Accounted k .serving .poll s t r new)
  | idle {new : List Operation} {u : Traced σ} {op : Operation}
      (h : Traced.Accounted k .serving .poll s u r new) (hTrace : t.trace = u.trace ++ [op])
      (hAsked : t.asked = u.asked) (hAt : op.isAt k = true)
      (hNothing : op.findsNothing = true) (hOk : succeeds r = true)

theorem polled_after {s t u : Traced σ}
    {r : EStateM.Result ServeError (Connection (Traced σ)) Unit} {a : α} {c : Connection (Traced σ)}
    {new : List Operation} (h : Traced.Accounted k .serving .poll s t
      (.ok a c : EStateM.Result ServeError (Connection (Traced σ)) α) new)
    (h' : Polled k t u r) : Polled k s u r := by
  cases h' with
  | all h' => exact .all (h.trans h')
  | idle h' hTrace hAsked hAt hNothing hOk =>
    exact .idle (h.trans h') hTrace hAsked hAt hNothing hOk

end

variable (host : Host σ) (k : LinkId)

theorem requestHandshake_accounts :
    Accounts k (requestHandshake host.traced (host.traced.link k)) := by
  refine Traced.Accounts.bind get_accounts fun c => ?_
  split
  · refine Traced.Accounts.bind (serve_accounts (Session.send_accounts host k .poll _)) fun _ => ?_
    refine Traced.Accounts.bind
      (serve_accounts (Session.onLink_accounts (Traced.flush_accounts host k .poll))) fun _ => ?_
    exact modify_accounts fun _ => rfl
  · exact Traced.Accounts.pure _

theorem handleByte_accounts (b : UInt8) :
    Accounts k (handleByte host.traced (host.traced.link k) b) := by
  refine Traced.Accounts.bind (serve_accounts (Session.processByte_accounts host k b))
    fun handled => ?_
  split
  · exact modify_accounts fun _ => rfl
  · exact Traced.Accounts.pure _

/-- What one poll comes to: a fault that costs the link, nothing, or a byte. -/
theorem pollByte_traced {c : Connection (Traced σ)} (hMode : c.world.asked k = .poll) :
    ∃ op d, d.world.trace = c.world.trace ++ [op] ∧ d.world.asked = c.world.asked ∧
      op.isAt k = true ∧
      op.failsSink = false ∧
      ((∃ f, pollByte (host.traced.link k) c = .error (.transport f) d ∧ op.costsLink = true ∧
          op.findsNothing = false) ∨
        (pollByte (host.traced.link k) c = .ok none d ∧ op.costsLink = false ∧
          op.findsNothing = true) ∨
        ∃ b, pollByte (host.traced.link k) c = .ok (some b) d ∧ op.costsLink = false ∧
          op.findsNothing = false) := by
  unfold pollByte
  cases hRead : (host.traced.link k).read 1 c.world with
  | ok bs w =>
    have hNote : (Traced.link host k).read 1 c.world = .ok bs w := hRead
    rw [Traced.link_read, hMode] at hNote
    obtain ⟨v, -, hw⟩ := Traced.note_ok hNote
    refine ⟨.read k .poll 1 (.ok bs), { c with world := w },
      by rw [hw], by rw [hw], beq_self_eq_true k, rfl, Or.inr ?_⟩
    cases bs with
    | nil => exact Or.inl ⟨rfl, rfl, rfl⟩
    | cons b bs => exact Or.inr ⟨b, rfl, rfl, rfl⟩
  | error f w =>
    have hNote : (Traced.link host k).read 1 c.world = .error f w := hRead
    rw [Traced.link_read, hMode] at hNote
    obtain ⟨v, -, hw⟩ := Traced.note_error hNote
    refine ⟨.read k .poll 1 (.error f), { c with world := w },
      by rw [hw], by rw [hw], beq_self_eq_true k, rfl, ?_⟩
    have hCosts : (Operation.read k .poll 1 (.error f)).costsLink = !f.isIdle :=
      congrArg not (Operation.isIdle_eq f).symm
    have hNothing : (Operation.read k .poll 1 (.error f)).findsNothing = f.isIdle :=
      (Operation.isIdle_eq f).symm
    rw [hCosts, hNothing]
    by_cases hIdle : f.isIdle = true
    · exact Or.inr (Or.inl ⟨if_pos hIdle, by simp [hIdle], hIdle⟩)
    · exact Or.inl ⟨f, if_neg hIdle, by simp [hIdle], by simpa using hIdle⟩

theorem pollBytes_polled (started n : Nat) {c : Connection (Traced σ)}
    (hMode : c.world.asked k = .poll) :
    let r := pollBytes host.traced (host.traced.link k) started n c
    Polled k c.world (endState r).world r := by
  intro r
  -- A byte that was handled has put the link back in poll mode, so the next read is a poll too.
  induction n generalizing c with
  | zero => exact .all (.nothing hMode rfl rfl)
  | succ n ih =>
    obtain ⟨op, d, hTrace, hAsked, hAt, hSink, hPolled⟩ := pollByte_traced host k hMode
    have hStill : d.world.asked k = .poll := (congrFun hAsked k).trans hMode
    have hRun : r = pollBytes host.traced (host.traced.link k) started (n + 1) c := rfl
    unfold pollBytes at hRun
    rcases hPolled with ⟨f, hPoll, hCosts, hFound⟩ | ⟨hPoll, hFree, hNothing⟩ |
      ⟨b, hPoll, hFree, hFound⟩
    · rw [bind_error hPoll] at hRun
      rw [hRun]
      exact .all (.single hTrace hCosts hSink ⟨hAt, hFound⟩ hStill)
    · rw [bind_ok hPoll] at hRun
      rw [hRun]
      exact .idle (.nothing hMode rfl rfl) hTrace hAsked hAt hNothing rfl
    · rw [bind_ok hPoll] at hRun
      have hRead : Traced.Accounted k .serving .poll c.world d.world
          (.ok b d : EStateM.Result ServeError (Connection (Traced σ)) UInt8) [op] :=
        .single hTrace hFree hSink ⟨hAt, hFound⟩ hStill
      obtain ⟨new, hHandled⟩ := handleByte_accounts host k b d hStill
      simp only at hRun
      cases hHandle : handleByte host.traced (host.traced.link k) b d with
      | error e u =>
        rw [hHandle] at hHandled
        rw [bind_error hHandle] at hRun
        rw [hRun]
        exact .all (hRead.trans (hHandled.recast rfl rfl))
      | ok v u =>
        rw [hHandle] at hHandled
        have hBoth := hRead.trans hHandled
        rw [bind_ok hHandle, bind_ok (get_run u)] at hRun
        split at hRun
        · rw [hRun]
          exact .all (hBoth.recast rfl rfl)
        · rw [hRun]
          exact polled_after hBoth (ih (hHandled.asked rfl))

/-- The sink is flushed once, and a fault of it is a fault of the sink. -/
theorem flush_cases (c : Connection (Traced σ)) :
    ∃ result d, d.world.trace = c.world.trace ++ [.passFlush result] ∧
      d.world.asked = c.world.asked ∧
      ((serve (Serve.onSink host.traced.sink.flush) c = .ok () d ∧
          (Operation.passFlush result).failsSink = false) ∨
        ∃ f, serve (Serve.onSink host.traced.sink.flush) c = .error (.sink f) d ∧
          (Operation.passFlush result).failsSink = true) := by
  unfold serve Serve.onSink Serve.onWorld
  cases hFlush : host.traced.sink.flush c.world with
  | ok u w =>
    have hNote : (Traced.sink host).flush c.world = .ok u w := hFlush
    rw [Traced.sink_flush] at hNote
    obtain ⟨v, -, hw⟩ := Traced.note_ok hNote
    exact ⟨.ok u, { c with world := w }, by rw [hw], by rw [hw], Or.inl ⟨rfl, rfl⟩⟩
  | error f w =>
    have hNote : (Traced.sink host).flush c.world = .error f w := hFlush
    rw [Traced.sink_flush] at hNote
    obtain ⟨v, -, hw⟩ := Traced.note_error hNote
    exact ⟨.error f, { c with world := w }, by rw [hw], by rw [hw], Or.inr ⟨f, rfl, rfl⟩⟩

/-- What the operations of a tick on the link `k` tell about how it ends. -/
structure Ticked (k : LinkId) (s t : Traced σ)
    (r : EStateM.Result ServeError (Connection (Traced σ)) Unit)
    (tick : List Operation) : Prop where
  trace : t.trace = s.trace ++ tick
  link : tick.any Operation.costsLink = failsBy ServeError.isTransport r
  sink : tick.any Operation.failsSink = failsBy ServeError.isSink r
  isAt : ∀ op ∈ tick, op.isAt k = true
  asked : failsBy ServeError.isTransport r = false → t.asked k = .poll
  /-- After a poll that found nothing the sink is flushed, and that is all. -/
  idle : ∀ op ∈ tick, op.findsNothing = true →
    ¬ Breaks r ∧ ∃ front result, tick = front ++ [op, .passFlush result]

theorem ticked_of_accounted {k : LinkId} {s t : Traced σ}
    {r : EStateM.Result ServeError (Connection (Traced σ)) Unit} {new : List Operation}
    (h : Traced.Accounted k .serving .poll s t r new) : Ticked k s t r new where
  trace := h.trace
  link := h.link
  sink := h.sink
  isAt op hOp := (h.proper op hOp).1
  asked := h.asked
  idle op hOp hNothing := by
    cases (h.proper op hOp).2.symm.trans hNothing

/-- A flush after all that was polled. -/
theorem Polled.flush {host : Host σ} {k : LinkId} {s : Traced σ} {c : Connection (Traced σ)}
    (h : Polled k s c.world (.ok () c)) :
    let r := serve (Serve.onSink host.traced.sink.flush) c
    ∃ tick, Ticked k s (endState r).world r tick := by
  intro r
  obtain ⟨result, d, hTrace, hAsked, hFlush⟩ := flush_cases host c
  have hEnd : (endState r).world = d.world ∧ failsBy ServeError.isTransport r = false ∧ ¬ Breaks r ∧
      (Operation.passFlush result).failsSink = failsBy ServeError.isSink r := by
    rcases hFlush with ⟨hRun, hSink⟩ | ⟨f, hRun, hSink⟩
    · have hr : r = .ok () d := hRun
      rw [hr]
      exact ⟨rfl, rfl, not_breaks_ok _ _, hSink⟩
    · have hr : r = .error (.sink f) d := hRun
      rw [hr]
      exact ⟨rfl, rfl, fun hBreaks => breaks_error_iff.mp hBreaks f rfl, hSink⟩
  obtain ⟨hWorld, hLink, hHolds, hSink⟩ := hEnd
  rw [hWorld]
  cases h with
  | @all new h =>
    have hMode : d.world.asked k = .poll := (congrFun hAsked k).trans (h.asked rfl)
    exact ⟨_, ticked_of_accounted (h.trans (.single hTrace hLink.symm hSink ⟨rfl, rfl⟩ hMode))⟩
  | @idle new u op h hIdle hSame hAt hNothing =>
    obtain ⟨hFree, hNoLoss⟩ := Operation.free_of_findsNothing hNothing
    have hFront : new.any Operation.costsLink = false := h.link
    have hFrontSink : new.any Operation.failsSink = false := h.sink
    have hFlushFree : (Operation.passFlush result).costsLink = false := by cases result <;> rfl
    refine ⟨new ++ [op, .passFlush result], ?_, ?_, ?_, ?_, fun _ => ?_, ?_⟩
    · rw [hTrace, hIdle, h.trace, List.append_assoc, List.append_assoc, List.singleton_append]
    · rw [hLink]
      simp [hFront, hFree, hFlushFree]
    · rw [← hSink]
      simp [hFrontSink, hNoLoss]
    · intro op' hOp
      rcases List.mem_append.mp hOp with hOp | hOp
      · exact (h.proper op' hOp).1
      · obtain rfl | rfl : op' = op ∨ op' = .passFlush result := by simpa using hOp
        · exact hAt
        · rfl
    · rw [hAsked, hSame]
      exact h.asked rfl
    · intro op' hOp hFound
      rcases List.mem_append.mp hOp with hOp | hOp
      · cases (h.proper op' hOp).2.symm.trans hFound
      · obtain rfl | rfl : op' = op ∨ op' = .passFlush result := by simpa using hOp
        · exact ⟨hHolds, new, result, rfl⟩
        · cases hFound

/-- What the operations of a tick tell about how polling ends. -/
theorem poll_ticked {c : Connection (Traced σ)} (hMode : c.world.asked k = .poll) :
    let r := poll host.traced (host.traced.link k) c
    ∃ tick, Ticked k c.world (endState r).world r tick := by
  intro r
  have hRun : r = poll host.traced (host.traced.link k) c := rfl
  unfold poll at hRun
  obtain ⟨new, hAsked⟩ := requestHandshake_accounts host k c hMode
  cases hRequest : requestHandshake host.traced (host.traced.link k) c with
  | error e d =>
    rw [hRequest] at hAsked
    rw [bind_error hRequest] at hRun
    rw [hRun]
    exact ⟨new, ticked_of_accounted hAsked⟩
  | ok u d =>
    rw [hRequest] at hAsked
    rw [bind_ok hRequest, bind_ok (get_run d)] at hRun
    simp only [endState_ok] at hAsked
    have hStill : d.world.asked k = .poll := hAsked.asked rfl
    have hPolled :=
      polled_after hAsked (pollBytes_polled host k (host.traced.clock d.world) maxTickBytes hStill)
    cases hBytes : pollBytes host.traced (host.traced.link k)
      (host.traced.clock d.world) maxTickBytes d with
    | error e v =>
      rw [hBytes] at hPolled
      rw [bind_error hBytes] at hRun
      rw [hRun]
      cases hPolled with
      | all h => exact ⟨_, ticked_of_accounted h⟩
      | idle _ _ _ _ _ hOk => cases hOk
    | ok u v =>
      rw [hBytes] at hPolled
      rw [bind_ok hBytes] at hRun
      rw [hRun]
      exact hPolled.flush

end Connection

end MemoryBridge
