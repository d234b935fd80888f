import MemoryBridge.Proofs.Calls
import MemoryBridge.Proofs.Tracing.Tick

/-!
# What a fault costs

A tick counts a reconnect and starts over on a new link exactly if it has hit a fault of the link:
an operation that costs the link, or a request that the device may not make. A fault of the sink
ends the tick with an error and keeps the link. All that a tick may otherwise end with is a stop
during a reconnect. `faults_contained` says so of every tick after every run of calls.

What has come up in a tick is taken from the trace of a traced host. The mode that a link was last
asked for decides what a failed read is, so the links of a run have to be in poll mode between two
calls (`run_polling`).
-/

namespace MemoryBridge

variable {σ : Type}

/-! ## Connecting -/

namespace Traced

/-- From `s` to `t` no more was done than to try to open links. -/
def Opens (s t : Traced σ) : Prop :=
  ∃ later, t.trace = s.trace ++ later ∧ ∀ op ∈ later, op.opens = true

theorem opens_same {s t : Traced σ} (h : t.trace = s.trace) : Opens s t :=
  ⟨[], by rw [h, List.append_nil], by simp⟩

theorem opens_one {s t : Traced σ} {op : Operation} (h : t.trace = s.trace ++ [op])
    (hOpens : op.opens = true) : Opens s t :=
  ⟨[op], h, by simpa using hOpens⟩

theorem opens_durable : Durable (@Opens σ) where
  refl s := opens_same rfl
  trans := by
    rintro s t u ⟨later, hTrace, hLater⟩ ⟨last, hTrace', hLast⟩
    refine ⟨later ++ last, by rw [hTrace', hTrace, List.append_assoc], fun op hOp => ?_⟩
    rcases List.mem_append.mp hOp with hOp | hOp
    · exact hLater op hOp
    · exact hLast op hOp

variable (host : Host σ)

/-- A link is tried to be opened and, if it is there, asked for poll mode. -/
theorem openLink_traced (s : Traced σ) :
    Opens s (endState (host.traced.openLink s)) ∧ ∀ k t, host.traced.openLink s = .ok k t →
      t.asked k = .poll := by
  have hOpening := (note_end .opening host.tryOpen s).1
  unfold Host.openLink
  cases hTry : host.traced.tryOpen s with
  | error f t =>
    have hNote : note .opening host.tryOpen s = .error f t := hTry
    rw [hNote] at hOpening
    exact ⟨opens_one hOpening rfl, fun k t h => by cases h⟩
  | ok k t =>
    have hNote : note .opening host.tryOpen s = .ok k t := hTry
    rw [hNote] at hOpening
    obtain ⟨hSwitch, hAsked⟩ :=
      note_end (.setMode k .poll) ((host.link k).setMode .poll) (t.ask k .poll)
    have hPoll : (t.ask k .poll).asked k = .poll := if_pos rfl
    have hFirst : Opens s t := opens_one hOpening rfl
    simp only
    cases hSet : (host.traced.link k).setMode .poll t with
    | error f u =>
      have hNote : note (.setMode k .poll) ((host.link k).setMode .poll) (t.ask k .poll) =
          .error f u := hSet
      rw [hNote] at hSwitch
      exact ⟨opens_durable.trans hFirst (opens_one hSwitch rfl), fun j v h => by cases h⟩
    | ok a u =>
      have hNote : note (.setMode k .poll) ((host.link k).setMode .poll) (t.ask k .poll) =
          .ok a u := hSet
      rw [hNote] at hSwitch hAsked
      refine ⟨opens_durable.trans hFirst (opens_one hSwitch rfl), fun j v h => ?_⟩
      cases h
      exact (congrFun hAsked k).trans hPoll

/-- Waiting leaves the trace alone. -/
theorem sleep_traced (ms : Nat) (s : Traced σ) :
    ∃ w, (host.traced.sleep ms s).2 = { s with world := w } := by
  rcases host.traced.sleep_cases ms s with h | h
  · exact ⟨s.world, h⟩
  · exact ⟨host.pause ms s.world, h⟩

theorem openLink_opens : Moves Opens host.traced.openLink :=
  fun s => (openLink_traced host s).1

theorem sleep_opens (ms : Nat) (s : Traced σ) : Opens s (host.traced.sleep ms s).2 := by
  obtain ⟨w, hw⟩ := sleep_traced host ms s
  rw [hw]
  exact opens_same rfl

end Traced

namespace Connection

open Traced

/-- A link that is held is in poll mode. -/
def Polling (c : Connection (Traced σ)) : Prop :=
  ∀ k, c.link = some k → c.world.asked k = .poll

variable (host : Host σ)

theorem connect_opens_traced (c : Connection (Traced σ)) :
    Opens c.world (endState (connect host.traced c)).world :=
  connect_moves opens_durable (fun s _ => openLink_opens host s) (sleep_opens host) c

theorem connect_polling (c : Connection (Traced σ)) :
    Polling (endState (connect host.traced c)) := by
  unfold connect
  simp only
  cases hRun : host.traced.awaitLink c.dropLink.timing.reconnectDelay c.dropLink.world with
  | error e w =>
    intro k hk
    cases hk
  | ok j w =>
    obtain ⟨u, -, hOpen⟩ :=
      Host.awaitLink_ok opens_durable (openLink_opens host) (sleep_opens host) hRun
    have hPoll := (openLink_traced host u).2 j w hOpen
    obtain ⟨v, hv⟩ := sleep_traced host c.dropLink.timing.settleDelay w
    simp only
    cases hSleep : host.traced.sleep c.dropLink.timing.settleDelay w with
    | mk rested t =>
      rw [hSleep] at hv
      cases rested with
      | false =>
        intro k hk
        cases hk
      | true =>
        intro k hk
        cases hk
        show t.asked j = .poll
        rw [show t = _ from hv]
        exact hPoll

theorem update_polling {c : Connection (Traced σ)} (h : Polling c) :
    Polling (endState (update host.traced c)) := by
  cases hLink : c.link with
  | none =>
    rw [update_unlinked hLink]
    exact connect_polling host c
  | some k =>
    obtain ⟨tick, hTick⟩ := poll_ticked host k (h k hLink)
    have hStays := (poll_stays host.traced (host.traced.link k) c).1
    -- Polling keeps the link, and it is in poll mode again unless it has failed.
    have hKept : ∀ r : EStateM.Result ServeError (Connection (Traced σ)) Unit,
        poll host.traced (host.traced.link k) c = r → failsBy ServeError.isTransport r = false →
          Polling (endState r) := by
      rintro r rfl hHolds j hj
      rw [hStays, hLink] at hj
      cases hj
      exact hTick.asked hHolds
    rcases (@update_cases _ host.traced c k hLink) with ⟨d, hRun, hEnd⟩ | ⟨f, d, hRun, hEnd⟩ |
      ⟨e, d, -, -, hEnd⟩
    · rw [hEnd]
      exact hKept _ hRun rfl
    · rw [hEnd]
      exact hKept _ hRun rfl
    · rw [hEnd, reconnect_end]
      exact connect_polling host _

/-- Between two calls the link is in poll mode. -/
theorem run_polling {c : Connection (Traced σ)} (h : Polling c) (calls : List (Call σ)) :
    Polling (run host.traced c (calls.map Call.traced)) := by
  induction calls generalizing c with
  | nil => exact h
  | cons call calls ih =>
    refine ih ?_
    cases call with
    | connect => exact connect_polling host c
    | update => exact update_polling host h
    | append bytes => exact h
    | drain limit => exact h
    | world change => exact h

/-! ## Ticks -/

/-- A tick on the link `k` with the operations `tick` has hit a fault of the link: an operation that
costs the link, or a request for a pool of negative size or for bytes outside of the pool. -/
def Hit (host : Host σ) (k : LinkId) (c : Connection (Traced σ)) (tick : List Operation) : Prop :=
  (∃ op ∈ tick, op.costsLink = true) ∨
    ∃ h ∈ heard host.traced k c, h.IsBreach host.traced (Traced.meter k)

/-- What a tick on the link `k` comes to. Its operations are `tick`, and `later` are those of a
reconnect. -/
structure Contained (host : Host σ) (k : LinkId) (c : Connection (Traced σ))
    (tick later : List Operation) : Prop where
  trace : (endState (update host.traced c)).world.trace = c.world.trace ++ tick ++ later
  isAt : ∀ op ∈ tick, op.isAt k = true
  opens : ∀ op ∈ later, op.opens = true
  counted : (endState (update host.traced c)).reconnects = c.reconnects + 1 ↔ Hit host k c tick
  uncounted : (endState (update host.traced c)).reconnects = c.reconnects ↔ ¬ Hit host k c tick
  /-- The rest of a tick that has hit a fault is to connect, once, without the link. -/
  restarts : Hit host k c tick → ∃ d, d.link = none ∧ d.reconnects = c.reconnects + 1 ∧
    d.world.trace = c.world.trace ++ tick ∧ update host.traced c = connectInTick host.traced d
  keeps : ¬ Hit host k c tick → (endState (update host.traced c)).link = some k ∧ later = []
  sink : (∃ f, toExcept (update host.traced c) = .error (.sink f)) ↔
    ∃ op ∈ tick, op.failsSink = true
  sinkSpares : (∃ op ∈ tick, op.failsSink = true) → ¬ Hit host k c tick
  stopped : toExcept (update host.traced c) = .error .stopped →
    Hit host k c tick ∧ host.stopped (endState (update host.traced c)).world.world = true
  /-- A poll that finds nothing is the last one of the tick, and no fault. -/
  idle : ∀ op ∈ tick, op.findsNothing = true →
    ¬ Hit host k c tick ∧ ∃ front result, tick = front ++ [op, .passFlush result]

section

variable {host : Host σ} {k : LinkId} {c d : Connection (Traced σ)} {tick : List Operation}

theorem breaks_iff {α τ : Type} {r : EStateM.Result ServeError τ α} :
    Breaks r ↔ failsBy ServeError.isTransport r = true ∨ failsBy ServeError.isBreach r = true := by
  cases r with
  | ok a s => simp [not_breaks_ok]
  | error e s =>
    rw [breaks_error_iff]
    cases e <;> simp [Session.NotAtSink, ServeError.isTransport, ServeError.isBreach]

/-- The operations of a tick and what it has heard tell whether it has cost the link. -/
theorem hit_iff (h : Ticked k c.world (endState (poll host.traced (host.traced.link k) c)).world
      (poll host.traced (host.traced.link k) c) tick) :
    Hit host k c tick ↔ Breaks (poll host.traced (host.traced.link k) c) := by
  rw [breaks_iff, ← h.link, List.any_eq_true, poll_breach_iff (Traced.meters host k)]
  rfl

/-- A tick that comes to no more than polling does. -/
theorem contained_of_spared (hLink : c.link = some k)
    (hTick : Ticked k c.world (endState (poll host.traced (host.traced.link k) c)).world
      (poll host.traced (host.traced.link k) c) tick)
    (hHolds : ¬ Breaks (poll host.traced (host.traced.link k) c))
    (hSame : endState (update host.traced c) = endState (poll host.traced (host.traced.link k) c))
    (hSink : (∃ f, toExcept (update host.traced c) = .error (.sink f)) ↔
      failsBy ServeError.isSink (poll host.traced (host.traced.link k) c) = true)
    (hRuns : toExcept (update host.traced c) ≠ .error .stopped) : Contained host k c tick [] := by
  have hNot : ¬ Hit host k c tick := fun hHit => hHolds ((hit_iff hTick).mp hHit)
  obtain ⟨hHeld, hCount⟩ := poll_stays host.traced (host.traced.link k) c
  exact {
    trace := by rw [hSame, hTick.trace, List.append_nil]
    isAt := hTick.isAt
    opens := by simp
    counted := by
      rw [hSame, hCount]
      exact iff_of_false (by omega) hNot
    uncounted := by
      rw [hSame, hCount]
      exact iff_of_true rfl hNot
    restarts := fun hHit => absurd hHit hNot
    keeps := fun _ => ⟨by rw [hSame, hHeld, hLink], rfl⟩
    sink := by rw [hSink, ← hTick.sink, List.any_eq_true]
    sinkSpares := fun _ => hNot
    stopped := fun hStopped => absurd hStopped hRuns
    idle := fun op hOp hNothing => ⟨hNot, (hTick.idle op hOp hNothing).2⟩ }

/-- A reconnect ends well, or the world is stopped. -/
theorem reconnect_stopped {τ : Type} {host : Host τ} {d : Connection τ} {e : TickError}
    (h : toExcept (reconnect host d) = .error e) :
    e = .stopped ∧ host.stopped (endState (reconnect host d)).world = true := by
  unfold reconnect at h ⊢
  cases hTried : connectInTick host
    { d with link := none, phase := .disconnected, reconnects := d.reconnects + 1 } with
  | ok u v =>
    rw [hTried] at h
    cases h
  | error e' v =>
    rw [hTried] at h
    cases h
    exact connectInTick_stopped hTried

/-- A tick that goes on to connect. -/
theorem contained_of_hit {e : ServeError}
    (hTick : Ticked k c.world (endState (poll host.traced (host.traced.link k) c)).world
      (poll host.traced (host.traced.link k) c) tick)
    (hRun : poll host.traced (host.traced.link k) c = .error e d) (hNotSink : Session.NotAtSink e)
    (hEnd : update host.traced c = reconnect host.traced d) :
    ∃ later, Contained host k c tick later := by
  have hBreaks : Breaks (poll host.traced (host.traced.link k) c) := by
    rw [hRun]
    exact breaks_error_iff.mpr hNotSink
  have hHit : Hit host k c tick := (hit_iff hTick).mpr hBreaks
  have hCount : d.reconnects = c.reconnects := by
    have hStays := (poll_stays host.traced (host.traced.link k) c).2
    rwa [hRun] at hStays
  have hTrace : d.world.trace = c.world.trace ++ tick := by
    have hAll := hTick.trace
    rwa [hRun] at hAll
  have hReconnects : (endState (update host.traced c)).reconnects = c.reconnects + 1 := by
    rw [hEnd, reconnect_reconnects, hCount]
  have hNoLoss : ¬ ∃ op ∈ tick, op.failsSink = true := by
    rw [← List.any_eq_true, hTick.sink, hRun]
    cases e with
    | sink f => exact absurd rfl (hNotSink f)
    | _ => simp [ServeError.isSink]
  let dropped : Connection (Traced σ) :=
    { d with link := none, phase := .disconnected, reconnects := d.reconnects + 1 }
  obtain ⟨later, hLater, hOpens⟩ := connect_opens_traced host dropped
  refine ⟨later, ?_⟩
  exact {
    trace := by
      rw [hEnd, reconnect_end, hLater, ← hTrace]
    isAt := hTick.isAt
    opens := hOpens
    counted := iff_of_true hReconnects hHit
    uncounted := by
      rw [hReconnects]
      exact iff_of_false (by omega) fun hNot => hNot hHit
    restarts := fun _ => ⟨dropped, rfl, congrArg (· + 1) hCount, hTrace, hEnd⟩
    keeps := fun hNot => absurd hHit hNot
    sink := by
      refine iff_of_false ?_ hNoLoss
      rintro ⟨f, hFails⟩
      rw [hEnd] at hFails
      cases (reconnect_stopped hFails).1
    sinkSpares := fun hLoss => absurd hLoss hNoLoss
    stopped := by
      rw [hEnd]
      exact fun hFails => ⟨hHit, (reconnect_stopped hFails).2⟩
    idle := fun op hOp hNothing => absurd hBreaks (hTick.idle op hOp hNothing).1 }

/-- Every tick on a link in poll mode. -/
theorem update_contained (hPolling : Polling c) (hLink : c.link = some k) :
    ∃ tick later, Contained host k c tick later := by
  obtain ⟨tick, hTick⟩ := poll_ticked host k (hPolling k hLink)
  refine ⟨tick, ?_⟩
  rcases (@update_cases _ host.traced c k hLink) with ⟨d, hRun, hEnd⟩ | ⟨f, d, hRun, hEnd⟩ |
    ⟨e, d, hRun, hNotSink, hEnd⟩
  · refine ⟨[], contained_of_spared hLink hTick ?_ ?_ ?_ ?_⟩
    · rw [hRun]
      exact not_breaks_ok () d
    · rw [hRun, hEnd]
      rfl
    · rw [hRun, hEnd]
      simp
    · rw [hEnd]
      simp
  · refine ⟨[], contained_of_spared hLink hTick ?_ ?_ ?_ ?_⟩
    · rw [hRun]
      exact fun hBreaks => breaks_error_iff.mp hBreaks f rfl
    · rw [hRun, hEnd]
      rfl
    · rw [hRun, hEnd]
      simp [ServeError.isSink]
    · rw [hEnd]
      simp
  · exact contained_of_hit hTick hRun hNotSink hEnd

/-- Without a link a tick is to connect. -/
theorem update_connects {τ : Type} {host : Host τ} {c : Connection τ} (h : c.link = none) :
    update host c = connectInTick host c := by
  unfold update
  rw [h]

end

/-- **Faults are contained.** After every run of calls, on every host: a tick on a link counts a
reconnect and connects anew exactly if it has hit a fault of the link; it fails at the sink exactly
if the sink has failed, and then it keeps the link. A tick without a link is to connect. The
connection is traced, which changes nothing else about it. -/
theorem faults_contained (host : Host σ) (config : SessionConfig) (mailbox : Mailbox)
    (timing : Timing) (w : σ) (calls : List (Call σ)) :
    let c := run host.traced (fresh config mailbox timing { world := w }) (calls.map Call.traced)
    c.untraced = run host (fresh config mailbox timing w) calls ∧
      Alike Untraced (update host.traced c) (update host c.untraced) ∧
      match c.link with
      | none =>
        (match connect host.traced c with
          | .ok () d => update host.traced c = .ok () d
          | .error _ d => update host.traced c = .error .stopped d) ∧
          (endState (update host.traced c)).reconnects = c.reconnects
      | some k => ∃ tick later, Contained host k c tick later := by
  intro c
  have hPolling : Polling c := run_polling host (fun k hk => by cases hk) calls
  refine ⟨run_untraced host _ calls, update_untraced host c, ?_⟩
  cases hLink : c.link with
  | none =>
    have hCount : (endState (update host.traced c)).reconnects = c.reconnects := by
      rw [update_unlinked hLink, connect_reconnects]
    refine ⟨?_, hCount⟩
    rw [update_connects hLink]
    unfold connectInTick
    cases connect host.traced c with
    | ok u d => rfl
    | error e d => rfl
  | some k => exact update_contained hPolling hLink

end Connection

end MemoryBridge
