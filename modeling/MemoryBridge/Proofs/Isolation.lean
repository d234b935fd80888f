import Mathlib
import MemoryBridge.Proofs.Isolation.Tick
import MemoryBridge.Proofs.Recording.Erasure
import MemoryBridge.Rehearsal.World

/-!
# Links do not mix

A connection goes from link to link, and may leave a link anywhere: in the middle of a payload,
between the two bytes of a frame, before it was used at all. `links_isolated` says that nothing of
the old link is carried over: a link that was given up is not touched again, and what reaches the
sink is what the bytes polled from each link say on their own.

Runs are those of a connection on a recorded host, whatever its links, its attempts to open them and
its clock do. A connection does the same with a record as without. The sink may be slow but does not
fail; with a sink that fails, the byte that it has refused is missing.
-/

namespace MemoryBridge

namespace Connection

open Recorded

variable {σ : Type} {host : Host σ} {initValue : UInt8} {k : LinkId}

/-! ## Runs -/

/-- Whether a tick has ended at a sink that fails. -/
def sinkFails {α : Type} : EStateM.Result TickError σ α → Bool
  | .error (.sink _) _ => true
  | _ => false

theorem not_sinkFails {α : Type} {r : EStateM.Result TickError σ α} (h : sinkFails r = false) :
    ∀ f d, r ≠ .error (.sink f) d := by
  rintro f d rfl
  cases h

/-- What may happen to a connection next. The world may change on its own, the mailbox may be filled
and drained, and the sink does not fail. -/
inductive Step (host : Host σ) : Connection (Recorded σ) → Connection (Recorded σ) → Prop
  | connect (c) : Step host c (endState (connect host.recorded c))
  | update (c) (hSink : ∀ f d, update host.recorded c ≠ .error (.sink f) d) :
    Step host c (endState (update host.recorded c))
  | mailbox (c) (m : Mailbox) : Step host c { c with session.mailbox := m }
  | world (c) (w : σ) : Step host c { c with world.world := w }

/-- Any number of steps. -/
abbrev Run (host : Host σ) : Connection (Recorded σ) → Connection (Recorded σ) → Prop :=
  Relation.ReflTransGen (Step host)

/-- A connection that was just made. -/
def start (config : SessionConfig) (mailbox : Mailbox) (timing : Timing) (w : σ) :
    Connection (Recorded σ) where
  session := { config, mailbox }
  world := { world := w }
  timing := timing

theorem start_sound (config : SessionConfig) (mailbox : Mailbox) (timing : Timing) (w : σ) :
    Sound config.initValue (start config mailbox timing w) where
  isolated := {
    initValue_eq := rfl
    shown := rfl
    turns := fun _ => rfl
    unopened := fun _ _ => rfl
    held := fun _ h => by cases h }
  mode _ h := by cases h

theorem Step.sound {c d : Connection (Recorded σ)} (h : Step host c d)
    (hSound : Sound initValue c) : Sound initValue d := by
  cases h with
  | connect => exact connect_sound hSound.isolated
  | update hSink => exact update_sound hSound hSink
  | mailbox m => exact ⟨{ hSound.isolated with }, hSound.mode⟩
  | world w => exact ⟨{ hSound.isolated with }, hSound.mode⟩

theorem Run.sound {c d : Connection (Recorded σ)} (h : Run host c d) (hSound : Sound initValue c) :
    Sound initValue d := by
  induction h with
  | refl => exact hSound
  | tail _ hStep ih => exact hStep.sound ih

/-! ## Links that are gone -/

/-- One tick, whatever it comes to: polling uses the link that is held and the sink, and
connecting opens new links. -/
theorem update_log (host : Host σ) (c : Connection (Recorded σ)) :
    ∃ mid : Recorded σ,
      (c.link = none ∧ mid = c.world ∨ ∃ k, c.link = some k ∧ Serves k c.world mid) ∧
      Opens mid (endState (update host.recorded c)).world := by
  unfold update
  cases hLink : c.link with
  | none =>
    refine ⟨c.world, Or.inl ⟨rfl, rfl⟩, ?_⟩
    simp only
    rw [connectInTick_end]
    exact (connect_opens c).1
  | some k =>
    have hServes :
        Serves k c.world (endState (poll host.recorded (host.recorded.link k) c)).world :=
      poll_moves (serves_durable k) host.recorded (link_serves host k) (sink_serves host k) c
    refine ⟨_, Or.inr ⟨k, rfl, hServes⟩, ?_⟩
    simp only
    cases hRun : poll host.recorded (host.recorded.link k) c with
    | ok u d => exact opens_durable.refl d.world
    | error e d =>
      cases e with
      | sink f => exact opens_durable.refl d.world
      | transport f => exact (reconnect_opens d).1
      | pool f => exact (reconnect_opens d).1
      | invalidPoolSize size => exact (reconnect_opens d).1

/-- From `s` to `t` the link `k` was not used. -/
def Silent (k : LinkId) (s t : Recorded σ) : Prop :=
  ∃ new, t.log = s.log ++ new ∧ ∀ e ∈ new, e.link? ≠ some k

theorem silent_durable (k : LinkId) : Durable (@Silent σ k) where
  refl s := ⟨[], by simp, by simp⟩
  trans := by
    rintro s t u ⟨new, hLog, hNew⟩ ⟨new', hLog', hNew'⟩
    refine ⟨new ++ new', by rw [hLog', hLog, List.append_assoc], ?_⟩
    intro e he
    rcases List.mem_append.mp he with he | he
    · exact hNew e he
    · exact hNew' e he

theorem silent_of_serves {s t : Recorded σ} {j : LinkId} (h : Serves j s t) (hNot : j ≠ k) :
    Silent k s t := by
  obtain ⟨-, new, hLog, hNew⟩ := h
  exact ⟨new, hLog, fun e he hk => hNot (hNew e he k hk).symm⟩

theorem silent_of_opens {s t : Recorded σ} (h : Opens s t) (hOld : k < s.links.length) :
    Silent k s t := by
  refine ⟨_, h.2, fun e he hk => ?_⟩
  obtain ⟨j, hj, rfl⟩ := List.mem_map.mp he
  cases hk
  exact Nat.not_lt.mpr (List.mem_range'_1.mp hj).1 hOld

/-- A link that was handed out and is not held. -/
structure Dropped (k : LinkId) (c : Connection (Recorded σ)) : Prop where
  old : k < c.world.links.length
  given_up : c.link ≠ some k

theorem connect_dropped {c : Connection (Recorded σ)} (hOld : k < c.world.links.length) :
    Silent k c.world (endState (connect host.recorded c)).world ∧
      Dropped k (endState (connect host.recorded c)) := by
  obtain ⟨hOpens, -, hHeld⟩ := @connect_opens σ host c
  refine ⟨silent_of_opens hOpens hOld, Nat.lt_of_lt_of_le hOld hOpens.1, fun hk => ?_⟩
  exact Nat.not_lt.mpr (hHeld k hk).2.1 hOld

theorem reconnect_dropped {c : Connection (Recorded σ)} (hOld : k < c.world.links.length) :
    Dropped k (endState (reconnect host.recorded c)) := by
  obtain ⟨hOpens, hHeld⟩ := @reconnect_opens σ host c
  exact ⟨Nat.lt_of_lt_of_le hOld hOpens.1, fun hk => Nat.not_lt.mpr (hHeld k hk) hOld⟩

/-- A link that was given up is not used again and not held again. -/
theorem Step.silent {c d : Connection (Recorded σ)} (h : Step host c d) (hSound : Sound initValue c)
    (hDropped : Dropped k c) : Silent k c.world d.world ∧ Dropped k d := by
  have hEnd := h.sound hSound
  cases h with
  | connect => exact connect_dropped hDropped.old
  | update hSink =>
    obtain ⟨mid, hTick, hOpens⟩ := update_log host c
    rcases hTick with ⟨hLink, rfl⟩ | ⟨j, hLink, hServes⟩
    · have hUpdate : endState (Connection.update host.recorded c) =
          endState (Connection.connect host.recorded c) := by
        unfold Connection.update
        simp only [hLink]
        exact connectInTick_end host.recorded c
      rw [hUpdate]
      exact connect_dropped hDropped.old
    · have hNot : j ≠ k := fun hj => hDropped.given_up (hj ▸ hLink)
      have hOld : k < mid.links.length := hServes.1.symm ▸ hDropped.old
      have hNewest := (hSound.isolated.held j hLink).1
      refine ⟨(silent_durable k).trans (silent_of_serves hServes hNot)
        (silent_of_opens hOpens hOld),
        Nat.lt_of_lt_of_le hOld hOpens.1, fun hk => ?_⟩
      -- The link held afterwards is the newest, and `j` is newer than `k`.
      have hLast := (hEnd.isolated.held k hk).1
      have hMore := hOpens.1
      have hKept := hServes.1
      have hLess := hDropped.old
      rw [hKept, hNewest, hLast] at hMore
      rw [hNewest] at hLess
      exact hNot (Nat.le_antisymm (Nat.le_of_succ_le_succ hMore) (Nat.le_of_lt_succ hLess))
  | mailbox m => exact ⟨(silent_durable k).refl _, hDropped.old, hDropped.given_up⟩
  | world w => exact ⟨⟨[], by simp, by simp⟩, hDropped.old, hDropped.given_up⟩

theorem Run.silent {c d : Connection (Recorded σ)} (h : Run host c d) (hSound : Sound initValue c)
    (hDropped : Dropped k c) : Silent k c.world d.world ∧ Dropped k d := by
  induction h with
  | refl => exact ⟨(silent_durable k).refl _, hDropped⟩
  | tail hRun hStep ih =>
    obtain ⟨hBefore, hGone⟩ := ih
    obtain ⟨hAfter, hStillGone⟩ := hStep.silent (Run.sound hRun hSound) hGone
    exact ⟨(silent_durable k).trans hBefore hAfter, hStillGone⟩

/-- Links that were given up are isolated from all that follows. At every point `c` of every
run of a connection:

* The record is true: a tick of the recorded host is a tick of the host, and so is connecting.
* One tick reads, writes and flushes no other link than the one that is held at its start.
* Connecting gives up every link that was there before. It asks each link that it opens for poll
  mode, and does nothing else to any link.
* A tick that fails, other than at the sink, connects from the very state in which it failed.
* A link that was given up is never used and never held again.
* What was passed through is, link by link in the order in which they were handed out, what the
  bytes polled from that link say as a stream of their own that starts between two frames. So are
  the commands that were begun on each link.
-/
theorem links_isolated (host : Host σ) (config : SessionConfig) (mailbox : Mailbox)
    (timing : Timing) (w : σ) {c : Connection (Recorded σ)}
    (hRun : Run host (start config mailbox timing w) c) :
    (Alike Plain (update host.recorded c) (update host c.plain) ∧
      Alike Plain (connect host.recorded c) (connect host c.plain)) ∧
    (∃ new, (endState (update host.recorded c)).world.log = c.world.log ++ new ∧
      ∀ e ∈ new, e.isTraffic = true → e.link? = c.link) ∧
    (Opens c.world (endState (connect host.recorded c)).world ∧
      ∀ k < c.world.links.length, Dropped k (endState (connect host.recorded c))) ∧
    (∀ k e d, c.link = some k → poll host.recorded (host.recorded.link k) c = .error e d →
      (∀ f, e ≠ .sink f) →
      update host.recorded c = reconnect host.recorded d ∧ d.world.links.length = k + 1 ∧
        Opens d.world (endState (reconnect host.recorded d)).world ∧
        ∀ j < k + 1, Dropped j (endState (reconnect host.recorded d))) ∧
    (∀ k d, Dropped k c → Run host c d → Silent k c.world d.world ∧ Dropped k d) ∧
    c.world.shown = (List.range c.world.links.length).flatMap
      (fun k => Framing.passed config.initValue (c.world.polled k)) ∧
    ∀ k, c.world.turns k = Framing.turns config.initValue (c.world.polled k) := by
  have hSound := Run.sound hRun (start_sound config mailbox timing w)
  refine ⟨?_, ?_, ?_, ?_, ?_, hSound.isolated.shown, hSound.isolated.turns⟩
  · exact ⟨update_plain host c, connect_plain host c⟩
  · obtain ⟨mid, hTick, -, hOpened⟩ := update_log host c
    rcases hTick with ⟨hLink, rfl⟩ | ⟨k, hLink, -, new, hLog, hNew⟩
    · refine ⟨_, hOpened, fun e he hTraffic => ?_⟩
      obtain ⟨j, -, rfl⟩ := List.mem_map.mp he
      cases hTraffic
    · refine ⟨_, by rw [hOpened, hLog, List.append_assoc], fun e he hTraffic => ?_⟩
      rcases List.mem_append.mp he with he | he
      · obtain ⟨j, hj⟩ := Entry.link?_of_isTraffic hTraffic
        rw [hj, hLink, hNew e he j hj]
      · obtain ⟨j, -, rfl⟩ := List.mem_map.mp he
        cases hTraffic
  · exact ⟨(connect_opens c).1, fun k hk => (connect_dropped hk).2⟩
  · intro k e d hLink hFails hNotSink
    have hServes :
        Serves k c.world (endState (poll host.recorded (host.recorded.link k) c)).world :=
      poll_moves (serves_durable k) host.recorded (link_serves host k) (sink_serves host k) c
    rw [hFails] at hServes
    have hLength : d.world.links.length = k + 1 := by
      rw [← (hSound.isolated.held k hLink).1]
      exact congrArg List.length hServes.1
    have hUpdate : update host.recorded c = reconnect host.recorded d := by
      unfold update
      simp only [hLink, hFails]
    exact ⟨hUpdate, hLength, (reconnect_opens d).1, fun j hj => reconnect_dropped (hLength ▸ hj)⟩
  · intro k d hDropped hLater
    exact hLater.silent hSound hDropped

/-- A device that breaks off in the middle of a write, comes back, breaks off half-way into a frame,
and comes back again. -/
def cutShort : World where
  lines := [
    { arrivals := [.data [0x41, 0xFF, 3, 0, 0, 0, 0, 9, 0, 0, 0, 0x42], .fault .brokenPipe,
        .data [0x43]] },
    { arrivals := [.data [0x44, 0xFF], .fault .notConnected] },
    { arrivals := [.data [7, 0x45]] }]
  offers := [{}, {}, { refusal := some .notFound }, {}]

/-- A connection to it after some ticks. -/
def cutShortAfter : Nat → Connection (Recorded World)
  | 0 => start {} .empty ⟨0, 0, 0⟩ cutShort
  | n + 1 => endState (update (World.host fun _ => false).recorded (cutShortAfter n))

/-- What it has sent on the first two links is not taken up on the third. -/
theorem links_isolated_cut_short :
    Run (World.host fun _ => false) (start {} .empty ⟨0, 0, 0⟩ cutShort) (cutShortAfter 4) ∧
      (cutShortAfter 4).world.polled 0 = [0x41, 0xFF, 3] ∧
      (cutShortAfter 4).world.polled 1 = [0x44, 0xFF] ∧
      (cutShortAfter 4).world.polled 2 = [7, 0x45] ∧
      (cutShortAfter 4).world.shown = [0x41, 0x44, 7, 0x45] ∧
      (cutShortAfter 4).world.turns 2 = 0 := by
  have hTick : ∀ {n}, Run (World.host fun _ => false) (cutShortAfter 0) (cutShortAfter n) →
      sinkFails (update (World.host fun _ => false).recorded (cutShortAfter n)) = false →
      Run (World.host fun _ => false) (cutShortAfter 0) (cutShortAfter (n + 1)) :=
    fun hRun hSink => hRun.tail (.update _ (not_sinkFails hSink))
  have hRun : Run (World.host fun _ => false) (cutShortAfter 0) (cutShortAfter 4) :=
    hTick (hTick (hTick (hTick .refl (by cbv)) (by cbv)) (by cbv)) (by cbv)
  have hLength : (cutShortAfter 4).world.links.length = 3 := by cbv
  have hFirst : (cutShortAfter 4).world.polled 0 = [0x41, 0xFF, 3] := by cbv
  have hSecond : (cutShortAfter 4).world.polled 1 = [0x44, 0xFF] := by cbv
  have hThird : (cutShortAfter 4).world.polled 2 = [7, 0x45] := by cbv
  obtain ⟨-, -, -, -, -, hShown, hTurns⟩ :=
    links_isolated (World.host fun _ => false) {} .empty ⟨0, 0, 0⟩ cutShort hRun
  refine ⟨hRun, hFirst, hSecond, hThird, ?_, ?_⟩
  · rw [hShown, hLength]
    simp only [List.range_succ, List.range_zero, List.nil_append, List.cons_append,
      List.flatMap_cons, List.flatMap_nil, hFirst, hSecond, hThird]
    decide
  · rw [hTurns, hThird]
    decide

end Connection

end MemoryBridge
