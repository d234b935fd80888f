import MemoryBridge.Proofs.Coherence
import MemoryBridge.Proofs.Requests.Course

/-!
# Requests for a handshake and replies

On every link a connection first asks for handshakes and then only replies.
`requests_before_replies` says so for every run of calls, whatever the links, the sink and the clock
do, and says when a request is due.

A reply is what was owed for a hearing. What a device makes of a request that reaches it while it
waits for a reply is not said here; a request that was sent before the first command was answered
can still meet that command.
-/

namespace MemoryBridge.Connection

open Recorded

variable {σ : Type} {host : Host σ} {k : LinkId}

/-! ## Requests that were sent -/

/-- A poll whose request was taken whole and flushed. -/
def sends (host : Host σ) (p : Connection σ) : Bool :=
  p.link.any fun k => p.requestSent host k

theorem update_counts (host : Host σ) (c : Connection (Recorded σ)) :
    (endState (update host.recorded c)).handshakesSent =
      c.handshakesSent + if sends host.recorded c then 1 else 0 := by
  cases hLink : c.link with
  | none =>
    have hNone : sends host.recorded c = false := by
      simp [sends, hLink]
    rw [update_unlinked hLink, (connect_opened host c).handshakesSent, hNone]
    rfl
  | some k =>
    have hSends : sends host.recorded c = c.requestSent host.recorded k := by
      simp [sends, hLink]
    have hCount := (poll_polls host k c).handshakesSent
    rcases @update_end σ host k c hLink with ⟨-, hEnd⟩ | ⟨-, hOpened⟩
    · rw [hEnd, hCount, hSends]
    · rw [hOpened.handshakesSent, hCount, hSends]

theorem run_counts (host : Host σ) (c : Connection (Recorded σ)) (calls : List (Call σ)) :
    (run host.recorded c (calls.map Call.recorded)).handshakesSent =
      c.handshakesSent +
        (polls host.recorded c (calls.map Call.recorded)).countP (sends host.recorded) := by
  induction calls generalizing c with
  | nil => rfl
  | cons call calls ih =>
    have hFirst : (Connection.after host.recorded c call.recorded).handshakesSent =
        c.handshakesSent + (call.recorded.polled c).countP (sends host.recorded) := by
      cases call with
      | connect => exact (connect_opened host c).handshakesSent
      | update =>
        have hUpdate := update_counts host c
        simpa [Call.recorded, Call.polled, Connection.after] using hUpdate
      | append bytes => rfl
      | drain limit => rfl
      | world change => rfl
    have hLater := ih (Connection.after host.recorded c call.recorded)
    rw [List.map_cons, polls_cons, List.countP_append, ← Nat.add_assoc, ← hFirst]
    exact hLater

section

variable {config : SessionConfig} {ps : List (Connection (Recorded σ))}
  {c : Connection (Recorded σ)}

/-! ## The order within one tick -/

/-- Polling asks before it reads anything, and what it writes then is replies. -/
theorem poll_order (host : Host σ) (k : LinkId) (c : Connection (Recorded σ)) :
    ∃ ask rest, (endState (poll host.recorded (host.recorded.link k) c)).world.log =
      c.world.log ++ ask ++ rest ∧
      (∀ e ∈ ask, (∃ bs, e = .wrote k bs) ∨ e = .flushed k) ∧
      (c.requestDue host.recorded = false → ask = []) ∧
      (ask.flatMap (Entry.written k)).flatten <+: c.requested host.recorded ∧
      (rest.flatMap (Entry.written k)).flatten <+:
        (heard host.recorded k c).flatMap (·.owed host) := by
  have hAsks := requestHandshake_asks host k c
  have hHears := poll_hears host k c
  obtain ⟨asks, hWrote, hTaken⟩ := hAsks.sent
  obtain ⟨ask, hLog, hSpeaks⟩ := hAsks.speaks
  have hWrites := hWrote k
  rw [if_pos rfl] at hWrites
  have hAskPrefix : (ask.flatMap (Entry.written k)).flatten <+: c.requested host.recorded := by
    rw [written_of_log hLog hWrites]
    rcases hTaken with hWhole | ⟨hRefused, -⟩
    · exact hWhole.isPrefix
    · exact hRefused.isPrefix
  have hIdle : c.requestDue host.recorded = false → ask = [] := by
    intro hNot
    rw [hAsks.idle hNot] at hLog
    simpa using hLog
  cases hRun : requestHandshake host.recorded (host.recorded.link k) c with
  | error e d =>
    rw [hRun] at hHears hLog
    have hLogged : d.world.log = c.world.log ++ ask := hLog
    refine ⟨ask, [], ?_, hSpeaks, hIdle, hAskPrefix, List.nil_prefix⟩
    rw [hHears.1, List.append_nil]
    exact hLogged
  | ok u d =>
    rw [hRun] at hHears hLog
    have hLogged : d.world.log = c.world.log ++ ask := hLog
    -- After the request only bytes are polled and the sink is flushed.
    have hServes :
        Serves k d.world (endState (poll host.recorded (host.recorded.link k) c)).world := by
      have hD := worldRel_durable (serves_durable (σ := σ) k)
      unfold poll
      rw [bind_ok hRun, bind_ok (get_run d)]
      exact Moves.bind hD (pollBytes_moves (serves_durable k) host.recorded (link_serves host k)
        (sink_serves host k).write _ _)
        (fun _ => flush_moves (sink_serves host k)) d
    obtain ⟨-, rest, hRest, -⟩ := hServes
    obtain ⟨answers, hWrote', hTaken'⟩ := hHears.sent
    have hWrites' := hWrote' k
    rw [if_pos rfl] at hWrites'
    refine ⟨ask, rest, by rw [hRest, hLogged], hSpeaks, hIdle, hAskPrefix, ?_⟩
    rw [written_of_log hRest hWrites']
    rcases hTaken' with hWhole | ⟨hRefused, -⟩
    · exact hWhole.isPrefix
    · exact hRefused.isPrefix

/-- So does a tick: connecting writes nothing. -/
theorem update_order (hLink : c.link = some k) :
    ∃ ask rest, (endState (update host.recorded c)).world.log = c.world.log ++ ask ++ rest ∧
      (∀ e ∈ ask, (∃ bs, e = .wrote k bs) ∨ e = .flushed k) ∧
      (c.requestDue host.recorded = false → ask = []) ∧
      (ask.flatMap (Entry.written k)).flatten <+: c.requested host.recorded ∧
      (rest.flatMap (Entry.written k)).flatten <+:
        (heard host.recorded k c).flatMap (·.owed host) := by
  obtain ⟨ask, rest, hLog, hSpeaks, hIdle, hAsk, hRest⟩ := poll_order host k c
  rcases @update_end σ host k c hLink with ⟨-, hEnd⟩ | ⟨-, hOpened⟩
  · refine ⟨ask, rest, ?_, hSpeaks, hIdle, hAsk, hRest⟩
    rw [hEnd, hLog]
  · let polled := endState (poll host.recorded (host.recorded.link k) c)
    have hWrites := hOpened.opens.writes k
    obtain ⟨new, hNew, hNothing⟩ :
        ∃ new, (endState (update host.recorded c)).world.log = polled.world.log ++ new ∧
        new.flatMap (Entry.written k) = [] :=
      ⟨_, hOpened.opens.2, written_of_log hOpened.opens.2 (hWrites.trans (List.append_nil _).symm)⟩
    refine ⟨ask, rest ++ new, ?_, hSpeaks, hIdle, hAsk, ?_⟩
    · rw [hNew, hLog, List.append_assoc, List.append_assoc]
    · rw [List.flatMap_append, hNothing, List.append_nil]
      exact hRest

/-! ## The whole run -/

theorem asksIn_eq (hConfig : ∀ p ∈ ps, p.session.config = config) :
    asksIn host ps =
      (List.replicate (ps.countP (requestDue host.recorded)) [config.initValue, 0]).flatten := by
  induction ps with
  | nil => rfl
  | cons p ps ih =>
    have hFirst := hConfig p (by simp)
    have hRest := ih fun q hq => hConfig q (List.mem_cons_of_mem _ hq)
    have hFrame : p.session.handshakeFrame = [config.initValue, 0] := by
      rw [← hFirst]
      rfl
    have hCons : asksIn host (p :: ps) = p.requested host.recorded ++ asksIn host ps := rfl
    rw [hCons, hRest]
    by_cases hDue : p.requestDue host.recorded = true
    · have hRequested : p.requested host.recorded = [config.initValue, 0] := by
        unfold requested
        rw [if_pos hDue, hFrame]
      rw [hRequested, List.countP_cons_of_pos hDue, List.replicate_succ, List.flatten_cons]
    · have hRequested : p.requested host.recorded = [] := if_neg hDue
      rw [hRequested, List.countP_cons_of_neg hDue, List.nil_append]

/-- While a link is held, a request is due unless a command was answered on it or the last
request is too recent. -/
theorem requestDue_iff {c : Connection σ} (hCoherent : Coherent c) (hLink : c.link = some k) :
    c.requestDue host = true ↔ c.requesting = true ∧
      ∀ sent, c.lastRequest = some sent →
        c.timing.handshakeInterval ≤ host.clock c.world - sent := by
  have hPhase : c.requesting = true → c.phase = .handshaking := by
    intro hAsking
    rcases hCoherent.held.mp (by rw [hLink]; rfl) with hPhase | hPhase
    · exact hPhase
    · have hSettled := hCoherent.settled hPhase
      rw [hAsking] at hSettled
      cases hSettled
  unfold requestDue
  cases hLast : c.lastRequest with
  | none =>
    simp only [Bool.and_true, Bool.and_eq_true, beq_iff_eq, reduceCtorEq, false_implies,
      implies_true, and_true]
    exact ⟨fun h => h.2, fun h => ⟨hPhase h, h⟩⟩
  | some sent =>
    simp only [Bool.and_eq_true, beq_iff_eq, decide_eq_true_eq, Option.some.injEq, forall_eq']
    exact ⟨fun h => ⟨h.1.2, h.2⟩, fun h => ⟨⟨hPhase h.1, h.1⟩, h.2⟩⟩

end

/-- Requests never land among replies. Let `ps` be the polls of the link `k` in any run of a
connection, whatever its links, its sink, its clock and its callers do.

* The record is one of a run of the host.
* The link was first asked for handshakes, once for every poll in which that was due, and then it
  took replies, those that were owed for what was heard, in the order in which it was heard.
* It took all of that, or else its last write took nothing.
* A link that was polled was asked at least once.
* A request is due until a known command was answered on the link, as often as the interval allows,
  and never once the connection is initialized. In its tick it comes before anything is read, and
  there is one at most.
* As many requests are counted as were taken whole and flushed, over all links.
-/
theorem requests_before_replies (host : Host σ) (config : SessionConfig) (mailbox : Mailbox)
    (timing : Timing) (w : σ) (calls : List (Call σ)) (k : LinkId) :
    let start := fresh config mailbox timing ({ world := w } : Recorded σ)
    let c := run host.recorded start (calls.map Call.recorded)
    let polled := polls host.recorded start (calls.map Call.recorded)
    let ps := polled.filter (·.link = some k)
    let frames :=
      (List.replicate (ps.countP (requestDue host.recorded)) [config.initValue, 0]).flatten
    let replies := (ps.flatMap (heard host.recorded k)).flatMap (·.owed host)
    c.plain = run host (fresh config mailbox timing w) calls ∧
    (∃ asks answers, c.world.writes k = asks ++ answers ∧ asks.flatten <+: frames ∧
      answers.flatten <+: replies ∧
      (answers ≠ [] → asks.flatten = frames)) ∧
    (c.world.writes k).flatten <+: frames ++ replies ∧
    ((c.world.writes k).getLast? ≠ some [] → (c.world.writes k).flatten = frames ++ replies) ∧
    (ps ≠ [] → 1 ≤ ps.countP (requestDue host.recorded)) ∧
    (∀ before p later, ps = before ++ p :: later →
      (p.requestDue host.recorded = true ↔
        (∀ h ∈ before.flatMap (heard host.recorded k), ¬ h.Answered host.recorded) ∧
        ∀ sent, p.lastRequest = some sent →
          p.timing.handshakeInterval ≤ host.clock p.world.world - sent) ∧
      (p.phase = .initialized → p.requestDue host.recorded = false) ∧
      ∃ ask rest, (endState (update host.recorded p)).world.log = p.world.log ++ ask ++ rest ∧
        (∀ e ∈ ask, (∃ bs, e = .wrote k bs) ∨ e = .flushed k) ∧
        (p.requestDue host.recorded = false → ask = []) ∧
        (ask.flatMap (Entry.written k)).flatten <+: [config.initValue, 0] ∧
        (rest.flatMap (Entry.written k)).flatten <+:
          (heard host.recorded k p).flatMap (·.owed host)) ∧
    c.handshakesSent = polled.countP (sends host.recorded) := by
  intro start c polled ps frames replies
  have hCourse : Course host config k ps c := by
    have hRun := (fresh_course host config mailbox timing w k).run calls
    rwa [List.nil_append] at hRun
  have hTold := hCourse.told
  have hFrames : asksIn host ps = frames := asksIn_eq fun p hp => (hTold.polls p hp).2
  have hOrderly := hTold.orderly
  rw [hFrames] at hOrderly
  have hReplies : repliesIn host k ps = replies := rfl
  rw [hReplies] at hOrderly
  refine ⟨run_plain host start calls, split_of_orderly hOrderly, isPrefix_of_orderly hOrderly, ?_,
    ?_, ?_, ?_⟩
  · intro hTook
    rcases hOrderly with hFull | hPart
    · exact hFull.flatten
    · exact absurd hPart.getLast? hTook
  · intro hPolled
    obtain ⟨p, hp, hDue⟩ := hTold.first hPolled
    exact List.countP_pos_iff.mpr ⟨p, hp, hDue⟩
  · intro before p later hSplit
    have hp : p ∈ ps := by simp [hSplit]
    obtain ⟨hLink, hConfig⟩ := hTold.polls p hp
    have hCoherent : Coherent p :=
      polls_induction (P := Coherent) (fun _ call h => after_coherent h call)
        (fresh_coherent config mailbox timing _)
        (calls.map Call.recorded) p (List.mem_of_mem_filter hp)
    have hStops : p.requesting = true ↔
        ∀ h ∈ before.flatMap (heard host.recorded k), ¬ h.Answered host.recorded := by
      have hNot := (hTold.stops before p later hSplit).not
      simpa [heardIn] using hNot
    refine ⟨?_, fun hPhase => ?_, ?_⟩
    · rw [← hStops]
      exact requestDue_iff hCoherent hLink
    · simp [requestDue, hPhase]
    · obtain ⟨ask, rest, hLog, hSpeaks, hIdle, hAsk, hRest⟩ := @update_order σ host k p hLink
      refine ⟨ask, rest, hLog, hSpeaks, hIdle, hAsk.trans ?_, hRest⟩
      unfold requested
      split
      · rw [← hConfig]
        exact List.prefix_refl _
      · exact List.nil_prefix
  · have hCounts := run_counts host start calls
    have hNone : start.handshakesSent = 0 := rfl
    rw [hNone, Nat.zero_add] at hCounts
    exact hCounts

end MemoryBridge.Connection
