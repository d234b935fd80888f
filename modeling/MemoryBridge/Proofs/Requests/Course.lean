import MemoryBridge.Proofs.Listening
import MemoryBridge.Proofs.Recording.Calls

/-!
# What was asked and answered on a link

Over all polls of one link, requests for a handshake come first and replies follow. `Course` is the
invariant of a run for one link: `Told` is what the record tells of the link, also after it was
given up, and `Holds` is what is known of the connection while the link is held. A poll adds its
request and its replies (`Course.poll`), connecting adds nothing (`Told.opened`), and another link
does not matter (`Told.other`).
-/

namespace MemoryBridge

/-! ## Requests before replies -/

/-- All of `frames` was taken, and then all of `replies`. -/
def InFull (frames replies : Bytes) (pieces : List Bytes) : Prop :=
  ∃ asks answers, pieces = asks ++ answers ∧ Whole frames asks ∧ Whole replies answers

/-- `frames` and then `replies` were taken up to a write that was refused. -/
def InPart (frames replies : Bytes) (pieces : List Bytes) : Prop :=
  ∃ asks answers, pieces = asks ++ answers ∧
    (Whole frames asks ∧ Refused replies answers ∨ Refused frames asks ∧ answers = [])

section

variable {frames frames' replies replies' : Bytes} {pieces pieces' : List Bytes}

theorem inFull_nil : InFull [] [] [] :=
  ⟨[], [], rfl, whole_nil, whole_nil⟩

theorem not_refused_nil : ¬ Refused [] pieces := by
  rintro ⟨⟨left, hLeft, hNil⟩, -⟩
  simp [hLeft] at hNil

theorem InFull.flatten (h : InFull frames replies pieces) : pieces.flatten = frames ++ replies := by
  obtain ⟨asks, answers, rfl, hAsks, hAnswers⟩ := h
  rw [List.flatten_append, hAsks.1, hAnswers.1]

theorem InPart.getLast? (h : InPart frames replies pieces) : pieces.getLast? = some [] := by
  obtain ⟨asks, answers, rfl, ⟨-, hAnswers⟩ | ⟨hAsks, rfl⟩⟩ := h
  · rw [List.getLast?_append, hAnswers.2]
    rfl
  · rw [List.append_nil, hAsks.2]

/-- Whatever was taken, replies were only taken after all of the frames. -/
theorem split_of_orderly (h : InFull frames replies pieces ∨ InPart frames replies pieces) :
    ∃ asks answers, pieces = asks ++ answers ∧ asks.flatten <+: frames ∧
      answers.flatten <+: replies ∧
      (answers ≠ [] → asks.flatten = frames) := by
  rcases h with ⟨asks, answers, rfl, hAsks, hAnswers⟩ | ⟨asks, answers, rfl, ⟨hAsks, hAnswers⟩ |
    ⟨hAsks, rfl⟩⟩
  · exact ⟨asks, answers, rfl, hAsks.isPrefix, hAnswers.isPrefix, fun _ => hAsks.1⟩
  · exact ⟨asks, answers, rfl, hAsks.isPrefix, hAnswers.isPrefix, fun _ => hAsks.1⟩
  · exact ⟨asks, [], rfl, hAsks.isPrefix, List.nil_prefix, fun h => absurd rfl h⟩

theorem isPrefix_of_orderly (h : InFull frames replies pieces ∨ InPart frames replies pieces) :
    pieces.flatten <+: frames ++ replies := by
  obtain ⟨asks, answers, rfl, hAsks, hAnswers, hAll⟩ := split_of_orderly h
  rw [List.flatten_append]
  by_cases hNone : answers = []
  · rw [hNone, List.flatten_nil, List.append_nil]
    exact hAsks.trans (List.prefix_append _ _)
  · rw [hAll hNone]
    exact (List.prefix_append_right_inj _).mpr hAnswers

/-- Nothing was asked for that comes after a reply. -/
theorem InFull.append (h : InFull frames replies pieces) (hTurn : replies = [] ∨ frames' = [])
    (h' : InFull frames' replies' pieces') :
    InFull (frames ++ frames') (replies ++ replies') (pieces ++ pieces') := by
  obtain ⟨asks, answers, rfl, hAsks, hAnswers⟩ := h
  obtain ⟨asks', answers', rfl, hAsks', hAnswers'⟩ := h'
  refine ⟨asks ++ asks', answers ++ answers', ?_, hAsks.append hAsks', hAnswers.append hAnswers'⟩
  rcases hTurn with rfl | rfl
  · rw [hAnswers.eq_nil]
    simp
  · rw [hAsks'.eq_nil]
    simp

theorem InFull.append_inPart (h : InFull frames replies pieces)
    (hTurn : replies = [] ∨ frames' = []) (h' : InPart frames' replies' pieces') :
    InPart (frames ++ frames') (replies ++ replies') (pieces ++ pieces') := by
  obtain ⟨asks, answers, rfl, hAsks, hAnswers⟩ := h
  obtain ⟨asks', answers', rfl, hTaken⟩ := h'
  rcases hTaken with ⟨hAsks', hAnswers'⟩ | ⟨hAsks', rfl⟩
  · refine ⟨asks ++ asks', answers ++ answers', ?_,
      Or.inl ⟨hAsks.append hAsks', hAnswers.append_refused hAnswers'⟩⟩
    rcases hTurn with rfl | rfl
    · rw [hAnswers.eq_nil]
      simp
    · rw [hAsks'.eq_nil]
      simp
  · rcases hTurn with rfl | rfl
    · refine ⟨asks ++ asks', [], ?_, Or.inr ⟨hAsks.append_refused hAsks', rfl⟩⟩
      rw [hAnswers.eq_nil]
      simp
    · exact absurd hAsks' not_refused_nil

end

namespace Connection

open Recorded

variable {σ : Type} {host : Host σ} {k : LinkId}

/-! ## One tick -/

/-- What polling the link `k` does to the record and to the connection. -/
structure Polls (host : Host σ) (k : LinkId) (c : Connection (Recorded σ))
    (r : EStateM.Result ServeError (Connection (Recorded σ)) Unit) : Prop where
  sent : ∃ pieces, Wrote k pieces c.world (endState r).world ∧
    (InFull (c.requested host.recorded) ((heard host.recorded k c).flatMap (·.owed host)) pieces ∨
      InPart (c.requested host.recorded) ((heard host.recorded k c).flatMap (·.owed host)) pieces ∧
      Breaks r)
  requesting : ¬ Breaks r →
    ((endState r).requesting = false ↔
      c.requesting = false ∨ ∃ h ∈ heard host.recorded k c, h.Answered host.recorded)
  silent : ¬ Breaks r → (∀ h ∈ heard host.recorded k c, ¬ h.Answered host.recorded) →
    (heard host.recorded k c).flatMap (·.owed host) = []
  config : (endState r).session.config = c.session.config
  handshakesSent : (endState r).handshakesSent =
    c.handshakesSent + if c.requestSent host.recorded k then 1 else 0

theorem poll_polls (host : Host σ) (k : LinkId) (c : Connection (Recorded σ)) :
    Polls host k c (poll host.recorded (host.recorded.link k) c) := by
  have hAsks := requestHandshake_asks host k c
  have hHears := poll_hears host k c
  cases hRun : requestHandshake host.recorded (host.recorded.link k) c with
  | error e d =>
    rw [hRun] at hAsks hHears
    obtain ⟨hPoll, hNothing⟩ := hHears
    have hBreaks := hAsks.breaks e d rfl
    obtain ⟨asks, hWrote, hTaken⟩ := hAsks.sent
    rw [hPoll]
    refine ⟨⟨asks, hWrote, ?_⟩, fun h => absurd hBreaks h, fun h => absurd hBreaks h, ?_,
      hAsks.counted⟩
    · rw [hNothing]
      rcases hTaken with hWhole | ⟨hRefused, -⟩
      · exact Or.inl ⟨asks, [], by simp, hWhole, whole_nil⟩
      · exact Or.inr ⟨⟨asks, [], by simp, Or.inr ⟨hRefused, rfl⟩⟩, hBreaks⟩
    · exact congrArg Session.config hAsks.same.1
  | ok u d =>
    rw [hRun] at hAsks hHears
    obtain ⟨asks, hWrote, hWhole | ⟨-, hBreaks⟩⟩ := hAsks.sent
    case inr => exact absurd hBreaks (not_breaks_ok u d)
    obtain ⟨answers, hWrote', hTaken⟩ := hHears.sent
    have hSession : d.session = c.session := hAsks.same.1
    have hRequesting : d.requesting = c.requesting := hAsks.same.2
    have hCount : d.handshakesSent = _ := hAsks.counted
    refine ⟨⟨asks ++ answers, hWrote.trans hWrote', ?_⟩, ?_, hHears.silent, ?_, ?_⟩
    · rcases hTaken with hWhole' | ⟨hRefused, hBreaks⟩
      · exact Or.inl ⟨asks, answers, rfl, hWhole, hWhole'⟩
      · exact Or.inr ⟨⟨asks, answers, rfl, Or.inl ⟨hWhole, hRefused⟩⟩, hBreaks⟩
    · rw [← hRequesting]
      exact hHears.requesting
    · rw [hHears.config, hSession]
    · rw [hHears.handshakesSent, hCount]

/-! ## Runs -/

/-- What was heard on the link `k` in some polls of it. -/
def heardIn (host : Host σ) (k : LinkId) (ps : List (Connection (Recorded σ))) :
    List (Hearing (Recorded σ)) :=
  ps.flatMap (heard host.recorded k)

/-- What was asked for in some polls. -/
def asksIn (host : Host σ) (ps : List (Connection (Recorded σ))) : Bytes :=
  ps.flatMap (·.requested host.recorded)

/-- What was owed in some polls of the link `k`. -/
def repliesIn (host : Host σ) (k : LinkId) (ps : List (Connection (Recorded σ))) : Bytes :=
  (heardIn host k ps).flatMap (·.owed host)

/-- The record tells of the link `k` what its polls `ps` make one expect. -/
structure Told (host : Host σ) (config : SessionConfig) (k : LinkId)
    (ps : List (Connection (Recorded σ))) (c : Connection (Recorded σ)) : Prop where
  config_eq : c.session.config = config
  unopened : c.world.links.length ≤ k → ps = [] ∧ c.world.writes k = []
  orderly : InFull (asksIn host ps) (repliesIn host k ps) (c.world.writes k) ∨
    InPart (asksIn host ps) (repliesIn host k ps) (c.world.writes k)
  polls : ∀ p ∈ ps, p.link = some k ∧ p.session.config = config
  stops : ∀ before p later, ps = before ++ p :: later →
    (p.requesting = false ↔ ∃ h ∈ heardIn host k before, h.Answered host.recorded)
  first : ps ≠ [] → ∃ p ∈ ps, p.requestDue host.recorded = true

/-- The link `k` is held after its polls `ps`. -/
structure Holds (host : Host σ) (k : LinkId) (ps : List (Connection (Recorded σ)))
    (c : Connection (Recorded σ)) : Prop where
  newest : c.world.links.length = k + 1
  orderly : InFull (asksIn host ps) (repliesIn host k ps) (c.world.writes k)
  requesting : c.requesting = false ↔ ∃ h ∈ heardIn host k ps, h.Answered host.recorded
  silent : c.requesting = true → repliesIn host k ps = []
  asking : ps = [] → c.phase = .handshaking ∧ c.requesting = true ∧ c.lastRequest = none

/-- So far the link `k` has been polled in `ps`. -/
structure Course (host : Host σ) (config : SessionConfig) (k : LinkId)
    (ps : List (Connection (Recorded σ))) (c : Connection (Recorded σ)) : Prop where
  told : Told host config k ps c
  holds : c.link = some k → Holds host k ps c

section

variable {config : SessionConfig} {ps : List (Connection (Recorded σ))}
  {c d : Connection (Recorded σ)}

/-- Connecting writes nothing, and what is held then has not been polled. -/
theorem Told.opened (h : Told host config k ps c) (hOpened : Opened c d) :
    Course host config k ps d := by
  have hWrites := hOpened.opens.writes k
  have hNone : c.world.links.length ≤ k → asksIn host ps = [] ∧ repliesIn host k ps = [] := by
    intro hNew
    rw [(h.unopened hNew).1]
    exact ⟨rfl, rfl⟩
  refine ⟨⟨hOpened.config.trans h.config_eq, fun hk => ?_, ?_, h.polls, h.stops, h.first⟩,
    fun hLink => ?_⟩
  · rw [hWrites]
    exact h.unopened (Nat.le_trans hOpened.opens.1 hk)
  · rw [hWrites]
    exact h.orderly
  · obtain ⟨hNew, hNewest⟩ := hOpened.held k hLink
    have hAsking := hOpened.asking k hLink
    obtain ⟨rfl, hNothing⟩ := h.unopened hNew
    refine ⟨hNewest, ?_, ?_, fun _ => rfl, fun _ => hAsking⟩
    · rw [hWrites, hNothing]
      exact inFull_nil
    · simp [hAsking.2.1, heardIn]

theorem Told.other (h : Told host config k ps c) {j : LinkId} (hOther : j ≠ k) {pieces : List Bytes}
    (hWrote : Wrote j pieces c.world d.world) (hLinks : d.world.links = c.world.links)
    (hConfig : d.session.config = c.session.config) : Told host config k ps d := by
  have hWrites : d.world.writes k = c.world.writes k := by
    rw [hWrote k, if_neg (Ne.symm hOther), List.append_nil]
  refine ⟨hConfig.trans h.config_eq, ?_, ?_, h.polls, h.stops, h.first⟩
  · rw [hLinks, hWrites]
    exact h.unopened
  · rw [hWrites]
    exact h.orderly

theorem asksIn_concat (ps : List (Connection (Recorded σ))) (c : Connection (Recorded σ)) :
    asksIn host (ps ++ [c]) = asksIn host ps ++ c.requested host.recorded := by
  simp [asksIn]

theorem heardIn_concat (ps : List (Connection (Recorded σ))) (c : Connection (Recorded σ)) :
    heardIn host k (ps ++ [c]) = heardIn host k ps ++ heard host.recorded k c := by
  simp [heardIn]

theorem repliesIn_concat (ps : List (Connection (Recorded σ))) (c : Connection (Recorded σ)) :
    repliesIn host k (ps ++ [c]) =
      repliesIn host k ps ++ (heard host.recorded k c).flatMap (·.owed host) := by
  unfold repliesIn
  rw [heardIn_concat, List.flatMap_append]

/-- A request that is due finds that no command was answered yet. -/
theorem Holds.turn (h : Holds host k ps c) :
    repliesIn host k ps = [] ∨ c.requested host.recorded = [] := by
  by_cases hAsking : c.requesting = true
  · exact Or.inl (h.silent hAsking)
  · refine Or.inr (if_neg ?_)
    simp [requestDue, hAsking]

/-- What is known of earlier polls is known of the last one too. -/
theorem Course.stops_concat (h : Course host config k ps c) (hLink : c.link = some k)
    (before : List (Connection (Recorded σ))) (p : Connection (Recorded σ))
    (later : List (Connection (Recorded σ))) (hSplit : ps ++ [c] = before ++ p :: later) :
    p.requesting = false ↔ ∃ h ∈ heardIn host k before, h.Answered host.recorded := by
  rcases List.eq_nil_or_concat later with rfl | ⟨front, last, rfl⟩
  · obtain ⟨rfl, hLast⟩ := List.append_inj' hSplit rfl
    cases hLast
    exact (h.holds hLink).requesting
  · have hSplit' : ps ++ [c] = (before ++ p :: front) ++ [last] := by simpa using hSplit
    obtain ⟨hEarlier, -⟩ := List.append_inj' hSplit' rfl
    exact h.told.stops before p front hEarlier

/-- A poll of the link adds its request, which comes before all replies, and its replies. -/
theorem Course.poll (h : Course host config k ps c) (hLink : c.link = some k) :
    Told host config k (ps ++ [c]) (endState (poll host.recorded (host.recorded.link k) c)) ∧
      (¬ Breaks (poll host.recorded (host.recorded.link k) c) →
        Holds host k (ps ++ [c]) (endState (poll host.recorded (host.recorded.link k) c))) := by
  have hTold := h.told
  have hHeld := h.holds hLink
  obtain ⟨⟨pieces, hWrote, hTaken⟩, hRequesting, hSilent, hConfig, -⟩ := poll_polls host k c
  have hServes :
      Serves k c.world (endState (Connection.poll host.recorded (host.recorded.link k) c)).world :=
    poll_moves (serves_durable k) host.recorded (link_serves host k) (sink_serves host k) c
  have hNewest : (endState
        (Connection.poll host.recorded (host.recorded.link k) c)).world.links.length = k + 1 := by
    rw [hServes.1]
    exact hHeld.newest
  have hWrites :
      (endState (Connection.poll host.recorded (host.recorded.link k) c)).world.writes k =
      c.world.writes k ++ pieces := by
    rw [hWrote k, if_pos rfl]
  refine ⟨⟨hConfig.trans hTold.config_eq, fun hk => ?_, ?_, ?_, h.stops_concat hLink, fun _ => ?_⟩,
    fun hKept => ⟨hNewest, ?_, ?_, ?_, ?_⟩⟩
  · rw [hNewest] at hk
    omega
  · rw [hWrites, asksIn_concat, repliesIn_concat]
    rcases hTaken with hFull | ⟨hPart, -⟩
    · exact Or.inl (hHeld.orderly.append hHeld.turn hFull)
    · exact Or.inr (hHeld.orderly.append_inPart hHeld.turn hPart)
  · intro p hp
    rcases List.mem_append.mp hp with hp | hp
    · exact hTold.polls p hp
    · rw [List.mem_singleton.mp hp]
      exact ⟨hLink, hTold.config_eq⟩
  · by_cases hEmpty : ps = []
    · obtain ⟨hPhase, hAsking, hLast⟩ := hHeld.asking hEmpty
      exact ⟨c, by simp, by simp [requestDue, hPhase, hAsking, hLast]⟩
    · obtain ⟨p, hp, hDue⟩ := hTold.first hEmpty
      exact ⟨p, List.mem_append_left _ hp, hDue⟩
  · rw [hWrites, asksIn_concat, repliesIn_concat]
    rcases hTaken with hFull | ⟨-, hBreaks⟩
    · exact hHeld.orderly.append hHeld.turn hFull
    · exact absurd hBreaks hKept
  · rw [hRequesting hKept, hHeld.requesting, heardIn_concat]
    simp only [List.mem_append, or_and_right, exists_or]
  · intro hAsking
    -- Still asking means that nothing was answered, neither before this poll nor in it.
    have hNone := (hRequesting hKept).not.mp (by simp [hAsking])
    rw [not_or] at hNone
    have hBefore : c.requesting = true := by simpa using hNone.1
    rw [repliesIn_concat, hHeld.silent hBefore, hSilent hKept (by simpa using hNone.2),
      List.append_nil]
  · simp

/-- The polls of the link `k` among what a call polls. -/
def Call.polledOn (k : LinkId) (c : Connection σ) (call : Call σ) : List (Connection σ) :=
  (call.polled c).filter (·.link = some k)

theorem polledOn_update (hLink : c.link = some k) : Call.update.polledOn k c = [c] := by
  simp [Call.polledOn, Call.polled, hLink]

theorem polledOn_update_other (hLink : c.link ≠ some k) : Call.update.polledOn k c = [] := by
  simp [Call.polledOn, Call.polled, hLink]

theorem Course.update (h : Course host config k ps c) :
    Course host config k (ps ++ Call.update.polledOn k c) (endState (update host.recorded c)) := by
  cases hLink : c.link with
  | none =>
    rw [polledOn_update_other (by simp [hLink]), List.append_nil, update_unlinked hLink]
    exact h.told.opened (connect_opened host c)
  | some j =>
    by_cases hSame : j = k
    · subst hSame
      obtain ⟨hTold, hHolds⟩ := h.poll hLink
      rw [polledOn_update hLink]
      rcases @update_end σ host j c hLink with ⟨hHolds', hEnd⟩ | ⟨-, hOpened⟩
      · rw [hEnd]
        exact ⟨hTold, fun _ => hHolds hHolds'⟩
      · exact hTold.opened hOpened
    · have hServes : Serves j c.world
          (endState (Connection.poll host.recorded (host.recorded.link j) c)).world :=
        poll_moves (serves_durable j) host.recorded (link_serves host j) (sink_serves host j) c
      obtain ⟨⟨pieces, hWrote, -⟩, -, -, hConfig, -⟩ := poll_polls host j c
      have hTold := h.told.other hSame hWrote hServes.1 hConfig
      have hStays := (poll_stays host.recorded (host.recorded.link j) c).1
      rw [polledOn_update_other (by simp [hLink, hSame]), List.append_nil]
      rcases @update_end σ host j c hLink with ⟨-, hEnd⟩ | ⟨-, hOpened⟩
      · rw [hEnd]
        refine ⟨hTold, fun hk => ?_⟩
        rw [hStays, hLink] at hk
        exact absurd (Option.some.inj hk) hSame
      · exact hTold.opened hOpened

theorem Course.after (h : Course host config k ps c) (call : Call σ) :
    Course host config k (ps ++ call.recorded.polledOn k c)
      (after host.recorded c call.recorded) := by
  cases call with
  | connect =>
    have hNothing : (Call.connect : Call (Recorded σ)).polledOn k c = [] := rfl
    rw [Call.recorded, hNothing, List.append_nil]
    exact h.told.opened (connect_opened host c)
  | update => exact h.update
  | append bytes =>
    have hNothing : (Call.append bytes : Call (Recorded σ)).polledOn k c = [] := rfl
    rw [Call.recorded, hNothing, List.append_nil]
    exact ⟨{ h.told with }, fun hk => { h.holds hk with }⟩
  | drain limit =>
    have hNothing : (Call.drain limit : Call (Recorded σ)).polledOn k c = [] := rfl
    rw [Call.recorded, hNothing, List.append_nil]
    exact ⟨{ h.told with }, fun hk => { h.holds hk with }⟩
  | world change =>
    have hNothing : (Call.world fun s =>
          { s with world := change s.world } : Call (Recorded σ)).polledOn k c = [] := rfl
    rw [Call.recorded, hNothing, List.append_nil]
    exact ⟨{ h.told with }, fun hk => { h.holds hk with }⟩

theorem Course.run (h : Course host config k ps c) (calls : List (Call σ)) :
    Course host config k
      (ps ++ (polls host.recorded c (calls.map Call.recorded)).filter (·.link = some k))
      (run host.recorded c (calls.map Call.recorded)) := by
  induction calls generalizing ps c with
  | nil =>
    have hNothing : (polls host.recorded c (List.map Call.recorded [])).filter (·.link = some k) =
        [] := rfl
    rw [hNothing, List.append_nil]
    exact h
  | cons call calls ih =>
    rw [List.map_cons, polls_cons, List.filter_append, ← List.append_assoc]
    exact ih (h.after call)

theorem fresh_course (host : Host σ) (config : SessionConfig) (mailbox : Mailbox)
    (timing : Timing) (w : σ) (k : LinkId) :
    Course host config k [] (fresh config mailbox timing { world := w }) where
  told := {
    config_eq := rfl
    unopened := fun _ => ⟨rfl, rfl⟩
    orderly := Or.inl inFull_nil
    polls := by simp
    stops := by simp
    first := by simp }
  holds hLink := by cases hLink

end

end Connection

end MemoryBridge
