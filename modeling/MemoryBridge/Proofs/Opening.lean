import MemoryBridge.Proofs.Containment
import MemoryBridge.Proofs.Keeping
import MemoryBridge.Proofs.Stopping

/-!
# Attempts to open a link

To connect is to make attempts, one after the other, each with a wait after it. An attempt that
fails, because no link is there or because it does not take poll mode, is followed by the delay for
the next attempt; a usable link by the delay in which it settles. `connect_takes_first_usable` says
that nothing else is done: the first usable link is taken, and none of the links before it is
touched but for the one switch that it has refused. A stop ends it at whatever point it comes, and
then no link is held.

The attempts are told by the trace of a traced host, and the waits and stops by the log of a
host that watches it.
-/

namespace MemoryBridge

variable {σ : Type}

/-- What an attempt to open a link comes to. -/
inductive Attempt
  /-- No link is there. -/
  | failed (fault : Fault)
  /-- The link does not take poll mode. -/
  | refused (link : LinkId) (fault : Fault)
  /-- The link is in poll mode. -/
  | usable (link : LinkId)

namespace Attempt

/-- The operations of an attempt, with their results. -/
def operations : Attempt → List Operation
  | .failed f => [.opening (.error f)]
  | .refused k f => [.opening (.ok k), .setMode k .poll (.error f)]
  | .usable k => [.opening (.ok k), .setMode k .poll (.ok ())]

def deeds : Attempt → List Deed
  | .failed f => [.opening (.error f)]
  | .refused k _ | .usable k => [.opening (.ok k), .setMode k .poll]

def isUsable : Attempt → Bool
  | .usable _ => true
  | _ => false

/-- Milliseconds to wait after an attempt. -/
def delay (timing : Timing) : Attempt → Nat
  | .usable _ => timing.settleDelay
  | _ => timing.reconnectDelay

theorem delay_of_unusable (timing : Timing) {a : Attempt} (h : a.isUsable = false) :
    a.delay timing = timing.reconnectDelay := by
  cases a with
  | usable k => cases h
  | _ => rfl

/-- The pause that a wait is. -/
def pauses (ms : Nat) : List Deed :=
  if ms = 0 then [] else [.pause ms]

/-- An attempt with the wait after it. -/
def course (timing : Timing) (a : Attempt) : List Deed :=
  a.deeds ++ pauses (a.delay timing)

end Attempt

/-! ## One attempt -/

namespace Opening

/-- A world with a trace, whose log is kept as well. -/
abbrev Logged (σ : Type) := Watched (Traced σ)

/-- From `s` to `t` such operations were made and such deeds done. -/
structure Makes (ops : List Operation) (deeds : List Deed) (s t : Logged σ) : Prop where
  trace : t.world.trace = s.world.trace ++ ops
  log : t.log.map Stamp.deed = s.log.map Stamp.deed ++ deeds

theorem Makes.trans {ops ops' : List Operation} {deeds deeds' : List Deed} {s t u : Logged σ}
    (h : Makes ops deeds s t) (h' : Makes ops' deeds' t u) :
    Makes (ops ++ ops') (deeds ++ deeds') s u where
  trace := by rw [h'.trace, h.trace, List.append_assoc]
  log := by rw [h'.log, h.log, List.append_assoc]

theorem Makes.nothing (s : Logged σ) : Makes [] [] s s where
  trace := (List.append_nil _).symm
  log := (List.append_nil _).symm

/-- A single operation, which the trace and the log tell of. -/
theorem note_makes {α : Type} (stopped : Traced σ → Bool) (deed : Except Fault α → Deed)
    (operation : Except Fault α → Operation) {act : EStateM Fault (Traced σ) α} {s : Logged σ}
    (hAct : (endState (act s.world)).trace =
      s.world.trace ++ [operation (toExcept (act s.world))]) :
    let r := Watched.note stopped deed act s
    Makes [operation (toExcept r)] [deed (toExcept r)] s (endState r) := by
  intro r
  have hOutcome : toExcept r = toExcept (act s.world) := by
    show toExcept (Watched.note stopped deed act s) = _
    unfold Watched.note
    cases act s.world <;> rfl
  have hEnd : endState r = s.add stopped (deed (toExcept r)) (endState (act s.world)) := by
    rw [hOutcome]
    exact Watched.note_end stopped deed act s
  rw [hEnd]
  refine ⟨?_, by simp [Watched.add]⟩
  rw [hOutcome]
  exact hAct

section

variable (host : Host σ)

theorem tryOpen_makes (s : Logged σ) :
    let r := host.traced.watched.tryOpen s
    Makes [.opening (toExcept r)] [.opening (toExcept r)] s (endState r) :=
  note_makes host.traced.stopped .opening .opening (Traced.note_end .opening host.tryOpen s.world).1

theorem setMode_makes (k : LinkId) (mode : ReadMode) (s : Logged σ) :
    let r := (host.traced.watched.link k).setMode mode s
    Makes [.setMode k mode (toExcept r)] [.setMode k mode] s (endState r) :=
  note_makes host.traced.stopped (fun _ => .setMode k mode) (.setMode k mode)
    (Traced.note_end (.setMode k mode) ((host.link k).setMode mode) (s.world.ask k mode)).1

/-- What an attempt comes to. -/
theorem openLink_makes (s : Logged σ) :
    ∃ a : Attempt, Makes a.operations a.deeds s (endState (host.traced.watched.openLink s)) ∧
      (∀ k t, host.traced.watched.openLink s = .ok k t → a = .usable k) ∧
      ∀ f t, host.traced.watched.openLink s = .error f t → a.isUsable = false := by
  have hOpening := tryOpen_makes host s
  unfold Host.openLink
  cases hTry : host.traced.watched.tryOpen s with
  | error f t =>
    rw [hTry] at hOpening
    exact ⟨.failed f, hOpening, (fun _ _ h => nomatch h), fun _ _ _ => rfl⟩
  | ok k t =>
    rw [hTry] at hOpening
    have hSwitch := setMode_makes host k .poll t
    simp only
    cases hSet : (host.traced.watched.link k).setMode .poll t with
    | error f u =>
      rw [hSet] at hSwitch
      exact ⟨.refused k f, hOpening.trans hSwitch, (fun _ _ h => nomatch h), fun _ _ _ => rfl⟩
    | ok a u =>
      rw [hSet] at hSwitch
      refine ⟨.usable k, hOpening.trans hSwitch, fun j v h => ?_, fun _ _ h => nomatch h⟩
      cases h
      rfl

theorem openLink_fails {s t : Logged σ} {f : Fault}
    (h : host.traced.watched.openLink s = .error f t) :
    ∃ a : Attempt, Makes a.operations a.deeds s t ∧ a.isUsable = false := by
  obtain ⟨a, hMakes, -, hUnusable⟩ := openLink_makes host s
  rw [h] at hMakes
  exact ⟨a, hMakes, hUnusable f t h⟩

/-- A wait is a pause, unless it is found at once that the world is stopped. -/
theorem sleep_makes (ms : Nat) (s : Logged σ) :
    Makes [] (Attempt.pauses ms) s (host.traced.watched.sleep ms s).2 ∨
      (host.traced.watched.sleep ms s).1 = false ∧ (host.traced.watched.sleep ms s).2 = s := by
  unfold Host.sleep
  by_cases hStopped : host.traced.watched.stopped s = true
  · rw [if_pos hStopped]
    exact Or.inr ⟨rfl, rfl⟩
  · rw [if_neg hStopped]
    unfold Attempt.pauses
    by_cases hZero : ms = 0
    · rw [if_pos hZero, if_pos hZero]
      exact Or.inl (.nothing s)
    · rw [if_neg hZero, if_neg hZero]
      refine Or.inl ⟨(List.append_nil _).symm, ?_⟩
      show (s.add host.traced.stopped (.pause ms) (host.traced.pause ms s.world)).log.map
        Stamp.deed = _
      simp [Watched.add]

end

/-! ## Attempts until a link is usable -/

/-- From `s` to `t` these attempts were made, each with the wait after it. Of the last wait
`missing` is left out. -/
structure Tries (timing : Timing) (attempts : List Attempt) (missing : List Deed)
    (s t : Logged σ) : Prop where
  trace : t.world.trace = s.world.trace ++ attempts.flatMap Attempt.operations
  log : t.log.map Stamp.deed ++ missing =
    s.log.map Stamp.deed ++ attempts.flatMap (Attempt.course timing)

/-- At most the wait after the last attempt is left out. -/
def LeavesOut (timing : Timing) (attempts : List Attempt) (missing : List Deed) : Prop :=
  missing = [] ∨ ∃ a, attempts.getLast? = some a ∧ missing = Attempt.pauses (a.delay timing)

section

variable {timing : Timing} {attempts later : List Attempt} {missing : List Deed} {s t u : Logged σ}
  {a : Attempt}

theorem Makes.tries (h : Makes a.operations a.deeds s t) :
    Tries timing [a] (Attempt.pauses (a.delay timing)) s t where
  trace := by simpa using h.trace
  log := by
    rw [h.log, List.append_assoc]
    simp [Attempt.course]

theorem Tries.wait (h : Tries timing attempts missing s t) (hWait : Makes [] missing t u) :
    Tries timing attempts [] s u where
  trace := by rw [hWait.trace, List.append_nil, h.trace]
  log := by rw [hWait.log, List.append_nil, h.log]

theorem Tries.trans (h : Tries timing attempts [] s t) (hLater : Tries timing later missing t u) :
    Tries timing (attempts ++ later) missing s u where
  trace := by rw [hLater.trace, h.trace, List.flatMap_append, List.append_assoc]
  log := by
    have hLog := h.log
    rw [List.append_nil] at hLog
    rw [hLater.log, hLog, List.flatMap_append, List.append_assoc]

theorem LeavesOut.cons (h : LeavesOut timing later missing) (a : Attempt) :
    LeavesOut timing (a :: later) missing := by
  refine h.imp_right fun hLast => ?_
  obtain ⟨b, hLast, hMissing⟩ := hLast
  exact ⟨b, by simp [List.getLast?_cons, hLast], hMissing⟩

end

section

variable (host : Host σ) (timing : Timing)

/-- An attempt that fails, and the wait after it, unless the world is found stopped at once. -/
theorem failure_tries {s t u : Logged σ} {f : Fault} {rested : Bool}
    (hOpen : host.traced.watched.openLink s = .error f t)
    (hSleep : host.traced.watched.sleep timing.reconnectDelay t = (rested, u)) :
    ∃ a : Attempt, a.isUsable = false ∧
      (Tries timing [a] [] s u ∨
        rested = false ∧ Tries timing [a] (Attempt.pauses (a.delay timing)) s u) := by
  obtain ⟨a, hMakes, hUnusable⟩ := openLink_fails host hOpen
  have hWait := sleep_makes host timing.reconnectDelay t
  rw [hSleep, ← Attempt.delay_of_unusable timing hUnusable] at hWait
  refine ⟨a, hUnusable, ?_⟩
  rcases hWait with hWait | ⟨hCut, hSame⟩
  · exact Or.inl (hMakes.tries.wait hWait)
  · obtain rfl := show u = t from hSame
    exact Or.inr ⟨hCut, hMakes.tries⟩

/-- The attempts of a wait for a link. All of them fail but the one whose link is handed over. -/
theorem awaitLink_tries (s : Logged σ) :
    match host.traced.watched.awaitLink timing.reconnectDelay s with
    | .ok k t => ∃ front, (∀ a ∈ front, a.isUsable = false) ∧
        Tries timing (front ++ [.usable k]) (Attempt.pauses timing.settleDelay) s t
    | .error _ t =>
      ∃ attempts missing, (∀ a ∈ attempts, a.isUsable = false) ∧ Tries timing attempts missing s t ∧
        LeavesOut timing attempts missing := by
  fun_induction host.traced.watched.awaitLink timing.reconnectDelay s with
  | case1 s hStopped => exact ⟨[], [], by simp, ⟨by simp, by simp⟩, Or.inl rfl⟩
  | case2 s hRuns k t hOpen =>
    obtain ⟨a, hMakes, hUsable, -⟩ := openLink_makes host s
    obtain rfl := hUsable k t hOpen
    rw [hOpen] at hMakes
    exact ⟨[], by simp, hMakes.tries⟩
  | case3 s hRuns f t hOpen u hSleep =>
    obtain ⟨a, hUnusable, hTried | ⟨-, hTried⟩⟩ := failure_tries host timing hOpen hSleep
    · exact ⟨[a], [], by simpa using hUnusable, hTried, Or.inl rfl⟩
    · exact ⟨[a], _, by simpa using hUnusable, hTried, Or.inr ⟨a, rfl, rfl⟩⟩
  | case4 s hRuns f t hOpen u hSleep ih =>
    obtain ⟨a, hUnusable, hTried | ⟨hCut, -⟩⟩ := failure_tries host timing hOpen hSleep
    case inr => cases hCut
    cases hLater : host.traced.watched.awaitLink timing.reconnectDelay u with
    | ok k v =>
      rw [hLater] at ih
      obtain ⟨front, hFront, hRest⟩ := ih
      exact ⟨a :: front, by simpa using ⟨hUnusable, hFront⟩, hTried.trans hRest⟩
    | error e v =>
      rw [hLater] at ih
      obtain ⟨attempts, missing, hAttempts, hRest, hOut⟩ := ih
      exact ⟨a :: attempts, missing,
        by simpa using ⟨hUnusable, hAttempts⟩, hTried.trans hRest, hOut.cons a⟩

end

end Opening

/-! ## Connecting -/

def Operation.isOpening : Operation → Bool
  | .opening _ => true
  | _ => false

/-- Every attempt opens once. -/
theorem Attempt.countP_isOpening (attempts : List Attempt) :
    (attempts.flatMap operations).countP Operation.isOpening = attempts.length := by
  induction attempts with
  | nil => rfl
  | cons a attempts ih =>
    have hOne : a.operations.countP Operation.isOpening = 1 := by cases a <;> rfl
    rw [List.flatMap_cons, List.countP_append, hOne, ih, List.length_cons, Nat.add_comm]

namespace Connection

open Opening

/-- How connecting ends: with the link of the last attempt, the first usable one, or for a stop
and without a link. -/
def Ends (host : Host σ) (timing : Timing) (attempts : List Attempt) (missing : List Deed) :
    EStateM.Result Host.Stopped (Connection σ) Unit → Prop
  | .ok _ d =>
    missing = [] ∧ ∃ front k, attempts = front ++ [.usable k] ∧ (∀ a ∈ front, a.isUsable = false) ∧
      d.link = some k ∧ d.phase = .handshaking ∧ d.requesting = true ∧ requestDue host d = true
  | .error _ d =>
    LeavesOut timing attempts missing ∧ (∀ a ∈ attempts.dropLast, a.isUsable = false) ∧
      d.link = none ∧ d.phase = .connecting

/-- What it comes to that `c` connects, where `r` is how it ends. The trace and the log of `s` tell
what was done: `attempts`, of which `missing` was left out. -/
structure Connects (host : Host σ) (c : Connection σ) (s : Logged σ) (attempts : List Attempt)
    (missing : List Deed) (r : EStateM.Result Host.Stopped (Connection σ) Unit) : Prop where
  /-- Nothing but the attempts is done, at any link or at the sink. -/
  trace : s.world.trace = attempts.flatMap Attempt.operations
  openings : s.world.trace.countP Operation.isOpening = attempts.length
  log : s.log.map Stamp.deed ++ missing = attempts.flatMap (Attempt.course c.timing)
  /-- A stop lasts. -/
  chain : Chain (host.stopped c.world) s.log (host.stopped (endState r).world)
  /-- No attempt is begun after a stop. -/
  opens : ∀ x ∈ s.log, x.deed.isOpening = true → x.begun = false
  /-- It ends well unless there is a stop, be it before, during a deed or by the end of a wait. -/
  unstopped : succeeds r = true ↔ host.stopped c.world = false ∧ ∀ x ∈ s.log, x.done = false
  ends : Ends host c.timing attempts missing r
  session : (endState r).session = c.session.resetLink ∧ (endState r).session.initialized = false ∧
    (endState r).session.framing = .idle
  counted : (endState r).reconnects = c.reconnects ∧ (endState r).handshakesSent = c.handshakesSent

section

variable (host : Host σ)

/-- The attempts of connecting, and what is held in the end. -/
theorem connect_tries (c : Connection (Logged σ)) :
    match connect host.traced.watched c with
    | .ok _ d => ∃ front k, (∀ a ∈ front, a.isUsable = false) ∧
        Tries c.timing (front ++ [.usable k]) [] c.world d.world ∧ d.link = some k
    | .error _ d => ∃ attempts missing, (∀ a ∈ attempts.dropLast, a.isUsable = false) ∧
        Tries c.timing attempts missing c.world d.world ∧ LeavesOut c.timing attempts missing ∧
        d.link = none := by
  have hAwait := awaitLink_tries host c.timing c.world
  unfold connect
  simp only
  cases hRun : host.traced.watched.awaitLink c.dropLink.timing.reconnectDelay c.dropLink.world with
  | error e t =>
    rw [show host.traced.watched.awaitLink c.timing.reconnectDelay c.world = _ from hRun] at hAwait
    obtain ⟨attempts, missing, hAttempts, hTries, hOut⟩ := hAwait
    exact ⟨attempts, missing, fun a ha => hAttempts a (List.mem_of_mem_dropLast ha), hTries,
      hOut, rfl⟩
  | ok k t =>
    rw [show host.traced.watched.awaitLink c.timing.reconnectDelay c.world = _ from hRun] at hAwait
    obtain ⟨front, hFront, hTries⟩ := hAwait
    have hWait := sleep_makes host c.timing.settleDelay t
    simp only
    cases hSleep : host.traced.watched.sleep c.dropLink.timing.settleDelay t with
    | mk rested u =>
      rw [show host.traced.watched.sleep c.timing.settleDelay t = _ from hSleep] at hWait
      have hDropped : (front ++ [Attempt.usable k]).dropLast = front := List.dropLast_concat
      cases rested with
      | true =>
        rcases hWait with hWait | ⟨hCut, -⟩
        · exact ⟨front, k, hFront, hTries.wait hWait, rfl⟩
        · cases hCut
      | false =>
        rcases hWait with hWait | ⟨-, hSame⟩
        · exact ⟨_, [], by rwa [hDropped], hTries.wait hWait, Or.inl rfl, rfl⟩
        · obtain rfl := show u = t from hSame
          exact ⟨_, _, by rwa [hDropped], hTries, Or.inr ⟨.usable k, by simp, rfl⟩, rfl⟩

/-- What is known of the device after connecting, and what is asked of it. -/
theorem connect_leaves (c : Connection σ) :
    match connect host c with
    | .ok _ d => d.phase = .handshaking ∧ d.requesting = true ∧ requestDue host d = true
    | .error _ d => d.phase = .connecting := by
  unfold connect
  simp only
  cases host.awaitLink c.dropLink.timing.reconnectDelay c.dropLink.world with
  | error e w => rfl
  | ok k w =>
    simp only
    cases host.sleep c.dropLink.timing.settleDelay w with
    | mk rested v =>
      cases rested with
      | false => rfl
      | true => exact ⟨rfl, rfl, rfl⟩

theorem connect_handshakesSent (c : Connection σ) :
    (endState (connect host c)).handshakesSent = c.handshakesSent := by
  rcases connect_cases host c with ⟨w, hEnd⟩ | ⟨k, w, hEnd⟩
  · rw [hEnd]
    rfl
  · rw [hEnd]
    rfl

/-- Connecting ends well exactly if the world runs in the end. -/
theorem connect_succeeds (c : Connection σ) :
    succeeds (connect host c) = true ↔ host.stopped (endState (connect host c)).world = false := by
  cases hRun : connect host c with
  | ok u d => exact iff_of_true rfl (connect_runs hRun)
  | error e d =>
    refine iff_of_false (by simp) fun hRuns => ?_
    cases (connect_stopped hRun).symm.trans hRuns

/-- `d` is `c` without its log and its trace. -/
def Unlogged (c : Connection (Logged σ)) (d : Connection σ) : Prop :=
  c.unwatched.untraced = d

theorem connect_unlogged (c : Connection (Logged σ)) :
    Alike Unlogged (connect host.traced.watched c) (connect host c.unwatched.untraced) := by
  have hWatched :
      Alike Unwatched (connect host.traced.watched c) (connect host.traced c.unwatched) :=
    alike_unwatched (connect_follows (Watched.follows host.traced) c c.unwatched (same_unwatched c))
  refine hWatched.comp (connect_untraced host c.unwatched) ?_
  rintro s t u hUnwatched hUntraced
  obtain rfl := show Connection.unwatched _ = _ from hUnwatched
  exact hUntraced

/-- The attempts that a log and a trace tell of, and what is held in the end. -/
theorem connect_ends (c : Connection (Logged σ)) :
    ∃ attempts missing,
      Tries c.timing attempts missing c.world (endState (connect host.traced.watched c)).world ∧
        Ends host c.timing attempts missing (connect host c.unwatched.untraced) := by
  have hTries := connect_tries host c
  have hLeaves := connect_leaves host c.unwatched.untraced
  have hAlike := connect_unlogged host c
  generalize connect host.traced.watched c = r,
    connect host c.unwatched.untraced = r' at hTries hLeaves hAlike
  cases hAlike with
  | ok h =>
    obtain rfl := show Connection.untraced _ = _ from h
    obtain ⟨front, k, hFront, hTries, hLink⟩ := hTries
    obtain ⟨hPhase, hAsks, hDue⟩ := hLeaves
    exact ⟨_, [], hTries, rfl, front, k, rfl, hFront, hLink, hPhase, hAsks, hDue⟩
  | error h =>
    obtain rfl := show Connection.untraced _ = _ from h
    obtain ⟨attempts, missing, hFront, hTries, hOut, hLink⟩ := hTries
    exact ⟨attempts, missing, hTries, hOut, hFront, hLink, hLeaves⟩

end

/-- **Connecting takes the first usable link.** Every connection, on every host, wherever a stop
falls. The connection is traced and watched, which changes nothing else about it. -/
theorem connect_takes_first_usable (host : Host σ) (c : Connection σ) :
    let start : Connection (Logged σ) := c.inWorld { world := { world := c.world } }
    let r := connect host.traced.watched start
    Alike Unlogged r (connect host c) ∧
      ∃ attempts missing, Connects host c (endState r).world attempts missing (connect host c) := by
  intro start r
  have hAlike : Alike Unlogged r (connect host c) := connect_unlogged host start
  refine ⟨hAlike, ?_⟩
  have hWorld : (endState r).world.world.world = (endState (connect host c)).world :=
    congrArg (fun d : Connection σ => d.world) hAlike.ends
  obtain ⟨stamps, hLog, hChain, hConnects⟩ := connect_connects host.traced start
  obtain rfl : (endState r).world.log = stamps := hLog
  have hStops : Chain (host.stopped c.world) (endState r).world.log
      (host.stopped (endState (connect host c)).world) := by
    rw [← hWorld]
    exact hChain
  obtain ⟨attempts, missing, hTries, hEnds⟩ := connect_ends host start
  have hSession := connect_session host c
  have hTrace : (endState r).world.world.trace = attempts.flatMap Attempt.operations := hTries.trace
  refine ⟨attempts, missing, ?_⟩
  exact {
    trace := hTrace
    openings := by rw [hTrace, Attempt.countP_isOpening]
    log := hTries.log
    chain := hStops
    opens := fun x hx hOpens => Stamp.begun_of_connects (hConnects x hx) hOpens
    unstopped := (connect_succeeds host c).trans hStops.runs_iff
    ends := hEnds
    session := ⟨hSession, by rw [hSession]; rfl, by rw [hSession]; rfl⟩
    counted := ⟨connect_reconnects host c, connect_handshakesSent host c⟩ }

end Connection

end MemoryBridge
