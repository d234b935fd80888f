import MemoryBridge.Link

/-!
# The world of a bridge

Everything outside of the bridge is a state `σ` and the operations on it: opening links,
talking over them, the passthrough sink, the stop flag, the clock. The bridge sees no more of
the world than that.

A world has a budget. It never grows, and every attempt to open a link spends some of it or finds
the world stopped, so that retries come to an end.
-/

namespace MemoryBridge

/-- Links are numbered in the order in which they are handed out. -/
abbrev LinkId := Nat

/-- Time and budget have only moved on: what was stopped is still stopped, and nothing was
added to the budget. -/
def Later {σ : Type} (stopped : σ → Bool) (budget : σ → Nat) (s t : σ) : Prop :=
  (stopped s = true → stopped t = true) ∧ budget t ≤ budget s

theorem later_durable {σ : Type} (stopped : σ → Bool) (budget : σ → Nat) :
    Durable (Later stopped budget) :=
  ⟨fun _ => ⟨id, Nat.le_refl _⟩, fun h₁ h₂ => ⟨h₂.1 ∘ h₁.1, Nat.le_trans h₂.2 h₁.2⟩⟩

/-- The operations on a world. A world is stopped during an operation: a stop between a look at the
flag and the operation that comes next counts as falling into that operation. -/
structure Host (σ : Type) where
  link : LinkId → Link σ
  sink : Sink σ
  /-- One attempt to open the link to the device. -/
  tryOpen : EStateM Fault σ LinkId
  stopped : σ → Bool
  /-- Milliseconds. -/
  clock : σ → Nat
  /-- Lets milliseconds pass, or less if the world is stopped meanwhile. This is all of a wait at
  once, the slices of 50 ms with a look at the flag before each. -/
  pause : Nat → σ → σ
  budget : σ → Nat
  link_keeps : ∀ id, (link id).Keeps (Later stopped budget)
  sink_keeps : sink.Keeps (Later stopped budget)
  tryOpen_later : Moves (Later stopped budget) tryOpen
  pause_later : ∀ ms s, Later stopped budget s (pause ms s)
  tryOpen_spends : ∀ s, stopped (endState (tryOpen s)) = true ∨
    budget (endState (tryOpen s)) < budget s

namespace Host

variable {σ : Type}

/-- The order in which the states of a world follow each other. -/
def After (host : Host σ) : σ → σ → Prop :=
  Later host.stopped host.budget

theorem after_durable (host : Host σ) : Durable host.After :=
  later_durable _ _

/-- Waits, unless the world is or becomes stopped. Answers whether the wait was completed. A stop
after the first look at the flag counts as falling into the pause. -/
def sleep (host : Host σ) (ms : Nat) (s : σ) : Bool × σ :=
  if host.stopped s then (false, s)
  else if ms = 0 then (true, s)
  else
    let t := host.pause ms s
    (!host.stopped t, t)

/-- A wait pauses the world or leaves it alone. -/
theorem sleep_cases (host : Host σ) (ms : Nat) (s : σ) :
    (host.sleep ms s).2 = s ∨ (host.sleep ms s).2 = host.pause ms s := by
  unfold sleep
  split
  · exact Or.inl rfl
  · split
    · exact Or.inl rfl
    · exact Or.inr rfl

theorem sleep_after (host : Host σ) (ms : Nat) (s : σ) : host.After s (host.sleep ms s).2 := by
  rcases host.sleep_cases ms s with h | h
  · rw [h]
    exact host.after_durable.refl s
  · rw [h]
    exact host.pause_later ms s

theorem sleep_not_stopped (host : Host σ) {ms : Nat} {s t : σ} (h : host.sleep ms s = (true, t)) :
    host.stopped t = false := by
  unfold sleep at h
  split at h
  · simp at h
  · rename_i hs
    split at h
    · simp only [Prod.mk.injEq, true_and] at h
      simpa [← h] using hs
    · simp only [Prod.mk.injEq] at h
      rw [h.2] at h
      simpa using h.1

/-- A wait that was cut short ends in a world that is stopped. -/
theorem sleep_stopped (host : Host σ) {ms : Nat} {s t : σ} (h : host.sleep ms s = (false, t)) :
    host.stopped t = true := by
  unfold sleep at h
  split at h
  · rename_i hs
    simp only [Prod.mk.injEq, true_and] at h
    rwa [← h]
  · split at h
    · simp at h
    · simp only [Prod.mk.injEq] at h
      rw [h.2] at h
      simpa using h.1

/-- Opens a link and puts it in poll mode. -/
def openLink (host : Host σ) : EStateM Fault σ LinkId := fun s =>
  match host.tryOpen s with
  | .error f t => .error f t
  | .ok id t =>
    match (host.link id).setMode .poll t with
    | .error f u => .error f u
    | .ok () u => .ok id u

theorem openLink_spends (host : Host σ) (s : σ) :
    host.After s (endState (host.openLink s)) ∧
      (host.stopped (endState (host.openLink s)) = true ∨
        host.budget (endState (host.openLink s)) < host.budget s) := by
  have hLater := host.tryOpen_later s
  have hSpends := host.tryOpen_spends s
  unfold openLink
  cases ho : host.tryOpen s with
  | error f t =>
    rw [ho] at hLater hSpends
    exact ⟨hLater, hSpends⟩
  | ok id t =>
    rw [ho] at hLater hSpends
    have hMode := (host.link_keeps id).setMode .poll t
    have key : host.After s (endState ((host.link id).setMode .poll t)) ∧
        (host.stopped (endState ((host.link id).setMode .poll t)) = true ∨
          host.budget (endState ((host.link id).setMode .poll t)) < host.budget s) := by
      refine ⟨host.after_durable.trans hLater hMode, ?_⟩
      rcases hSpends with h | h
      · exact Or.inl (hMode.1 h)
      · exact Or.inr (Nat.lt_of_le_of_lt hMode.2 h)
    cases hm : (host.link id).setMode .poll t <;> simpa [hm] using key

/-- The world was stopped while a link was wanted. -/
structure Stopped where
  deriving DecidableEq, Repr

/-- Tries to open a link until one opens and takes poll mode, with a pause after each failure, or
until the world is stopped. -/
def awaitLink (host : Host σ) (retryDelay : Nat) (s : σ) : EStateM.Result Stopped σ LinkId :=
  if host.stopped s then .error ⟨⟩ s
  else
    match _ho : host.openLink s with
    | .ok id t => .ok id t
    | .error _ t =>
      match _hs : host.sleep retryDelay t with
      | (false, u) => .error ⟨⟩ u
      | (true, u) => host.awaitLink retryDelay u
termination_by host.budget s
decreasing_by
  have h₁ := (host.openLink_spends s).2
  have h₂ := host.sleep_after retryDelay t
  have h₃ := host.sleep_not_stopped _hs
  rw [_ho] at h₁
  rw [_hs] at h₂
  rcases h₁ with h | h
  · have := h₂.1 h
    simp [h₃] at this
  · exact Nat.lt_of_le_of_lt h₂.2 h

/-- The first attempt, and what comes of it. -/
theorem awaitLink_open (host : Host σ) (retryDelay : Nat) {s : σ} (h : ¬ host.stopped s = true) :
    host.awaitLink retryDelay s =
      match host.openLink s with
      | .ok id t => .ok id t
      | .error _ t =>
        match host.sleep retryDelay t with
        | (false, u) => .error ⟨⟩ u
        | (true, u) => host.awaitLink retryDelay u := by
  rw [awaitLink, if_neg h]
  cases host.openLink s with
  | ok id t => rfl
  | error f t =>
    simp only
    generalize host.sleep retryDelay t = slept
    obtain ⟨completed, u⟩ := slept
    cases completed <;> rfl

/-- An attempt to open a link is made in a world that runs. -/
theorem awaitLink_moves {R : σ → σ → Prop} (hR : Durable R) {host : Host σ}
    (hOpen : ∀ s, ¬ host.stopped s = true → R s (endState (host.openLink s)))
    (hSleep : ∀ ms s, R s (host.sleep ms s).2) (retryDelay : Nat) :
    Moves R (host.awaitLink retryDelay) := by
  intro s
  fun_induction host.awaitLink retryDelay s with
  | case1 s h => exact hR.refl s
  | case2 s hRuns id t ho => simpa [ho] using hOpen s hRuns
  | case3 s hRuns f t ho u hs =>
    have h₁ := hOpen s hRuns
    have h₂ := hSleep retryDelay t
    rw [ho] at h₁
    rw [hs] at h₂
    exact hR.trans h₁ h₂
  | case4 s hRuns f t ho u hs ih =>
    have h₁ := hOpen s hRuns
    have h₂ := hSleep retryDelay t
    rw [ho] at h₁
    rw [hs] at h₂
    exact hR.trans h₁ (hR.trans h₂ ih)

/-- A link that is handed over was opened after some attempts that failed. -/
theorem awaitLink_ok {R : σ → σ → Prop} (hR : Durable R) {host : Host σ}
    (hOpen : Moves R host.openLink) (hSleep : ∀ ms s, R s (host.sleep ms s).2) {retryDelay : Nat}
    {s t : σ} {id : LinkId} (h : host.awaitLink retryDelay s = .ok id t) :
    ∃ u, R s u ∧ host.openLink u = .ok id t := by
  fun_induction host.awaitLink retryDelay s with
  | case1 => cases h
  | case2 s _ id t ho =>
    cases h
    exact ⟨s, hR.refl s, ho⟩
  | case3 => cases h
  | case4 s _ f u ho v hs ih =>
    obtain ⟨w, hLater, hOpened⟩ := ih h
    have h₁ := hOpen s
    have h₂ := hSleep retryDelay u
    rw [ho] at h₁
    rw [hs] at h₂
    exact ⟨w, hR.trans h₁ (hR.trans h₂ hLater), hOpened⟩

/-- The wait for a link is given up in a world that is stopped. -/
theorem awaitLink_stopped (host : Host σ) {retryDelay : Nat} {s t : σ} {e : Stopped}
    (h : host.awaitLink retryDelay s = .error e t) : host.stopped t = true := by
  fun_induction host.awaitLink retryDelay s with
  | case1 s hs =>
    cases h
    exact hs
  | case2 => cases h
  | case3 s _ f u ho v hs =>
    cases h
    exact host.sleep_stopped hs
  | case4 s _ f u ho v hs ih => exact ih h

/-! ## What a host keeps -/

/-- Every single operation of `host` moves its world along `R`. -/
structure Keeps (R : σ → σ → Prop) (host : Host σ) : Prop where
  link : ∀ id, (host.link id).Keeps R
  sink : host.sink.Keeps R
  tryOpen : Moves R host.tryOpen
  pause : ∀ ms s, R s (host.pause ms s)

namespace Keeps

variable {R : σ → σ → Prop} {host : Host σ}

theorem imp {S : σ → σ → Prop} (h : host.Keeps R) (hRS : ∀ {s t}, R s t → S s t) :
    host.Keeps S where
  link id := ⟨fun n s => hRS ((h.link id).read n s), fun bs s => hRS ((h.link id).write bs s),
    fun s => hRS ((h.link id).flush s), fun mode s => hRS ((h.link id).setMode mode s)⟩
  sink := ⟨fun bs s => hRS (h.sink.write bs s), fun s => hRS (h.sink.flush s)⟩
  tryOpen s := hRS (h.tryOpen s)
  pause ms s := hRS (h.pause ms s)

theorem openLink (h : host.Keeps R) (hR : Durable R) : Moves R host.openLink := by
  intro s
  have hTry := h.tryOpen s
  unfold Host.openLink
  cases hOpen : host.tryOpen s with
  | error f t =>
    rw [hOpen] at hTry
    exact hTry
  | ok id t =>
    rw [hOpen] at hTry
    have hMode := (h.link id).setMode .poll t
    simp only
    cases hSet : (host.link id).setMode .poll t with
    | error f u =>
      rw [hSet] at hMode
      exact hR.trans hTry hMode
    | ok a u =>
      rw [hSet] at hMode
      exact hR.trans hTry hMode

theorem sleep (h : host.Keeps R) (hR : Durable R) (ms : Nat) (s : σ) : R s (host.sleep ms s).2 := by
  rcases host.sleep_cases ms s with hSleep | hSleep
  · rw [hSleep]
    exact hR.refl s
  · rw [hSleep]
    exact h.pause ms s

end Keeps

/-- Where `awaitLink` ends, time and budget have moved on; it has found the world stopped or
spent some budget. -/
theorem awaitLink_spends (host : Host σ) (retryDelay : Nat) (s : σ) :
    host.After s (endState (host.awaitLink retryDelay s)) ∧
      (host.stopped (endState (host.awaitLink retryDelay s)) = true ∨
        host.budget (endState (host.awaitLink retryDelay s)) < host.budget s) := by
  fun_induction host.awaitLink retryDelay s with
  | case1 s h => exact ⟨host.after_durable.refl s, Or.inl h⟩
  | case2 s _ id t ho =>
    have := host.openLink_spends s
    rw [ho] at this
    exact this
  | case3 s _ f t ho u hs =>
    have h₁ := host.openLink_spends s
    have h₂ := host.sleep_after retryDelay t
    rw [ho] at h₁
    rw [hs] at h₂
    refine ⟨host.after_durable.trans h₁.1 h₂, ?_⟩
    rcases h₁.2 with h | h
    · exact Or.inl (h₂.1 h)
    · exact Or.inr (Nat.lt_of_le_of_lt h₂.2 h)
  | case4 s _ f t ho u hs ih =>
    have h₁ := host.openLink_spends s
    have h₂ := host.sleep_after retryDelay t
    rw [ho] at h₁
    rw [hs] at h₂
    refine ⟨host.after_durable.trans h₁.1 (host.after_durable.trans h₂ ih.1), ?_⟩
    rcases ih.2 with h | h
    · exact Or.inl h
    · exact Or.inr (Nat.lt_of_lt_of_le h (Nat.le_trans h₂.2 h₁.1.2))

end Host

end MemoryBridge
