import MemoryBridge.Fault

/-!
# How an operation may move its state

Links, sinks and whole worlds are states that operations move, whether they succeed or fail. `Moves
R act` says that every run of `act` leads from a state to an `R`-related one. For a reflexive and
transitive `R` it is kept by sequencing, so a law of the single operations is a law of everything
built from them. `FailsOnly P act` says the same of the failures of `act`.
-/

namespace MemoryBridge

variable {ε ε' σ τ α β : Type}

/-- The state in which a run ends, successful or not. -/
def endState : EStateM.Result ε σ α → σ
  | .ok _ s => s
  | .error _ s => s

@[simp] theorem endState_ok (a : α) (s : σ) : endState (.ok a s : EStateM.Result ε σ α) = s := rfl

@[simp] theorem endState_error (e : ε) (s : σ) :
    endState (.error e s : EStateM.Result ε σ α) = s := rfl

/-- How a run ends, the state apart. -/
def toExcept : EStateM.Result ε σ α → Except ε α
  | .ok a _ => .ok a
  | .error e _ => .error e

@[simp] theorem toExcept_ok (a : α) (s : σ) :
    toExcept (.ok a s : EStateM.Result ε σ α) = .ok a := rfl

@[simp] theorem toExcept_error (e : ε) (s : σ) :
    toExcept (.error e s : EStateM.Result ε σ α) = .error e := rfl

/-- Whether a run succeeds. -/
def succeeds : EStateM.Result ε σ α → Bool
  | .ok _ _ => true
  | .error _ _ => false

@[simp] theorem succeeds_ok (a : α) (s : σ) :
    succeeds (.ok a s : EStateM.Result ε σ α) = true := rfl

@[simp] theorem succeeds_error (e : ε) (s : σ) :
    succeeds (.error e s : EStateM.Result ε σ α) = false := rfl

theorem eq_ok_of_succeeds {r : EStateM.Result ε σ Unit} (h : succeeds r = true) :
    r = .ok () (endState r) := by
  cases r with
  | ok a s => rfl
  | error e s => cases h

/-- Whether a run fails with such an error. -/
def failsBy (p : ε → Bool) : EStateM.Result ε σ α → Bool
  | .ok _ _ => false
  | .error e _ => p e

@[simp] theorem failsBy_ok (p : ε → Bool) (a : α) (s : σ) :
    failsBy p (.ok a s : EStateM.Result ε σ α) = false := rfl

@[simp] theorem failsBy_error (p : ε → Bool) (e : ε) (s : σ) :
    failsBy p (.error e s : EStateM.Result ε σ α) = p e := rfl

theorem failsBy_iff {p : ε → Bool} {r : EStateM.Result ε σ α} :
    failsBy p r = true ↔ ∃ e, toExcept r = .error e ∧ p e = true := by
  cases r <;> simp

/-! ## Runs of sequences -/

section

variable {act : EStateM ε σ α} {next : α → EStateM ε σ β} {s t u : σ} {a : α} {b : β} {e : ε}

theorem bind_ok (h : act s = .ok a t) : (act >>= next) s = next a t := by
  show EStateM.bind act next s = _
  simp only [EStateM.bind, h]

theorem bind_error (h : act s = .error e t) : (act >>= next) s = .error e t := by
  show EStateM.bind act next s = _
  simp only [EStateM.bind, h]

theorem of_bind_ok (h : (act >>= next) s = .ok b u) :
    ∃ a t, act s = .ok a t ∧ next a t = .ok b u := by
  cases hs : act s with
  | ok a t =>
    rw [bind_ok hs] at h
    exact ⟨a, t, rfl, h⟩
  | error e t =>
    rw [bind_error hs] at h
    cases h

theorem of_bind_error (h : (act >>= next) s = .error e u) :
    act s = .error e u ∨ ∃ a t, act s = .ok a t ∧ next a t = .error e u := by
  cases hs : act s with
  | ok a t =>
    rw [bind_ok hs] at h
    exact Or.inr ⟨a, t, rfl, h⟩
  | error e' t =>
    rw [bind_error hs] at h
    cases h
    exact Or.inl rfl

end

/-! ## Motion -/

/-- Every run of `act` leads to an `R`-related state. -/
def Moves (R : σ → σ → Prop) (act : EStateM ε σ α) : Prop :=
  ∀ s, R s (endState (act s))

/-- A relation between states that repeated operations can keep. -/
structure Durable (R : σ → σ → Prop) : Prop where
  refl : ∀ s, R s s
  trans : ∀ {s t u}, R s t → R t u → R s u

namespace Moves

variable {R : σ → σ → Prop}

theorem pure (hR : Durable R) (a : α) : Moves R (Pure.pure a : EStateM ε σ α) :=
  fun s => hR.refl s

theorem throw (hR : Durable R) (e : ε) : Moves R (MonadExcept.throw e : EStateM ε σ α) :=
  fun s => hR.refl s

theorem bind (hR : Durable R) {act : EStateM ε σ α} {next : α → EStateM ε σ β}
    (hAct : Moves R act) (hNext : ∀ a, Moves R (next a)) : Moves R (act >>= next) := by
  intro s
  have h := hAct s
  show R s (endState (EStateM.bind act next s))
  unfold EStateM.bind
  cases hs : act s with
  | ok a t =>
    rw [hs] at h
    exact hR.trans h (hNext a t)
  | error e t =>
    rw [hs] at h
    exact h

theorem map {act : EStateM ε σ α} (f : α → β) (hAct : Moves R act) : Moves R (f <$> act) := by
  intro s
  have h := hAct s
  show R s (endState (EStateM.map f act s))
  unfold EStateM.map
  cases hs : act s with
  | ok a t => rw [hs] at h; exact h
  | error e t => rw [hs] at h; exact h

end Moves

/-! ## Failure -/

/-- Every failure of `act` is one of the kind `P`. -/
def FailsOnly (P : ε → Prop) (act : EStateM ε σ α) : Prop :=
  ∀ s e t, act s = .error e t → P e

namespace FailsOnly

variable {P : ε → Prop}

theorem pure (a : α) : FailsOnly P (Pure.pure a : EStateM ε σ α) :=
  fun _ _ _ h => by cases h

theorem throw {e : ε} (he : P e) : FailsOnly P (MonadExcept.throw e : EStateM ε σ α) :=
  fun _ _ _ h => by
    cases h
    exact he

theorem bind {act : EStateM ε σ α} {next : α → EStateM ε σ β} (hAct : FailsOnly P act)
    (hNext : ∀ a, FailsOnly P (next a)) : FailsOnly P (act >>= next) := by
  intro s e u h
  rcases of_bind_error h with h | ⟨a, t, -, h⟩
  · exact hAct s e u h
  · exact hNext a t e u h

end FailsOnly

end MemoryBridge
