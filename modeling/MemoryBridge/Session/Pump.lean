import MemoryBridge.Session.Motion

/-!
# Pumping a stream through a session

`Session.pump` hands the bytes of a link to a session one after the other until the link has nothing
left or a byte fails. It is the plain form of what a connection does in ticks.
-/

namespace MemoryBridge

/-- A link with a finite supply of bytes, and a sink. -/
structure Supply (σ : Type) where
  link : Link σ
  sink : Sink σ
  /-- Whether a read can still find something. -/
  more : σ → Bool
  weight : σ → Nat
  link_keeps : link.Keeps fun s t => weight t ≤ weight s
  sink_keeps : sink.Keeps fun s t => weight t ≤ weight s
  read_spends : ∀ {s b bs t}, link.read 1 s = .ok (b :: bs) t → weight t < weight s

namespace Supply

variable {σ : Type}

theorem durable (supply : Supply σ) : Durable fun s t : σ => supply.weight t ≤ supply.weight s :=
  ⟨fun _ => Nat.le_refl _, fun h₁ h₂ => Nat.le_trans h₂ h₁⟩

/-- A byte that was read has left the supply. -/
theorem readExact_spends (supply : Supply σ) {s t : σ} {bs : Bytes}
    (h : supply.link.readExact 1 s = .ok bs t) : supply.weight t < supply.weight s := by
  generalize hn : (1 : Nat) = n at h
  fun_induction Source.readExact supply.link.toSource n s with
  | case1 => simp at hn
  | case2 => simp at h
  | case3 n s _ b cs u hr rest v hu ih =>
    simp only [EStateM.Result.ok.injEq] at h
    subst hn
    have h₁ := supply.read_spends hr
    have h₂ := Source.readExact_moves supply.durable supply.link_keeps.read
      (1 - (b :: cs).length) u
    rw [hu] at h₂
    rw [← h.2]
    exact Nat.lt_of_le_of_lt h₂ h₁
  | case4 => simp at h
  | case5 n s _ f u hr hf ih =>
    have h₁ := supply.link_keeps.read n s
    rw [hr] at h₁
    exact Nat.lt_of_lt_of_le (ih hn h) h₁
  | case6 => simp at h

end Supply

namespace Session

variable {σ : Type}

/-- Reads and handles one byte. -/
def pumpByte (supply : Supply σ) : Serve σ Handled := do
  match ← Serve.onLink (supply.link.readExact 1) with
  | b :: _ => processByte supply.link supply.sink b
  | [] => throw (.transport .endOfStream)

theorem pumpByte_spends (supply : Supply σ) {s t : Serving σ} {handled : Handled}
    (h : pumpByte supply s = .ok handled t) : supply.weight t.world < supply.weight s.world := by
  unfold pumpByte at h
  simp only [bind, EStateM.bind] at h
  split at h
  · rename_i bs u hr
    have h₁ : supply.weight u.world < supply.weight s.world := by
      unfold Serve.onLink Serve.onWorld at hr
      split at hr <;> simp only [EStateM.Result.ok.injEq, reduceCtorEq] at hr
      rename_i a w hw
      rw [← hr.2]
      exact supply.readExact_spends hw
    split at h
    · rename_i b rest
      have h₂ := processByte_moves supply.durable supply.link_keeps supply.sink_keeps.write b u
      rw [h] at h₂
      exact Nat.lt_of_le_of_lt h₂ h₁
    · cases h
  · simp at h

/-- What pumping comes to: what became of each byte, and the error that ended it. -/
structure Pumped (σ : Type) where
  handled : List Handled
  error : Option ServeError
  serving : Serving σ

/-- Pumps until the supply is used up or a byte fails. -/
def pump (supply : Supply σ) (s : Serving σ) : Pumped σ :=
  if supply.more s.world then
    match _hp : pumpByte supply s with
    | .error e t => { handled := [], error := some e, serving := t }
    | .ok handled t =>
      let rest := pump supply t
      { rest with handled := handled :: rest.handled }
  else { handled := [], error := none, serving := s }
termination_by supply.weight s.world
decreasing_by exact pumpByte_spends supply _hp

/-- Pumps exactly `n` bytes, or fewer and fails. -/
def pumpFor (supply : Supply σ) : Nat → Serve σ (List Handled)
  | 0 => pure []
  | n + 1 => do
    let handled ← pumpByte supply
    return handled :: (← pumpFor supply n)

theorem pump_of_drained {supply : Supply σ} {s : Serving σ} (h : supply.more s.world = false) :
    pump supply s = { handled := [], error := none, serving := s } := by
  rw [pump]
  simp [h]

theorem pump_of_error {supply : Supply σ} {s t : Serving σ} {e : ServeError}
    (hMore : supply.more s.world = true) (hp : pumpByte supply s = .error e t) :
    pump supply s = { handled := [], error := some e, serving := t } := by
  rw [pump, if_pos hMore]
  split <;> rename_i hq <;> rw [hp] at hq
  · cases hq
    rfl
  · cases hq

theorem pump_of_ok {supply : Supply σ} {s t : Serving σ} {handled : Handled}
    (hMore : supply.more s.world = true) (hp : pumpByte supply s = .ok handled t) :
    pump supply s = { pump supply t with handled := handled :: (pump supply t).handled } := by
  rw [pump, if_pos hMore]
  split <;> rename_i hq <;> rw [hp] at hq
  · cases hq
  · cases hq
    rfl

theorem pumpFor_succ_ok {supply : Supply σ} {n : Nat} {s t : Serving σ} {all : List Handled}
    (h : pumpFor supply (n + 1) s = .ok all t) :
    ∃ handled u rest, pumpByte supply s = .ok handled u ∧ pumpFor supply n u = .ok rest t ∧
      all = handled :: rest := by
  obtain ⟨handled, u, hFirst, hRest⟩ := of_bind_ok h
  obtain ⟨rest, v, hLater, hDone⟩ := of_bind_ok hRest
  cases hDone
  exact ⟨handled, u, rest, hFirst, hLater, rfl⟩

theorem pumpFor_succ {supply : Supply σ} {n : Nat} {s t u : Serving σ} {handled : Handled}
    {rest : List Handled} (hFirst : pumpByte supply s = .ok handled u)
    (hLater : pumpFor supply n u = .ok rest t) :
    pumpFor supply (n + 1) s = .ok (handled :: rest) t := by
  unfold pumpFor
  rw [bind_ok hFirst, bind_ok hLater]
  rfl

theorem pumpFor_add {supply : Supply σ} {n m : Nat} {s t u : Serving σ} {all later : List Handled}
    (h : pumpFor supply n s = .ok all t) (hLater : pumpFor supply m t = .ok later u) :
    pumpFor supply (n + m) s = .ok (all ++ later) u := by
  induction n generalizing s all with
  | zero =>
    cases h
    rw [Nat.zero_add]
    exact hLater
  | succ n ih =>
    obtain ⟨handled, v, rest, hFirst, hRest, rfl⟩ := pumpFor_succ_ok h
    rw [Nat.add_right_comm]
    exact pumpFor_succ hFirst (ih hRest)

/-- Every byte that is pumped leaves the supply. -/
theorem pumpFor_spends {supply : Supply σ} {n : Nat} {s t : Serving σ} {all : List Handled}
    (h : pumpFor supply n s = .ok all t) : supply.weight t.world + n ≤ supply.weight s.world := by
  induction n generalizing s all with
  | zero =>
    cases h
    exact Nat.le_refl _
  | succ n ih =>
    obtain ⟨handled, v, rest, hFirst, hRest, rfl⟩ := pumpFor_succ_ok h
    have hSpent := pumpByte_spends supply hFirst
    have hLater := ih hRest
    omega

/-- Fewer bytes can be pumped too, and come to the same. -/
theorem pumpFor_prefix {supply : Supply σ} {n m : Nat} {s t : Serving σ} {all : List Handled}
    (h : pumpFor supply n s = .ok all t) (hm : m ≤ n) :
    ∃ u, pumpFor supply m s = .ok (all.take m) u := by
  induction m generalizing n s all with
  | zero => exact ⟨s, rfl⟩
  | succ m ih =>
    obtain ⟨n, rfl⟩ : ∃ k, n = k + 1 := ⟨n - 1, by omega⟩
    obtain ⟨handled, u, rest, hFirst, hLater, rfl⟩ := pumpFor_succ_ok h
    obtain ⟨v, hRun⟩ := ih hLater (by omega)
    exact ⟨v, pumpFor_succ hFirst hRun⟩

/-- A pump has pumped so many bytes. Then the supply is used up, or one byte more fails. -/
theorem pump_eq (supply : Supply σ) (s : Serving σ) :
    ∃ u, pumpFor supply (pump supply s).handled.length s = .ok (pump supply s).handled u ∧
      match (pump supply s).error with
      | none => u = (pump supply s).serving ∧ supply.more u.world = false
      | some e =>
        supply.more u.world = true ∧ pumpByte supply u = .error e (pump supply s).serving := by
  fun_induction pump supply s with
  | case1 s hMore e t hp => exact ⟨s, rfl, hMore, hp⟩
  | case2 s hMore handled t hp rest ih =>
    obtain ⟨u, hRun, hEnd⟩ := ih
    exact ⟨u, pumpFor_succ hp hRun, hEnd⟩
  | case3 s hMore => exact ⟨s, rfl, rfl, by simpa using hMore⟩

end Session

end MemoryBridge
