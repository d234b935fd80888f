import MemoryBridge.Rehearsal.Script

/-!
# Scripted links

A scripted link is a link in memory with scripts in front of it: bytes move into the memory link
when a read finds nothing pending there, and writes, flushes and mode switches ask their scripts
first. A read also says whether it has stopped the world.
-/

namespace MemoryBridge

structure ScriptedLink where
  memory : MemoryLink := {}
  arrivals : List Arrival := []
  acceptances : List Acceptance := []
  flushFaults : FaultQueue := []
  modeFaults : FaultQueue := []
  /-- Mode switches asked for, failed ones included. -/
  modeCalls : Record ReadMode := {}
  deriving Repr

namespace ScriptedLink

open Script

variable {α : Type}

/-- Lets an operation act on the memory link. -/
def onMemory (act : EStateM Fault MemoryLink α) : EStateM Fault ScriptedLink α := fun l =>
  match act l.memory with
  | .ok a m => .ok a { l with memory := m }
  | .error f m => .error f { l with memory := m }

/-- What a read finds, and whether the read stops the world. With `stopWhenDrained` it does so when
neither the memory link nor the script has anything left. -/
def read (stopWhenDrained : Bool) (n : Nat) (l : ScriptedLink) :
    EStateM.Result Fault ScriptedLink Bytes × Bool :=
  if l.memory.pending.isEmpty then
    match cue l.arrivals with
    | ⟨.bytes bs, rest, stop, _⟩ =>
      (onMemory (MemoryLink.read n) { l with memory := l.memory.push bs, arrivals := rest }, stop)
    | ⟨.fault kind, rest, stop, _⟩ => (.error (fault kind) { l with arrivals := rest }, stop)
    | ⟨.ended, rest, stop, _⟩ => (.ok [] { l with arrivals := rest }, stop)
    | ⟨.nothing, rest, stop, _⟩ =>
      (onMemory (MemoryLink.read n) { l with arrivals := rest }, stop || stopWhenDrained)
  else (onMemory (MemoryLink.read n) l, false)

/-- The script decides how much is taken; only then does a closed link fail. -/
def write (bs : Bytes) : EStateM Fault ScriptedLink Nat := fun l =>
  match accept l.acceptances bs with
  | (.error kind, rest) => .error (fault kind) { l with acceptances := rest }
  | (.ok 0, rest) => .ok 0 { l with acceptances := rest }
  | (.ok (n + 1), rest) =>
    onMemory (MemoryLink.write (bs.take (n + 1))) { l with acceptances := rest }

def flush : EStateM Fault ScriptedLink Unit := fun l =>
  match nextFault l.flushFaults with
  | (some kind, rest) => .error (fault kind) { l with flushFaults := rest }
  | (none, rest) => onMemory MemoryLink.flush { l with flushFaults := rest }

def setMode (mode : ReadMode) : EStateM Fault ScriptedLink Unit := fun l =>
  let l := { l with modeCalls := l.modeCalls.add mode }
  match nextFault l.modeFaults with
  | (some kind, rest) => .error (fault kind) { l with modeFaults := rest }
  | (none, rest) => onMemory (MemoryLink.setMode mode) { l with modeFaults := rest }

/-- Bytes that have not been read: those in memory and those in the script. -/
def pendingBytes (l : ScriptedLink) : Nat :=
  l.memory.pending.length + dataLength l.arrivals

/-! ## What is left to happen on a link -/

/-- Bounds what reads and writes can still use up. -/
def weight (l : ScriptedLink) : Nat :=
  l.memory.weight + arrivalWeight l.arrivals + l.acceptances.length

theorem onMemory_weight {act : EStateM Fault MemoryLink α} {l : ScriptedLink}
    (h : (endState (act l.memory)).weight ≤ l.memory.weight) :
    (endState (onMemory act l)).weight ≤ l.weight := by
  unfold onMemory
  cases ha : act l.memory <;> rw [ha] at h <;> simp [weight] at h ⊢ <;> omega

theorem onMemory_error {act : EStateM Fault MemoryLink α} {l t : ScriptedLink} {f : Fault}
    (h : onMemory act l = .error f t) :
    ∃ m, act l.memory = .error f m ∧ t = { l with memory := m } := by
  unfold onMemory at h
  split at h <;> simp only [EStateM.Result.error.injEq, reduceCtorEq] at h
  rename_i g m ha
  exact ⟨m, h.1 ▸ ha, h.2.symm⟩

theorem onMemory_ok {act : EStateM Fault MemoryLink α} {l t : ScriptedLink} {a : α}
    (h : onMemory act l = .ok a t) : ∃ m, act l.memory = .ok a m ∧ t = { l with memory := m } := by
  unfold onMemory at h
  split at h <;> simp only [EStateM.Result.ok.injEq, reduceCtorEq] at h
  rename_i b m ha
  exact ⟨m, h.1 ▸ ha, h.2.symm⟩

theorem push_weight (m : MemoryLink) (bs : Bytes) : (m.push bs).weight = m.weight + bs.length := by
  have h : (m.push bs).failRead = m.failRead := rfl
  simp only [MemoryLink.weight, h]
  simp only [MemoryLink.push, List.length_append]
  omega

/-- A read ends in one of three ways: its script answers for it, the memory link reads from what was
moved into it, or nothing is left. -/
inductive Reading (stopWhenDrained : Bool) (n : Nat) (l : ScriptedLink) :
    EStateM.Result Fault ScriptedLink Bytes × Bool → Prop
  | failed {kind l' stop} (h : l'.weight < l.weight) :
      Reading stopWhenDrained n l (.error (fault kind) l', stop)
  | ended {l' stop} (h : l'.weight < l.weight) : Reading stopWhenDrained n l (.ok [] l', stop)
  | fromMemory {l' stop} (hPending : l'.memory.pending ≠ []) (h : l'.weight ≤ l.weight) :
      Reading stopWhenDrained n l (onMemory (MemoryLink.read n) l', stop)
  | drained {l' stop} (hPending : l'.memory.pending = []) (h : l'.weight ≤ l.weight) :
      Reading stopWhenDrained n l (onMemory (MemoryLink.read n) l', stop || stopWhenDrained)

theorem reading (stopWhenDrained : Bool) (n : Nat) (l : ScriptedLink) :
    Reading stopWhenDrained n l (l.read stopWhenDrained n) := by
  have hw := cue_weight l.arrivals
  unfold read
  split
  · rename_i hEmpty
    have hNil : l.memory.pending = [] := by simpa using hEmpty
    split
    · rename_i bs rest stop hangUp hc
      have hne : bs ≠ [] := @cue_bytes_ne_nil l.arrivals bs (by rw [hc])
      rw [hc] at hw
      simp only [Due.weight] at hw
      refine .fromMemory (by simpa [MemoryLink.push, hNil] using hne) ?_
      simp only [weight, push_weight]
      omega
    · rename_i kind rest stop hangUp hc
      rw [hc] at hw
      simp only [Due.weight] at hw
      refine .failed ?_
      simp only [weight]
      omega
    · rename_i rest stop hangUp hc
      rw [hc] at hw
      simp only [Due.weight] at hw
      refine .ended ?_
      simp only [weight]
      omega
    · rename_i rest stop hangUp hc
      rw [hc] at hw
      simp only [Due.weight] at hw
      refine .drained hNil ?_
      simp only [weight]
      omega
  · rename_i hEmpty
    have hne : l.memory.pending ≠ [] := by simpa using hEmpty
    exact .fromMemory hne (Nat.le_refl _)

theorem read_weight (stopWhenDrained : Bool) (n : Nat) (l : ScriptedLink) :
    (endState (l.read stopWhenDrained n).1).weight ≤ l.weight := by
  have := reading stopWhenDrained n l
  generalize l.read stopWhenDrained n = v at this ⊢
  cases this with
  | failed h => exact Nat.le_of_lt h
  | ended h => exact Nat.le_of_lt h
  | fromMemory _ h => exact Nat.le_trans (onMemory_weight (MemoryLink.read_weight n _)) h
  | drained _ h => exact Nat.le_trans (onMemory_weight (MemoryLink.read_weight n _)) h

theorem read_length_le {stopWhenDrained : Bool} {n : Nat} {l t : ScriptedLink} {bs : Bytes}
    (hr : (l.read stopWhenDrained n).1 = .ok bs t) : bs.length ≤ n := by
  generalize hv : l.read stopWhenDrained n = v at hr
  have := reading stopWhenDrained n l
  rw [hv] at this
  cases this with
  | failed _ => simp at hr
  | ended _ =>
    simp only [EStateM.Result.ok.injEq] at hr
    simp [← hr.1]
  | fromMemory _ _ =>
    obtain ⟨m, hm, _⟩ := onMemory_ok hr
    exact MemoryLink.read_length_le hm
  | drained _ _ =>
    obtain ⟨m, hm, _⟩ := onMemory_ok hr
    exact MemoryLink.read_length_le hm

theorem read_interrupted {stopWhenDrained : Bool} {n : Nat} {l t : ScriptedLink} {f : Fault}
    (hr : (l.read stopWhenDrained n).1 = .error f t) (hf : f.kind = .interrupted) :
    t.weight < l.weight := by
  have fromMemory : ∀ {l' : ScriptedLink}, l'.weight ≤ l.weight →
      onMemory (MemoryLink.read n) l' = .error f t → t.weight < l.weight := by
    intro l' hle he
    obtain ⟨m, hm, rfl⟩ := onMemory_error he
    have := MemoryLink.read_interrupted hm hf
    simp only [weight] at hle ⊢
    omega
  generalize hv : l.read stopWhenDrained n = v at hr
  have := reading stopWhenDrained n l
  rw [hv] at this
  cases this with
  | failed h =>
    simp only [EStateM.Result.error.injEq] at hr
    exact hr.2 ▸ h
  | ended _ => simp at hr
  | fromMemory _ h => exact fromMemory h hr
  | drained _ h => exact fromMemory h hr

/-- A read that gets through takes weight off the link. -/
theorem read_ok_weight {stopWhenDrained : Bool} {n : Nat} (hn : 0 < n) {l t : ScriptedLink}
    {bs : Bytes} (hr : (l.read stopWhenDrained n).1 = .ok bs t) : t.weight < l.weight := by
  have fromMemory : ∀ {l' : ScriptedLink}, l'.weight ≤ l.weight →
      onMemory (MemoryLink.read n) l' = .ok bs t → t.weight < l.weight := by
    intro l' hle he
    obtain ⟨m, hm, rfl⟩ := onMemory_ok he
    have := MemoryLink.read_ok_weight hn hm
    simp only [weight] at hle ⊢
    omega
  have := reading stopWhenDrained n l
  generalize l.read stopWhenDrained n = v at this hr
  cases this with
  | failed _ => simp at hr
  | ended h =>
    simp only [EStateM.Result.ok.injEq] at hr
    exact hr.2 ▸ h
  | fromMemory _ h => exact fromMemory h hr
  | drained _ h => exact fromMemory h hr

/-- A read that finds nothing pending takes weight off the link, or ends at a link with nothing
left. -/
theorem read_idle_spends {n : Nat} (hn : 0 < n) {l t : ScriptedLink} {f : Fault} {stop : Bool}
    (hr : l.read true n = (.error f t, stop)) (hf : f.isIdle = true) :
    stop = true ∨ t.weight < l.weight := by
  have := reading true n l
  rw [hr] at this
  generalize hv : (EStateM.Result.error f t : EStateM.Result Fault ScriptedLink Bytes) = r at this
  cases this with
  | failed h =>
    simp only [EStateM.Result.error.injEq] at hv
    exact Or.inr (hv.2 ▸ h)
  | ended _ => simp at hv
  | drained _ _ => simp
  | fromMemory hPending h =>
    obtain ⟨m, hm, rfl⟩ := onMemory_error hv.symm
    refine Or.inr ?_
    have := MemoryLink.read_idle_weight hn hm hf hPending
    simp only [weight] at h ⊢
    omega

/-! ## Writing, flushing and switching -/

theorem write_weight (bs : Bytes) (l : ScriptedLink) :
    (endState (write bs l)).weight ≤ l.weight := by
  have := accept_rest_le l.acceptances bs
  unfold write
  split <;> rename_i ha <;> rw [ha] at this <;> simp only at this
  · simp only [endState_error, weight]
    omega
  · simp only [endState_ok, weight]
    omega
  · refine Nat.le_trans (onMemory_weight ?_) (by simp only [weight]; omega)
    exact Nat.le_of_eq (MemoryLink.write_weight _ _)

theorem write_le_length {bs : Bytes} {l t : ScriptedLink} {n : Nat} (h : write bs l = .ok n t) :
    n ≤ bs.length := by
  unfold write at h
  split at h
  · simp at h
  · simp only [EStateM.Result.ok.injEq] at h
    omega
  · obtain ⟨m, hm, _⟩ := onMemory_ok h
    exact Nat.le_trans (MemoryLink.write_le_length hm) (List.length_take_le' _ _)

theorem write_interrupted {bs : Bytes} {l t : ScriptedLink} {f : Fault}
    (h : write bs l = .error f t) (hf : f.kind = .interrupted) : t.weight < l.weight := by
  unfold write at h
  split at h
  · rename_i kind rest ha
    simp only [EStateM.Result.error.injEq] at h
    have := accept_error_rest_lt ha
    rw [← h.2]
    simp only [weight]
    omega
  · simp at h
  · obtain ⟨m, hm, _⟩ := onMemory_error h
    exact absurd hf (MemoryLink.write_not_interrupted hm)

theorem flush_weight (l : ScriptedLink) : (endState (flush l)).weight ≤ l.weight := by
  unfold flush
  split
  · simp [weight]
  · refine Nat.le_trans (onMemory_weight ?_) (by simp [weight])
    exact Nat.le_of_eq (MemoryLink.flush_weight _)

theorem setMode_weight (mode : ReadMode) (l : ScriptedLink) :
    (endState (setMode mode l)).weight ≤ l.weight := by
  simp only [setMode]
  split
  · simp [weight]
  · refine Nat.le_trans (onMemory_weight ?_) (by simp [weight])
    exact Nat.le_of_eq (MemoryLink.setMode_weight _ _)

end ScriptedLink

end MemoryBridge
