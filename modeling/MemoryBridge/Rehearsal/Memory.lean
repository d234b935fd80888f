import MemoryBridge.Link
import MemoryBridge.Rehearsal.Record

/-!
# Links in memory

A link without a device: what is pushed into it is pending until it is read, and what is written to
it is kept. It can be told to fail its next read or its next mode switch, and it can be closed,
after which reads, writes and flushes fail. A read with nothing pending fails with `timedOut`, as on
a serial port whose timeout has passed.
-/

namespace MemoryBridge

structure MemoryLink where
  /-- Received and not yet read. -/
  pending : Bytes := []
  /-- Written by the host and not yet taken. -/
  sent : Record UInt8 := {}
  mode : ReadMode := .poll
  /-- Mode switches that succeeded. -/
  modeSwitches : Nat := 0
  failRead : Option FaultKind := none
  failMode : Option FaultKind := none
  closed : Bool := false
  deriving Repr

namespace MemoryLink

def closedFault : Fault := ⟨.brokenPipe, "memory link closed"⟩

def noData : Fault := ⟨.timedOut, "no data"⟩

/-- Makes bytes pending, as if the device had sent them. -/
def push (l : MemoryLink) (bs : Bytes) : MemoryLink :=
  { l with pending := l.pending ++ bs }

/-- What was written since the last call. -/
def takeSent (l : MemoryLink) : Bytes × MemoryLink :=
  (l.sent.toList, { l with sent := {} })

/-- A fault that was asked for comes first, then a closed link, then the bytes. -/
def read (n : Nat) : EStateM Fault MemoryLink Bytes := fun l =>
  match l.failRead with
  | some kind => .error ⟨kind, "injected read failure"⟩ { l with failRead := none }
  | none =>
    if l.closed then .error closedFault l
    else if n = 0 then .ok [] l
    else if l.pending.isEmpty then .error noData l
    else .ok (l.pending.take n) { l with pending := l.pending.drop n }

def write (bs : Bytes) : EStateM Fault MemoryLink Nat := fun l =>
  if l.closed then .error closedFault l
  else .ok bs.length { l with sent := l.sent.addAll bs }

def flush : EStateM Fault MemoryLink Unit := fun l =>
  if l.closed then .error closedFault l else .ok () l

/-- A closed link can still switch its mode. -/
def setMode (mode : ReadMode) : EStateM Fault MemoryLink Unit := fun l =>
  match l.failMode with
  | some kind => .error ⟨kind, "injected mode switch failure"⟩ { l with failMode := none }
  | none => .ok () { l with mode := mode, modeSwitches := l.modeSwitches + 1 }

/-- What reading can still use up: the pending bytes and a fault that was asked for. -/
def weight (l : MemoryLink) : Nat :=
  l.pending.length + if l.failRead.isSome then 1 else 0

theorem read_length_le {n : Nat} {l m : MemoryLink} {bs : Bytes} (h : read n l = .ok bs m) :
    bs.length ≤ n := by
  unfold read at h
  split at h
  · simp at h
  · split at h
    · simp at h
    · split at h
      · simp only [EStateM.Result.ok.injEq] at h
        simp [← h.1]
      · split at h
        · simp at h
        · simp only [EStateM.Result.ok.injEq] at h
          rw [← h.1]
          exact List.length_take_le _ _

/-- A read takes weight off the link, unless it is closed, has nothing pending or was not
asked for anything. -/
theorem read_weight (n : Nat) (l : MemoryLink) : (endState (read n l)).weight ≤ l.weight := by
  unfold read
  split
  · rename_i kind hk
    simp [weight, hk]
  · rename_i hk
    split
    · simp
    · split
      · simp
      · split
        · simp
        · simp [weight, hk]

theorem read_interrupted {n : Nat} {l m : MemoryLink} {f : Fault} (h : read n l = .error f m)
    (hf : f.kind = .interrupted) : m.weight < l.weight := by
  unfold read at h
  split at h
  · rename_i kind hk
    simp only [EStateM.Result.error.injEq] at h
    simp [← h.2, weight, hk]
  · split at h
    · simp only [EStateM.Result.error.injEq] at h
      rw [← h.1] at hf
      simp [closedFault] at hf
    · split at h
      · simp at h
      · split at h
        · simp only [EStateM.Result.error.injEq] at h
          rw [← h.1] at hf
          simp [noData] at hf
        · simp at h

/-- A read that gets bytes takes weight off the link. -/
theorem read_ok_weight {n : Nat} {l m : MemoryLink} {bs : Bytes} (hn : 0 < n)
    (h : read n l = .ok bs m) : m.weight < l.weight := by
  unfold read at h
  split at h
  · simp at h
  · rename_i hk
    split at h
    · simp at h
    · split at h
      · omega
      · split at h
        · simp at h
        · rename_i hp
          simp only [EStateM.Result.ok.injEq] at h
          have hpos : 0 < l.pending.length := by
            cases hl : l.pending with
            | nil => simp [hl] at hp
            | cons b bs => simp
          simp only [← h.2, weight, hk, List.length_drop]
          simp
          omega

/-- A read that fails on a link with pending bytes, but not because it was closed, takes
weight off the link. -/
theorem read_idle_weight {n : Nat} {l m : MemoryLink} {f : Fault} (hn : 0 < n)
    (h : read n l = .error f m) (hf : f.isIdle = true) (hPending : l.pending ≠ []) :
    m.weight < l.weight := by
  unfold read at h
  split at h
  · rename_i kind hk
    simp only [EStateM.Result.error.injEq] at h
    simp [← h.2, weight, hk]
  · split at h
    · simp only [EStateM.Result.error.injEq] at h
      rw [← h.1] at hf
      simp [closedFault, Fault.isIdle] at hf
    · split at h
      · omega
      · split at h
        · rename_i hp
          simp at hp
          exact absurd hp hPending
        · simp at h

theorem write_weight (bs : Bytes) (l : MemoryLink) : (endState (write bs l)).weight = l.weight := by
  unfold write
  split <;> rfl

theorem flush_weight (l : MemoryLink) : (endState (flush l)).weight = l.weight := by
  unfold flush
  split <;> rfl

theorem setMode_weight (mode : ReadMode) (l : MemoryLink) :
    (endState (setMode mode l)).weight = l.weight := by
  unfold setMode
  split <;> rfl

theorem write_le_length {bs : Bytes} {l m : MemoryLink} {n : Nat} (h : write bs l = .ok n m) :
    n ≤ bs.length := by
  unfold write at h
  split at h
  · simp at h
  · simp only [EStateM.Result.ok.injEq] at h
    simp [← h.1]

theorem write_not_interrupted {bs : Bytes} {l m : MemoryLink} {f : Fault}
    (h : write bs l = .error f m) : f.kind ≠ .interrupted := by
  unfold write at h
  split at h
  · simp only [EStateM.Result.error.injEq] at h
    simp [← h.1, closedFault]
  · simp at h

/-- A link in memory as a link. -/
def link : Link MemoryLink where
  read := read
  write := write
  flush := flush
  setMode := setMode
  readPatience := weight
  writePatience := fun _ => 0
  read_length_le := read_length_le
  read_interrupted := read_interrupted
  write_le_length := write_le_length
  write_interrupted := fun h hf => absurd hf (write_not_interrupted h)

end MemoryLink

end MemoryBridge
