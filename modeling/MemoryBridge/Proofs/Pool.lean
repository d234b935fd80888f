import MemoryBridge.Pool

/-!
# Accesses to a pool

An access is possible exactly when the pool covers it; then it reads or overwrites the bytes that
index and size name.
-/

namespace MemoryBridge.Pool

/-- The pool has `size` bytes from `index` on. -/
def Covers (p : Pool) (index size : Int) : Prop :=
  0 ≤ index ∧ 0 ≤ size ∧ index + size ≤ p.length

instance (p : Pool) (index size : Int) : Decidable (p.Covers index size) :=
  inferInstanceAs (Decidable (_ ∧ _ ∧ _))

variable {p : Pool} {index size : Int}

theorem range_of_covers (h : p.Covers index size) :
    p.range index size = .ok ⟨index.toNat, size.toNat⟩ :=
  if_pos h

theorem range_of_not_covers (h : ¬ p.Covers index size) :
    p.range index size = .error ⟨index, size, p.length⟩ :=
  if_neg h

/-- A range is as long as the size that was asked for. -/
theorem range_length {r : Range} (h : p.range index size = .ok r) : r.length = size.toNat := by
  by_cases hCovers : p.Covers index size
  · rw [range_of_covers hCovers] at h
    cases h
    rfl
  · rw [range_of_not_covers hCovers] at h
    cases h

theorem read_of_covers {index size : Int32} (h : p.Covers index.toInt size.toInt) :
    p.read index size = .ok (p.slice ⟨index.toInt.toNat, size.toInt.toNat⟩) := by
  unfold read
  rw [range_of_covers h]
  rfl

/-- As many bytes as a size on the wire names can be stored wherever the pool covers that size. -/
theorem write_of_covers {index size : Int32} {data : Bytes} (hData : data.length = size.toInt.toNat)
    (h : p.Covers index.toInt size.toInt) :
    p.write index data = .ok (p.overlay index.toInt.toNat data) := by
  have hBound : size.toInt ≤ 2147483647 := size.toInt_le
  have hSize : (data.length : Int) = size.toInt := by
    rw [hData]
    exact Int.toNat_of_nonneg h.2.1
  have hFits : data.length ≤ maxWrite := by
    unfold maxWrite
    omega
  unfold write
  rw [if_pos hFits, hSize, range_of_covers h]
  rfl

/-- As many bytes as a range is long can be stored where it begins. The check that a write
makes cannot fail then. -/
theorem write_of_range {index size : Int32} {r : Range} {data : Bytes}
    (hRange : p.range index.toInt size.toInt = .ok r) (hData : data.length = r.length) :
    p.write index data = .ok (p.overlay index.toInt.toNat data) := by
  by_cases hCovers : p.Covers index.toInt size.toInt
  · exact write_of_covers (hData.trans (range_length hRange)) hCovers
  · rw [range_of_not_covers hCovers] at hRange
    cases hRange

/-- `q` has `data` from `start` on, and nothing else of `p` is changed. -/
structure Stores (p q : Pool) (start : Nat) (data : Bytes) : Prop where
  length : q.length = p.length
  inside : ∀ i < data.length, q.bytes[start + i]? = data[i]?
  outside : ∀ i, i < start ∨ start + data.length ≤ i → q.bytes[i]? = p.bytes[i]?

theorem overlay_stores {start : Nat} {data : Bytes} (h : start + data.length ≤ p.length) :
    p.Stores (p.overlay start data) start data := by
  have hStart : (p.bytes.take start).length = start :=
    List.length_take_of_le (Nat.le_of_add_right_le h)
  unfold overlay
  refine ⟨?_, fun i hi => ?_, fun i hi => ?_⟩
  · unfold length at h ⊢
    simp only [List.length_append, List.length_drop, hStart]
    omega
  · rw [List.append_assoc, List.getElem?_append_right (by omega), hStart, Nat.add_sub_cancel_left,
      List.getElem?_append_left hi]
  · rcases hi with hi | hi
    · rw [List.append_assoc, List.getElem?_append_left (by omega), List.getElem?_take_of_lt hi]
    · have hFront : (p.bytes.take start ++ data).length = start + data.length := by
        rw [List.length_append, hStart]
      rw [List.getElem?_append_right (by omega), hFront, List.getElem?_drop, Nat.add_sub_cancel' hi]

end MemoryBridge.Pool
