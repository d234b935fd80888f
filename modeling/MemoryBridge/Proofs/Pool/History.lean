import MemoryBridge.Proofs.Pool

/-!
# Pools over a history of stores

A pool of zeros that has seen any number of attempts to store, accepted ones and refused ones, is
given by that history alone: the byte at an offset is that of the last accepted attempt that covers
it, and zero if there is none. What is accepted depends on the length of the pool, which no attempt
changes, so one attempt never decides about another.

One attempt settles each byte on its own (`attempt_byte`). A history of them settles it by the
last that says anything about it (`attempts_byte`), and reading is a look at the bytes of a
range (`read_eq`).
-/

namespace MemoryBridge

/-- An attempt to store bytes in a pool. -/
structure Store where
  index : Int32
  data : Bytes
  deriving DecidableEq, Repr

namespace Store

/-- A pool of `n` bytes accepts it: the length of the data is a size on the wire, and the data stays
inside of the pool. -/
def Fits (n : Nat) (store : Store) : Prop :=
  store.data.length ≤ Pool.maxWrite ∧ 0 ≤ store.index.toInt ∧
    store.index.toInt + store.data.length ≤ n

instance (n : Nat) (store : Store) : Decidable (store.Fits n) :=
  inferInstanceAs (Decidable (_ ∧ _ ∧ _))

/-- What it says about the byte at the offset `j` of a pool of `n` bytes. One that is refused, or
does not cover that offset, says nothing. -/
def byteAt? (n j : Nat) (store : Store) : Option UInt8 :=
  if store.Fits n ∧ store.index.toInt ≤ j then store.data[j - store.index.toInt.toNat]? else none

theorem byteAt?_of_not_fits {n : Nat} {store : Store} (h : ¬ store.Fits n) (j : Nat) :
    store.byteAt? n j = none :=
  if_neg fun hBoth => h hBoth.1

/-- The byte at the offset `j` of a pool of `n` zeros after such attempts: that of the last one that
says anything about it. -/
def lastByte (n : Nat) (stores : List Store) (j : Nat) : UInt8 :=
  (stores.filterMap (byteAt? n j)).getLast?.getD 0

/-- Later attempts hide earlier ones where both are accepted, and a refused one hides nothing. -/
example :
    let stores : List Store := [⟨0, [1, 2, 3]⟩, ⟨1, [7]⟩, ⟨2, [8, 9]⟩, ⟨-1, [5]⟩]
    (List.range 3).map (lastByte 3 stores) = [1, 7, 3] ∧
      (List.range 4).map (lastByte 4 stores) = [1, 7, 8, 9] := by
  decide

end Store

namespace Pool

/-- The pool after an attempt. A refused one leaves it as it is. -/
def attempt (p : Pool) (store : Store) : Pool :=
  match p.write store.index store.data with
  | .ok q => q
  | .error _ => p

/-- The pool after one attempt after the other. -/
def attempts (p : Pool) (stores : List Store) : Pool :=
  stores.foldl attempt p

theorem attempts_cons (p : Pool) (store : Store) (stores : List Store) :
    p.attempts (store :: stores) = (p.attempt store).attempts stores := rfl

theorem attempts_concat (p : Pool) (stores : List Store) (store : Store) :
    p.attempts (stores ++ [store]) = (p.attempts stores).attempt store :=
  List.foldl_append

theorem length_zeros (n : Nat) : (zeros n).length = n :=
  List.length_replicate

/-! ## One attempt -/

section

variable {p : Pool} {store : Store}

theorem covers_of_fits (h : store.Fits p.length) : p.Covers store.index.toInt store.data.length :=
  ⟨h.2.1, Int.natCast_nonneg _, h.2.2⟩

theorem write_of_fits (h : store.Fits p.length) :
    p.write store.index store.data = .ok (p.overlay store.index.toInt.toNat store.data) := by
  unfold write
  rw [if_pos h.1, range_of_covers (covers_of_fits h)]
  rfl

/-- A refusal names the index, the size and the length of the pool. -/
theorem write_of_not_fits (h : ¬ store.Fits p.length) :
    p.write store.index store.data = .error ⟨store.index.toInt, store.data.length, p.length⟩ := by
  unfold write
  by_cases hSize : store.data.length ≤ maxWrite
  · have hOutside : ¬ p.Covers store.index.toInt store.data.length :=
      fun hCovers => h ⟨hSize, hCovers.1, hCovers.2.2⟩
    rw [if_pos hSize, range_of_not_covers hOutside]
    rfl
  · exact if_neg hSize

theorem attempt_of_fits (h : store.Fits p.length) :
    p.attempt store = p.overlay store.index.toInt.toNat store.data := by
  unfold attempt
  rw [write_of_fits h]

theorem attempt_of_not_fits (h : ¬ store.Fits p.length) : p.attempt store = p := by
  unfold attempt
  rw [write_of_not_fits h]

theorem attempt_stores (h : store.Fits p.length) :
    p.Stores (p.attempt store) store.index.toInt.toNat store.data := by
  rw [attempt_of_fits h]
  obtain ⟨-, hIndex, hEnd⟩ := h
  apply overlay_stores
  omega

end

theorem attempt_length (p : Pool) (store : Store) : (p.attempt store).length = p.length := by
  by_cases h : store.Fits p.length
  · exact (attempt_stores h).length
  · rw [attempt_of_not_fits h]

/-- An attempt settles a byte, or leaves it as it is. -/
theorem attempt_byte (p : Pool) (store : Store) (j : Nat) :
    (p.attempt store).bytes[j]? = (store.byteAt? p.length j).or p.bytes[j]? := by
  by_cases h : store.Fits p.length
  case neg => rw [attempt_of_not_fits h, Store.byteAt?_of_not_fits h, Option.none_or]
  have hStores := attempt_stores h
  have hIndex : (store.index.toInt.toNat : Int) = store.index.toInt := Int.toNat_of_nonneg h.2.1
  unfold Store.byteAt?
  by_cases hStart : store.index.toInt ≤ j
  · rw [if_pos ⟨h, hStart⟩]
    obtain ⟨i, rfl⟩ : ∃ i, j = store.index.toInt.toNat + i :=
      ⟨j - store.index.toInt.toNat, by omega⟩
    rw [Nat.add_sub_cancel_left]
    by_cases hInside : i < store.data.length
    · rw [hStores.inside i hInside, List.getElem?_eq_getElem hInside, Option.some_or]
    · have hAfter : store.index.toInt.toNat + store.data.length ≤ store.index.toInt.toNat + i := by
        omega
      rw [hStores.outside _ (Or.inr hAfter), List.getElem?_eq_none (Nat.le_of_not_lt hInside),
        Option.none_or]
  · rw [if_neg fun hBoth => hStart hBoth.2, hStores.outside j (Or.inl (by omega)), Option.none_or]

/-! ## A history of attempts -/

theorem attempts_length (p : Pool) (stores : List Store) :
    (p.attempts stores).length = p.length := by
  induction stores generalizing p with
  | nil => rfl
  | cons store stores ih => rw [attempts_cons, ih, attempt_length]

/-- The last attempt that says anything about a byte settles it. -/
theorem attempts_byte (p : Pool) (stores : List Store) (j : Nat) :
    (p.attempts stores).bytes[j]? =
      (stores.filterMap (Store.byteAt? p.length j)).getLast?.or p.bytes[j]? := by
  induction stores generalizing p with
  | nil => rfl
  | cons store stores ih =>
    rw [attempts_cons, ih, attempt_length, attempt_byte, ← Option.or_assoc]
    congr 1
    cases h : store.byteAt? p.length j with
    | none => rw [List.filterMap_cons_none h, Option.or_none]
    | some b => rw [List.filterMap_cons_some h, List.getLast?_cons, Option.or_some]

theorem zeros_byte {n j : Nat} (h : j < n) : (zeros n).bytes[j]? = some 0 :=
  List.getElem?_replicate_of_lt h

/-- In a pool that starts with zeros every byte is given by the history. -/
theorem history_byte {n j : Nat} (h : j < n) (stores : List Store) :
    ((zeros n).attempts stores).bytes[j]? = some (Store.lastByte n stores j) := by
  rw [attempts_byte, length_zeros, zeros_byte h, Option.or_some]
  rfl

/-! ## Reading -/

theorem slice_byte (p : Pool) (start size i : Nat) :
    (p.slice ⟨start, size⟩)[i]? = if i < size then p.bytes[start + i]? else none := by
  unfold slice
  rw [List.getElem?_take, List.getElem?_drop]

/-- The bytes of a range, one by one. -/
theorem slice_eq_map {p : Pool} {byte : Nat → UInt8}
    (hByte : ∀ j < p.length, p.bytes[j]? = some (byte j))
    {start size : Nat} (h : start + size ≤ p.length) :
    p.slice ⟨start, size⟩ = (List.range size).map fun i => byte (start + i) := by
  apply List.ext_getElem?
  intro i
  rw [slice_byte, List.getElem?_map]
  by_cases hi : i < size
  · rw [if_pos hi, hByte _ (by omega), List.getElem?_range hi]
    rfl
  · rw [if_neg hi, List.getElem?_eq_none (by simpa using hi)]
    rfl

theorem read_eq (p : Pool) (index size : Int32) :
    p.read index size = if p.Covers index.toInt size.toInt then
      .ok (p.slice ⟨index.toInt.toNat, size.toInt.toNat⟩)
      else .error ⟨index.toInt, size.toInt, p.length⟩ := by
  split
  · exact read_of_covers ‹_›
  · unfold read
    rw [range_of_not_covers ‹_›]
    rfl

/-- A size on the wire names its number of bytes. -/
theorem toInt_size {n : Nat} (h : n ≤ maxWrite) : (Int32.ofNat n).toInt = n :=
  Int32.toInt_ofNat_of_lt (Nat.lt_succ_of_le h)

/-- What was just stored can be read again. -/
theorem read_attempt {p : Pool} {store : Store} (h : store.Fits p.length) :
    (p.attempt store).read store.index (Int32.ofNat store.data.length) = .ok store.data := by
  have hStores := attempt_stores h
  have hCovers :
      (p.attempt store).Covers store.index.toInt (Int32.ofNat store.data.length).toInt := by
    rw [toInt_size h.1, Covers, hStores.length]
    exact covers_of_fits h
  rw [read_of_covers hCovers, toInt_size h.1, Int.toNat_natCast]
  congr 1
  apply List.ext_getElem?
  intro i
  rw [slice_byte]
  by_cases hi : i < store.data.length
  · rw [if_pos hi, hStores.inside i hi]
  · rw [if_neg hi, List.getElem?_eq_none (Nat.le_of_not_lt hi)]

/-- **A pool is its history.** After any attempts to store in a pool of `n` zeros, accepted and
refused ones: it has `n` bytes, and each is that of the last accepted attempt that covers it,
or zero. One more attempt is accepted exactly if it fits, and a refused one is named and
changes nothing. A read gets exactly the bytes of its range, if the pool has that range: what
was just stored, zeros from a new pool, nothing from the very end. Sizes and indices are any
words of the wire. -/
theorem accesses_by_history (n : Nat) (stores : List Store) :
    let p := (zeros n).attempts stores
    p.length = n ∧
      (∀ j < n, p.bytes[j]? = some (Store.lastByte n stores j)) ∧
      (∀ store : Store, p.write store.index store.data =
        if store.Fits n then .ok ((zeros n).attempts (stores ++ [store]))
        else .error ⟨store.index.toInt, store.data.length, n⟩) ∧
      (∀ store : Store, ¬ store.Fits n → (zeros n).attempts (stores ++ [store]) = p) ∧
      (∀ index size : Int32, p.read index size =
        if 0 ≤ index.toInt ∧ 0 ≤ size.toInt ∧ index.toInt + size.toInt ≤ n then
          .ok ((List.range size.toInt.toNat).map fun i =>
            Store.lastByte n stores (index.toInt.toNat + i))
        else .error ⟨index.toInt, size.toInt, n⟩) ∧
      (∀ store : Store, store.Fits n →
        ((zeros n).attempts (stores ++ [store])).read store.index (Int32.ofNat store.data.length) =
          .ok store.data) ∧
      (n ≤ maxWrite →
        (zeros n).read 0 (Int32.ofNat n) = .ok (List.replicate n 0) ∧
        p.read (Int32.ofNat n) 0 = .ok []) := by
  intro p
  have hLength : p.length = n := (attempts_length _ _).trans (length_zeros n)
  have hByte : ∀ j < p.length, p.bytes[j]? = some (Store.lastByte n stores j) := by
    intro j hj
    rw [hLength] at hj
    exact history_byte hj stores
  refine ⟨hLength, fun j hj => history_byte hj stores, fun store => ?_, fun store hNot => ?_,
    fun index size => ?_,
    fun store hFits => ?_, fun hSize => ⟨?_, ?_⟩⟩
  · rw [attempts_concat]
    by_cases hFits : store.Fits n
    · rw [← hLength] at hFits
      rw [if_pos (hLength ▸ hFits), write_of_fits hFits, attempt_of_fits hFits]
    · rw [← hLength] at hFits
      rw [if_neg (hLength ▸ hFits), write_of_not_fits hFits, hLength]
  · rw [attempts_concat]
    rw [← hLength] at hNot
    exact attempt_of_not_fits hNot
  · have hRange : p.Covers index.toInt size.toInt ↔
        0 ≤ index.toInt ∧ 0 ≤ size.toInt ∧ index.toInt + size.toInt ≤ n := by
      rw [Covers, hLength]
    rw [read_eq, hLength]
    by_cases hCovers : p.Covers index.toInt size.toInt
    · have hInside : index.toInt.toNat + size.toInt.toNat ≤ p.length := by
        obtain ⟨hIndex, hSize, hEnd⟩ := hCovers
        omega
      rw [if_pos hCovers, if_pos (hRange.mp hCovers), slice_eq_map hByte hInside]
    · rw [if_neg hCovers, if_neg (mt hRange.mpr hCovers)]
  · rw [attempts_concat]
    rw [← hLength] at hFits
    exact read_attempt hFits
  · have hCovers : (zeros n).Covers (0 : Int32).toInt (Int32.ofNat n).toInt := by
      rw [toInt_size hSize, Covers, length_zeros]
      exact ⟨by decide, Int.natCast_nonneg n, by simp⟩
    rw [read_of_covers hCovers, toInt_size hSize]
    simp [slice, zeros]
  · have hCovers : p.Covers (Int32.ofNat n).toInt (0 : Int32).toInt := by
      rw [toInt_size hSize, Covers, hLength]
      exact ⟨Int.natCast_nonneg n, by decide, by simp⟩
    rw [read_of_covers hCovers]
    simp [slice]

end Pool

end MemoryBridge
