import Mathlib.Data.List.Forall2
import Mathlib.Data.List.TakeWhile
import Mathlib.Data.Nat.Digits.Defs
import MemoryBridge.Text.ByteNumeral

/-!
# Bytes written by people, by their grammar

A numeral is read from left to right and given up at the first character that is no digit or makes
it too large. Its grammar knows no order of reading: `Numeral.Writes` says which digits a row of
characters has and what number they are written for, place by place, `ByteNumeral.Marked` which base
a text names, `Text.Trimmed` which part of it stands between blanks.

`read_by_grammar` says that the reader takes exactly the texts of the grammar, for the number that
they spell, and which reason it gives for each of the others.
-/

namespace MemoryBridge

/-! ## Blanks -/

namespace Text

/-- `t` is what is left of `cs` without the blanks at either end. -/
structure Trimmed (cs t : List Char) : Prop where
  around : ∃ before after, cs = before ++ t ++ after ∧ ∀ c ∈ before ++ after, isBlank c = true
  first : ∀ c ∈ t.head?, isBlank c = false
  last : ∀ c ∈ t.getLast?, isBlank c = false

theorem trimStart_head (cs : List Char) : ∀ c ∈ (trimStart cs).head?, isBlank c = false := by
  intro c hc
  have h := List.head?_dropWhile_not isBlank cs
  have hHead : (cs.dropWhile isBlank).head? = some c := hc
  rwa [hHead] at h

theorem exists_trimStart (cs : List Char) :
    ∃ before, cs = before ++ trimStart cs ∧ ∀ c ∈ before, isBlank c = true :=
  ⟨cs.takeWhile isBlank, List.takeWhile_append_dropWhile.symm,
    fun _ hc => List.mem_takeWhile_imp hc⟩

theorem trimmed_trim (cs : List Char) : Trimmed cs (trim cs) := by
  obtain ⟨before, hStart, hBefore⟩ := exists_trimStart cs
  obtain ⟨after, hEnd, hAfter⟩ := exists_trimStart (trimStart cs).reverse
  have hKept : trimStart cs = trim cs ++ after.reverse := by
    rw [trim, ← List.reverse_append, ← hEnd, List.reverse_reverse]
  refine ⟨⟨before, after.reverse, ?_, ?_⟩, ?_, ?_⟩
  · rw [List.append_assoc, ← hKept]
    exact hStart
  · intro c hc
    rcases List.mem_append.mp hc with h | h
    · exact hBefore c h
    · exact hAfter c (List.mem_reverse.mp h)
  · intro c hc
    apply trimStart_head cs c
    rw [hKept, List.head?_append, hc]
    rfl
  · intro c hc
    apply trimStart_head (trimStart cs).reverse c
    rwa [trim, List.getLast?_reverse] at hc

end Text

/-! ## Digits -/

namespace Numeral

/-- The character is the digit of this value, a small or a capital letter from ten on. -/
def IsDigit (base : Nat) (c : Char) (d : Nat) : Prop :=
  d < base ∧ (c = d.digitChar ∨ c = d.digitChar.toUpper)

/-- All characters are digits of the base, and `n` is the number that they are written for. -/
def Writes (base : Nat) (cs : List Char) (n : Nat) : Prop :=
  ∃ values, List.Forall₂ (IsDigit base) cs values ∧ n = Nat.ofDigits base values.reverse

theorem digitValue_digitChar :
    ∀ d < 16, digitValue d.digitChar = d ∧ digitValue d.digitChar.toUpper = d := by
  decide

/-- A character that is worth a digit is one of the two ways to write it. -/
theorem eq_digitChar {c : Char} {d : Nat} (h : digitValue c = d) (hd : d < 16) :
    c = d.digitChar ∨ c = d.digitChar.toUpper := by
  have hChars : ∀ d < 16, d.digitChar.toNat = (if d < 10 then 0x30 + d else 0x57 + d) ∧
      d.digitChar.toUpper.toNat = (if d < 10 then 0x30 + d else 0x37 + d) := by decide
  obtain ⟨hSmall, hCapital⟩ := hChars d hd
  simp only [← Char.toNat_inj, hSmall, hCapital]
  simp only [digitValue] at h
  grind

theorem digit?_eq_some_iff {base : Nat} (hBase : base ≤ 16) {c : Char} {d : Nat} :
    digit? base c = some d ↔ IsDigit base c d := by
  unfold digit? IsDigit
  constructor
  · intro h
    split at h
    · cases h
      exact ⟨by assumption, eq_digitChar rfl (by omega)⟩
    · cases h
  · rintro ⟨hd, hc⟩
    obtain ⟨hSmall, hCapital⟩ := digitValue_digitChar d (by omega)
    have hValue : digitValue c = d := by
      rcases hc with rfl | rfl
      · exact hSmall
      · exact hCapital
    rw [hValue, if_pos hd]

/-! ## Rows of digits -/

/-- The value of digits that follow digits of the value `acc`. -/
def running (base acc : Nat) (values : List Nat) : Nat :=
  values.foldl (fun value d => base * value + d) acc

theorem running_zero (base : Nat) (values : List Nat) :
    running base 0 values = Nat.ofDigits base values.reverse := by
  rw [Nat.ofDigits_eq_foldr, List.foldr_reverse, running]
  congr 1
  funext value d
  exact Nat.add_comm _ _

/-- More digits never make it less. -/
theorem le_running {base : Nat} {cs : List Char} {values : List Nat}
    (h : List.Forall₂ (IsDigit base) cs values) (acc : Nat) : acc ≤ running base acc values := by
  induction h generalizing acc with
  | nil => exact Nat.le_refl acc
  | @cons c d cs values hDigit hRest ih =>
    have hPos : 0 < base := Nat.zero_lt_of_lt hDigit.1
    calc acc ≤ base * acc + d := Nat.le_add_right_of_le (Nat.le_mul_of_pos_left acc hPos)
      _ ≤ running base acc (d :: values) := ih _

variable {base limit acc : Nat} (hBase : base ≤ 16)

include hBase

theorem readDigits_ok_iff (hacc : acc ≤ limit) {cs : List Char} {n : Nat} :
    readDigits base limit acc cs = .ok n ↔
      ∃ values, List.Forall₂ (IsDigit base) cs values ∧ n = running base acc values ∧
        n ≤ limit := by
  induction cs generalizing acc with
  | nil =>
    constructor
    · intro h
      cases h
      exact ⟨[], .nil, rfl, hacc⟩
    · rintro ⟨values, hDigits, rfl, -⟩
      cases hDigits
      rfl
  | cons c cs ih =>
    rw [readDigits]
    constructor
    · intro h
      split at h
      · cases h
      · rename_i d hDigit
        split at h
        · rename_i hFits
          obtain ⟨values, hDigits, hValue, hLimit⟩ := (ih hFits).mp h
          exact ⟨d :: values, .cons ((digit?_eq_some_iff hBase).mp hDigit) hDigits, hValue, hLimit⟩
        · cases h
    · rintro ⟨values, hDigits, rfl, hLimit⟩
      cases hDigits with
      | @cons _ d _ values hDigit hDigits =>
        have hFits : base * acc + d ≤ limit := Nat.le_trans (le_running hDigits _) hLimit
        rw [(digit?_eq_some_iff hBase).mpr hDigit]
        simp only [if_pos hFits]
        exact (ih hFits).mpr ⟨values, hDigits, rfl, hLimit⟩

theorem readDigits_tooLarge_iff (hacc : acc ≤ limit) {cs : List Char} :
    readDigits base limit acc cs = .error .tooLarge ↔
      ∃ ds later values, cs = ds ++ later ∧ List.Forall₂ (IsDigit base) ds values ∧
        limit < running base acc values := by
  induction cs generalizing acc with
  | nil =>
    constructor
    · intro h
      cases h
    · rintro ⟨ds, later, values, hParts, hDigits, hLarge⟩
      obtain ⟨rfl, rfl⟩ := List.append_eq_nil_iff.mp hParts.symm
      cases hDigits
      exact absurd hLarge (Nat.not_lt.mpr hacc)
  | cons c cs ih =>
    rw [readDigits]
    constructor
    · intro h
      split at h
      · cases h
      · rename_i d hDigit
        have hDigit := (digit?_eq_some_iff hBase).mp hDigit
        split at h
        · rename_i hFits
          obtain ⟨ds, later, values, rfl, hDigits, hLarge⟩ := (ih hFits).mp h
          exact ⟨c :: ds, later, d :: values, rfl, .cons hDigit hDigits, hLarge⟩
        · exact ⟨[c], cs, [d], rfl, .cons hDigit .nil, Nat.lt_of_not_le (by assumption)⟩
    · rintro ⟨ds, later, values, hParts, hDigits, hLarge⟩
      cases hDigits with
      | nil => exact absurd hLarge (Nat.not_lt.mpr hacc)
      | @cons c' d ds values hDigit hDigits =>
        obtain ⟨rfl, rfl⟩ := List.cons.inj hParts
        rw [(digit?_eq_some_iff hBase).mpr hDigit]
        by_cases hFits : base * acc + d ≤ limit
        · simp only [if_pos hFits]
          exact (ih hFits).mpr ⟨ds, later, values, rfl, hDigits, hLarge⟩
        · simp only [if_neg hFits]

omit hBase in
/-- Digits are never given up for another reason. -/
theorem readDigits_error {cs : List Char} {f : NumeralFault}
    (h : readDigits base limit acc cs = .error f) : f = .invalidDigit ∨ f = .tooLarge := by
  induction cs generalizing acc with
  | nil => cases h
  | cons c cs ih =>
    rw [readDigits] at h
    split at h
    · cases h
      exact Or.inl rfl
    · split at h
      · exact ih h
      · cases h
        exact Or.inr rfl

/-- A row of digits is read as the number that it is written for, if that is within the limit. -/
theorem readDigits_zero_ok_iff {cs : List Char} {n : Nat} :
    readDigits base limit 0 cs = .ok n ↔ Writes base cs n ∧ n ≤ limit := by
  rw [readDigits_ok_iff hBase (Nat.zero_le limit)]
  simp only [running_zero, Writes]
  constructor
  · rintro ⟨values, hDigits, hValue, hLimit⟩
    exact ⟨⟨values, hDigits, hValue⟩, hLimit⟩
  · rintro ⟨⟨values, hDigits, hValue⟩, hLimit⟩
    exact ⟨values, hDigits, hValue, hLimit⟩

/-- It is too large if the digits that it begins with are. -/
theorem readDigits_zero_tooLarge_iff {cs : List Char} :
    readDigits base limit 0 cs = .error .tooLarge ↔
      ∃ ds later n, cs = ds ++ later ∧ Writes base ds n ∧ limit < n := by
  rw [readDigits_tooLarge_iff hBase (Nat.zero_le limit)]
  simp only [running_zero, Writes]
  constructor
  · rintro ⟨ds, later, values, hParts, hDigits, hLarge⟩
    exact ⟨ds, later, _, hParts, ⟨values, hDigits, rfl⟩, hLarge⟩
  · rintro ⟨ds, later, _, hParts, ⟨values, hDigits, rfl⟩, hLarge⟩
    exact ⟨ds, later, values, hParts, hDigits, hLarge⟩

omit hBase

/-! ## Signs -/

/-- What follows a plus sign, or all if there is none. -/
def unsigned : List Char → List Char
  | '+' :: ds => ds
  | ds => ds

/-- A numeral is nothing, a sign alone, or digits with or without a sign. -/
theorem readNat_cases (base limit : Nat) (cs : List Char) :
    cs = [] ∧ readNat base limit cs = .error .empty ∨
      cs ≠ [] ∧ unsigned cs = [] ∧ readNat base limit cs = .error .invalidDigit ∨
        cs ≠ [] ∧ unsigned cs ≠ [] ∧
        readNat base limit cs = readDigits base limit 0 (unsigned cs) := by
  unfold readNat unsigned
  split
  · exact Or.inl ⟨rfl, rfl⟩
  · exact Or.inr (Or.inl ⟨by simp, rfl, rfl⟩)
  · rename_i ds hDigits
    exact Or.inr (Or.inr ⟨by simp, hDigits, rfl⟩)
  · rename_i hSome hSign hPlus
    split
    · exact absurd rfl (hPlus _)
    · exact Or.inr (Or.inr ⟨hSome, hSome, rfl⟩)

theorem readNat_empty_iff {cs : List Char} : readNat base limit cs = .error .empty ↔ cs = [] := by
  rcases readNat_cases base limit cs with ⟨hNone, h⟩ | ⟨hSome, -, h⟩ | ⟨hSome, -, h⟩ <;> rw [h]
  · simp [hNone]
  · simp [hSome]
  · simp only [hSome, iff_false]
    intro hError
    rcases readDigits_error hError with hError | hError <;> cases hError

theorem readNat_error {cs : List Char} {f : NumeralFault} (h : readNat base limit cs = .error f) :
    f = .empty ∨ f = .invalidDigit ∨ f = .tooLarge := by
  rcases readNat_cases base limit cs with ⟨-, hRead⟩ | ⟨-, -, hRead⟩ | ⟨-, -, hRead⟩ <;>
    rw [hRead] at h
  · cases h
    exact Or.inl rfl
  · cases h
    exact Or.inr (Or.inl rfl)
  · exact Or.inr (readDigits_error h)

/-- A character that is no digit is the reason if there is no other. -/
theorem readNat_invalid_iff {cs : List Char} :
    readNat base limit cs = .error .invalidDigit ↔
      (¬ ∃ n, readNat base limit cs = .ok n) ∧ readNat base limit cs ≠ .error .empty ∧
        readNat base limit cs ≠ .error .tooLarge := by
  constructor
  · intro h
    rw [h]
    simp
  · rintro ⟨hRefused, hSome, hSmall⟩
    cases hRead : readNat base limit cs with
    | ok n => exact absurd ⟨n, hRead⟩ hRefused
    | error f =>
      rcases readNat_error hRead with rfl | rfl | rfl
      · exact absurd hRead hSome
      · rfl
      · exact absurd hRead hSmall

include hBase

theorem readNat_ok_iff {cs : List Char} {n : Nat} :
    readNat base limit cs = .ok n ↔ unsigned cs ≠ [] ∧ Writes base (unsigned cs) n ∧ n ≤ limit := by
  rcases readNat_cases base limit cs with ⟨rfl, h⟩ | ⟨-, hNone, h⟩ | ⟨-, hSome, h⟩ <;> rw [h]
  · simp [unsigned]
  · simp [hNone]
  · rw [readDigits_zero_ok_iff hBase]
    exact ⟨fun hWrites => ⟨hSome, hWrites⟩, And.right⟩

theorem readNat_tooLarge_iff {cs : List Char} :
    readNat base limit cs = .error .tooLarge ↔
      ∃ ds later n, unsigned cs = ds ++ later ∧ Writes base ds n ∧ limit < n := by
  rw [← readDigits_zero_tooLarge_iff hBase]
  rcases readNat_cases base limit cs with ⟨rfl, h⟩ | ⟨-, hNone, h⟩ | ⟨-, -, h⟩ <;> rw [h]
  · simp [unsigned, readDigits]
  · simp [hNone, readDigits]

end Numeral

/-! ## Bytes -/

/-- Reasons differ in their wording. -/
theorem NumeralFault.message_inj {cause cause' : NumeralFault} :
    cause.message = cause'.message ↔ cause = cause' := by
  cases cause <;> cases cause' <;> decide

namespace ByteNumeral

open Numeral (Writes unsigned)

/-- The base that a text names by a mark in front, and what follows the mark. -/
inductive Marked : List Char → Nat → List Char → Prop
  | small (rest : List Char) : Marked ('0' :: 'x' :: rest) 16 rest
  | capital (rest : List Char) : Marked ('0' :: 'X' :: rest) 16 rest
  | plain {cs : List Char} (hSmall : ¬ ['0', 'x'] <+: cs) (hCapital : ¬ ['0', 'X'] <+: cs) :
      Marked cs 10 cs

/-- The text spells the number: a mark of the base if it is hexadecimal, a plus sign or none, and
digits. -/
def Spells (t : List Char) (n : Nat) : Prop :=
  ∃ base rest, Marked t base rest ∧ unsigned rest ≠ [] ∧ Writes base (unsigned rest) n

/-- The digits up to some place, before any other character, are worth more than a byte can hold. -/
def Exceeds (t : List Char) : Prop :=
  ∃ base rest ds later n, Marked t base rest ∧ unsigned rest = ds ++ later ∧
    Writes base ds n ∧ 255 < n

/-- The text is refused, `t` is quoted, and this is the reason given. -/
def Refused (text : String) (t : List Char) (reason : String) : Prop :=
  ∃ fault, read text = .error fault ∧
    fault.message = "invalid byte value '" ++ String.ofList t ++ "': " ++ reason

theorem marked_iff {t : List Char} {base : Nat} {rest : List Char} :
    Marked t base rest ↔ body t = (base, rest) := by
  constructor
  · intro h
    cases h with
    | small => rfl
    | capital => rfl
    | plain hSmall hCapital =>
      unfold body
      split
      · exact absurd (List.prefix_append ['0', 'x'] _) hSmall
      · exact absurd (List.prefix_append ['0', 'X'] _) hCapital
      · rfl
  · intro h
    unfold body at h
    split at h <;> cases h
    · exact .small rest
    · exact .capital rest
    · rename_i hSmall hCapital
      refine .plain ?_ ?_
      · rintro ⟨later, rfl⟩
        exact hSmall later rfl
      · rintro ⟨later, rfl⟩
        exact hCapital later rfl

theorem marked_nil_iff {t : List Char} : (∃ base, Marked t base []) ↔ (body t).2 = [] := by
  simp only [marked_iff]
  constructor
  · rintro ⟨base, hBody⟩
    rw [hBody]
  · intro h
    exact ⟨(body t).1, by rw [← h]⟩

theorem body_base (t : List Char) : (body t).1 ≤ 16 := by
  unfold body
  split <;> simp

theorem spells_iff {t : List Char} {n : Nat} :
    Spells t n ↔ unsigned (body t).2 ≠ [] ∧ Writes (body t).1 (unsigned (body t).2) n := by
  simp only [Spells, marked_iff]
  constructor
  · rintro ⟨base, rest, hBody, h⟩
    rwa [hBody]
  · intro h
    exact ⟨_, _, rfl, h⟩

theorem exceeds_iff {t : List Char} :
    Exceeds t ↔ ∃ ds later n, unsigned (body t).2 = ds ++ later ∧ Writes (body t).1 ds n ∧
      255 < n := by
  simp only [Exceeds, marked_iff]
  constructor
  · rintro ⟨base, rest, ds, later, n, hBody, h⟩
    rw [hBody]
    exact ⟨ds, later, n, h⟩
  · rintro ⟨ds, later, n, h⟩
    exact ⟨_, _, ds, later, n, rfl, h⟩

theorem readTrimmed_ok_iff {t : List Char} {b : UInt8} :
    readTrimmed t = .ok b ↔ Spells t b.toNat := by
  have hRead : ∀ n, Numeral.readNat (body t).1 255 (body t).2 = .ok n ↔ _ :=
    fun _ => Numeral.readNat_ok_iff (body_base t)
  rw [spells_iff, readTrimmed]
  constructor
  · intro h
    split at h
    · rename_i n hn
      cases h
      obtain ⟨hSome, hWrites, hLimit⟩ := (hRead n).mp hn
      rw [UInt8.toNat_ofNat_of_lt' (by simp [UInt8.size]; omega)]
      exact ⟨hSome, hWrites⟩
    · cases h
  · rintro ⟨hSome, hWrites⟩
    have hByte : b.toNat ≤ 255 := Nat.le_of_lt_succ b.toNat_lt
    rw [(hRead b.toNat).mpr ⟨hSome, hWrites, hByte⟩]
    simp

theorem exists_byte_iff {t : List Char} :
    (∃ b : UInt8, Spells t b.toNat) ↔ ∃ n, Numeral.readNat (body t).1 255 (body t).2 = .ok n := by
  simp only [← readTrimmed_ok_iff, readTrimmed]
  cases Numeral.readNat (body t).1 255 (body t).2 <;> simp

/-- A refusal quotes the text and gives the reason that its numeral is refused for. -/
theorem readTrimmed_error_iff {t : List Char} {fault : ByteNumeralFault} :
    readTrimmed t = .error fault ↔
      fault.text = t ∧ Numeral.readNat (body t).1 255 (body t).2 = .error fault.cause := by
  rw [readTrimmed]
  constructor
  · intro h
    split at h <;> cases h
    exact ⟨rfl, by assumption⟩
  · rintro ⟨rfl, h⟩
    rw [h]

theorem refused_iff {text : String} {cause : NumeralFault} :
    Refused text (Text.trim text.toList) cause.message ↔
      Numeral.readNat (body (Text.trim text.toList)).1 255 (body (Text.trim text.toList)).2 =
        .error cause := by
  simp only [Refused, read, readTrimmed_error_iff]
  constructor
  · rintro ⟨⟨quoted, cause'⟩, ⟨rfl, hRead⟩, hMessage⟩
    have hCause := NumeralFault.message_inj.mp ((String.append_right_inj _).mp hMessage)
    rwa [hCause] at hRead
  · intro hRead
    exact ⟨⟨_, cause⟩, ⟨rfl, hRead⟩, rfl⟩

/-- **A byte is read by its grammar.** Let `t` be a text without the blanks at its ends. The byte
that it stands for is the number that it spells, if that is a byte: behind `0x` or `0X` a
hexadecimal numeral, else a decimal one, of at least one digit and with a plus sign in front of the
digits or none. Any other text is refused and quoted in the refusal. The reason is

* that it is empty, exactly if nothing follows the mark of the base,
* that it is too large, exactly if the digits up to some place, before any other character, are
  worth more than 255,
* and otherwise that a character is no digit.
-/
theorem read_by_grammar (text : String) :
    ∃ t, Text.Trimmed text.toList t ∧ (∀ b : UInt8, read text = .ok b ↔ Spells t b.toNat) ∧
      (Refused text t "cannot parse integer from empty string" ↔ ∃ base, Marked t base []) ∧
      (Refused text t "number too large to fit in target type" ↔ Exceeds t) ∧
      (Refused text t "invalid digit found in string" ↔
        (¬ ∃ b : UInt8, Spells t b.toNat) ∧ (¬ ∃ base, Marked t base []) ∧ ¬ Exceeds t) := by
  have hEmpty : Refused text (Text.trim text.toList) NumeralFault.empty.message ↔ _ :=
    refused_iff.trans (Numeral.readNat_empty_iff.trans marked_nil_iff.symm)
  have hTooLarge : Refused text (Text.trim text.toList) NumeralFault.tooLarge.message ↔ _ :=
    refused_iff.trans ((Numeral.readNat_tooLarge_iff (body_base _)).trans exceeds_iff.symm)
  have hInvalid : Refused text (Text.trim text.toList) NumeralFault.invalidDigit.message ↔ _ :=
    refused_iff.trans Numeral.readNat_invalid_iff
  refine ⟨Text.trim text.toList, Text.trimmed_trim text.toList, fun b => readTrimmed_ok_iff, hEmpty,
    hTooLarge, ?_⟩
  rw [← hEmpty, ← hTooLarge, exists_byte_iff, refused_iff, refused_iff]
  exact hInvalid

/-- The first thing that is wrong with a text decides. -/
example : read "256x" = .error ⟨"256x".toList, .tooLarge⟩ ∧
    read "25x6" = .error ⟨"25x6".toList, .invalidDigit⟩ :=
  ⟨rfl, rfl⟩

end ByteNumeral

end MemoryBridge
