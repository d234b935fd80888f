import Mathlib.Data.List.Induction
import MemoryBridge.Framing

/-!
# Streams of frames

What a whole stream comes to, and where it stands at its end: one event for each byte, with nothing
lost or invented (`bytes_of_events`); what is passed through is the stream without its frames
(`passed_eq`); and whether a frame is open at the end hangs on the parity of the init values that
the stream ends with (`ends_open_iff`).

Two hosts that disagree about where a stream stands agree again after the first byte that is not an
init value, and not before (`same_end_iff`). From then on they see the same events, since the events
of the rest hang on the place alone (`classifyAll_append`).
-/

namespace MemoryBridge.Framing

/-! ## Whole streams -/

/-- What an event passes through. -/
def Event.passed : Event → Bytes
  | .passthrough b => [b]
  | .frameStart | .command _ => []

/-- The codes of the commands that an event starts. -/
def Event.started : Event → Bytes
  | .command code => [code]
  | .passthrough _ | .frameStart => []

/-- What is passed through of a stream that starts between two frames. -/
def passed (initValue : UInt8) (bs : Bytes) : Bytes :=
  (classifyAll initValue .idle bs).1.flatMap Event.passed

/-- How many commands such a stream starts. -/
def turns (initValue : UInt8) (bs : Bytes) : Nat :=
  ((classifyAll initValue .idle bs).1.flatMap Event.started).length

/-- Where such a stream stands at its end. -/
def after (initValue : UInt8) (bs : Bytes) : Framing :=
  (classifyAll initValue .idle bs).2

theorem classifyAll_snoc (initValue : UInt8) (framing : Framing) (bs : Bytes) (b : UInt8) :
    classifyAll initValue framing (bs ++ [b]) =
      ((classifyAll initValue framing bs).1 ++
        [((classifyAll initValue framing bs).2.classify initValue b).1],
        ((classifyAll initValue framing bs).2.classify initValue b).2) := by
  induction bs generalizing framing with
  | nil => rfl
  | cons c bs ih => simp only [List.cons_append, classifyAll, ih]

theorem passed_snoc (initValue : UInt8) (bs : Bytes) (b : UInt8) :
    passed initValue (bs ++ [b]) =
      passed initValue bs ++ ((after initValue bs).classify initValue b).1.passed := by
  unfold passed after
  rw [classifyAll_snoc, List.flatMap_append, List.flatMap_singleton]

theorem turns_snoc (initValue : UInt8) (bs : Bytes) (b : UInt8) :
    turns initValue (bs ++ [b]) =
      turns initValue bs + ((after initValue bs).classify initValue b).1.started.length := by
  unfold turns after
  rw [classifyAll_snoc, List.flatMap_append, List.length_append, List.flatMap_singleton]

theorem after_snoc (initValue : UInt8) (bs : Bytes) (b : UInt8) :
    after initValue (bs ++ [b]) = ((after initValue bs).classify initValue b).2 := by
  unfold after
  rw [classifyAll_snoc]

variable (initValue : UInt8)

/-- The rest of a stream is sorted from where the front of it has led. -/
theorem classifyAll_append (framing : Framing) (bs cs : Bytes) :
    classifyAll initValue framing (bs ++ cs) =
      ((classifyAll initValue framing bs).1 ++
        (classifyAll initValue (classifyAll initValue framing bs).2 cs).1,
        (classifyAll initValue (classifyAll initValue framing bs).2 cs).2) := by
  induction bs generalizing framing with
  | nil => rfl
  | cons b bs ih => simp only [List.cons_append, classifyAll, ih]

/-! ## One event for each byte -/

/-- The byte that an event stands for. -/
def Event.byte : Event → UInt8
  | .passthrough b | .command b => b
  | .frameStart => initValue

theorem classify_byte (framing : Framing) (b : UInt8) :
    (framing.classify initValue b).1.byte initValue = b := by
  cases framing with
  | awaitingCommand => rfl
  | idle =>
    unfold classify
    by_cases hb : b = initValue
    · rw [if_pos hb]
      exact hb.symm
    · rw [if_neg hb]
      rfl

theorem bytes_of_events (framing : Framing) (bs : Bytes) :
    (classifyAll initValue framing bs).1.map (Event.byte initValue) = bs := by
  induction bs generalizing framing with
  | nil => rfl
  | cons b bs ih =>
    unfold classifyAll
    rw [List.map_cons, classify_byte, ih]

theorem length_events (framing : Framing) (bs : Bytes) :
    (classifyAll initValue framing bs).1.length = bs.length := by
  have hLength := congrArg List.length (bytes_of_events initValue framing bs)
  rwa [List.length_map] at hLength

/-! ## What is passed through -/

/-- A stream without its frames: from the left, an init value goes and takes the byte after it
along. -/
def withoutFrames : Bytes → Bytes
  | [] => []
  | [b] => if b = initValue then [] else [b]
  | b :: code :: bs => if b = initValue then withoutFrames bs else b :: withoutFrames (code :: bs)

/-- The second of two init values is a code, and the third one opens a frame again. -/
example : withoutFrames 0xFF [0x41, 0xFF, 0xFF, 0xFF, 0x03, 0x42, 0xFF] = [0x41, 0x42] := by
  decide

theorem withoutFrames_of_not_mem {bs : Bytes} (h : initValue ∉ bs) :
    withoutFrames initValue bs = bs := by
  fun_induction withoutFrames initValue bs with
  | case1 => rfl
  | case2 => simp at h
  | case3 b hb => rfl
  | case4 code bs ih => simp at h
  | case5 b code bs hb ih =>
    rw [ih]
    intro hMem
    exact h (List.mem_cons_of_mem b hMem)

theorem passed_eq (bs : Bytes) : passed initValue bs = withoutFrames initValue bs := by
  fun_induction withoutFrames initValue bs with
  | case1 => rfl
  | case2 => simp [passed, classifyAll, classify, Event.passed]
  | case3 b hb => simp [passed, classifyAll, classify, Event.passed, hb]
  | case4 code bs ih =>
    rw [← ih]
    simp [passed, classifyAll, classify, Event.passed]
  | case5 b code bs hb ih =>
    rw [← ih]
    unfold passed
    rw [classifyAll, classify, if_neg hb]
    rfl

/-! ## Where a stream ends -/

/-- How many init values a stream ends with. If there is nothing else in it, a frame that was open
at its start counts for one more. -/
def closingRun (start : Framing) (bs : Bytes) : Nat :=
  let run := (bs.reverse.takeWhile (· == initValue)).length
  if start = .awaitingCommand ∧ run = bs.length then run + 1 else run

/-- Every further init value makes the run longer, and every other byte ends it. -/
theorem closingRun_snoc (start : Framing) (bs : Bytes) (b : UInt8) :
    closingRun initValue start (bs ++ [b]) =
      if b = initValue then closingRun initValue start bs + 1 else 0 := by
  unfold closingRun
  rw [List.reverse_concat, List.length_append, List.length_singleton]
  by_cases hb : b = initValue
  · rw [List.takeWhile_cons_of_pos (by simpa using hb), List.length_cons, if_pos hb]
    simp only [Nat.add_right_cancel_iff]
    split <;> rfl
  · rw [List.takeWhile_cons_of_neg (by simpa using hb), if_neg hb]
    simp

/-- An init value opens a frame or is its code, so the place hangs on the parity of the run. -/
theorem ends_open_iff (start : Framing) (bs : Bytes) :
    (classifyAll initValue start bs).2 = .awaitingCommand ↔
      closingRun initValue start bs % 2 = 1 := by
  induction bs using List.reverseRecOn with
  | nil => cases start <;> simp [classifyAll, closingRun]
  | append_singleton bs b ih =>
    rw [classifyAll_snoc, closingRun_snoc]
    cases hPlace : (classifyAll initValue start bs).2 with
    | awaitingCommand =>
      have hOdd := ih.mp hPlace
      simp only [classify, reduceCtorEq, false_iff]
      split <;> omega
    | idle =>
      have hEven : ¬ closingRun initValue start bs % 2 = 1 := by
        intro hOdd
        cases hPlace.symm.trans (ih.mpr hOdd)
      by_cases hb : b = initValue
      · simp only [classify, if_pos hb, true_iff]
        omega
      · simp [classify, hb]

/-! ## Two places in one stream -/

/-- One byte leads to the same place from both places exactly if it is no init value. -/
theorem same_place_iff (framing other : Framing) (b : UInt8) :
    (framing.classify initValue b).2 = (other.classify initValue b).2 ↔
      framing = other ∨ b ≠ initValue := by
  by_cases hb : b = initValue <;> cases framing <;> cases other <;> simp [classify, hb]

theorem same_end_iff (start other : Framing) (bs : Bytes) :
    (classifyAll initValue start bs).2 = (classifyAll initValue other bs).2 ↔
      start = other ∨ ∃ b ∈ bs, b ≠ initValue := by
  induction bs using List.reverseRecOn with
  | nil => simp [classifyAll]
  | append_singleton bs b ih =>
    rw [classifyAll_snoc, classifyAll_snoc, same_place_iff, ih]
    simp only [List.mem_append, List.mem_singleton, or_and_right, exists_or,
      exists_eq_left, or_assoc]

/-- **How a stream is sorted.** Every byte makes one event that stands for it, from whatever place
the stream starts in. What is passed through of a stream that starts between two frames is the
stream without its frames, so all of it if it has no init value. A stream ends within a frame
exactly if the init values at its end, with the one that has opened a frame before it, are odd in
number. From two places a stream leads to the same place exactly if it has a byte that is no init
value, and then all events after it are the same. -/
theorem stream_sorted (initValue : UInt8) (bs : Bytes) :
    (∀ start, (classifyAll initValue start bs).1.length = bs.length ∧
      (classifyAll initValue start bs).1.map (Event.byte initValue) = bs) ∧
      passed initValue bs = withoutFrames initValue bs ∧
      (initValue ∉ bs → passed initValue bs = bs) ∧
      (∀ start, (classifyAll initValue start bs).2 = .awaitingCommand ↔
        closingRun initValue start bs % 2 = 1) ∧
      ∀ start other,
        ((classifyAll initValue start bs).2 = (classifyAll initValue other bs).2 ↔
          start = other ∨ ∃ b ∈ bs, b ≠ initValue) ∧
        ((∃ b ∈ bs, b ≠ initValue) →
          ∀ rest, (classifyAll initValue start (bs ++ rest)).1.drop bs.length =
          (classifyAll initValue other (bs ++ rest)).1.drop bs.length) := by
  refine ⟨fun start => ⟨length_events initValue start bs, bytes_of_events initValue start bs⟩,
    passed_eq initValue bs,
    fun hNone => ?_, fun start => ends_open_iff initValue start bs,
    fun start other => ⟨same_end_iff initValue start other bs, ?_⟩⟩
  · rw [passed_eq, withoutFrames_of_not_mem initValue hNone]
  · intro hOther rest
    have hPlace := (same_end_iff initValue start other bs).mpr (Or.inr hOther)
    have hRest : ∀ place, (classifyAll initValue place (bs ++ rest)).1.drop bs.length =
        (classifyAll initValue (classifyAll initValue place bs).2 rest).1 := by
      intro place
      rw [classifyAll_append]
      exact List.drop_left' (length_events initValue place bs)
    rw [hRest start, hRest other, hPlace]

end MemoryBridge.Framing
