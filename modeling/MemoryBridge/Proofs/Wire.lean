import Mathlib
import MemoryBridge.Proofs.Fragments
import MemoryBridge.Proofs.Lines

/-!
# Integers over streams in pieces

Integers are written and read one after the other over streams that take and hand over bytes in
pieces of any size, with interruptions in between. `ints_survive_pieces` says that neither notices:
a list of integers is written as its encodings and read back as itself, and what follows is left.
Every run of whole groups of four bytes is such a list. A group that is cut short is a fault.

A source and a sink are all that is asked for; the two sides of a link are one of each.
-/

namespace MemoryBridge

variable {σ τ : Type}

/-! ## Streams in pieces -/

/-- `Holds s pending` says that in the state `s` the bytes `pending` are still to be read. In
such a state a read hands over some of them, unless it is interrupted, and when nothing is left
it finds the ending. -/
structure Source.Delivers (source : Source σ) (ending : Ending)
    (Holds : σ → Bytes → Prop) : Prop where
  read_ok : ∀ {n s bs t pending}, Holds s pending → 0 < n → source.read n s = .ok bs t →
    ∃ rest, pending = bs ++ rest ∧ Holds t rest ∧ (bs = [] → rest = [] ∧ ending = .closed)
  read_error : ∀ {n s f t pending}, Holds s pending → 0 < n → source.read n s = .error f t →
    Holds t pending ∧ (f.kind = .interrupted ∨ pending = [] ∧ ∃ h, ending = .silent f h)

/-- `Has s taken` says that up to the state `s` the bytes `taken` were taken. In such a state a
write takes some of what it is offered, unless it is interrupted. -/
structure Sink.Collects (sink : Sink σ) (Has : σ → Bytes → Prop) : Prop where
  write_ok : ∀ {bs s n t taken}, Has s taken → bs ≠ [] → sink.write bs s = .ok n t →
    0 < n ∧ Has t (taken ++ bs.take n)
  write_error : ∀ {bs s f t taken}, Has s taken → bs ≠ [] → sink.write bs s = .error f t →
    f.kind = .interrupted ∧ Has t taken

theorem Sink.Collects.writeAll {sink : Sink σ} {Has : σ → Bytes → Prop} (h : sink.Collects Has)
    (bs : Bytes) {s : σ} {taken : Bytes} (hs : Has s taken) :
    ∃ t, sink.writeAll bs s = .ok () t ∧ Has t (taken ++ bs) := by
  let Shows : σ → Channel → Prop := fun s ch => Has s ch.sent
  have hShows : Shows s { sent := taken } := hs
  exact Sink.writeAll_adds Shows Channel.send Channel.send_nil Channel.send_send h.write_ok
    h.write_error bs hShows

/-- A source as a link that takes whatever it is offered and does nothing with it. -/
def Source.alone (source : Source σ) : Link σ where
  toSource := source
  toSink := .void
  setMode := fun _ s => .ok () s

namespace Source.Delivers

variable {source : Source σ} {ending : Ending} {Holds : σ → Bytes → Prop}

theorem faultless (h : source.Delivers ending Holds) :
    Faultless source.alone .void ending fun s ch => Holds s ch.incoming where
  read_ok hs hn hRead := h.read_ok hs hn hRead
  read_error hs hn hRead := h.read_error hs hn hRead
  write_ok {bs s n t ch} hs hbs hWrite := by
    cases hWrite
    exact ⟨List.length_pos_iff.mpr hbs, hs⟩
  write_error _ _ hWrite := by cases hWrite
  flush {s ch} hs := ⟨s, rfl, hs⟩
  setMode {mode s ch} hs := ⟨s, rfl, hs⟩
  pass_ok {bs s n t ch} hs hbs hWrite := by
    cases hWrite
    exact ⟨List.length_pos_iff.mpr hbs, hs⟩
  pass_error _ _ hWrite := by cases hWrite
  flush_sink {s ch} hs := ⟨s, rfl, hs⟩

/-- A full read answers the next bytes if there are enough. -/
theorem readExact_ok (h : source.Delivers ending Holds) {bs rest : Bytes} {s : σ}
    (hs : Holds s (bs ++ rest)) : ∃ t, source.readExact bs.length s = .ok bs t ∧ Holds t rest := by
  have hRun := h.faultless.readExact_take bs.length s { incoming := bs ++ rest } hs
  have hTake : Channel.take ending.readFault bs.length { incoming := bs ++ rest } =
      .ok bs { incoming := rest } := by
    unfold Channel.take
    rw [if_pos (by simp), List.take_left, List.drop_left]
  rw [hTake] at hRun
  generalize hRead : source.alone.readExact bs.length s = r at hRun
  cases hRun with
  | ok hRest => exact ⟨_, hRead, hRest⟩

/-- A full read that finds too few bytes fails as the stream ends. -/
theorem readExact_short (h : source.Delivers ending Holds) {n : Nat} {bs : Bytes} {s : σ}
    (hs : Holds s bs) (hShort : bs.length < n) :
    ∃ t, source.readExact n s = .error ending.readFault t ∧ Holds t [] := by
  have hRun := h.faultless.readExact_take n s { incoming := bs } hs
  rw [Channel.take_short hShort] at hRun
  generalize hRead : source.alone.readExact n s = r at hRun
  cases hRun with
  | error hRest => exact ⟨_, hRead, hRest⟩

end Source.Delivers

/-! ## Integers -/

namespace Wire

/-- The byte at the place `i`, lowest first, of an integer in two's complement. -/
def byteAt (v : Int32) (i : Nat) : UInt8 :=
  UInt8.ofNat (v.toInt / 256 ^ i % 256).toNat

/-- The word of an integer, as a number. -/
theorem toNat_word (v : Int32) : (v.toUInt32.toNat : Int) = v.toInt % 4294967296 := by
  have hInt : v.toInt = (v.toUInt32.toNat : Int).bmod 4294967296 :=
    BitVec.toInt_eq_toNat_bmod v.toBitVec
  have hBound : v.toUInt32.toNat < 4294967296 := v.toUInt32.toNat_lt
  have hWrap : (v.toUInt32.toNat : Int).bmod 4294967296 % (4294967296 : Nat) =
      v.toUInt32.toNat % (4294967296 : Nat) :=
    Int.bmod_emod
  rw [hInt]
  omega

theorem byteAt_eq (v : Int32) {i : Nat} (hi : i < 4) :
    byteAt v i = UInt8.ofNat (v.toUInt32.toNat / 256 ^ i % 256) := by
  have hWord := toNat_word v
  have hPlace : (v.toInt / 256 ^ i % 256).toNat = v.toUInt32.toNat / 256 ^ i % 256 := by
    match i, hi with
    | 0, _ | 1, _ | 2, _ | 3, _ =>
      simp only [Nat.reducePow, Int.reducePow]
      omega
  rw [byteAt, hPlace]

/-- An encoding is the lowest four bytes in two's complement. -/
theorem encode_eq (v : Int32) : encode v = (List.range 4).map (byteAt v) := by
  have hDigits : ∀ n : Nat, bytesOfNat 4 n = (List.range 4).map fun i =>
      UInt8.ofNat (n / 256 ^ i % 256) := by
    intro n
    simp [bytesOfNat, List.range_succ, Nat.div_div_eq_div_mul]
  rw [encode, intSize, hDigits]
  exact List.map_congr_left fun i hi => (byteAt_eq v (List.mem_range.mp hi)).symm

/-- Reads so many integers, one after the other. -/
def readInts (source : Source σ) : Nat → EStateM Fault σ (List Int32)
  | 0 => pure []
  | n + 1 => do
    let v ← readInt source
    return v :: (← readInts source n)

/-- Writes integers, one after the other. -/
def writeInts (sink : Sink σ) : List Int32 → EStateM Fault σ Unit
  | [] => pure ()
  | v :: vs => do
    writeInt sink v
    writeInts sink vs

/-- Whole groups of four bytes are encodings. -/
theorem exists_encodings {n : Nat} {bs : Bytes} (h : bs.length = 4 * n) :
    ∃ values : List Int32, values.length = n ∧ values.flatMap encode = bs := by
  induction n generalizing bs with
  | zero =>
    obtain rfl : bs = [] := List.eq_nil_of_length_eq_zero h
    exact ⟨[], rfl, rfl⟩
  | succ n ih =>
    have hFirst : (bs.take 4).length = 4 := by
      rw [List.length_take]
      omega
    have hLater : (bs.drop 4).length = 4 * n := by
      rw [List.length_drop]
      omega
    obtain ⟨values, hLength, hRest⟩ := ih hLater
    refine ⟨decode (bs.take 4) :: values, by rw [List.length_cons, hLength], ?_⟩
    rw [List.flatMap_cons, encode_decode hFirst, hRest, List.take_append_drop]

/-- Integers after the last one that can be read cannot be read either. -/
theorem readInts_fails {source : Source σ} {n : Nat} {values : List Int32} {s t u : σ} {f : Fault}
    (hRead : readInts source n s = .ok values t) (hFails : readInt source t = .error f u)
    (k : Nat) : readInts source (n + (k + 1)) s = .error f u := by
  induction n generalizing s values with
  | zero =>
    cases hRead
    rw [Nat.zero_add, readInts, bind_error hFails]
  | succ n ih =>
    obtain ⟨v, w, hFirst, hLater⟩ := of_bind_ok hRead
    obtain ⟨rest, x, hRest, hDone⟩ := of_bind_ok hLater
    cases hDone
    rw [show n + 1 + (k + 1) =
      n + (k + 1) + 1 by omega, readInts, bind_ok hFirst, bind_error (ih hRest)]

section

variable {source : Source σ} {ending : Ending} {Holds : σ → Bytes → Prop}
  (h : source.Delivers ending Holds)

include h

theorem readInt_delivered {v : Int32} {rest : Bytes} {s : σ} (hs : Holds s (encode v ++ rest)) :
    ∃ t, readInt source s = .ok v t ∧ Holds t rest := by
  obtain ⟨t, hRead, hRest⟩ := h.readExact_ok hs
  rw [length_encode] at hRead
  refine ⟨t, ?_, hRest⟩
  show EStateM.map decode (source.readExact 4) s = _
  simp only [EStateM.map, hRead, decode_encode]

theorem readInt_short {bs : Bytes} {s : σ} (hs : Holds s bs) (hShort : bs.length < 4) :
    ∃ t, readInt source s = .error ending.readFault t ∧ Holds t [] := by
  obtain ⟨t, hRead, hRest⟩ := h.readExact_short hs hShort
  refine ⟨t, ?_, hRest⟩
  show EStateM.map decode (source.readExact 4) s = _
  simp only [EStateM.map, hRead]

theorem readInts_delivered (values : List Int32) {further : Bytes} {s : σ}
    (hs : Holds s (values.flatMap encode ++ further)) :
    ∃ t, readInts source values.length s = .ok values t ∧ Holds t further := by
  induction values generalizing s with
  | nil => exact ⟨s, rfl, hs⟩
  | cons v values ih =>
    rw [List.flatMap_cons, List.append_assoc] at hs
    obtain ⟨t, hFirst, hRest⟩ := readInt_delivered h hs
    obtain ⟨u, hLater, hFurther⟩ := ih hRest
    refine ⟨u, ?_, hFurther⟩
    rw [List.length_cons, readInts, bind_ok hFirst, bind_ok hLater]
    rfl

end

theorem writeInts_collected {sink : Sink τ} {Has : τ → Bytes → Prop} (h : sink.Collects Has)
    (values : List Int32) {w : τ} {taken : Bytes} (hw : Has w taken) :
    ∃ v, writeInts sink values w = .ok () v ∧ Has v (taken ++ values.flatMap encode) := by
  induction values generalizing w taken with
  | nil => exact ⟨w, rfl, by rwa [List.flatMap_nil, List.append_nil]⟩
  | cons first values ih =>
    obtain ⟨u, hFirst, hTaken⟩ := h.writeAll (encode first) hw
    obtain ⟨v, hLater, hAll⟩ := ih hTaken
    refine ⟨v, ?_, ?_⟩
    · rw [writeInts, bind_ok (show writeInt sink first w = _ from hFirst), hLater]
    · rwa [List.flatMap_cons, ← List.append_assoc]

/-- **Integers survive pieces.** Let a source deliver its bytes and a sink collect what it is
offered, both in pieces of any size and with interruptions in between.

* An encoding is four bytes: two's complement, lowest byte first.
* A list of integers is written as its encodings, in order and whole.
* From its encodings it is read as itself, and further bytes are left as they are.
* The integers that are read from whole groups of four bytes are written as these bytes.
* Where the last group is cut short, the integers of the whole groups are read and then comes the
  fault of a full read that finds too little.
-/
theorem ints_survive_pieces {source : Source σ} {ending : Ending} {Holds : σ → Bytes → Prop}
    (hSource : source.Delivers ending Holds) {sink : Sink τ} {Has : τ → Bytes → Prop}
    (hSink : sink.Collects Has) :
    (∀ v, encode v = (List.range 4).map (byteAt v)) ∧
    (∀ (values : List Int32) w taken, Has w taken →
      ∃ v, writeInts sink values w = .ok () v ∧ Has v (taken ++ values.flatMap encode)) ∧
    (∀ (values : List Int32) further s, Holds s (values.flatMap encode ++ further) →
      ∃ t, readInts source values.length s = .ok values t ∧ Holds t further) ∧
    (∀ n bs further s, bs.length = 4 * n → Holds s (bs ++ further) →
      ∃ values t, readInts source n s = .ok values t ∧ values.flatMap encode = bs ∧
        Holds t further) ∧
    ∀ bs s, Holds s bs → ∃ values t u, readInts source (bs.length / 4) s = .ok values t ∧
      values.flatMap encode = bs.take (4 * (bs.length / 4)) ∧
      readInt source t = .error ending.readFault u ∧
      ∀ n, bs.length / 4 < n → readInts source n s = .error ending.readFault u := by
  have hGroups : ∀ n bs further s, bs.length = 4 * n → Holds s (bs ++ further) →
      ∃ values t, readInts source n s = .ok values t ∧ values.flatMap encode = bs ∧
        Holds t further := by
    intro n bs further s hLength hs
    obtain ⟨values, rfl, rfl⟩ := exists_encodings hLength
    obtain ⟨t, hRead, hRest⟩ := readInts_delivered hSource values hs
    exact ⟨values, t, hRead, rfl, hRest⟩
  refine ⟨encode_eq, fun values w taken hw => writeInts_collected hSink values hw,
    fun values further s hs => readInts_delivered hSource values hs, hGroups, fun bs s hs => ?_⟩
  have hWhole : (bs.take (4 * (bs.length / 4))).length = 4 * (bs.length / 4) := by
    rw [List.length_take]
    omega
  have hCut : (bs.drop (4 * (bs.length / 4))).length < 4 := by
    rw [List.length_drop]
    omega
  rw [← List.take_append_drop (4 * (bs.length / 4)) bs] at hs
  obtain ⟨values, t, hRead, hValues, hRest⟩ := hGroups _ _ _ s hWhole hs
  obtain ⟨u, hShort, -⟩ := readInt_short hSource hRest hCut
  refine ⟨values, t, u, hRead, hValues, hShort, fun n hn => ?_⟩
  obtain ⟨k, rfl⟩ : ∃ k, n = bs.length / 4 + (k + 1) := ⟨n - bs.length / 4 - 1, by omega⟩
  exact readInts_fails hRead hShort k

end Wire

/-! ## Scripted streams -/

/-- A part of a script that costs no byte: bytes, an interruption, or what a read does not see. -/
def Arrival.IsHarmless : Arrival → Prop
  | .fault kind => kind = .interrupted
  | .ended => False
  | .data _ | .stop | .hangUp => True

/-- In a harmless script a read finds bytes or an interruption, or the script holds no byte any
more. -/
theorem Script.cue_harmless {script : List Arrival} (h : ∀ a ∈ script, a.IsHarmless) :
    (∀ a ∈ (cue script).rest, a.IsHarmless) ∧
      ((∃ bs, (cue script).due = .bytes bs) ∨ (cue script).due = .fault .interrupted ∨
        (cue script).due = .nothing ∧ bytesOf script = []) := by
  induction script with
  | nil => exact ⟨by simp [cue], Or.inr (Or.inr ⟨rfl, rfl⟩)⟩
  | cons a rest ih =>
    have hRest : ∀ x ∈ rest, x.IsHarmless := fun x hx => h x (List.mem_cons_of_mem a hx)
    cases a with
    | data bs =>
      cases bs with
      | nil => exact ih hRest
      | cons b bs => exact ⟨hRest, Or.inl ⟨_, rfl⟩⟩
    | fault kind =>
      have hKind : kind = .interrupted := h (.fault kind) List.mem_cons_self
      exact ⟨hRest, Or.inr (Or.inl (congrArg Due.fault hKind))⟩
    | ended => exact (h .ended List.mem_cons_self).elim
    | stop => exact ih hRest
    | hangUp => exact ih hRest

/-- A reader whose script is harmless still has these bytes to hand over. -/
structure ScriptedReader.Plays (r : ScriptedReader) (pending : Bytes) : Prop where
  harmless : ∀ a ∈ r.arrivals, a.IsHarmless
  pending_eq : Script.bytesOf r.arrivals = pending

/-- Such a reader delivers them, and then it is at its end. -/
theorem ScriptedReader.delivers : source.Delivers .closed Plays where
  read_ok := by
    rintro n r bs t pending ⟨hHarmless, rfl⟩ hn hRead
    have hBytes := read_ok_bytes hRead
    obtain ⟨hRest, hDue⟩ := Script.cue_harmless hHarmless
    have hRead : read n r = .ok bs t := hRead
    unfold read next at hRead
    rcases hDue with ⟨cs, hDue⟩ | hDue | ⟨hDue, hNone⟩
    · have hne := Script.cue_bytes_ne_nil hDue
      simp only [hDue] at hRead
      cases hRead
      refine ⟨_, hBytes.symm, ⟨?_, rfl⟩, fun hNil => ?_⟩
      · intro a ha
        rcases List.mem_cons.mp ha with rfl | ha
        · trivial
        · exact hRest a ha
      · rw [List.take_eq_nil_iff] at hNil
        exact absurd hNil (by simp [hne]; omega)
    · simp only [hDue] at hRead
      cases hRead
    · simp only [hDue] at hRead
      cases hRead
      rw [hNone] at hBytes ⊢
      exact ⟨[], rfl, ⟨hRest, hBytes⟩, fun _ => ⟨rfl, rfl⟩⟩
  read_error := by
    rintro n r f t pending ⟨hHarmless, rfl⟩ hn hRead
    have hBytes := read_error_bytes hRead
    obtain ⟨hRest, hDue⟩ := Script.cue_harmless hHarmless
    have hRead : read n r = .error f t := hRead
    unfold read next at hRead
    rcases hDue with ⟨cs, hDue⟩ | hDue | ⟨hDue, hNone⟩
    · simp only [hDue] at hRead
      cases hRead
    · simp only [hDue] at hRead
      cases hRead
      exact ⟨⟨hRest, hBytes⟩, Or.inl rfl⟩
    · simp only [hDue] at hRead
      cases hRead

theorem ScriptedSink.collects : sink.Collects Plays where
  write_ok := by
    intro bs s n t taken hs hbs hWrite
    rcases hs.write_cases hbs with ⟨k, t', hk, hOk, ht⟩ | ⟨t', hError, -⟩
    · cases hOk.symm.trans hWrite
      exact ⟨hk, ht⟩
    · cases hError.symm.trans hWrite
  write_error := by
    intro bs s f t taken hs hbs hWrite
    rcases hs.write_cases hbs with ⟨k, t', -, hOk, -⟩ | ⟨t', hError, ht⟩
    · cases hOk.symm.trans hWrite
    · cases hError.symm.trans hWrite
      exact ⟨rfl, ht⟩

namespace Wire

/-- Three bytes of `1`, an interruption, the rest with the first half of `-2`, and the other half
with a byte too many. The sink takes one byte, is interrupted and takes what it gets. -/
theorem ints_survive_pieces_scripted :
    let reader : ScriptedReader :=
      { arrivals := [.data [1, 0, 0], .fault .interrupted, .data [0, 0xFE, 0xFF],
          .data [0xFF, 0xFF, 7]] }
    let sink : ScriptedSink := { acceptances := [.take 1, .fault .interrupted] }
    reader.Plays [1, 0, 0, 0, 0xFE, 0xFF, 0xFF, 0xFF, 7] ∧ sink.Plays [] ∧
      (∃ t u, readInts ScriptedReader.source 2 reader = .ok [1, -2] t ∧
        readInt ScriptedReader.source t = .error .endOfStream u) ∧
      ∃ t, writeInts ScriptedSink.sink [1, -2] sink = .ok () t ∧
        t.Plays [1, 0, 0, 0, 0xFE, 0xFF, 0xFF, 0xFF] := by
  intro reader sink
  have hReader : reader.Plays [1, 0, 0, 0, 0xFE, 0xFF, 0xFF, 0xFF, 7] :=
    ⟨by simp [reader, Arrival.IsHarmless], rfl⟩
  have hSink : sink.Plays [] := ⟨by simp [sink, Acceptance.Yields], rfl, rfl⟩
  obtain ⟨-, hWritten, hRead, -, hCut⟩ :=
    ints_survive_pieces ScriptedReader.delivers ScriptedSink.collects
  obtain ⟨t, hValues, -⟩ := hRead [1, -2] [7] reader hReader
  obtain ⟨values, t', u, hSame, -, hShort, -⟩ := hCut _ reader hReader
  obtain ⟨-, rfl⟩ : [1, -2] = values ∧ t = t' := by
    have hBoth := hValues.symm.trans hSame
    cases hBoth
    exact ⟨rfl, rfl⟩
  exact ⟨hReader, hSink, ⟨t, u, hValues, hShort⟩, hWritten [1, -2] sink [] hSink⟩

end Wire

end MemoryBridge
