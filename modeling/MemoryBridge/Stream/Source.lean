import MemoryBridge.Stream.Motion

/-!
# Sources of bytes

A source hands over bytes piece by piece. Full reads and skips are loops over single reads that go
on after an interruption; they end because a source is interrupted only finitely often in a row.

* `Source.readExact`: all of `n` bytes, or a fault.
* `Source.discard`: drops `n` bytes, or a fault.
-/

namespace MemoryBridge

/-- A source of bytes over states `σ`. A read hands over at most as many bytes as were asked for,
and none at the end of the stream. -/
structure Source (σ : Type) where
  read : Nat → EStateM Fault σ Bytes
  /-- Bounds the interruptions that may come before a read gets through. -/
  readPatience : σ → Nat
  read_length_le : ∀ {n s bs t}, read n s = .ok bs t → bs.length ≤ n
  read_interrupted : ∀ {n s f t}, read n s = .error f t → f.kind = .interrupted →
    readPatience t < readPatience s

namespace Source

variable {σ : Type}

/-- Reads exactly `n` bytes. A read that gets none means that the stream has ended too early. -/
def readExact (source : Source σ) (n : Nat) (s : σ) : EStateM.Result Fault σ Bytes :=
  if n = 0 then .ok [] s
  else
    match _hr : source.read n s with
    | .ok [] t => .error .endOfStream t
    | .ok (b :: bs) t =>
      match source.readExact (n - (b :: bs).length) t with
      | .ok rest u => .ok (b :: bs ++ rest) u
      | .error f u => .error f u
    | .error f t =>
      if _hf : f.kind = .interrupted then source.readExact n t else .error f t
termination_by (n, source.readPatience s)
decreasing_by
  · simp only [List.length_cons]
    exact Prod.Lex.left _ _ (by omega)
  · exact Prod.Lex.right _ (source.read_interrupted _hr _hf)

/-- The largest piece in which skipped bytes are read. -/
def skipPiece : Nat := 8192

/-- Reads `n` bytes and drops them. -/
def discard (source : Source σ) (n : Nat) (s : σ) : EStateM.Result Fault σ Unit :=
  if n = 0 then .ok () s
  else
    match _hr : source.read (min n skipPiece) s with
    | .ok [] t => .error .payloadCutShort t
    | .ok (b :: bs) t => source.discard (n - (b :: bs).length) t
    | .error f t =>
      if _hf : f.kind = .interrupted then source.discard n t else .error f t
termination_by (n, source.readPatience s)
decreasing_by
  · simp only [List.length_cons]
    exact Prod.Lex.left _ _ (by omega)
  · exact Prod.Lex.right _ (source.read_interrupted _hr _hf)

/-! ## The first read -/

/-- A full read by what its first read does. -/
theorem readExact_read (source : Source σ) {n : Nat} (hn : n ≠ 0) (s : σ) :
    source.readExact n s =
      match source.read n s with
      | .ok [] t => .error .endOfStream t
      | .ok (b :: bs) t =>
        match source.readExact (n - (b :: bs).length) t with
        | .ok rest u => .ok (b :: bs ++ rest) u
        | .error f u => .error f u
      | .error f t => if f.kind = .interrupted then source.readExact n t else .error f t := by
  rw [readExact, if_neg hn]
  cases source.read n s with
  | ok bs t => cases bs <;> rfl
  | error f t => rfl

theorem skipPiece_pos {n : Nat} (hn : n ≠ 0) : 0 < min n skipPiece := by
  unfold skipPiece
  omega

/-- A skip by what its first read does. -/
theorem discard_read (source : Source σ) {n : Nat} (hn : n ≠ 0) (s : σ) :
    source.discard n s =
      match source.read (min n skipPiece) s with
      | .ok [] t => .error .payloadCutShort t
      | .ok (b :: bs) t => source.discard (n - (b :: bs).length) t
      | .error f t => if f.kind = .interrupted then source.discard n t else .error f t := by
  rw [discard, if_neg hn]
  cases source.read (min n skipPiece) s with
  | ok bs t => cases bs <;> rfl
  | error f t => rfl

/-! ## What reading does to the state -/

theorem readExact_moves {R : σ → σ → Prop} (hR : Durable R) {source : Source σ}
    (hRead : ∀ n, Moves R (source.read n)) (n : Nat) : Moves R (source.readExact n) := by
  intro s
  fun_induction source.readExact n s with
  | case1 s => exact hR.refl s
  | case2 n s _ t hr => simpa [hr] using hRead n s
  | case3 n s _ b bs t hr rest u hu ih =>
    rw [hu] at ih
    exact hR.trans (by simpa [hr] using hRead n s) ih
  | case4 n s _ b bs t hr f u hu ih =>
    rw [hu] at ih
    exact hR.trans (by simpa [hr] using hRead n s) ih
  | case5 n s _ f t hr hf ih => exact hR.trans (by simpa [hr] using hRead n s) ih
  | case6 n s _ f t hr hf => simpa [hr] using hRead n s

theorem discard_moves {R : σ → σ → Prop} (hR : Durable R) {source : Source σ}
    (hRead : ∀ n, Moves R (source.read n)) (n : Nat) : Moves R (source.discard n) := by
  intro s
  fun_induction source.discard n s with
  | case1 s => exact hR.refl s
  | case2 n s _ t hr => simpa [hr] using hRead (min n skipPiece) s
  | case3 n s _ b bs t hr ih => exact hR.trans (by simpa [hr] using hRead (min n skipPiece) s) ih
  | case4 n s _ f t hr hf ih => exact hR.trans (by simpa [hr] using hRead (min n skipPiece) s) ih
  | case5 n s _ f t hr hf => simpa [hr] using hRead (min n skipPiece) s

end Source

end MemoryBridge
