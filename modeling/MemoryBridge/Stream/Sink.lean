import MemoryBridge.Stream.Motion

/-!
# Sinks of bytes

A sink takes bytes piece by piece and can be flushed. `Sink.writeAll` offers the rest again until
all of it is taken; it makes no write at all when there is nothing to write.
-/

namespace MemoryBridge

/-- A sink of bytes over states `σ`. A write answers how many of the offered bytes were
taken, from the front. -/
structure Sink (σ : Type) where
  write : Bytes → EStateM Fault σ Nat
  flush : EStateM Fault σ Unit
  /-- Bounds the interruptions that may come before a write gets through. -/
  writePatience : σ → Nat
  write_le_length : ∀ {bs s n t}, write bs s = .ok n t → n ≤ bs.length
  write_interrupted : ∀ {bs s f t}, write bs s = .error f t → f.kind = .interrupted →
    writePatience t < writePatience s

namespace Sink

variable {σ : Type}

/-- Writes all of `bs`. A write that takes nothing is a fault. -/
def writeAll (sink : Sink σ) (bs : Bytes) (s : σ) : EStateM.Result Fault σ Unit :=
  match bs with
  | [] => .ok () s
  | b :: rest =>
    match _hw : sink.write (b :: rest) s with
    | .ok 0 t => .error .nothingAccepted t
    | .ok (n + 1) t => sink.writeAll (rest.drop n) t
    | .error f t =>
      if _hf : f.kind = .interrupted then sink.writeAll (b :: rest) t else .error f t
termination_by (bs.length, sink.writePatience s)
decreasing_by
  · simp only [List.length_drop, List.length_cons]
    exact Prod.Lex.left _ _ (by omega)
  · exact Prod.Lex.right _ (sink.write_interrupted _hw _hf)

/-- A full write by what its first write does. -/
theorem writeAll_write (sink : Sink σ) (b : UInt8) (rest : Bytes) (s : σ) :
    sink.writeAll (b :: rest) s =
      match sink.write (b :: rest) s with
      | .ok 0 t => .error .nothingAccepted t
      | .ok (n + 1) t => sink.writeAll (rest.drop n) t
      | .error f t =>
        if f.kind = .interrupted then sink.writeAll (b :: rest) t else .error f t := by
  rw [writeAll]
  cases sink.write (b :: rest) s with
  | ok n t => cases n <;> rfl
  | error f t => rfl

theorem writeAll_moves {R : σ → σ → Prop} (hR : Durable R) {sink : Sink σ}
    (hWrite : ∀ bs, Moves R (sink.write bs)) (bs : Bytes) : Moves R (sink.writeAll bs) := by
  intro s
  fun_induction sink.writeAll bs s with
  | case1 s => exact hR.refl s
  | case2 s b rest t hw => simpa [hw] using hWrite (b :: rest) s
  | case3 s b rest n t hw ih => exact hR.trans (by simpa [hw] using hWrite (b :: rest) s) ih
  | case4 s b rest f t hw hf ih => exact hR.trans (by simpa [hw] using hWrite (b :: rest) s) ih
  | case5 s b rest f t hw hf => simpa [hw] using hWrite (b :: rest) s

end Sink

end MemoryBridge
