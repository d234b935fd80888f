import MemoryBridge.Fault

/-!
# The memory pool

A pool is a run of bytes of fixed length that the device reads and writes by index and size. An
access outside of it is refused and changes nothing.
-/

namespace MemoryBridge

/-- The memory that the device may use. -/
structure Pool where
  bytes : Bytes
  deriving DecidableEq, Repr

/-- An access that leaves the pool, as it was asked for. -/
structure PoolError where
  index : Int
  size : Int
  poolLength : Nat
  deriving DecidableEq, Repr

def PoolError.message (e : PoolError) : String :=
  "pool access out of range: index " ++ toString e.index ++ ", size " ++ toString e.size ++
    ", pool length " ++ toString e.poolLength

namespace Pool

/-- A pool of `n` zeros. -/
def zeros (n : Nat) : Pool := ⟨List.replicate n 0⟩

def length (p : Pool) : Nat := p.bytes.length

/-- A range of the pool: where it starts and how long it is. -/
structure Range where
  start : Nat
  length : Nat
  deriving DecidableEq, Repr

def Range.stop (r : Range) : Nat := r.start + r.length

/-- The range of `size` bytes from `index` on, if the pool has it. -/
def range (p : Pool) (index size : Int) : Except PoolError Range :=
  if 0 ≤ index ∧ 0 ≤ size ∧ index + size ≤ p.length then
    .ok ⟨index.toNat, size.toNat⟩
  else
    .error ⟨index, size, p.length⟩

/-- The bytes of a range. -/
def slice (p : Pool) (r : Range) : Bytes :=
  (p.bytes.drop r.start).take r.length

/-- The pool with `data` laid over it from `start` on. -/
def overlay (p : Pool) (start : Nat) (data : Bytes) : Pool :=
  ⟨p.bytes.take start ++ data ++ p.bytes.drop (start + data.length)⟩

def read (p : Pool) (index size : Int32) : Except PoolError Bytes :=
  (p.range index.toInt size.toInt).map p.slice

/-- The longest run of bytes that a size on the wire can name. -/
def maxWrite : Nat := 2147483647

/-- Stores `data` from `index` on. -/
def write (p : Pool) (index : Int32) (data : Bytes) : Except PoolError Pool :=
  if data.length ≤ maxWrite then
    (p.range index.toInt data.length).map fun r => p.overlay r.start data
  else
    .error ⟨index.toInt, data.length, p.length⟩

end Pool

end MemoryBridge
