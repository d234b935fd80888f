import MemoryBridge.Fault

/-!
# The input mailbox

Console input waits in the mailbox until the device pulls it. It is a queue: bytes are appended at
the back and drained from the front.
-/

namespace MemoryBridge

/-- Input that the device has not pulled yet, oldest byte first. -/
structure Mailbox where
  bytes : Bytes
  deriving DecidableEq, Repr

namespace Mailbox

def empty : Mailbox := ⟨[]⟩

def length (m : Mailbox) : Nat := m.bytes.length

def isEmpty (m : Mailbox) : Bool := m.bytes.isEmpty

def append (m : Mailbox) (bs : Bytes) : Mailbox := ⟨m.bytes ++ bs⟩

/-- The oldest byte, which stays. -/
def peek (m : Mailbox) : Option UInt8 := m.bytes.head?

/-- Removes the oldest bytes, `limit` at most. -/
def drain (m : Mailbox) (limit : Nat) : Bytes × Mailbox :=
  (m.bytes.take limit, ⟨m.bytes.drop limit⟩)

end Mailbox

end MemoryBridge
