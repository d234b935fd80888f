/-!
# Faults of byte operations

A read, write, flush or mode switch that does not succeed answers with a fault: a kind, which the
bridge acts on, and a text, which it only reports.
-/

namespace MemoryBridge

/-- Bytes in the order in which they travel. -/
abbrev Bytes := List UInt8

/-- What went wrong with a byte operation. -/
inductive FaultKind
  | notFound
  | permissionDenied
  | connectionReset
  | connectionAborted
  | notConnected
  | brokenPipe
  | timedOut
  | wouldBlock
  | interrupted
  | invalidInput
  | invalidData
  | unexpectedEof
  | writeZero
  | other
  deriving DecidableEq, Repr

/-- A failed byte operation. -/
structure Fault where
  kind : FaultKind
  text : String
  deriving DecidableEq, Repr

namespace Fault

/-- The stream ended before a full read was complete. -/
def endOfStream : Fault := ⟨.unexpectedEof, "failed to fill whole buffer"⟩

/-- The stream ended inside a payload that was being skipped. -/
def payloadCutShort : Fault := ⟨.unexpectedEof, "unexpected end of file"⟩

/-- A write took none of the bytes it was offered. -/
def nothingAccepted : Fault := ⟨.writeZero, "failed to write whole buffer"⟩

/-- A poll read with this fault only says that nothing is pending. -/
def isIdle (f : Fault) : Bool :=
  match f.kind with
  | .timedOut | .wouldBlock | .interrupted => true
  | _ => false

end Fault

end MemoryBridge
