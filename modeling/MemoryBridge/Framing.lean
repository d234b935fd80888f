import MemoryBridge.Fault

/-!
# Framing

Bytes from the device are console output, except that the init value opens a control frame of two
bytes. The byte after an init value is always a command code, even if it is an init value itself.
-/

namespace MemoryBridge

/-- Where in the stream the next byte stands. -/
inductive Framing
  | idle
  | awaitingCommand
  deriving DecidableEq, Repr

namespace Framing

/-- What one byte turns out to be. -/
inductive Event
  | passthrough (b : UInt8)
  | frameStart
  | command (code : UInt8)
  deriving DecidableEq, Repr

/-- Sorts one byte and moves on. -/
def classify (initValue : UInt8) (framing : Framing) (b : UInt8) : Event × Framing :=
  match framing with
  | .awaitingCommand => (.command b, .idle)
  | .idle => if b = initValue then (.frameStart, .awaitingCommand) else (.passthrough b, .idle)

/-- Sorts a whole stream. -/
def classifyAll (initValue : UInt8) : Framing → Bytes → List Event × Framing
  | framing, [] => ([], framing)
  | framing, b :: bs =>
    let (event, next) := framing.classify initValue b
    let (events, last) := classifyAll initValue next bs
    (event :: events, last)

end Framing

end MemoryBridge
