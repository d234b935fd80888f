import MemoryBridge.Command
import MemoryBridge.Framing
import MemoryBridge.Mailbox
import MemoryBridge.Pool
import MemoryBridge.Wire

/-!
# Sessions

A session is what the host remembers of its talk with the device: where the byte stream stands,
whether the device has said `init` on this link, the memory it was lent, the input that waits
for it, and counters.
-/

namespace MemoryBridge

/-- What is fixed about a session. -/
structure SessionConfig where
  /-- The byte that opens a control frame. -/
  initValue : UInt8 := 0xFF
  /-- Whether `init` is answered with an `init` frame. -/
  ackInit : Bool := false
  deriving DecidableEq, Repr

/-- What a session has seen so far. The counters are natural numbers: they do not wrap, as counters
of 64 bits would at the end of their range. -/
structure SessionCounters where
  passthroughBytes : Nat := 0
  commands : Nat := 0
  unknownCommands : Nat := 0
  rejectedCommands : Nat := 0
  deriving DecidableEq, Repr

structure Session where
  config : SessionConfig
  framing : Framing := .idle
  initialized : Bool := false
  pool : Option Pool := none
  mailbox : Mailbox := .empty
  counters : SessionCounters := {}
  deriving DecidableEq, Repr

/-- Why a byte from the device could not be handled. -/
inductive ServeError
  /-- The link failed. -/
  | transport (fault : Fault)
  /-- The passthrough sink failed. -/
  | sink (fault : Fault)
  /-- The device asked for bytes outside of the pool. -/
  | pool (error : PoolError)
  /-- The device asked for a pool of negative size. -/
  | invalidPoolSize (size : Int32)
  deriving DecidableEq, Repr

namespace ServeError

def isTransport : ServeError → Bool
  | .transport _ => true
  | _ => false

def message : ServeError → String
  | .transport f => "link transport error: " ++ f.text
  | .sink f => "passthrough sink error: " ++ f.text
  | .pool e => e.message
  | .invalidPoolSize size => "invalid pool size: " ++ toString size.toInt

end ServeError

namespace Session

/-- The frame that asks the device to say `init`, and that acknowledges it. -/
def handshakeFrame (s : Session) : Bytes :=
  Command.init.frame s.config.initValue

/-- Forgets what belongs to one link. Pool, mailbox and counters outlive it. -/
def resetLink (s : Session) : Session :=
  { s with framing := .idle, initialized := false }

def countPassthrough (s : Session) : Session :=
  { s with counters.passthroughBytes := s.counters.passthroughBytes + 1 }

def countCommand (s : Session) : Session :=
  { s with counters.commands := s.counters.commands + 1 }

def countUnknown (s : Session) : Session :=
  { s with counters.unknownCommands := s.counters.unknownCommands + 1 }

def countRejected (s : Session) : Session :=
  { s with counters.rejectedCommands := s.counters.rejectedCommands + 1 }

end Session

/-- What became of one byte. -/
inductive Handled
  | passthrough
  | frameStart
  /-- A frame was complete; its command, if the code is known. -/
  | dispatched (command : Option Command)
  deriving DecidableEq, Repr

end MemoryBridge
