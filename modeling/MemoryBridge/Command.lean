import MemoryBridge.Fault

/-!
# Commands

The second byte of a control frame names a command. Eight codes are known; `ofCode?` and `code` are
inverse to each other on them.
-/

namespace MemoryBridge

/-- What the device may ask for. -/
inductive Command
  /-- The device has started; no payload. -/
  | init
  /-- A new pool; payload: its size. -/
  | initPool
  /-- Bytes from the pool; payload: index and size. -/
  | read
  /-- Bytes into the pool; payload: index, size and as many bytes. -/
  | write
  /-- The length of the mailbox; no payload. -/
  | inputAvailable
  /-- Bytes from the front of the mailbox; payload: how many at most. -/
  | inputRequest
  /-- The byte at the front of the mailbox; no payload. -/
  | inputPeek
  /-- A sign of life; no payload. -/
  | ping
  deriving DecidableEq, Repr

namespace Command

/-- All commands in the order of their codes. -/
def all : List Command :=
  [.init, .initPool, .read, .write, .inputAvailable, .inputRequest, .inputPeek, .ping]

def code : Command → UInt8
  | .init => 0
  | .initPool => 1
  | .read => 2
  | .write => 3
  | .inputAvailable => 4
  | .inputRequest => 5
  | .inputPeek => 6
  | .ping => 7

def ofCode? (b : UInt8) : Option Command :=
  all.find? (·.code == b)

def name : Command → String
  | .init => "init"
  | .initPool => "initPool"
  | .read => "read"
  | .write => "write"
  | .inputAvailable => "inputAvailable"
  | .inputRequest => "inputRequest"
  | .inputPeek => "inputPeek"
  | .ping => "ping"

/-- The name with the code as two hexadecimal digits. -/
def describe (c : Command) : String :=
  c.name ++ " (0x0" ++ toString c.code.toNat ++ ")"

/-- The control frame that carries `c` when frames start with `initValue`. -/
def frame (initValue : UInt8) (c : Command) : Bytes :=
  [initValue, c.code]

theorem ofCode?_code (c : Command) : ofCode? c.code = some c := by
  cases c <;> rfl

theorem code_of_ofCode? {b : UInt8} {c : Command} (h : ofCode? b = some c) : c.code = b := by
  have := List.find?_some h
  simpa using this

end Command

end MemoryBridge
