import MemoryBridge.Connection
import MemoryBridge.Serial

/-!
# Configuration

What the bridge needs to know before it can run. Every setting has a default. `Config.check` refuses
settings with which the bridge could only fail later on.
-/

namespace MemoryBridge

/-- The baud rate of a port for which none is given. -/
def defaultBaud : UInt32 := 115200

/-- A second serial port, which takes the place of the console. -/
structure Passthrough where
  port : String
  baud : UInt32 := defaultBaud
  deriving DecidableEq, Repr

/-- All settings. Delays and timeouts are in milliseconds. -/
structure Config where
  /-- The serial port of the device. -/
  port : String := "/dev/ttyACM0"
  baud : UInt32 := defaultBaud
  /-- The byte that opens a control frame. -/
  initValue : UInt8 := 0xFF
  passthrough : Option Passthrough := none
  reconnectDelay : UInt64 := 500
  settleDelay : UInt64 := 1000
  handshakeInterval : UInt64 := 500
  pollTimeout : UInt64 := 10
  commandTimeout : UInt64 := 2000
  /-- Whether `init` is answered with an `init` frame. -/
  ackInit : Bool := false
  deriving DecidableEq, Repr

/-- Why the bridge cannot run with a configuration. -/
inductive ConfigProblem
  | noPort
  | zeroBaud
  | zeroCommandTimeout
  | zeroPassthroughBaud
  | samePort (port : String)
  deriving DecidableEq, Repr

def ConfigProblem.message : ConfigProblem → String
  | .noPort => "serial port must not be empty"
  | .zeroBaud => "baud rate must be positive"
  | .zeroCommandTimeout => "command timeout must be positive"
  | .zeroPassthroughBaud => "passthrough baud rate must be positive"
  | .samePort port => "passthrough port " ++ port ++ " is the device port"

namespace Config

/-- A passthrough port must have a baud rate and must not be the port of the device. -/
def checkPassthrough (c : Config) : Except ConfigProblem Unit :=
  match c.passthrough with
  | none => .ok ()
  | some p =>
    if p.baud = 0 then .error .zeroPassthroughBaud
    else if p.port = c.port then .error (.samePort p.port)
    else .ok ()

/-- The first problem with a configuration, if there is one. -/
def check (c : Config) : Except ConfigProblem Unit :=
  if c.port.isEmpty then .error .noPort
  else if c.baud = 0 then .error .zeroBaud
  else if c.commandTimeout = 0 then .error .zeroCommandTimeout
  else c.checkPassthrough

/-- Whether the byte that opens a control frame is common in console text: a visible ASCII
character, a space, a tab, a line feed, a form feed or a carriage return. -/
def initValueIsText (c : Config) : Bool :=
  let b := c.initValue.toNat
  (0x20 ≤ b && b ≤ 0x7E) || b == 0x09 || b == 0x0A || b == 0x0C || b == 0x0D

def timing (c : Config) : Timing :=
  { reconnectDelay := c.reconnectDelay.toNat, settleDelay := c.settleDelay.toNat,
    handshakeInterval := c.handshakeInterval.toNat }

def sessionConfig (c : Config) : SessionConfig :=
  { initValue := c.initValue, ackInit := c.ackInit }

def serialTimeouts (c : Config) : SerialTimeouts :=
  { poll := c.pollTimeout.toNat, command := c.commandTimeout.toNat }

/-- How the port of the device is named to people. -/
def target (c : Config) : String :=
  SerialPort.target c.port c.baud.toNat

end Config

end MemoryBridge
