import MemoryBridge.Host
import MemoryBridge.Session.Motion

/-!
# The connection to the device

A connection owns at most one link. `Connection.connect` gives up the present link and waits for a
new one; `Connection.update` is one polling tick: it asks for a handshake while none has come,
handles what the device has already sent, and starts over on a new link when the link fails or the
device breaks the protocol.

Only the passthrough sink and a stop during a reconnect end a tick with an error.
-/

namespace MemoryBridge

/-- Delays of a connection in milliseconds. -/
structure Timing where
  /-- Between two attempts to open the link. -/
  reconnectDelay : Nat
  /-- After the link is open, before it is used. Opening a port resets many boards. -/
  settleDelay : Nat
  /-- Between two requests for a handshake. -/
  handshakeInterval : Nat
  deriving DecidableEq, Repr

inductive Phase
  /-- No link, and none wanted yet. -/
  | disconnected
  /-- A link is wanted. -/
  | connecting
  /-- A link is open and the device has not said `init` on it. -/
  | handshaking
  /-- The device has said `init` on this link. -/
  | initialized
  deriving DecidableEq, Repr

def Phase.name : Phase → String
  | .disconnected => "disconnected"
  | .connecting => "connecting"
  | .handshaking => "handshaking"
  | .initialized => "initialized"

/-- A connection in its world. -/
structure Connection (σ : Type) extends Serving σ where
  timing : Timing
  link : Option LinkId := none
  phase : Phase := .disconnected
  /-- When the last handshake request was sent on this link. -/
  lastRequest : Option Nat := none
  /-- Whether handshakes are still asked for on this link. -/
  requesting : Bool := false
  /-- How often a link was given up for a new one. This and `handshakesSent` are natural numbers,
  which do not wrap. -/
  reconnects : Nat := 0
  handshakesSent : Nat := 0

/-- Most bytes that one tick polls. -/
def maxTickBytes : Nat := 4096

/-- Milliseconds after which a tick polls no further byte. -/
def maxTickMillis : Nat := 50

namespace Connection

variable {σ : Type}

/-! ## Connecting -/

/-- Gives up the link and all that was known about the device on it. -/
def dropLink (c : Connection σ) : Connection σ :=
  { c with link := none, session := c.session.resetLink, phase := .connecting }

/-- Waits for a link and lets it settle. -/
def connect (host : Host σ) : EStateM Host.Stopped (Connection σ) Unit := fun c =>
  let c := c.dropLink
  match host.awaitLink c.timing.reconnectDelay c.world with
  | .error e w => .error e { c with world := w }
  | .ok id w =>
    match host.sleep c.timing.settleDelay w with
    | (false, w) => .error ⟨⟩ { c with world := w }
    | (true, w) =>
      .ok () { c with
        world := w, link := some id, phase := .handshaking, lastRequest := none,
        requesting := true }

/-! ## One tick -/

/-- A step of a tick. -/
abbrev Tick (σ α : Type) := EStateM ServeError (Connection σ) α

/-- A step of serving as a step of a tick. -/
def serve {α : Type} (act : Serve σ α) : Tick σ α := fun c =>
  match act c.toServing with
  | .ok a st => .ok a { c with toServing := st }
  | .error e st => .error e { c with toServing := st }

/-- Whether a handshake has to be asked for now. -/
def requestDue (host : Host σ) (c : Connection σ) : Bool :=
  c.phase == .handshaking && c.requesting &&
    match c.lastRequest with
    | none => true
    | some sent => c.timing.handshakeInterval ≤ host.clock c.world - sent

def noteRequest (host : Host σ) (c : Connection σ) : Connection σ :=
  { c with lastRequest := some (host.clock c.world), handshakesSent := c.handshakesSent + 1 }

/-- Asks the device for a handshake if it is time to. -/
def requestHandshake (host : Host σ) (link : Link σ) : Tick σ Unit := do
  let c ← get
  if c.requestDue host then
    serve (Serve.onLink (link.writeAll c.session.handshakeFrame))
    serve (Serve.onLink link.flush)
    modify (noteRequest host)

/-- One byte, if the device has sent one. -/
def pollByte (link : Link σ) : Tick σ (Option UInt8) := fun c =>
  match link.read 1 c.world with
  | .ok bs w => .ok bs.head? { c with world := w }
  | .error f w =>
    if f.isIdle then .ok none { c with world := w } else .error (.transport f) { c with world := w }

/-- What a command of the device says about the connection. -/
def noteCommand (command : Command) (c : Connection σ) : Connection σ :=
  { c with requesting := false, phase := if command = .init then .initialized else c.phase }

/-- Handles one byte and draws the conclusions from its command. -/
def handleByte (host : Host σ) (link : Link σ) (b : UInt8) : Tick σ Unit := do
  match ← serve (Session.processByte link host.sink b) with
  | .dispatched (some command) => modify (noteCommand command)
  | _ => pure ()

/-- Whether a tick that began at `started` polls no further byte. -/
def tickOver (host : Host σ) (started : Nat) (c : Connection σ) : Bool :=
  maxTickMillis ≤ host.clock c.world - started || host.stopped c.world

/-- Handles up to the given number of bytes. -/
def pollBytes (host : Host σ) (link : Link σ) (started : Nat) : Nat → Tick σ Unit
  | 0 => pure ()
  | n + 1 => do
    match ← pollByte link with
    | none => pure ()
    | some b =>
      handleByte host link b
      if (← get).tickOver host started then pure () else pollBytes host link started n

/-- Polls a link and flushes what was passed through. -/
def poll (host : Host σ) (link : Link σ) : Tick σ Unit := do
  requestHandshake host link
  pollBytes host link (host.clock (← get).world) maxTickBytes
  serve (Serve.onSink host.sink.flush)

/-- Why a tick could not be completed. -/
inductive TickError
  /-- The passthrough sink failed. -/
  | sink (fault : Fault)
  /-- The world was stopped while a link was wanted. -/
  | stopped
  deriving DecidableEq, Repr

/-- `connect` as part of a tick. -/
def connectInTick (host : Host σ) : EStateM TickError (Connection σ) Unit := fun c =>
  match connect host c with
  | .ok () c => .ok () c
  | .error _ c => .error .stopped c

/-- Starts over on a new link. -/
def reconnect (host : Host σ) : EStateM TickError (Connection σ) Unit := fun c =>
  connectInTick host { c with link := none, phase := .disconnected, reconnects := c.reconnects + 1 }

/-- One tick. Without a link it connects. -/
def update (host : Host σ) : EStateM TickError (Connection σ) Unit := fun c =>
  match c.link with
  | none => connectInTick host c
  | some id =>
    match poll host (host.link id) c with
    | .ok () c => .ok () c
    | .error (.sink f) c => .error (.sink f) c
    | .error _ c => reconnect host c

end Connection

end MemoryBridge
