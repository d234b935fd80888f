import MemoryBridge.Session.Basic
import MemoryBridge.Link

/-!
# Serving the device

`Session.dispatch` carries out one command over a link and `Session.processByte` handles one byte of
the stream. Both move a session together with the world that its link and sink live in, and both
keep what they did when they fail.

A command that is not allowed in the present state is rejected, not failed: its payload is read all
the same, so that the byte after it is again the first byte of a message.
-/

namespace MemoryBridge

/-- A session in the world that its link and sink live in. -/
structure Serving (σ : Type) where
  session : Session
  world : σ

/-- A step of serving, which may fail and keeps the state that it has reached. -/
abbrev Serve (σ α : Type) := EStateM ServeError (Serving σ) α

namespace Serve

variable {σ α : Type}

/-- Lets an operation act on the world and reports its fault by `wrap`. -/
def onWorld (wrap : Fault → ServeError) (act : EStateM Fault σ α) : Serve σ α := fun st =>
  match act st.world with
  | .ok a w => .ok a { st with world := w }
  | .error f w => .error (wrap f) { st with world := w }

/-- An operation of the link. -/
def onLink (act : EStateM Fault σ α) : Serve σ α := onWorld .transport act

/-- An operation of the passthrough sink. -/
def onSink (act : EStateM Fault σ α) : Serve σ α := onWorld .sink act

def session : Serve σ Session := fun st => .ok st.session st

def update (f : Session → Session) : Serve σ Unit := fun st =>
  .ok () { st with session := f st.session }

/-- Goes on with the outcome of a check. -/
def check (wrap : ε → ServeError) : Except ε α → Serve σ α
  | .ok a => pure a
  | .error e => throw (wrap e)

/-- Runs `body` with the link in blocking mode and leaves that mode whatever comes of it. -/
def bracket (link : Link σ) (body : Serve σ α) : Serve σ α := fun st =>
  match onLink link.enterBlocking st with
  | .error e st => .error e st
  | .ok () st =>
    match body st with
    | .ok a st => .ok a { st with world := link.leaveBlocking st.world }
    | .error e st => .error e { st with world := link.leaveBlocking st.world }

end Serve

namespace Session

open Serve

variable {σ : Type}

/-- The largest length that a reply can state. -/
def clampLength (n : Nat) : Int32 :=
  Int32.ofNat (min n 2147483647)

def handleInit (link : Link σ) : Serve σ Unit := do
  update fun s => { s with initialized := true, pool := none }
  let s ← session
  if s.config.ackInit then onLink (link.writeAll s.handshakeFrame)

def handleInitPool (link : Link σ) : Serve σ Unit := do
  let size ← onLink (Wire.readInt link.toSource)
  if (← session).initialized then
    if 0 ≤ size.toInt then
      update fun s => { s with pool := some (.zeros size.toInt.toNat) }
    else throw (.invalidPoolSize size)
  else update countRejected

def handleRead (link : Link σ) : Serve σ Unit := do
  let index ← onLink (Wire.readInt link.toSource)
  let size ← onLink (Wire.readInt link.toSource)
  match (← session).pool with
  | none => update countRejected
  | some pool =>
    let data ← check .pool (pool.read index size)
    onLink (link.writeAll data)

/-- The range is checked before the data is read. Data for a pool that does not exist is read and
dropped. -/
def handleWrite (link : Link σ) : Serve σ Unit := do
  let index ← onLink (Wire.readInt link.toSource)
  let size ← onLink (Wire.readInt link.toSource)
  match (← session).pool with
  | none =>
    update countRejected
    onLink (link.discard size.toInt.toNat)
  | some pool =>
    let range ← check .pool (pool.range index.toInt size.toInt)
    let data ← onLink (link.readExact range.length)
    let written ← check .pool (pool.write index data)
    update fun s => { s with pool := some written }

def handleInputAvailable (link : Link σ) : Serve σ Unit := do
  onLink (Wire.writeInt link.toSink (clampLength (← session).mailbox.length))

/-- The bytes leave the mailbox before they are sent. A negative request asks for none. -/
def handleInputRequest (link : Link σ) : Serve σ Unit := do
  let requested ← onLink (Wire.readInt link.toSource)
  let (bytes, rest) := (← session).mailbox.drain requested.toInt.toNat
  update fun s => { s with mailbox := rest }
  onLink (Wire.writeInt link.toSink (clampLength bytes.length))
  onLink (link.writeAll bytes)

/-- Flag of an `inputPeek` reply for an empty mailbox. -/
def peekEmpty : UInt8 := 0

/-- Flag of an `inputPeek` reply that is followed by a byte. -/
def peekPresent : UInt8 := 1

def handleInputPeek (link : Link σ) : Serve σ Unit := do
  match (← session).mailbox.peek with
  | some b => onLink (link.writeAll [peekPresent, b])
  | none => onLink (link.writeAll [peekEmpty])

def handlePing (link : Link σ) : Serve σ Unit := do
  onLink (link.writeAll (Command.ping.frame (← session).config.initValue))

/-- Carries out `command`, without the flush that ends its reply. -/
def handle (link : Link σ) (command : Command) : Serve σ Unit :=
  match command with
  | .init => handleInit link
  | .initPool => handleInitPool link
  | .read => handleRead link
  | .write => handleWrite link
  | .inputAvailable => handleInputAvailable link
  | .inputRequest => handleInputRequest link
  | .inputPeek => handleInputPeek link
  | .ping => handlePing link

/-- Carries out the command with the given code. An unknown code is counted and has no payload. -/
def carryOut (link : Link σ) (code : UInt8) : Serve σ (Option Command) := do
  match Command.ofCode? code with
  | none =>
    update countUnknown
    return none
  | some command =>
    handle link command
    onLink link.flush
    update countCommand
    return some command

/-- Carries out the command with the given code in blocking mode. -/
def dispatch (link : Link σ) (code : UInt8) : Serve σ (Option Command) :=
  bracket link (carryOut link code)

/-- Handles one byte from the device. The framing moves on first, so a byte that fails is not seen
again. -/
def processByte (link : Link σ) (sink : Sink σ) (b : UInt8) : Serve σ Handled := do
  let s ← session
  let (event, next) := s.framing.classify s.config.initValue b
  update fun s => { s with framing := next }
  match event with
  | .passthrough b =>
    onSink (sink.writeAll [b])
    update countPassthrough
    return .passthrough
  | .frameStart => return .frameStart
  | .command code => return .dispatched (← dispatch link code)

end Session

end MemoryBridge
