import MemoryBridge.Stream.Source
import MemoryBridge.Stream.Sink

/-!
# Links to the device

A link is a source and a sink of bytes with two read modes. In poll mode a read answers almost
at once when nothing is pending; in blocking mode it waits for the device, up to a command
timeout. Commands are handled in blocking mode, and the link goes back to poll mode when the
command ends, however it ends.
-/

namespace MemoryBridge

/-- How long a read waits for the device. -/
inductive ReadMode
  | poll
  | blocking
  deriving DecidableEq, Repr

/-- A two-way byte stream to the device, over states `σ`. -/
structure Link (σ : Type) extends Source σ, Sink σ where
  setMode : ReadMode → EStateM Fault σ Unit

namespace Link

variable {σ : Type} {R : σ → σ → Prop}

/-- Enters blocking mode for the time of one command. -/
def enterBlocking (link : Link σ) : EStateM Fault σ Unit :=
  link.setMode .blocking

/-- Goes back to poll mode. A link that refuses is left as it is, and nobody is told. -/
def leaveBlocking (link : Link σ) (s : σ) : σ :=
  endState (link.setMode .poll s)

/-- Every single operation of `link` moves its state along `R`. -/
structure Keeps (R : σ → σ → Prop) (link : Link σ) : Prop where
  read : ∀ n, Moves R (link.read n)
  write : ∀ bs, Moves R (link.write bs)
  flush : Moves R link.flush
  setMode : ∀ mode, Moves R (link.setMode mode)

end Link

/-- Every single operation of `sink` moves its state along `R`. -/
structure Sink.Keeps {σ : Type} (R : σ → σ → Prop) (sink : Sink σ) : Prop where
  write : ∀ bs, Moves R (sink.write bs)
  flush : Moves R sink.flush

end MemoryBridge
