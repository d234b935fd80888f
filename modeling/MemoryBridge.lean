import MemoryBridge.Bridge
import MemoryBridge.Lines
import MemoryBridge.Main
import MemoryBridge.Proofs.Atomicity
import MemoryBridge.Proofs.Bracketing
import MemoryBridge.Proofs.Counting
import MemoryBridge.Proofs.Delivery
import MemoryBridge.Proofs.Exhausting
import MemoryBridge.Proofs.Flushing
import MemoryBridge.Proofs.Fragments
import MemoryBridge.Proofs.Handoff
import MemoryBridge.Proofs.Isolation
import MemoryBridge.Proofs.Lines
import MemoryBridge.Proofs.Numerals
import MemoryBridge.Proofs.Opening
import MemoryBridge.Proofs.Payload
import MemoryBridge.Proofs.Pool.History
import MemoryBridge.Proofs.Pulling
import MemoryBridge.Proofs.Requests
import MemoryBridge.Proofs.Skipping
import MemoryBridge.Proofs.Slicing
import MemoryBridge.Proofs.Stopping
import MemoryBridge.Proofs.Tracing.Mode
import MemoryBridge.Proofs.Wire
import MemoryBridge.Rehearsal.FileTree
import MemoryBridge.Rehearsal.World
import MemoryBridge.Serial
import MemoryBridge.Signals
import MemoryBridge.Text.Line
