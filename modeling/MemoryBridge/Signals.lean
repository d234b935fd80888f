/-!
# Stop signals

A stop signal is a flag that is raised once and for all. Several handles may share one signal.
-/

namespace MemoryBridge

/-- The signals that exist and the handles on them. -/
structure Signals where
  /-- Whether each signal was raised. -/
  raised : List Bool := []
  /-- The signal that each handle stands for. -/
  handles : List Nat := []
  deriving DecidableEq, Repr

namespace Signals

/-- A handle on a signal of its own, not raised. -/
def new (s : Signals) : Signals :=
  { raised := s.raised ++ [false], handles := s.handles ++ [s.raised.length] }

/-- Another handle on the signal of `handle`. -/
def clone (s : Signals) (handle : Nat) : Signals :=
  match s.handles[handle]? with
  | none => s
  | some signal => { s with handles := s.handles ++ [signal] }

def trigger (s : Signals) (handle : Nat) : Signals :=
  match s.handles[handle]? with
  | none => s
  | some signal => { s with raised := s.raised.set signal true }

def isTriggered (s : Signals) (handle : Nat) : Bool :=
  match s.handles[handle]? with
  | none => false
  | some signal => s.raised.getD signal false

/-- Whether a sleep of any length is completed when nobody raises the signal meanwhile. -/
def sleeps (s : Signals) (handle : Nat) : Bool :=
  !s.isTriggered handle

end Signals

end MemoryBridge
