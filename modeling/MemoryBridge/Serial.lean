import MemoryBridge.Rehearsal.Memory

/-!
# Serial ports

A serial link is a port whose read timeout is set to the poll timeout or to the command timeout, as
the read mode wants it. Nothing is known of the port itself but what can be done with it: it is an
argument of the link.

`SerialPort` is a port for rehearsals. It keeps its data in a memory link and can be told which
settings of the timeout fail.
-/

namespace MemoryBridge

/-- Why a port refused an operation. -/
inductive PortFaultKind
  | noDevice
  | invalidInput
  | unknown
  | fault (kind : FaultKind)
  deriving DecidableEq, Repr

/-- The kind of fault that the link reports for it. -/
def PortFaultKind.toFaultKind : PortFaultKind → FaultKind
  | .noDevice => .notFound
  | .invalidInput => .invalidInput
  | .unknown => .other
  | .fault kind => kind

/-- A port refused an operation. -/
structure PortFault where
  kind : PortFaultKind
  text : String
  deriving DecidableEq, Repr

def PortFault.toFault (f : PortFault) : Fault := ⟨f.kind.toFaultKind, f.text⟩

/-- There is nothing at the path of the port. -/
def PortFault.missing : PortFault := ⟨.noDevice, "No such file or directory"⟩

/-- How a port is named to people. -/
def SerialPort.target (path : String) (baud : Nat) : String :=
  path ++ " @ " ++ toString baud ++ " baud"

/-- The timeouts of the two read modes, in milliseconds. -/
structure SerialTimeouts where
  poll : Nat
  command : Nat
  deriving DecidableEq, Repr

namespace SerialTimeouts

def ofMode (t : SerialTimeouts) : ReadMode → Nat
  | .poll => t.poll
  | .blocking => t.command

end SerialTimeouts

/-! ## Ports as links -/

/-- What can be done with an open port, over states `σ`: read, write, flush, and set the timeout of
reads in milliseconds. -/
structure Port (σ : Type) extends Source σ, Sink σ where
  setTimeout : Nat → EStateM PortFault σ Unit

namespace Port

variable {σ : Type}

/-- Takes a port over, in poll mode. -/
def claim (port : Port σ) (t : SerialTimeouts) : EStateM PortFault σ Unit :=
  port.setTimeout t.poll

def setMode (port : Port σ) (t : SerialTimeouts) (mode : ReadMode) :
    EStateM Fault σ Unit := fun s =>
  match port.setTimeout (t.ofMode mode) s with
  | .ok () u => .ok () u
  | .error f u => .error f.toFault u

/-- A port with two timeouts as a link. -/
def link (port : Port σ) (t : SerialTimeouts) : Link σ :=
  { port with setMode := port.setMode t }

end Port

/-! ## A port in memory -/

/-- A port for rehearsals. -/
structure SerialPort where
  line : MemoryLink := {}
  /-- The timeouts set so far, in milliseconds. -/
  timeouts : Array Nat := #[]
  /-- For each setting of the timeout in turn, whether it fails. -/
  timeoutFaults : List (Option PortFault) := []

namespace SerialPort

variable {α : Type}

def setTimeout (ms : Nat) : EStateM PortFault SerialPort Unit := fun p =>
  match p.timeoutFaults with
  | some f :: rest => .error f { p with timeoutFaults := rest }
  | none :: rest => .ok () { p with timeoutFaults := rest, timeouts := p.timeouts.push ms }
  | [] => .ok () { p with timeouts := p.timeouts.push ms }

def onLine (act : EStateM Fault MemoryLink α) : EStateM Fault SerialPort α := fun p =>
  match act p.line with
  | .ok a l => .ok a { p with line := l }
  | .error f l => .error f { p with line := l }

theorem onLine_ok {act : EStateM Fault MemoryLink α} {p q : SerialPort} {a : α}
    (h : onLine act p = .ok a q) : ∃ l, act p.line = .ok a l ∧ q = { p with line := l } := by
  unfold onLine at h
  split at h <;> simp only [EStateM.Result.ok.injEq, reduceCtorEq] at h
  rename_i b l ha
  exact ⟨l, h.1 ▸ ha, h.2.symm⟩

theorem onLine_error {act : EStateM Fault MemoryLink α} {p q : SerialPort} {f : Fault}
    (h : onLine act p = .error f q) : ∃ l, act p.line = .error f l ∧ q = { p with line := l } := by
  unfold onLine at h
  split at h <;> simp only [EStateM.Result.error.injEq, reduceCtorEq] at h
  rename_i g l ha
  exact ⟨l, h.1 ▸ ha, h.2.symm⟩

def port : Port SerialPort where
  read := fun n => onLine (MemoryLink.read n)
  write := fun bs => onLine (MemoryLink.write bs)
  flush := onLine MemoryLink.flush
  setTimeout := setTimeout
  readPatience := fun p => p.line.weight
  writePatience := fun _ => 0
  read_length_le := fun h => by
    obtain ⟨l, hl, _⟩ := onLine_ok h
    exact MemoryLink.read_length_le hl
  read_interrupted := fun h hf => by
    obtain ⟨l, hl, rfl⟩ := onLine_error h
    exact MemoryLink.read_interrupted hl hf
  write_le_length := fun h => by
    obtain ⟨l, hl, _⟩ := onLine_ok h
    exact MemoryLink.write_le_length hl
  write_interrupted := fun h hf => by
    obtain ⟨l, hl, _⟩ := onLine_error h
    exact absurd hf (MemoryLink.write_not_interrupted hl)

def claim (t : SerialTimeouts) : EStateM PortFault SerialPort Unit :=
  port.claim t

def link (t : SerialTimeouts) : Link SerialPort :=
  port.link t

end SerialPort

end MemoryBridge
