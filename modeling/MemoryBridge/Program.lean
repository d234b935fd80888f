import MemoryBridge.CommandLine
import MemoryBridge.Failure
import MemoryBridge.LogFilter.Reading
import MemoryBridge.Text.Shown

/-!
# The program

What the program does from its arguments up to the point where it serves the device, and how it ends
when there is no device. Files and ports are what the surroundings say they are.
-/

namespace MemoryBridge

/-- What the program can see of the system that it runs on. -/
structure Surroundings where
  /-- The bytes of a file. -/
  file : String → Except Fault ByteArray
  /-- Opens a port for the passthrough. -/
  port : String → Except PortFault Unit

/-- How the program ends. -/
inductive Outcome
  /-- It has answered a request and did not run. -/
  | answered (request : Request)
  /-- It broke down because it could not make out what to log. -/
  | brokeDown
  /-- It did not run. The failure is logged as an error, if errors are logged. -/
  | failed (failure : Failure) (logged : Bool)
  /-- It ran until its input ended. -/
  | finished
  deriving DecidableEq, Repr

namespace Program

/-- The name of the program, under which it also logs. -/
def name : String := "serram"

def version : String := "0.1.0"

/-- There is no file at a path. -/
def noSuchFile : Fault := ⟨.notFound, "No such file or directory (os error 2)"⟩

/-- A file is no text. -/
def notText : Fault := ⟨.invalidData, "stream did not contain valid UTF-8"⟩

/-- The configuration in the bytes of a file. -/
def configOfFile (file : Except Fault ByteArray) : Except Failure Config :=
  match file with
  | .error fault => .error (.io fault)
  | .ok bytes =>
    match String.fromUTF8? bytes with
    | none => .error (.io notText)
    | some text =>
      match Config.ofYaml text with
      | .ok c => .ok c
      | .error fault => .error (.file fault)

/-- The configuration that the options are put over: that of the file they name, or the defaults. -/
def baseConfig (world : Surroundings) (o : Options) : Except Failure Config :=
  match o.configPath with
  | none => .ok {}
  | some path => configOfFile (world.file path)

/-- The configuration of a run. -/
def config (world : Surroundings) (o : Options) : Except Failure Config := do
  let c := o.apply (← baseConfig world o)
  match c.check with
  | .ok () => .ok c
  | .error problem => .error (.ofProblem problem)

/-- Everything that can fail before the device is waited for. -/
def prepare (world : Surroundings) (o : Options) : Except Failure Unit := do
  let c ← config world o
  match c.passthrough with
  | none => .ok ()
  | some p =>
    match world.port p.port with
    | .ok () => .ok ()
    | .error fault => .error (.serial fault)

/-- The message by which a failure is logged. -/
def failureMessage : LogMessage := { target := name, fields := ["message"], level := .error }

/-- How the program ends where its device never appears. -/
def outcome (world : Surroundings) (arguments : List String) : Outcome :=
  match CommandLine.parse arguments with
  | .error request => .answered request
  | .ok o =>
    match LogFilter.ofText? o.logLevel with
    | none => .brokeDown
    | some filter =>
      match prepare world o with
      | .ok () => .finished
      | .error failure => .failed failure (filter.shows failureMessage)

end Program

/-- What the program answers to the system when it ends. -/
def Outcome.exitCode : Outcome → UInt32
  | .answered (.correction _) => 2
  | .answered _ => 0
  | .brokeDown => 101
  | .failed .. => 1
  | .finished => 0

end MemoryBridge
