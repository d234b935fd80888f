import MemoryBridge.Program

/-!
# Running the program

This build has no driver for serial ports, so no port is ever there: the program reads its input to
the end while it waits for the device.
-/

namespace MemoryBridge.Program

/-- The file at a path, or what the system says about it. -/
def readFile (path : String) : IO (Except Fault ByteArray) := do
  try
    return .ok (← IO.FS.readBinFile path)
  catch e =>
    match e with
    | .noFileOrDirectory .. => return .error noSuchFile
    | e => return .error ⟨.other, toString e⟩

/-- The options of the command line, one a line. -/
def usageText : String :=
  let line (short : Option Char) (description : String) : String :=
    "  " ++ ((short.map fun c => String.ofList ['-', c, ',', ' ']).getD "    ") ++ description
  String.intercalate "\n" (["Usage: " ++ name ++ " [OPTIONS]", "", "Options:"] ++
    (ValueOption.all.map fun o => line o.short? o.describe) ++
      (Flag.all.map fun f => line f.short? f.describe))

/-- Reads to the end of the input. -/
partial def awaitEnd (input : IO.FS.Stream) : IO Unit := do
  if (← input.read 4096).isEmpty then pure () else awaitEnd input

def run (arguments : List String) : IO UInt32 := do
  let file ←
    match CommandLine.parse arguments with
    | .ok { configPath := some path, .. } => readFile path
    | _ => pure (.error noSuchFile)
  let outcome := outcome { file := fun _ => file, port := fun _ => .error .missing } arguments
  match outcome with
  | .answered .help => IO.println usageText
  | .answered .version => IO.println (name ++ " " ++ version)
  | .answered (.correction e) => IO.eprint (e.message .stream)
  | .brokeDown => IO.eprintln "the log filter divides a character"
  | .failed failure logged => if logged then IO.eprintln (Text.logged failure.message)
  | .finished => awaitEnd (← IO.getStdin)
  return outcome.exitCode

end MemoryBridge.Program

def main (arguments : List String) : IO UInt32 :=
  MemoryBridge.Program.run arguments
