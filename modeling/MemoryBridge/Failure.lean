import MemoryBridge.Config.Reading

/-!
# Failures of the bridge

Why the bridge does not start, or has stopped without being asked to.
-/

namespace MemoryBridge

inductive Failure
  /-- A file or another local resource failed. -/
  | io (fault : Fault)
  /-- A serial port could not be opened or set up. -/
  | serial (fault : PortFault)
  /-- The passthrough sink takes no more data. -/
  | sink (fault : Fault)
  /-- A setting is one that the bridge cannot run with. -/
  | settings (reason : String)
  /-- The configuration file cannot be read. -/
  | file (fault : ConfigFault)
  /-- The poll loop broke down. -/
  | pollerLost
  /-- The bridge was stopped while it waited for the device. -/
  | stopped
  deriving DecidableEq, Repr

namespace Failure

/-- The failure of a configuration that the bridge cannot run with. -/
def ofProblem (p : ConfigProblem) : Failure := .settings p.message

def message : Failure → String
  | .io fault => "I/O error: " ++ fault.text
  | .serial fault => "serial port error: " ++ fault.text
  | .sink fault => "passthrough sink error: " ++ fault.text
  | .settings reason => "invalid configuration: " ++ reason
  | .file .malformed => "failed to parse configuration"
  | .file (.misfit m) => "failed to parse configuration: " ++ m.message
  | .pollerLost => "poll thread panicked"
  | .stopped => "shutdown requested"

end Failure

end MemoryBridge
