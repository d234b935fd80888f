import MemoryBridge.Config

/-!
# Options

The settings that a user can give when the program starts. They win over those of a
configuration file.
-/

namespace MemoryBridge

structure Options where
  port : Option String := none
  baud : Option UInt32 := none
  initValue : Option UInt8 := none
  /-- The passthrough port. -/
  pass : Option String := none
  passBaud : Option UInt32 := none
  ackInit : Bool := false
  /-- The path of the configuration file. -/
  configPath : Option String := none
  logLevel : String := "info"
  deriving DecidableEq, Repr

namespace Options

/-- The passthrough port. A new port keeps the baud rate of the one that was there, and a baud rate
is used only if there is a port. -/
def passthrough (o : Options) (base : Option Passthrough) : Option Passthrough :=
  let chosen :=
    match o.pass with
    | none => base
    | some port => some { port, baud := (base.map (·.baud)).getD defaultBaud }
  match o.passBaud with
  | none => chosen
  | some baud => chosen.map fun p => { p with baud }

/-- A configuration with the options put over it. An option that is not given leaves its setting as
it is. -/
def apply (o : Options) (c : Config) : Config :=
  { c with
    port := o.port.getD c.port
    baud := o.baud.getD c.baud
    initValue := o.initValue.getD c.initValue
    passthrough := o.passthrough c.passthrough
    ackInit := o.ackInit || c.ackInit }

end Options

end MemoryBridge
