import MemoryBridge.CommandLine.Usage
import MemoryBridge.Options

/-!
# The command line

Arguments are read from left to right. An option has its value attached to it, or takes the next
argument as its value if that does not begin with a dash. A value that is attached is looked at when
it is read; one that is an argument of its own waits until the next option or the end, and an
argument that is out of place is reported before a value that waits.
-/

namespace MemoryBridge

/-- An option whose value is an argument of its own, which may not have come yet. -/
structure PendingOption where
  option : ValueOption
  value : Option String := none
  deriving DecidableEq, Repr

/-- A command line of which the arguments so far are known. -/
structure CommandLine where
  options : Options := {}
  /-- The options with values that were read. -/
  given : List ValueOption := []
  pending : Option PendingOption := none
  deriving DecidableEq, Repr

namespace CommandLine

abbrev Step := Except Request CommandLine

/-! ## Values -/

def baudOf (value : String) : Except ValueFault UInt32 :=
  match Numeral.readInt 10 0x7fffffffffffffff 0x8000000000000000 value.toList with
  | .error fault => .error (.numeral fault)
  | .ok n => if 0 ≤ n ∧ n ≤ 0xffffffff then .ok (UInt32.ofNat n.toNat) else .error (.outOfRange n)

def byteOf (value : String) : Except ValueFault UInt8 :=
  match ByteNumeral.read value with
  | .error fault => .error (.byte fault)
  | .ok b => .ok b

/-- The options with a value added. A path must not be empty. -/
def assign (option : ValueOption) (value : String) (o : Options) : Except UsageError Options :=
  let checked {α : Type} (r : Except ValueFault α) (put : α → Options) :
      Except UsageError Options :=
    match r with
    | .ok a => .ok (put a)
    | .error fault => .error (.valueInvalid option value fault)
  match option with
  | .port => .ok { o with port := some value }
  | .baud => checked (baudOf value) fun baud => { o with baud := some baud }
  | .initValue => checked (byteOf value) fun b => { o with initValue := some b }
  | .pass => .ok { o with pass := some value }
  | .passBaud => checked (baudOf value) fun baud => { o with passBaud := some baud }
  | .config =>
    if value.isEmpty then .error (.valueMissing .config)
    else .ok { o with configPath := some value }
  | .logLevel => .ok { o with logLevel := value }

/-- Takes a value for an option, which may be given once. -/
def take (c : CommandLine) (option : ValueOption) (value : String) :
    Except UsageError CommandLine :=
  if option ∈ c.given then .error (.optionRepeated option)
  else
    match assign option value c.options with
    | .ok options => .ok { c with options, given := option :: c.given }
    | .error e => .error e

/-- Takes the value that waits. -/
def settle (c : CommandLine) : Except UsageError CommandLine :=
  match c.pending with
  | none => .ok c
  | some { value := none, option } => .error (.valueMissing option)
  | some { value := some value, option } => take { c with pending := none } option value

def orCorrect {α : Type} : Except UsageError α → Except Request α
  | .ok a => .ok a
  | .error e => .error (.correction e)

/-! ## Arguments -/

/-- An option, and its value if that is attached. -/
def onOption (c : CommandLine) (option : ValueOption) (attached : Option String) : Step := do
  let c ← orCorrect c.settle
  match attached with
  | some value => orCorrect (c.take option value)
  | none => .ok { c with pending := some { option } }

def onFlag (c : CommandLine) (flag : Flag) : Step := do
  let c ← orCorrect c.settle
  match flag with
  | .help => .error .help
  | .version => .error .version
  | .ackInit =>
    if c.options.ackInit then .error (.correction (.flagRepeated .ackInit))
    else .ok { c with options := { c.options with ackInit := true } }

/-- An argument that begins with two dashes, without them: a name, and a value after an equals
sign. -/
def onLong (c : CommandLine) (body : List Char) : Step :=
  let name := String.ofList (body.takeWhile (· ≠ '='))
  let attached :=
    match body.dropWhile (· ≠ '=') with
    | [] => none
    | _ :: value => some (String.ofList value)
  match ValueOption.all.find? fun o => o.long == name with
  | some option => c.onOption option attached
  | none =>
    match Flag.all.find? fun f => f.long == name, attached with
    | some flag, none => c.onFlag flag
    | some flag, some value => .error (.correction (.valueUnwanted flag value))
    | none, _ => .error (.correction (.unexpected ("--" ++ name)))

/-- An argument that begins with one dash, without it: a letter and perhaps a value, with or
without an equals sign. -/
def onShort (c : CommandLine) (letter : Char) (rest : List Char) : Step :=
  let attached :=
    match rest with
    | [] => none
    | '=' :: value => some (String.ofList value)
    | value => some (String.ofList value)
  match ValueOption.all.find? fun o => o.short? == some letter with
  | some option => c.onOption option attached
  | none =>
    match Flag.all.find? fun f => f.short? == some letter with
    | some flag => c.onFlag flag
    | none => .error (.correction (.unexpected (String.ofList ['-', letter])))

/-- An argument that is no option. -/
def onPlain (c : CommandLine) (argument : String) : Step :=
  match c.pending with
  | some { value := none, option } =>
    .ok { c with pending := some { option, value := some argument } }
  | _ => .error (.correction (.unexpected argument))

def onArgument (c : CommandLine) (argument : String) : Step :=
  match argument.toList with
  | '-' :: '-' :: body => c.onLong body
  | '-' :: letter :: rest => c.onShort letter rest
  | _ => c.onPlain argument

/-- Two dashes end the options, and nothing else may follow. -/
def run (c : CommandLine) : List String → Except Request Options
  | [] => do
    let c ← orCorrect c.settle
    return c.options
  | "--" :: argument :: _ => .error (.correction (.unexpected argument))
  | ["--"] => do
    let c ← orCorrect c.settle
    return c.options
  | argument :: rest => do
    let c ← c.onArgument argument
    c.run rest

/-- The options that the arguments of the program give. -/
def parse (arguments : List String) : Except Request Options :=
  run {} arguments

end CommandLine

end MemoryBridge
