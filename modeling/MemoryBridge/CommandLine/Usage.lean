import MemoryBridge.Text.ByteNumeral
import MemoryBridge.Text.Shown

/-!
# Usage of the command line

The options that the command line knows, and the ways in which it can be wrong.
-/

namespace MemoryBridge

/-- An option that has a value. -/
inductive ValueOption
  | port
  | baud
  | initValue
  | pass
  | passBaud
  | config
  | logLevel
  deriving DecidableEq, Repr

/-- An option that has none. -/
inductive Flag
  | ackInit
  | help
  | version
  deriving DecidableEq, Repr

namespace ValueOption

def all : List ValueOption := [.port, .baud, .initValue, .pass, .passBaud, .config, .logLevel]

def long : ValueOption → String
  | .port => "port"
  | .baud => "baud"
  | .initValue => "init-value"
  | .pass => "pass"
  | .passBaud => "passbaud"
  | .config => "config"
  | .logLevel => "log-level"

def short? : ValueOption → Option Char
  | .port => some 'p'
  | .baud => some 'b'
  | .initValue => some 'i'
  | .pass => some 'l'
  | .passBaud => some 'r'
  | .config => some 'c'
  | .logLevel => none

/-- What the value of an option is called. -/
def valueName : ValueOption → String
  | .port => "PORT"
  | .baud => "BAUD"
  | .initValue => "INIT_VALUE"
  | .pass => "PASS"
  | .passBaud => "PASS_BAUD"
  | .config => "CONFIG"
  | .logLevel => "LOG_LEVEL"

def describe (o : ValueOption) : String := "--" ++ o.long ++ " <" ++ o.valueName ++ ">"

end ValueOption

namespace Flag

def all : List Flag := [.ackInit, .help, .version]

def long : Flag → String
  | .ackInit => "ack-init"
  | .help => "help"
  | .version => "version"

def short? : Flag → Option Char
  | .ackInit => none
  | .help => some 'h'
  | .version => some 'V'

def describe (f : Flag) : String := "--" ++ f.long

end Flag

/-- Why a text is no value of an option. -/
inductive ValueFault
  | numeral (fault : NumeralFault)
  /-- A baud rate has 32 bits. -/
  | outOfRange (n : Int)
  | byte (fault : ByteNumeralFault)
  deriving DecidableEq, Repr

def ValueFault.message : ValueFault → String
  | .numeral fault => fault.message
  | .outOfRange n => toString n ++ " is not in 0..=4294967295"
  | .byte fault => fault.message

/-- What is wrong with a command line. -/
inductive UsageError
  /-- An argument that is neither an option nor the value of one. -/
  | unexpected (argument : String)
  | valueMissing (option : ValueOption)
  | valueInvalid (option : ValueOption) (value : String) (fault : ValueFault)
  | optionRepeated (option : ValueOption)
  | flagRepeated (flag : Flag)
  | valueUnwanted (flag : Flag) (value : String)
  deriving DecidableEq, Repr

namespace UsageError

/-- A part of a message that a terminal shows in bold. -/
def bold (t : String) : String := "\x1b[1m" ++ t ++ "\x1b[0m"

/-- What is wrong, in the words for a terminal. -/
def explanation : UsageError → String
  | .unexpected argument => "unexpected argument '" ++ bold argument ++ "' found"
  | .valueMissing option =>
    "a value is required for '" ++ bold option.describe ++ "' but none was supplied"
  | .valueInvalid option value fault =>
    "invalid value '" ++ bold value ++ "' for '" ++ bold option.describe ++ "': " ++ fault.message
  | .optionRepeated option =>
    "the argument '" ++ bold option.describe ++ "' cannot be used multiple times"
  | .flagRepeated flag =>
    "the argument '" ++ bold flag.describe ++ "' cannot be used multiple times"
  | .valueUnwanted flag value =>
    "unexpected value '" ++ bold value ++ "' for '" ++ bold flag.describe ++
      "' found; no more were expected"

/-- The whole message for a terminal: what is wrong, and a hint. -/
def terminalText (e : UsageError) : String :=
  bold "error:" ++ " " ++ e.explanation ++ "\n\nFor more information, try '" ++
    bold "--help" ++ "'.\n"

/-- The message as far as it shows. What was typed is part of it, and may hide what follows. -/
def message (reader : Shown.Reader) (e : UsageError) : String := Shown.visible reader e.terminalText

end UsageError

/-- What a command line asks for instead of a run. -/
inductive Request
  | help
  | version
  | correction (error : UsageError)
  deriving DecidableEq, Repr

end MemoryBridge
