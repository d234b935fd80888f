import MemoryBridge.Text.Numeral

/-!
# Log filters

A log filter says up to which level the parts of a program are logged. It is a list of rules. A rule
can be about all parts or about those whose names begin in some way, about messages that have
certain fields, and about an activity that messages belong to. Of the rules that apply to a message
the most specific one counts: that with the longest name, of those the one with the most fields, and
of those the last one.
-/

namespace MemoryBridge

inductive LogLevel
  | off
  | error
  | warn
  | info
  | debug
  | trace
  deriving DecidableEq, Repr

namespace LogLevel

def all : List LogLevel := [.off, .error, .warn, .info, .debug, .trace]

def name : LogLevel → String
  | .off => "off"
  | .error => "error"
  | .warn => "warn"
  | .info => "info"
  | .debug => "debug"
  | .trace => "trace"

/-- The number of a level; a greater one logs more. -/
def rank (l : LogLevel) : Nat := all.idxOf l

/-- A level is written as its name, in letters of either case, or as its number. -/
def ofText? (text : List Char) : Option LogLevel :=
  match Numeral.readNat 10 5 text with
  | .ok n => all[n]?
  | .error _ => all.find? fun l => l.name.toList == text.map Char.toLower

end LogLevel

/-- A field that a rule wants messages to have. -/
structure LogField where
  name : List Char
  /-- Whether the rule also says what its value must be. -/
  hasValue : Bool
  deriving DecidableEq, Repr

structure LogRule where
  /-- The names of the parts that it is about begin like this. -/
  target : List Char := []
  /-- The activity that messages must belong to. -/
  activity : Option (List Char) := none
  fields : List LogField := []
  level : LogLevel := .trace
  deriving DecidableEq, Repr

/-- What a filter can tell of a message before it is written. -/
structure LogMessage where
  /-- The name of the part that writes it. -/
  target : String
  fields : List String
  level : LogLevel
  deriving DecidableEq, Repr

namespace LogRule

/-- Whether a rule applies to a message. A rule about an activity never does, since this program has
none, and neither does one about the value of a field. -/
def appliesTo (r : LogRule) (m : LogMessage) : Bool :=
  r.activity.isNone && r.target.isPrefixOf m.target.toList &&
    r.fields.all fun f => !f.hasValue && m.fields.any fun name => name.toList == f.name

/-- Whether a rule is at least as specific as another one. For rules that apply to one message,
those of equal measures are alike in all but the level. -/
def covers (r s : LogRule) : Bool :=
  s.target.length < r.target.length ||
    (s.target.length == r.target.length && s.fields.length ≤ r.fields.length)

end LogRule

abbrev LogFilter := List LogRule

namespace LogFilter

/-- The rule that counts for a message. -/
def ruleFor? (f : LogFilter) (m : LogMessage) : Option LogRule :=
  (f.filter fun r => r.appliesTo m).foldl (fun best r =>
    match best with
    | none => some r
    | some b => if r.covers b then some r else best) none

/-- Whether a message is logged. One to which no rule applies is not. -/
def shows (f : LogFilter) (m : LogMessage) : Bool :=
  match f.ruleFor? m with
  | none => false
  | some r => m.level.rank ≤ r.level.rank

end LogFilter

end MemoryBridge
