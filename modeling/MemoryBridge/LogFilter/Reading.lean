import MemoryBridge.LogFilter
import MemoryBridge.LogFilter.Pattern

/-!
# Reading log filters

The rules of a filter stand between commas. A rule is a level, a name, or a name and a
level with an equals sign between them; after the name may stand, in brackets, an activity
and, in braces, a field.

The blanks around a rule do not take part in reading it, but its words are cut out of the text with
the blanks by places that were counted without them. So a blank in front of a rule shifts its words.
A cut that goes through a character cannot be made.
-/

namespace MemoryBridge

/-- Why a text is no log filter. -/
inductive LogFilterFault
  | malformed
  /-- A word would begin or end inside of a character. -/
  | dividedCharacter
  deriving DecidableEq, Repr

namespace LogRule

abbrev Reading (α : Type) := Except LogFilterFault α

/-! ## Words -/

/-- The characters in the first `n` octets of a text, and those after them. -/
def divide : Nat → List Char → Reading (List Char × List Char)
  | 0, cs => .ok ([], cs)
  | _ + 1, [] => .error .dividedCharacter
  | n + 1, c :: cs =>
    if c.utf8Size ≤ n + 1 then
      match divide (n + 1 - c.utf8Size) cs with
      | .ok (before, after) => .ok (c :: before, after)
      | .error fault => .error fault
    else .error .dividedCharacter
termination_by _ cs => cs.length

/-- The part of a text from one octet up to another one. -/
def word (text : List Char) (start stop : Nat) : Reading (List Char) := do
  let (_, rest) ← divide start text
  let (word, _) ← divide (stop - start) rest
  return word

/-- The part of a text from an octet on. -/
def lastWord (text : List Char) (start : Nat) : Reading (List Char) := do
  let (_, rest) ← divide start text
  return rest

def orMalformed {α : Type} : Option α → Reading α
  | some a => .ok a
  | none => .error .malformed

/-- A level, where none at all logs everything. -/
def levelOf (word : List Char) : Reading LogLevel :=
  if word.isEmpty then .ok .trace else orMalformed (LogLevel.ofText? word)

/-- A field: a name, and after an equals sign a value. What follows a second equals sign is passed
over. -/
def fieldOf (word : List Char) : Reading LogField :=
  let name := word.takeWhile (· ≠ '=')
  if word.isEmpty then .error .malformed
  else
    match word.drop name.length with
    | [] => .ok { name, hasValue := false }
    | _ :: value =>
      if LogPattern.isWellFormed (value.takeWhile (· ≠ '=')) then .ok { name, hasValue := true }
      else .error .malformed

/-! ## Rules -/

/-- What is being read, and the place where it began. -/
inductive Stage
  | start
  | levelOrTarget (start : Nat)
  | activity (start : Nat)
  | field (start : Nat)
  | afterFields
  | afterBrackets
  | level (start : Nat)
  deriving DecidableEq, Repr

/-- A rule begins with a letter, a digit, a dash, a colon or an underscore, or with a bracket. -/
def beginsTarget (c : Char) : Bool := c == '-' || c == ':' || c == '_' || Text.isAlphanumeric c

/-- The stage after a character, which begins at octet `here`, and the rule as far as it is known
then. -/
def step (text : List Char) (here : Nat) (c : Char) (stage : Stage) (r : LogRule) :
    Reading (Stage × LogRule) :=
  match stage with
  | .start =>
    if c == '[' then .ok (.activity (here + 1), r)
    else if beginsTarget c then .ok (.levelOrTarget here, r)
    else .error .malformed
  | .levelOrTarget start =>
    if c == '=' then return (.level (here + 1), { r with target := ← word text start here })
    else if c == '[' then return (.activity (here + 1), { r with target := ← word text start here })
    else .ok (stage, r)
  | .activity start =>
    if c == ']' then return (.afterBrackets, { r with activity := some (← word text start here) })
    else if c == '\x7b' then do
      let name ← word text start here
      return (.field (here + 1), { r with activity := if name.isEmpty then none else some name })
    else .ok (stage, r)
  | .field start =>
    if c == '\x7d' then do
      let field ← fieldOf (← word text start here)
      return (.afterFields, { r with fields := r.fields ++ [field] })
    else .ok (stage, r)
  | .afterFields => if c == ']' then .ok (.afterBrackets, r) else .error .malformed
  | .afterBrackets => if c == '=' then .ok (.level (here + 1), r) else .error .malformed
  | .level _ => .ok (stage, r)

/-- The rule that ends in a stage. A name without a level logs everything. -/
def finish (text : List Char) (stage : Stage) (r : LogRule) : Reading LogRule :=
  match stage with
  | .levelOrTarget start => do
    let name ← lastWord text start
    match LogLevel.ofText? name with
    | some level => return { r with level }
    | none => return { r with target := name }
  | .level start => do
    let level ← levelOf (← lastWord text start)
    return { r with level }
  | .afterBrackets => .ok r
  | _ => .error .malformed

/-- The rest of a rule. -/
def readFrom (text : List Char) (here : Nat) (stage : Stage) (r : LogRule) :
    List Char → Reading LogRule
  | [] => finish text stage r
  | c :: cs =>
    match step text here c stage r with
    | .ok (stage, r) => readFrom text (here + c.utf8Size) stage r cs
    | .error fault => .error fault

def ofText (text : List Char) : Reading LogRule := readFrom text 0 .start {} (Text.trim text)

end LogRule

namespace LogFilter

/-- A text without rules logs nothing. -/
def ofRules (rules : List LogRule) : LogFilter :=
  if rules.isEmpty then [{ level := .off }] else rules

/-- The filter of a text that is none. -/
def standard : LogFilter := [{ level := .info }]

/-- The rules between the commas of a text. The first thing that is wrong with them counts. -/
def read (text : String) : Except LogFilterFault LogFilter := do
  let rules ← ((text.splitOn ",").filter fun t => !t.isEmpty).mapM fun t => LogRule.ofText t.toList
  return ofRules rules

/-- The filter that a text stands for. A text that is malformed stands for the standard filter; for
one that divides a character there is no filter. -/
def ofText? (text : String) : Option LogFilter :=
  match read text with
  | .ok f => some f
  | .error .malformed => some standard
  | .error .dividedCharacter => none

end LogFilter

end MemoryBridge
