import MemoryBridge.LogFilter.Pattern.Bracket
import MemoryBridge.Text.Alphanumeric

/-!
# Patterns of log filters

A log filter may compare fields with patterns, which are regular expressions. No field of this
program is ever compared, so all that matters of a pattern is whether it is well formed:
`LogPattern.isWellFormed`.

Patterns stand in braces, so a closing brace is never part of one. Counted repetitions and names in
braces therefore never end and are refused.
-/

namespace MemoryBridge.LogPattern

/-- How deeply the parts of a pattern may be nested. -/
def deepest : Nat := 250

/-! ## Groups -/

/-- What stands at the start of a group after a question mark. -/
structure GroupStart where
  flags : Flags
  /-- Whether flags are given at all. -/
  any : Bool
  /-- Whether they stand alone, without a group. -/
  alone : Bool
  rest : List Char
  deriving Repr

/-- Reads flags, up to what follows the colon or the parenthesis after them. Each may be given once,
and a minus sign, which turns off those after it, must not be the last. -/
def flags? (f : Flags) (negated : Bool) (seen : List Char) : List Char → Option GroupStart
  | [] => none
  | c :: cs =>
    if c == ':' || c == ')' then
      if seen.head? == some '-' then none
      else some { flags := f, any := !seen.isEmpty, alone := c == ')', rest := cs }
    else if c ∈ seen then none
    else
      match c with
      | '-' => flags? f true (c :: seen) cs
      | 'x' => flags? { f with verbose := !negated } negated (c :: seen) cs
      | 'i' => flags? { f with ignoresCase := !negated } negated (c :: seen) cs
      | 'u' => flags? { f with unicode := !negated } negated (c :: seen) cs
      | 'm' | 's' | 'U' | 'R' => flags? f negated (c :: seen) cs
      | _ => none

/-- The name of a group in angle brackets, and what follows it. -/
def groupName? (cs : List Char) : Option (List Char × List Char) :=
  let name := cs.takeWhile (· ≠ '>')
  match name, cs.drop name.length with
  | c :: more, _ :: rest =>
    let begins := c == '_' || Text.isAlphabetic c
    let goesOn :=
      more.all fun d => d == '_' || d == '.' || d == '[' || d == ']' || Text.isAlphanumeric d
    if begins && goesOn then some (name, rest) else none
  | _, _ => none

/-- A part of a pattern. -/
structure Part where
  /-- How deeply it is nested. -/
  nesting : Nat := 0
  repeatable : Bool := true
  deriving Repr

/-- A group that has begun, or the whole pattern. -/
structure OpenGroup where
  flags : Flags := {}
  /-- The parts of the alternative that has begun, the latest first. -/
  parts : List Part := []
  /-- How deeply the alternatives before it are nested. -/
  alternatives : List Nat := []
  deriving Repr

namespace OpenGroup

def add (g : OpenGroup) (p : Part) : OpenGroup := { g with parts := p :: g.parts }

def nextAlternative (g : OpenGroup) : OpenGroup :=
  { g with parts := [], alternatives := sideBySide (g.parts.map (·.nesting)) :: g.alternatives }

/-- How deeply all alternatives are nested. -/
def nesting (g : OpenGroup) : Nat := sideBySide g.nextAlternative.alternatives

/-- Repeats the last part. -/
def repeatLast? (g : OpenGroup) : Option OpenGroup :=
  match g.parts with
  | p :: parts =>
    if p.repeatable then some { g with parts := { nesting := p.nesting + 1 } :: parts } else none
  | [] => none

end OpenGroup

/-! ## Patterns -/

/-- A pattern of which the beginning was read. -/
structure Progress where
  inner : OpenGroup := {}
  /-- The groups around the innermost one, from the inside out. -/
  outer : List OpenGroup := []
  /-- The names of groups. -/
  names : List (List Char) := []
  deriving Repr

namespace Progress

def add (p : Progress) (part : Part) : Progress := { p with inner := p.inner.add part }

def openGroup (p : Progress) (flags : Flags) : Progress :=
  { p with inner := { flags }, outer := p.inner :: p.outer }

def closeGroup? (p : Progress) : Option Progress :=
  match p.outer with
  | [] => none
  | g :: outer => some { p with inner := g.add { nesting := p.inner.nesting + 1 }, outer }

/-- After the start of a group, whose opening parenthesis was passed, and what follows. Flags that
stand alone hold up to the end of the group around them. -/
def startGroup? (p : Progress) (cs : List Char) : Option (Progress × List Char) :=
  let f := p.inner.flags
  let named (cs : List Char) : Option (Progress × List Char) := do
    let (name, rest) ← groupName? cs
    if name ∈ p.names then none else some ({ p.openGroup f with names := name :: p.names }, rest)
  match skipBlanks f.verbose false cs with
  | '?' :: 'P' :: '<' :: rest => named rest
  | '?' :: '<' :: rest => named rest
  | '?' :: rest => do
    let start ← flags? f false [] rest
    if !start.alone then some (p.openGroup start.flags, start.rest)
    else if start.any then
      some ({ p with inner := { p.inner with flags := start.flags }.add { repeatable := false } },
        start.rest)
    else none
  | rest => some (p.openGroup f, rest)

end Progress

/-- Whether a pattern goes on well. Each step passes a character, so `fuel` is not used up. -/
def goesOn : Nat → Progress → List Char → Bool
  | 0, _, _ => false
  | fuel + 1, p, cs =>
    let f := p.inner.flags
    match skipBlanks f.verbose false cs with
    | [] => p.outer.isEmpty && p.inner.nesting ≤ deepest
    | '(' :: rest =>
      match p.startGroup? rest with
      | some (p, rest) => goesOn fuel p rest
      | none => false
    | ')' :: rest =>
      match p.closeGroup? with
      | some p => goesOn fuel p rest
      | none => false
    | '|' :: rest => goesOn fuel { p with inner := p.inner.nextAlternative } rest
    | '[' :: rest =>
      match (enterClass? f rest).bind fun (k, rest) => class? f (rest.length + 1) k [] rest with
      | some (nesting, rest) => goesOn fuel (p.add { nesting }) rest
      | none => false
    | '\\' :: rest =>
      match escape? f.verbose rest with
      | some (e, rest) => e.isAllowed f && goesOn fuel (p.add {}) rest
      | none => false
    | '\x7b' :: _ => false
    | '.' :: rest => f.unicode && goesOn fuel (p.add {}) rest
    | c :: rest =>
      if c == '?' || c == '*' || c == '+' then
        match p.inner.repeatLast? with
        | some inner =>
          goesOn fuel { p with inner } (if rest.head? == some '?' then rest.drop 1 else rest)
        | none => false
      else (c == '^' || c == '$' || f.allowsLiteral c.toNat false) && goesOn fuel (p.add {}) rest

/-- Whether a text is a decimal: digits with a point among them or around them, and
perhaps an exponent. -/
def isDecimal (cs : List Char) : Bool :=
  let whole := cs.takeWhile Char.isDigit
  let rest := cs.drop whole.length
  let fraction := if rest.head? == some '.' then (rest.drop 1).takeWhile Char.isDigit else []
  let rest := if rest.head? == some '.' then rest.drop (fraction.length + 1) else rest
  let exponent (ds : List Char) : Bool := !ds.isEmpty && ds.all Char.isDigit
  !(whole.isEmpty && fraction.isEmpty) &&
    match rest with
    | [] => true
    | e :: '-' :: ds => (e == 'e' || e == 'E') && exponent ds
    | e :: '+' :: ds => (e == 'e' || e == 'E') && exponent ds
    | e :: ds => (e == 'e' || e == 'E') && exponent ds

/-- Whether a text is a number with a plus sign, which as a pattern would repeat nothing. -/
def isPositiveNumber : List Char → Bool
  | '+' :: cs => isDecimal cs || String.ofList (cs.map Char.toLower) ∈ ["inf", "infinity", "nan"]
  | _ => false

/-- Whether fields can be compared with a text: a pattern, or a number. -/
def isWellFormed (cs : List Char) : Bool :=
  isPositiveNumber cs || goesOn (cs.length + 1) {} cs

end MemoryBridge.LogPattern
