import MemoryBridge.LogFilter.Pattern.Escape

/-!
# Classes in brackets

A class lists characters, ranges of them, named classes and further classes in brackets, and
may join such lists by operators. What matters of a class is where it ends and how deeply
things are nested in it.
-/

namespace MemoryBridge.LogPattern

/-- How deeply things that stand side by side are nested. Two or more of them are one
level by themselves. -/
def sideBySide : List Nat → Nat
  | [] => 0
  | [n] => n
  | n :: ns => 1 + ns.foldl max n

/-- A class that has begun. -/
structure OpenClass where
  /-- How deeply each member after the last operator is nested. -/
  members : List Nat := []
  /-- How deeply what is in front of that operator is nested. -/
  left : Option Nat := none
  deriving Repr

namespace OpenClass

def add (k : OpenClass) (nesting : Nat) : OpenClass := { k with members := nesting :: k.members }

/-- How deeply the class so far is nested, its brackets left out. -/
def nesting (k : OpenClass) : Nat :=
  match k.left with
  | none => sideBySide k.members
  | some n => 1 + max n (sideBySide k.members)

/-- An operator joins all that is in front of it with what follows. -/
def join (k : OpenClass) : OpenClass := { left := some k.nesting }

end OpenClass

def classNames : List String :=
  ["alnum", "alpha", "ascii", "blank", "cntrl", "digit", "graph", "lower", "print", "punct",
    "space", "upper", "word", "xdigit"]

/-- Whether the named class whose opening bracket was passed is negated, and what follows it. -/
def namedClass? : List Char → Option (Bool × List Char)
  | ':' :: cs =>
    let negated := cs.head? == some '^'
    let cs := if negated then cs.drop 1 else cs
    let name := cs.takeWhile (· ≠ ':')
    match cs.drop name.length with
    | ':' :: ']' :: rest => if String.ofList name ∈ classNames then some (negated, rest) else none
    | _ => none
  | _ => none

/-- Dashes that stand for themselves. -/
def leadingDashes (verbose : Bool) (k : OpenClass) : List Char → OpenClass × List Char
  | '-' :: rest => leadingDashes verbose (k.add 0) (skipBlanks verbose false rest)
  | cs => (k, cs)
termination_by cs => cs.length
decreasing_by exact Nat.lt_succ_of_le (length_skipBlanks_le _ _ _)

/-- The start of a class whose opening bracket was passed, and what follows: perhaps a caret, and
then dashes or else a closing bracket that stand for themselves. -/
def enterClass? (f : Flags) (cs : List Char) : Option (OpenClass × List Char) :=
  let skip := skipBlanks f.verbose false
  let cs := skip cs
  let negated := cs.head? == some '^'
  let cs := if negated then skip (cs.drop 1) else cs
  let (k, cs) :=
    match cs with
    | ']' :: rest => (OpenClass.add {} 0, skip rest)
    | cs => leadingDashes f.verbose {} cs
  if negated && !f.unicode then none
  else if !k.members.isEmpty && !f.allowsMember '-'.toNat then none
  else some (k, cs)

/-- One member of a class, with its code if it is a single character. -/
def member? (f : Flags) : List Char → Option (Option Nat × List Char)
  | [] => none
  | '\\' :: cs =>
    match escape? f.verbose cs with
    | some (.literal code _, rest) => if f.allowsMember code then some (some code, rest) else none
    | some (.charClass negated, rest) => if f.unicode || negated then none else some (none, rest)
    | _ => none
  | c :: cs => if f.allowsMember c.toNat then some (some c.toNat, cs) else none

/-- What follows a member of a class, or a range of them. -/
def range? (f : Flags) (cs : List Char) : Option (List Char) := do
  let (first, rest) ← member? f cs
  match skipBlanks f.verbose false rest with
  | [] => none
  | '-' :: after =>
    match peek? f.verbose after with
    | some ']' | some '-' => some ('-' :: after)
    | _ =>
      let (last, rest) ← member? f (skipBlanks f.verbose false after)
      if (← first) ≤ (← last) then some rest else none
  | rest => some rest

/-- How deeply a class is nested, of which `k` has begun inside of the `outer` ones, and what
follows it. Each step passes a character, so `fuel` is not used up. -/
def class? (f : Flags) : Nat → OpenClass → List OpenClass → List Char → Option (Nat × List Char)
  | 0, _, _, _ => none
  | fuel + 1, k, outer, cs =>
    match skipBlanks f.verbose false cs with
    | [] => none
    | '[' :: rest =>
      match namedClass? rest with
      | some (negated, rest) =>
        if if f.unicode then f.ignoresCase else negated then none
        else class? f fuel (k.add 0) outer rest
      | none => (enterClass? f rest).bind fun (inner, rest) => class? f fuel inner (k :: outer) rest
    | ']' :: rest =>
      match outer with
      | [] => some (k.nesting + 1, rest)
      | o :: outer => class? f fuel (o.add (k.nesting + 1)) outer rest
    | '&' :: '&' :: rest => class? f fuel k.join outer rest
    | '-' :: '-' :: rest => class? f fuel k.join outer rest
    | '~' :: '~' :: rest => class? f fuel k.join outer rest
    | cs => (range? f cs).bind (class? f fuel (k.add 0) outer)

end MemoryBridge.LogPattern
