import MemoryBridge.Yaml.Scalar.Gap

/-!
# Block scalars

A block scalar begins with a line that says how it is meant, and goes on with lines of one
indentation. It keeps its lines as they are, or folds those that do not begin with a blank into one.
-/

namespace MemoryBridge.Yaml.BlockScalar

/-- Which of the last line breaks belong to the scalar. -/
inductive Chomping
  | strip
  | clip
  | keep
  deriving DecidableEq, Repr

structure Header where
  chomping : Chomping := .clip
  /-- How much further than the block around it the scalar is indented; zero if its first
  line is to show that. -/
  increment : Nat := 0
  deriving DecidableEq, Repr

def chompingOf? : Char → Option Chomping
  | '-' => some .strip
  | '+' => some .keep
  | _ => none

/-- The indentation that a character gives, if it is a digit. An indentation of zero is refused. -/
def increment? : Option Char → Option (Option Nat)
  | none => some none
  | some c =>
    if c == '0' then none else if isDigit c then some (some (c.toNat - '0'.toNat)) else some none

/-- The header at the start of a text, and the number of its characters. -/
def header? (cs : List Char) : Option (Header × Nat) := do
  match cs[0]?.bind chompingOf? with
  | some chomping =>
    match ← increment? cs[1]? with
    | some increment => some ({ chomping, increment }, 2)
    | none => some ({ chomping }, 1)
  | none =>
    match ← increment? cs[0]? with
    | none => some ({}, 0)
    | some increment =>
      match cs[1]?.bind chompingOf? with
      | some chomping => some ({ chomping, increment }, 2)
      | none => some ({ increment }, 1)

/-- The furthest column that spaces reach in the first line that is not empty and in the empty lines
before it. A tab after these spaces is refused. -/
def reach? (rest : List Char) (column deepest : Nat) : Option Nat :=
  match rest with
  | [] => some (max deepest column)
  | '\r' :: '\n' :: cs => reach? cs 0 (max deepest column)
  | c :: cs =>
    if c == ' ' then reach? cs (column + 1) deepest
    else if c == '\t' then none
    else if isBreak c then reach? cs 0 (max deepest column)
    else some (max deepest column)

/-- What is known of a scalar. -/
structure Progress where
  /-- The lines so far, the last character first. -/
  text : List Char := []
  /-- The break that ended the last line. -/
  lastBreak : Option Char := none
  /-- The breaks of the empty lines since then, the last one first. -/
  emptyLines : List Char := []
  /-- Whether the last line began with a blank. -/
  startedBlank : Bool := false
  deriving Repr

namespace Progress

/-- A line begins that is not empty; folding joins it to the last one if neither begins with a
blank. -/
def startLine (p : Progress) (folded : Bool) (c : Char) : Progress :=
  let joined := folded && p.lastBreak == some '\n' && !p.startedBlank && !isBlank c
  let text :=
    if joined then if p.emptyLines.isEmpty then ' ' :: p.text else p.text
    else p.lastBreak.toList ++ p.text
  { text := p.emptyLines ++ text, startedBlank := isBlank c }

/-- The scalar that has these lines. -/
def finish (p : Progress) (chomping : Chomping) : String :=
  let text :=
    match chomping with
    | .strip => p.text
    | .clip => p.lastBreak.toList ++ p.text
    | .keep => p.emptyLines ++ (p.lastBreak.toList ++ p.text)
  String.ofList text.reverse

end Progress

/-- The rest of a scalar, inside of a line or in front of one. -/
def scanFrom (folded : Bool) (chomping : Chomping) (indent : Nat) (rest : List Char) (mark : Mark)
    (inLine : Bool) (p : Progress) : Option ScannedScalar :=
  match rest with
  | [] => some { text := p.finish chomping, cursor := ⟨[], mark⟩ }
  | '\r' :: '\n' :: cs =>
    let p :=
      if inLine then { p with lastBreak := some '\n' }
      else { p with emptyLines := '\n' :: p.emptyLines }
    scanFrom folded chomping indent cs (mark.newLine 2) false p
  | c :: cs =>
    if isBreak c then
      let b := keptBreak c
      let p :=
        if inLine then { p with lastBreak := some b }
        else { p with emptyLines := b :: p.emptyLines }
      scanFrom folded chomping indent cs (mark.newLine c.utf8Size) false p
    else if inLine then
      scanFrom folded chomping indent cs (mark.past c) true { p with text := c :: p.text }
    else if mark.column < indent ∧ c = ' ' then scanFrom folded chomping indent cs mark.next false p
    else if mark.column < indent ∧ c = '\t' then none
    else if mark.column = indent then
      let p := p.startLine folded c
      scanFrom folded chomping indent cs (mark.past c) true { p with text := c :: p.text }
    else some { text := p.finish chomping, cursor := ⟨c :: cs, mark⟩ }

/-- The block scalar at a place where its first character stands, in a block that begins at the
column before `margin`. -/
def scan (folded : Bool) (margin : Nat) (c : Cursor) : Option ScannedScalar := do
  let (header, n) ← header? c.next.rest
  let start ← (c.next.along n).endLine?
  let indent ←
    if header.increment = 0 then
      (reach? start.rest start.mark.column 0).map fun n => max n (max margin 1)
    else some (margin - 1 + header.increment)
  scanFrom folded header.chomping indent start.rest start.mark false {}

end MemoryBridge.Yaml.BlockScalar
