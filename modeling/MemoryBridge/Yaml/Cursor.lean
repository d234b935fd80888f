import MemoryBridge.Yaml.Readable

/-!
# Places in a text

A mark is a place in a text: how many octets are before it, and its line and column. A cursor is a
mark together with the text that follows it.
-/

namespace MemoryBridge.Yaml

/-- A place in a text. All three numbers count from zero. -/
structure Mark where
  /-- How many octets are before it. -/
  index : Nat := 0
  line : Nat := 0
  /-- How many characters of its line are before it. -/
  column : Nat := 0
  deriving DecidableEq, Repr

namespace Mark

/-- Further on in the same line, after `n` characters of one octet each. -/
def along (m : Mark) (n : Nat) : Mark :=
  { m with index := m.index + n, column := m.column + n }

/-- After the next character, which has one octet and is no line break. -/
def next (m : Mark) : Mark := m.along 1

/-- After a character that is no line break. -/
def past (m : Mark) (c : Char) : Mark :=
  { m with index := m.index + c.utf8Size, column := m.column + 1 }

/-- At the start of the next line, after a line break of `n` octets. -/
def newLine (m : Mark) (n : Nat) : Mark :=
  { index := m.index + n, line := m.line + 1, column := 0 }

end Mark

structure Cursor where
  rest : List Char
  mark : Mark := {}
  deriving Repr

namespace Cursor

/-- Further on in the same line, after `n` characters of one octet each. -/
def along (c : Cursor) (n : Nat) : Cursor :=
  { rest := c.rest.drop n, mark := c.mark.along n }

def next (c : Cursor) : Cursor := c.along 1

/-- The longest run of characters with a property that line breaks do not have, and the place after
it. -/
def span (p : Char → Bool) (c : Cursor) : List Char × Cursor :=
  let run := c.rest.takeWhile p
  (run, { rest := c.rest.drop run.length, mark := run.foldl Mark.past c.mark })

/-- The place after the run of characters with a property that line breaks do not have. -/
def skip (p : Char → Bool) (c : Cursor) : Cursor := (c.span p).2

/-- After the line break that follows, if one does. -/
def newLine (c : Cursor) : Cursor :=
  match c.rest with
  | '\r' :: '\n' :: rest => { rest, mark := c.mark.newLine 2 }
  | b :: rest => if isBreak b then { rest, mark := c.mark.newLine b.utf8Size } else c
  | [] => c

/-- The start of the next line, where only blanks and a comment are left of this one. -/
def endLine? (c : Cursor) : Option Cursor :=
  let c := c.skip isBlank
  let c := if c.rest.head? == some '#' then c.skip (fun x => !isBreak x) else c
  if atLineEnd c.rest then some c.newLine else none

end Cursor

end MemoryBridge.Yaml
