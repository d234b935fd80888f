import MemoryBridge.Yaml.Cursor

/-!
# Gaps inside of scalars

Between two words of a plain or quoted scalar stand blanks and line breaks. Within a line the
blanks belong to the scalar; across lines they do not, one line break becomes a space, and of
several the first is dropped.
-/

namespace MemoryBridge.Yaml

/-- A scalar that was read from a text. -/
structure ScannedScalar where
  text : String
  /-- The place after the scalar. -/
  cursor : Cursor
  /-- Whether lines have ended between the last word of the scalar and that place. -/
  endedLine : Bool := false
  deriving Repr

/-- What stands between two words. -/
structure Gap where
  /-- The blanks before the first line break, the last one first. -/
  blanks : List Char := []
  /-- Whether the first line break is escaped, which takes it out of the scalar. -/
  escaped : Bool := false
  /-- The line breaks that are not escaped, the last one first. -/
  breaks : List Char := []
  deriving Repr

namespace Gap

def isEmpty (g : Gap) : Bool := g.blanks.isEmpty && !g.escaped && g.breaks.isEmpty

/-- Whether a line ends in the gap. -/
def endsLine (g : Gap) : Bool := g.escaped || !g.breaks.isEmpty

def addBlank (g : Gap) (c : Char) : Gap :=
  if g.endsLine then g else { g with blanks := c :: g.blanks }

def addBreak (g : Gap) (c : Char) : Gap :=
  { g with breaks := keptBreak c :: g.breaks }

/-- What a gap adds to a scalar. -/
def text (g : Gap) : List Char :=
  if g.escaped then g.breaks.reverse
  else
    match g.breaks.reverse with
    | [] => g.blanks.reverse
    | ['\n'] => [' ']
    | '\n' :: more => more
    | all => all

/-- A scalar, its last character first, with the gap added. -/
def after (words : List Char) (g : Gap) : List Char :=
  g.text.reverse ++ words

end Gap

end MemoryBridge.Yaml
