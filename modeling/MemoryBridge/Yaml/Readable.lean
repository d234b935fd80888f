import MemoryBridge.Yaml.Character

/-!
# The readable part of a text

A text is taken in pieces, each as long as fits into a fixed number of octets. A piece that holds
a character that no document may hold cannot be read at all, so the readable part of a text ends
where the first such piece begins. A reader notices only when it has to look at a character
beyond that place.
-/

namespace MemoryBridge.Yaml

/-- The most octets that a piece of a text has. -/
def pieceOctets : Nat := 16384

/-- A piece that is being filled. A character that does not fit any more begins the next piece. -/
structure Piece where
  /-- How many characters are in front of the piece. -/
  start : Nat := 0
  /-- How many characters are in it. -/
  size : Nat := 0
  octets : Nat := 0
  deriving DecidableEq, Repr

namespace Piece

def add (p : Piece) (c : Char) : Piece :=
  if p.octets + c.utf8Size ≤ pieceOctets then
    { p with size := p.size + 1, octets := p.octets + c.utf8Size }
  else { start := p.start + p.size, size := 1, octets := c.utf8Size }

/-- The piece that the last of these characters is in. -/
def ofChars (cs : List Char) : Piece := cs.foldl add {}

end Piece

/-- A text as far as it can be read. -/
structure ReadableText where
  chars : List Char
  /-- Whether something follows that cannot be read. -/
  isCut : Bool := false
  deriving DecidableEq, Repr

namespace ReadableText

def ofChars (cs : List Char) : ReadableText :=
  let good := cs.takeWhile isReadable
  match cs.drop good.length with
  | [] => { chars := good }
  | c :: _ => { chars := good.take (Piece.ofChars (good ++ [c])).start, isCut := true }

end ReadableText

/-- Whether the next `n` characters cannot be looked at, because what can be read ends before. At
the end of the text nothing is missing. -/
def isOutOfSight (isCut : Bool) (n : Nat) (rest : List Char) : Bool :=
  isCut && (rest.drop (n - 1)).isEmpty

end MemoryBridge.Yaml
