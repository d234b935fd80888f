import MemoryBridge.Text.Line
import MemoryBridge.Text.Numeral

/-!
# Single characters in patterns

What stands for one character in a pattern, or for a place between two of them, and which of these
a pattern may have.

Patterns are matched without the tables of Unicode. While the characters of a pattern are those of
Unicode, all that needs such a table is refused: letters without regard to case, classes of letters,
digits and blanks, the edges of words. A pattern may turn that off and have octets for characters.
Then it knows these for ASCII, and is refused what matches an octet outside of it.
-/

namespace MemoryBridge.LogPattern

/-- How a part of a pattern is meant. -/
structure Flags where
  /-- Blanks and comments do not count. -/
  verbose : Bool := false
  ignoresCase : Bool := false
  /-- Characters are those of Unicode, and not octets. -/
  unicode : Bool := true
  deriving DecidableEq, Repr

namespace Flags

/-- Whether a character may stand for itself. -/
def allowsLiteral (f : Flags) (code : Nat) (isOctet : Bool) : Bool :=
  if f.unicode then !f.ignoresCase else !(isOctet && 0x80 ≤ code)

/-- Whether a class may have this character as a member. -/
def allowsMember (f : Flags) (code : Nat) : Bool :=
  if f.unicode then !f.ignoresCase else code < 0x80

end Flags

/-! ## Blanks -/

/-- In verbose patterns, what follows the blanks and comments at the start of a text. -/
def skipBlanks (verbose inComment : Bool) : List Char → List Char
  | [] => []
  | c :: cs =>
    if !verbose then c :: cs
    else if inComment then skipBlanks verbose (c != '\n') cs
    else if Text.isBlank c then skipBlanks verbose false cs
    else if c == '#' then skipBlanks verbose true cs
    else c :: cs

theorem length_skipBlanks_le (verbose inComment : Bool) (cs : List Char) :
    (skipBlanks verbose inComment cs).length ≤ cs.length := by
  induction cs generalizing inComment with
  | nil => simp [skipBlanks]
  | cons c cs ih =>
    have h := fun b => Nat.le_succ_of_le (ih b)
    grind [skipBlanks]

/-- The next character that counts, as far as one can tell without reading comments: what follows
the sign of a comment is taken for it. -/
def peek? (verbose : Bool) (cs : List Char) : Option Char :=
  if verbose then
    match cs.dropWhile Text.isBlank with
    | '#' :: cs => (cs.dropWhile Text.isBlank).head?
    | cs => cs.head?
  else cs.head?

/-! ## Escapes -/

/-- What an escape stands for. -/
inductive Escape
  /-- A character, given by its code or, if `isOctet`, perhaps an octet. -/
  | literal (code : Nat) (isOctet : Bool)
  /-- A class of characters, or all characters outside of one. -/
  | charClass (negated : Bool)
  /-- The start or the end of a text. -/
  | textEdge
  /-- A place where a word begins or ends, or where none does. -/
  | wordEdge
  deriving DecidableEq, Repr

/-- Punctuation of ASCII stands for itself after a backslash. -/
def isPunctuation (c : Char) : Bool := c.toNat < 0x80 && !c.isAlphanum && c != '<' && c != '>'

/-- The code that `n` hexadecimal digits give, and what follows them. In verbose patterns blanks may
stand between them. -/
def hexCode? (verbose : Bool) : Nat → Nat → List Char → Option (Nat × List Char)
  | 0, code, cs => if code.isValidChar then some (code, cs) else none
  | n + 1, code, cs => do
    match skipBlanks verbose false cs with
    | [] => none
    | c :: rest => hexCode? verbose n (16 * code + (← Numeral.digit? 16 c)) rest

/-- The escape after a backslash, and what follows it. Classes that are given by a
category are refused. -/
def escape? (verbose : Bool) : List Char → Option (Escape × List Char)
  | [] => none
  | c :: cs =>
    let control (code : Nat) : Option (Escape × List Char) := some (.literal code false, cs)
    match c with
    | 'x' => (hexCode? verbose 2 0 cs).map fun r => (.literal r.1 true, r.2)
    | 'u' => (hexCode? verbose 4 0 cs).map fun r => (.literal r.1 false, r.2)
    | 'U' => (hexCode? verbose 8 0 cs).map fun r => (.literal r.1 false, r.2)
    | 'd' | 's' | 'w' => some (.charClass false, cs)
    | 'D' | 'S' | 'W' => some (.charClass true, cs)
    | 'A' | 'z' => some (.textEdge, cs)
    | 'b' | 'B' | '<' | '>' => some (.wordEdge, cs)
    | 'a' => control 0x07
    | 'f' => control 0x0C
    | 't' => control 0x09
    | 'n' => control 0x0A
    | 'r' => control 0x0D
    | 'v' => control 0x0B
    | c => if isPunctuation c then some (.literal c.toNat false, cs) else none

/-- Whether an escape may stand outside of a class. -/
def Escape.isAllowed (f : Flags) : Escape → Bool
  | .literal code isOctet => f.allowsLiteral code isOctet
  | .charClass negated => !f.unicode && !negated
  | .textEdge => true
  | .wordEdge => !f.unicode

end MemoryBridge.LogPattern
