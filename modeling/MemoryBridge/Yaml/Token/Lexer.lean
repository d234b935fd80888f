import MemoryBridge.Yaml.Scalar.Block
import MemoryBridge.Yaml.Scalar.Plain
import MemoryBridge.Yaml.Scalar.Quoted
import MemoryBridge.Yaml.Token.Property

/-!
# The tokens of a text

Tokens are found from left to right. A block begins where a line is indented further than the block
around it, and ends where a line is indented less. Whether a word is the key of a mapping shows only
at the colon after it, so a word is kept in mind as a possible key, and the tokens that make it one
are put in front of it later. A key stands on one line and is at most 1024 octets long.

A text may be malformed further on, or not readable to its end. What `Lexer.tokens` answers is what
is certain by then: the tokens up to the first word that could still have become a key.
-/

namespace MemoryBridge.Yaml

/-- A word that is a key if a colon follows. -/
structure PossibleKey where
  /-- How many tokens are before the word. -/
  place : Nat
  mark : Mark
  /-- Whether nothing but a key can stand here. -/
  required : Bool
  deriving Repr

structure Lexer where
  cursor : Cursor
  /-- Whether something follows the text at the cursor that cannot be read. -/
  isCut : Bool := false
  /-- The tokens so far, the latest first. -/
  found : List Token := []
  /-- How many tokens there are so far. -/
  count : Nat := 0
  /-- For each block that is open, the innermost first, the column after the one at which it
  begins. -/
  margins : List Nat := []
  /-- How many flow collections are open. -/
  flowLevel : Nat := 0
  key : Option PossibleKey := none
  /-- The possible keys in front of the flow collections that are open, each with the number of
  those around it. The innermost comes first. -/
  outerKeys : List (Nat × PossibleKey) := []
  keyAllowed : Bool := true
  deriving Repr

namespace Lexer

def ofText (text : ReadableText) : Lexer :=
  { cursor := { rest := text.chars }, isCut := text.isCut, found := [⟨.streamStart, {}⟩],
    count := 1 }

def inFlow (l : Lexer) : Bool := l.flowLevel != 0

/-- What belongs to the innermost block stands at this column or further right. -/
def margin (l : Lexer) : Nat := l.margins.headD 0

def mark (l : Lexer) : Mark := l.cursor.mark

/-- The next `n` characters can be looked at. -/
def inSight (n : Nat) (l : Lexer) : Option Lexer :=
  if isOutOfSight l.isCut n l.cursor.rest then none else some l

def addAt (l : Lexer) (mark : Mark) (kind : TokenKind) : Lexer :=
  { l with found := ⟨kind, mark⟩ :: l.found, count := l.count + 1 }

/-- Adds a token behind the first `place` ones. -/
def insertAt (l : Lexer) (place : Nat) (t : Token) : Lexer :=
  let (late, early) := l.found.splitAt (l.count - place)
  { l with found := late ++ t :: early, count := l.count + 1 }

/-- Adds a token of `n` characters, which stands here. -/
def take (l : Lexer) (kind : TokenKind) (n : Nat) : Lexer :=
  { l.addAt l.mark kind with cursor := l.cursor.along n }

/-! ## Possible keys -/

/-- Gives up a possible key. One that is required cannot be given up. -/
def dropKey (l : Lexer) : Option Lexer :=
  match l.key with
  | some k => if k.required then none else some { l with key := none }
  | none => some l

/-- Keeps in mind that a key may begin here. -/
def noteKey (l : Lexer) : Option Lexer :=
  if l.keyAllowed then do
    let l ← l.dropKey
    some { l with key := some ⟨l.count, l.mark, !l.inFlow && l.margin == l.mark.column + 1⟩ }
  else some l

/-- Whether a key that begins at `k` can still reach as far as this place. -/
def reaches (here : Mark) (k : PossibleKey) : Bool :=
  !(k.mark.line < here.line || k.mark.index + 1024 < here.index)

/-- Gives up the possible keys that are too far away. -/
def dropStaleKeys (l : Lexer) : Option Lexer :=
  let isStale (k : PossibleKey) : Bool := !reaches l.mark k
  if (l.key.any fun k => isStale k && k.required) ||
    (l.outerKeys.any fun k => isStale k.2 && k.2.required) then none
  else some { l with
    key := l.key.filter (reaches l.mark),
    outerKeys := l.outerKeys.filter fun k => reaches l.mark k.2 }

/-- How many tokens there are in front of the first possible key. -/
def settled (l : Lexer) : Nat :=
  (l.key.toList ++ l.outerKeys.map (·.2)).foldl (fun n k => min n k.place) l.count

/-- The tokens that will not change any more. -/
def settledTokens (l : Lexer) : List Token := (l.found.drop (l.count - l.settled)).reverse

/-! ## Blocks -/

/-- Begins a block at a column that is further right than the one around it. The token stands where
the block begins, or in front of the tokens from a given place on. -/
def openBlock (l : Lexer) (mark : Mark) (kind : TokenKind) (place : Nat) : Lexer :=
  if l.inFlow || mark.column < l.margin then l
  else { l with margins := (mark.column + 1) :: l.margins }.insertAt place ⟨kind, mark⟩

/-- Ends the blocks whose margin is beyond the given one. -/
def closeBlocks (l : Lexer) (margin : Nat) : Lexer :=
  if l.inFlow then l
  else
    let closed := l.margins.takeWhile (margin < ·)
    { l with
      margins := l.margins.drop closed.length
      found := List.replicate closed.length ⟨.blockEnd, l.mark⟩ ++ l.found
      count := l.count + closed.length }

/-! ## Blanks and comments -/

/-- The place of the next token, and whether a key may begin there. A tab is a blank only where no
key may begin, or in a flow collection. A byte order mark is one at the start of a line. -/
def skipGaps (inFlow keyAllowed inComment : Bool) (rest : List Char) (mark : Mark) :
    Cursor × Bool :=
  match rest with
  | [] => (⟨[], mark⟩, keyAllowed)
  | '\r' :: '\n' :: cs => skipGaps inFlow (keyAllowed || !inFlow) false cs (mark.newLine 2)
  | c :: cs =>
    if isBreak c then skipGaps inFlow (keyAllowed || !inFlow) false cs (mark.newLine c.utf8Size)
    else if inComment || (mark.column == 0 && c == byteOrderMark) || c == ' ' ||
        (c == '\t' && (inFlow || !keyAllowed)) then
      skipGaps inFlow keyAllowed inComment cs (mark.past c)
    else if c == '#' then skipGaps inFlow keyAllowed true cs mark.next
    else (⟨c :: cs, mark⟩, keyAllowed)

def toNextToken (l : Lexer) : Lexer :=
  let (cursor, keyAllowed) := skipGaps l.inFlow l.keyAllowed false l.cursor.rest l.mark
  { l with cursor, keyAllowed }

/-! ## Tokens -/

/-- The end of the text ends its last line and all blocks. -/
def takeEnd (l : Lexer) : Option Lexer := do
  let here := if l.mark.column = 0 then l.mark else l.mark.newLine 0
  let l := { l with cursor := { l.cursor with mark := here } }
  let l ← (l.closeBlocks 0).dropKey
  some ({ l with keyAllowed := false }.addAt here .streamEnd)

def takeDirective (l : Lexer) : Option Lexer := do
  let l ← (l.closeBlocks 0).dropKey
  let (kind, cursor) ← directive? l.cursor
  some { l.addAt l.mark kind with cursor, keyAllowed := false }

def takeDocumentMark (l : Lexer) (kind : TokenKind) : Option Lexer := do
  let l ← (l.closeBlocks 0).dropKey
  some ({ l with keyAllowed := false }.take kind 3)

def openFlow (l : Lexer) (kind : TokenKind) : Option Lexer := do
  let l ← l.noteKey
  let outerKeys :=
    match l.key with
    | some k => (l.flowLevel, k) :: l.outerKeys
    | none => l.outerKeys
  some ({ l with
      flowLevel := l.flowLevel + 1, key := none, outerKeys, keyAllowed := true }.take kind 1)

def closeFlow (l : Lexer) (kind : TokenKind) : Option Lexer := do
  let l ← l.dropKey
  let level := l.flowLevel - 1
  let l :=
    match l.outerKeys with
    | (outer, key) :: outerKeys =>
      if outer = level then { l with flowLevel := level, key := some key, outerKeys }
      else { l with flowLevel := level }
    | [] => { l with flowLevel := level }
  some ({ l with keyAllowed := false }.take kind 1)

def takeFlowEntry (l : Lexer) : Option Lexer := do
  let l ← l.dropKey
  some ({ l with keyAllowed := true }.take .flowEntry 1)

def takeBlockEntry (l : Lexer) : Option Lexer :=
  if !l.inFlow && !l.keyAllowed then none
  else do
    let l ← (l.openBlock l.mark .blockSequence l.count).dropKey
    some ({ l with keyAllowed := true }.take .blockEntry 1)

def takeKey (l : Lexer) : Option Lexer :=
  if !l.inFlow && !l.keyAllowed then none
  else do
    let l ← (l.openBlock l.mark .blockMapping l.count).dropKey
    some ({ l with keyAllowed := !l.inFlow }.take .key 1)

/-- A colon. It makes a key of the word that was kept in mind, or else belongs to a key
that was announced. -/
def takeValue (l : Lexer) : Option Lexer :=
  match l.key with
  | some k =>
    let l := { l with key := none, keyAllowed := false }.insertAt k.place ⟨.key, k.mark⟩
    some ((l.openBlock k.mark .blockMapping k.place).take .value 1)
  | none =>
    if !l.inFlow && !l.keyAllowed then none
    else
      let l := l.openBlock l.mark .blockMapping l.count
      some ({ l with keyAllowed := !l.inFlow }.take .value 1)

/-- An anchor or an alias. -/
def takeAnchor (l : Lexer) (kind : String → TokenKind) : Option Lexer := do
  let l ← l.noteKey
  let (name, cursor) ← anchorName? l.cursor
  some { l.addAt l.mark (kind name) with cursor, keyAllowed := false }

def takeTag (l : Lexer) : Option Lexer := do
  let l ← l.noteKey
  let (kind, cursor) ← tag? l.inFlow l.cursor
  some { l.addAt l.mark kind with cursor, keyAllowed := false }

def takeBlockScalar (l : Lexer) (folded : Bool) : Option Lexer := do
  let l ← l.dropKey
  let s ← BlockScalar.scan folded l.margin l.cursor
  let style : ScalarStyle := if folded then .folded else .literal
  some { l.addAt l.mark (.scalar s.text style) with cursor := s.cursor, keyAllowed := true }

def takeQuotedScalar (l : Lexer) (quote : QuotedScalar.Quote) : Option Lexer := do
  let l ← l.noteKey
  let s ← QuotedScalar.scan l.isCut quote l.cursor
  let style : ScalarStyle := if quote = .single then .singleQuoted else .doubleQuoted
  some { l.addAt l.mark (.scalar s.text style) with cursor := s.cursor, keyAllowed := false }

def takePlainScalar (l : Lexer) : Option Lexer := do
  let l ← l.noteKey
  let s ← PlainScalar.scan l.isCut l.inFlow l.margin l.cursor
  some { l.addAt l.mark (.scalar s.text .plain) with cursor := s.cursor, keyAllowed := s.endedLine }

/-- Whether a plain scalar may begin with this character, whatever follows. -/
def startsPlain (c : Char) : Bool :=
  !(isFlowIndicator c || c == singleQuote || c == doubleQuote ||
    c ∈ ['-', '?', ':', '#', '&', '*', '!', '|', '>', '%', '@', '\x60'])

/-- The token that begins with `c`, which is neither a blank nor a line break. -/
def takeToken (l : Lexer) (c : Char) (cs : List Char) : Option Lexer :=
  let lineStart := l.mark.column == 0
  if lineStart && c == '%' then l.takeDirective
  else if lineStart && atDocumentMark (c :: cs) then
    l.takeDocumentMark (if c == '-' then .documentStart else .documentEnd)
  else if c == '[' then l.openFlow .flowSequence
  else if c == '\x7b' then l.openFlow .flowMapping
  else if c == ']' then l.closeFlow .flowSequenceEnd
  else if c == '\x7d' then l.closeFlow .flowMappingEnd
  else if c == ',' then l.takeFlowEntry
  else if c == '-' && atGap cs then l.takeBlockEntry
  else if c == '?' && (l.inFlow || atGap cs) then l.takeKey
  else if c == ':' && (l.inFlow || atGap cs) then l.takeValue
  else if c == '*' then l.takeAnchor .alias
  else if c == '&' then l.takeAnchor .anchor
  else if c == '!' then l.takeTag
  else if c == '|' && !l.inFlow then l.takeBlockScalar false
  else if c == '>' && !l.inFlow then l.takeBlockScalar true
  else if c == singleQuote then l.takeQuotedScalar .single
  else if c == doubleQuote then l.takeQuotedScalar .double
  else if startsPlain c || c == '-' || c == '?' || c == ':' then l.takePlainScalar
  else none

/-- The next token, with the ends of blocks in front of it. To tell what it is takes four
characters, and to tell where it ends takes one more than it has. -/
def step (l : Lexer) : Option Lexer := do
  let l ← l.toNextToken.dropStaleKeys
  let l ← (l.closeBlocks (l.mark.column + 1)).inSight 4
  match l.cursor.rest with
  | [] => l.takeEnd
  | c :: cs => if isBlank c then none else (l.takeToken c cs).bind (inSight 1)

def atEnd (l : Lexer) : Bool :=
  match l.found with
  | t :: _ => t.kind == .streamEnd
  | [] => false

/-- The tokens up to the end of the text, or as many as are certain when it turns out to be
malformed. Each token has a character, so `fuel` is not used up before the text is. -/
def run : Nat → Lexer → List Token
  | 0, l => l.settledTokens
  | fuel + 1, l =>
    match l.step.bind dropStaleKeys with
    | none => l.settledTokens
    | some m => if m.atEnd then m.found.reverse else run fuel m

/-- The tokens of a text. Those of a malformed text do not have the end of the text among them. -/
def tokens (text : List Char) : List Token :=
  run (text.length + 1) (ofText (ReadableText.ofChars text))

end Lexer

end MemoryBridge.Yaml
