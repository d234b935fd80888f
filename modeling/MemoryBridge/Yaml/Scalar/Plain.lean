import MemoryBridge.Yaml.Scalar.Gap

/-!
# Plain scalars

A plain scalar has no quotes. It ends in front of a comment, of a colon that ends a key, of a mark
between documents, of a line that is not indented enough and, in a flow collection, of the
punctuation of such collections.

To tell whether it goes on, one looks at the four characters where a word may begin, and at two
after each character of a word. In a text that is cut, there is no scalar if these cannot be read.
-/

namespace MemoryBridge.Yaml.PlainScalar

/-- Whether the scalar ends in front of this text, which begins with a character other than a
blank or a line break. -/
def endsAt (inFlow : Bool) : List Char → Bool
  | ':' :: rest => atGap rest
  | c :: _ => inFlow && isFlowIndicator c
  | [] => true

/-- Whether this text begins with a colon that flow collections do not admit. -/
def misplacedColon (inFlow : Bool) : List Char → Bool
  | ':' :: c :: _ => inFlow && (c == '?' || isFlowIndicator c)
  | _ => false

/-- Whether no word of the scalar may begin here because the line is not indented enough. -/
def isOutside (inFlow : Bool) (margin : Nat) (mark : Mark) : Bool := !inFlow && mark.column < margin

/-- Whether the scalar ends in the gap in front of this text. -/
def endsInGap (mark : Mark) (rest : List Char) : Bool :=
  (mark.column == 0 && atDocumentMark rest) || rest.head? == some '#'

/-- The scalar of these words, the last character first, which ends in the gap after them. -/
def ended (words : List Char) (gap : Gap) (rest : List Char) (mark : Mark) : ScannedScalar :=
  { text := String.ofList words.reverse, cursor := ⟨rest, mark⟩, endedLine := gap.endsLine }

/-- The rest of a scalar, of which `words` are known, the last character first, and the gap after
them. -/
def scanFrom (isCut inFlow : Bool) (margin : Nat) (rest : List Char) (mark : Mark)
    (words : List Char) (gap : Gap) : Option ScannedScalar :=
  match rest with
  | [] => some (ended words gap [] mark)
  | '\r' :: '\n' :: cs => scanFrom isCut inFlow margin cs (mark.newLine 2) words (gap.addBreak '\n')
  | c :: cs =>
    if isBlank c then
      if c == '\t' && gap.endsLine && mark.column < margin then none
      else scanFrom isCut inFlow margin cs mark.next words (gap.addBlank c)
    else if isBreak c then
      scanFrom isCut inFlow margin cs (mark.newLine c.utf8Size) words (gap.addBreak c)
    else if !gap.isEmpty && isOutside inFlow margin mark then some (ended words gap (c :: cs) mark)
    else if !gap.isEmpty && isOutOfSight isCut 4 (c :: cs) then none
    else if !gap.isEmpty && endsInGap mark (c :: cs) then some (ended words gap (c :: cs) mark)
    else if misplacedColon inFlow (c :: cs) then none
    else if endsAt inFlow (c :: cs) then some (ended words gap (c :: cs) mark)
    else if isOutOfSight isCut 2 cs then none
    else scanFrom isCut inFlow margin cs (mark.past c) (c :: gap.after words) {}

/-- The plain scalar at a place. What belongs to the block around it stands at the column
`margin` or further right. -/
def scan (isCut inFlow : Bool) (margin : Nat) (c : Cursor) : Option ScannedScalar :=
  scanFrom isCut inFlow margin c.rest c.mark [] {}

end MemoryBridge.Yaml.PlainScalar
