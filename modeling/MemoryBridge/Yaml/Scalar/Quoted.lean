import MemoryBridge.Text.Numeral
import MemoryBridge.Yaml.Scalar.Gap

/-!
# Quoted scalars

Between single quotes, a quote is written twice and all else stands for itself. Between double
quotes, a backslash begins an escape sequence, and at the end of a line takes out the line break.

Where a word may begin one looks at four characters. In a text that is cut, there is no scalar if
these cannot be read.
-/

namespace MemoryBridge.Yaml.QuotedScalar

inductive Quote
  | single
  | double
  deriving DecidableEq, Repr

def Quote.char : Quote → Char
  | .single => singleQuote
  | .double => doubleQuote

/-- What the character after a backslash stands for. -/
def escaped? (c : Char) : Option Char :=
  match c with
  | '0' => some '\x00'
  | 'a' => some '\x07'
  | 'b' => some '\x08'
  | 't' | '\t' => some '\t'
  | 'n' => some '\n'
  | 'v' => some '\x0B'
  | 'f' => some '\x0C'
  | 'r' => some '\r'
  | 'e' => some '\x1B'
  | ' ' => some ' '
  | '/' => some '/'
  | 'N' => some '\u0085'
  | '_' => some '\u00A0'
  | 'L' => some '\u2028'
  | 'P' => some '\u2029'
  | c => if c == doubleQuote || c == backslash then some c else none

/-- The number of hexadecimal digits that follow this character after a backslash. -/
def codeLength? : Char → Option Nat
  | 'x' => some 2
  | 'u' => some 4
  | 'U' => some 8
  | _ => none

/-- The character with the code that `n` hexadecimal digits at the start of this text give. -/
def codedChar? (n : Nat) (rest : List Char) : Option Char := do
  let digits := rest.take n
  if digits.length < n then none
  else
    let code ← digits.foldlM (fun value c => (Numeral.digit? 16 c).map (value * 16 + ·)) 0
    if code.isValidChar then some (Char.ofNat code) else none

/-- The rest of a scalar, of which `words` are known, the last character first, and the gap after
them. -/
def scanFrom (isCut : Bool) (quote : Quote) (rest : List Char) (mark : Mark) (words : List Char)
    (gap : Gap) : Option ScannedScalar :=
  match rest with
  | [] => none
  | c :: cs =>
    if isBlank c then scanFrom isCut quote cs mark.next words (gap.addBlank c)
    else if isBreak c then
      match c, cs with
      | '\r', '\n' :: cs => scanFrom isCut quote cs (mark.newLine 2) words (gap.addBreak '\n')
      | _, cs => scanFrom isCut quote cs (mark.newLine c.utf8Size) words (gap.addBreak c)
    else if !gap.isEmpty && isOutOfSight isCut 4 (c :: cs) then none
    else if mark.column == 0 && atDocumentMark (c :: cs) then none
    else
      let words := gap.after words
      if c == quote.char then
        match quote, cs with
        | .single, d :: ds =>
          if d == singleQuote then scanFrom isCut quote ds (mark.along 2) (d :: words) {}
          else some { text := String.ofList words.reverse, cursor := ⟨cs, mark.next⟩ }
        | _, _ => some { text := String.ofList words.reverse, cursor := ⟨cs, mark.next⟩ }
      else if quote = .double ∧ c = backslash then
        match cs with
        | [] => none
        | '\r' :: '\n' :: ds => scanFrom isCut quote ds (mark.newLine 3) words { escaped := true }
        | d :: ds =>
          if isBreak d then
            scanFrom isCut quote ds (mark.newLine (1 + d.utf8Size)) words { escaped := true }
          else
            match escaped? d, codeLength? d with
            | some e, _ => scanFrom isCut quote ds (mark.along 2) (e :: words) {}
            | none, some n =>
              match codedChar? n ds with
              | some e => scanFrom isCut quote (ds.drop n) (mark.along (2 + n)) (e :: words) {}
              | none => none
            | none, none => none
      else scanFrom isCut quote cs (mark.past c) (c :: words) {}
termination_by rest.length
decreasing_by all_goals simp_wf <;> omega

/-- The quoted scalar at a place where its opening quote stands. -/
def scan (isCut : Bool) (quote : Quote) (c : Cursor) : Option ScannedScalar :=
  if isOutOfSight isCut 4 c.next.rest then none
  else scanFrom isCut quote c.next.rest c.next.mark [] {}

end MemoryBridge.Yaml.QuotedScalar
