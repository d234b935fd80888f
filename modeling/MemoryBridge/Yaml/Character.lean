/-!
# Characters of YAML

The classes of characters that YAML 1.1 tells apart.
-/

namespace MemoryBridge.Yaml

def singleQuote : Char := '\x27'
def doubleQuote : Char := '\x22'
def backslash : Char := '\\'
/-- The mark that a text may begin with to show its byte order. -/
def byteOrderMark : Char := '\uFEFF'

/-- A character that a document may hold. -/
def isReadable (c : Char) : Bool :=
  let n := c.toNat
  n == 0x09 || n == 0x0A || n == 0x0D || (0x20 ≤ n && n ≤ 0x7E) || n == 0x85 ||
    (0xA0 ≤ n && n ≤ 0xD7FF) ||
    (0xE000 ≤ n && n ≤ 0xFFFD) || 0x10000 ≤ n

/-- A space or a tab. -/
def isBlank (c : Char) : Bool := c == ' ' || c == '\t'

/-- A character that ends a line. -/
def isBreak (c : Char) : Bool :=
  c == '\n' || c == '\r' || c == '\u0085' || c == '\u2028' || c == '\u2029'

/-- The line break that a scalar keeps: the two separators of Unicode stay what they are, all others
become line feeds. -/
def keptBreak (c : Char) : Char :=
  if c == '\u2028' || c == '\u2029' then c else '\n'

/-- Whether a word ends in front of this text: at a blank, at a line break or at the end. -/
def atGap : List Char → Bool
  | [] => true
  | c :: _ => isBlank c || isBreak c

/-- Whether a line ends in front of this text. -/
def atLineEnd : List Char → Bool
  | [] => true
  | c :: _ => isBreak c

def isDigit (c : Char) : Bool := '0' ≤ c && c ≤ '9'

/-- A character of names of anchors, of tag handles and of directives. -/
def isNameChar (c : Char) : Bool :=
  isDigit c || ('A' ≤ c && c ≤ 'Z') || ('a' ≤ c && c ≤ 'z') || c == '_' || c == '-'

/-- Whether this text begins with one of the two marks between documents. -/
def atDocumentMark : List Char → Bool
  | '-' :: '-' :: '-' :: rest => atGap rest
  | '.' :: '.' :: '.' :: rest => atGap rest
  | _ => false

/-- A character that delimits flow collections. -/
def isFlowIndicator (c : Char) : Bool :=
  c == ',' || c == '[' || c == ']' || c == '\x7b' || c == '\x7d'

end MemoryBridge.Yaml
