/-!
# What a terminal shows of a text

A message that repeats what somebody typed goes out without the sequences that would steer a
terminal and without control characters other than white space. `visible` is what is left of it.

Sequences may be interrupted by white space, which shows. A reader of a whole text forgets the
sequence there. A reader of a stream shows what follows the white space, and takes the sequence up
again at the next control character.

A text in a log does not steer the terminal that the log is read on either: there the control
characters that could are written by their codes.
-/

namespace MemoryBridge.Shown

/-- How far the head of a device control string is. -/
inductive DeviceHead
  | start
  | parameters
  | intermediates
  deriving DecidableEq, Repr

/-- Where in a sequence a text is. -/
inductive Place
  /-- In none. -/
  | ground
  /-- After the escape character. -/
  | escape
  /-- In an escape sequence of more than two characters. -/
  | escapeIntermediate
  /-- In a control sequence: parameters and a last character. -/
  | controlSequence
  /-- In a command to the operating system, which the bell ends. -/
  | systemCommand
  | deviceHead (head : DeviceHead)
  /-- In a string of which nothing shows. -/
  | openString
  deriving DecidableEq, Repr

def escapeChar : Char := '\x1b'

def bell : Char := '\x07'

/-- The two characters that call a sequence off. -/
def callsOff (c : Char) : Bool := c == '\x18' || c == '\x1a'

def isControl (c : Char) : Bool := c.toNat < 0x20 || c == '\x7f'

/-- White space of ASCII. -/
def isSpace (c : Char) : Bool := c == ' ' || c == '\t' || c == '\n' || c == '\x0c' || c == '\r'

/-- Whether a character shows where no sequence is. -/
def showsOnGround (c : Char) : Bool := !isControl c || isSpace c

/-- Whether a character ends an open string: if the octet that terminates strings is in its
encoding. -/
def endsString (c : Char) : Bool := (String.utf8EncodeChar c).contains 0x9C

namespace DeviceHead

/-- The place after a character of ASCII that is no control character. The string itself begins with
a letter, or where the head is malformed. -/
def after (h : DeviceHead) (c : Char) : Place :=
  if '@' ≤ c then .openString
  else if c < '0' then .deviceHead .intermediates
  else
    match h with
    | .start => .deviceHead .parameters
    | .parameters => if c < '<' then .deviceHead .parameters else .openString
    | .intermediates => .openString

end DeviceHead

namespace Place

/-- The place after a character of ASCII that is no control character. -/
def afterPrintable (p : Place) (c : Char) : Place :=
  match p with
  | .ground => .ground
  | .escape =>
    if c == '[' then .controlSequence
    else if c == ']' then .systemCommand
    else if c == 'P' then .deviceHead .start
    else if c == 'X' || c == '^' || c == '_' then .openString
    else if c < '0' then .escapeIntermediate
    else .ground
  | .escapeIntermediate => if c < '0' then p else .ground
  | .controlSequence => if c < '@' then p else .ground
  | .systemCommand => p
  | .deviceHead h => h.after c
  | .openString => p

/-- Whether white space shows here. -/
def showsSpace : Place → Bool
  | .ground | .escape | .escapeIntermediate | .controlSequence => true
  | _ => false

/-- The place after a character, and whether the character shows. -/
def after (p : Place) (c : Char) : Place × Bool :=
  if c == escapeChar then (.escape, false)
  else if callsOff c then (.ground, false)
  else if isControl c then
    if p = .systemCommand ∧ c = bell then (.ground, false) else (p, isSpace c && p.showsSpace)
  else if 0x7f < c.toNat then (if p = .openString ∧ endsString c then .ground else p, p = .ground)
  else (p.afterPrintable c, p = .ground)

end Place

/-- Whether the text is read as a whole or as a stream. -/
inductive Reader
  | whole
  | stream
  deriving DecidableEq, Repr

structure Progress where
  place : Place := .ground
  /-- Whether the last character showed. Until the next control character, all others do. -/
  showing : Bool := false
  deriving DecidableEq, Repr

/-- A character beyond ASCII ends a sequence that was interrupted. -/
def Progress.step (reader : Reader) (s : Progress) (c : Char) : Progress × Bool :=
  if s.showing && showsOnGround c then
    ({ s with place := if c.toNat < 0x80 then s.place else .ground }, true)
  else
    let (place, shows) := s.place.after c
    ({ place := if shows && reader == .whole then .ground else place, showing := shows }, shows)

def visibleFrom (reader : Reader) (s : Progress) : List Char → List Char
  | [] => []
  | c :: cs =>
    let (next, shows) := s.step reader c
    if shows then c :: visibleFrom reader next cs else visibleFrom reader next cs

/-- What shows of a text. -/
def visible (reader : Reader) (text : String) : String :=
  String.ofList (visibleFrom reader {} text.toList)

end MemoryBridge.Shown

/-! ## Logged texts -/

namespace MemoryBridge.Text

/-- A character of a log. The codes of ASCII have two digits. -/
def logChar (c : Char) : List Char :=
  let n := c.toNat
  if n == 0x07 || n == 0x08 || n == 0x0C || n == 0x1B || n == 0x7F then
    ['\\', 'x'] ++ (if n < 0x10 then ['0'] else []) ++ Nat.toDigits 16 n
  else if 0x80 ≤ n && n ≤ 0x9F then ['\\', 'u', '\x7b'] ++ Nat.toDigits 16 n ++ ['\x7d']
  else [c]

/-- A text as a log shows it. -/
def logged (t : String) : String := String.ofList (t.toList.flatMap logChar)

end MemoryBridge.Text
