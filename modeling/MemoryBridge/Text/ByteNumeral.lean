import MemoryBridge.Text.Line
import MemoryBridge.Text.Numeral

/-!
# Bytes written by people

A byte is written as a decimal numeral, or as a hexadecimal one after `0x` or `0X`. Blanks
around it do not matter.
-/

namespace MemoryBridge

/-- A text that is no byte. -/
structure ByteNumeralFault where
  /-- The text without the blanks around it. -/
  text : List Char
  cause : NumeralFault
  deriving DecidableEq, Repr

def ByteNumeralFault.message (f : ByteNumeralFault) : String :=
  "invalid byte value '" ++ String.ofList f.text ++ "': " ++ f.cause.message

namespace ByteNumeral

/-- The base that a text is written in, and what follows the mark of that base. -/
def body : List Char → Nat × List Char
  | '0' :: 'x' :: ds => (16, ds)
  | '0' :: 'X' :: ds => (16, ds)
  | ds => (10, ds)

/-- The byte that a text without blanks around it stands for. -/
def readTrimmed (cs : List Char) : Except ByteNumeralFault UInt8 :=
  match Numeral.readNat (body cs).1 255 (body cs).2 with
  | .ok n => .ok (UInt8.ofNat n)
  | .error cause => .error ⟨cs, cause⟩

/-- The byte that a text stands for. -/
def read (text : String) : Except ByteNumeralFault UInt8 :=
  readTrimmed (Text.trim text.toList)

end ByteNumeral

end MemoryBridge
