import TopicBridge.Text.Utf8
import TopicBridge.Unicode.Ranges

/-! # Percent encoding

Characters that may not stand in a part of a URL are written as the bytes of their encoding, each as
a percent sign and two hexadecimal digits. Which characters may stand depends on the part. Pairs of
names and values have an encoding of their own, in which a plus sign stands for a space.
-/

namespace TopicBridge.Url

/-- A hexadecimal digit in upper case. -/
def upperHexDigit (n : Nat) : Char := if n < 10 then Char.ofNat (48 + n) else Char.ofNat (55 + n)

/-- A byte as a percent sign and two digits. -/
def escapeByte (b : UInt8) : List Char :=
  ['%', upperHexDigit (b.toNat / 16), upperHexDigit (b.toNat % 16)]

/-- The bytes of a character, each escaped. -/
def escape (c : Char) : List Char := (String.utf8EncodeChar c).flatMap escapeByte

/-- Whether a character is a control character or beyond ASCII. -/
def isControl (c : Char) : Bool := c.toNat < 0x20 || 0x7E < c.toNat

/-- A part of a URL in which the given characters may not stand, nor may control characters. -/
def encode (marked : List Char) (s : List Char) : List Char :=
  s.flatMap fun c => if isControl c || marked.contains c then escape c else [c]

/-- The characters that may not stand in a fragment. -/
def fragmentMarks : List Char := [' ', '"', '<', '>', '\x60']

/-- The characters that may not stand in a path. -/
def pathMarks : List Char := fragmentMarks ++ ['#', '?', '\x7b', '\x7d']

/-- The characters that may not stand in the name or the password of a user. -/
def userMarks : List Char := pathMarks ++ ['/', ':', ';', '=', '@', '[', '\\', ']', '^', '|']

/-- The characters that may not stand in a query; with a known scheme there is one more. -/
def queryMarks (special : Bool) : List Char :=
  [' ', '"', '#', '<', '>'] ++ if special then ['\''] else []

/-- Whether a character is a hexadecimal digit. -/
def isHexDigit (c : Char) : Bool := c.isDigit || ('a' ≤ c && c ≤ 'f') || ('A' ≤ c && c ≤ 'F')

/-- The bytes of a text in which escaped bytes are read. -/
def decode : List Char → List UInt8
  | [] => []
  | '%' :: a :: b :: cs =>
    if isHexDigit a && isHexDigit b then .ofNat (Unicode.hexNumber [a, b]) :: decode cs
    else String.utf8EncodeChar '%' ++ decode (a :: b :: cs)
  | c :: cs => String.utf8EncodeChar c ++ decode cs

/-- A byte of a name or of a value in a list of pairs. -/
def formByte (b : UInt8) : List Char :=
  let c := Char.ofNat b.toNat
  if b.toNat < 0x80 && (c.isAlphanum || ['*', '-', '.', '_'].contains c) then [c]
  else if c = ' ' then ['+']
  else escapeByte b

/-- A name or a value in a list of pairs. -/
def formText (s : String) : List Char := (Text.Utf8.encode s).flatMap formByte

/-- A name and a value. -/
def formPair (name value : String) : List Char := formText name ++ '=' :: formText value

end TopicBridge.Url
