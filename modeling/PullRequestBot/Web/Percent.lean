import PullRequestBot.Number.Digit

set_option autoImplicit false

/-! # Percent signs in addresses

A character that may not stand in a part of an address is written as its UTF-8 bytes, each of them
to base 16 behind a percent sign. Which characters these are depends on the part. -/

namespace PullRequestBot.Percent

/-! ## Characters that are encoded -/

/-- Characters that stand in no part of an address: control characters, and all that are not in
    ASCII. -/
def isControl (c : Char) : Bool :=
  c.toNat < 0x20 || 0x7E < c.toNat

/-- Characters that end an address in running text: blanks, quotes and angle brackets. -/
def isDelimiter (c : Char) : Bool :=
  isControl c || c = ' ' || c = '"' || c = '<' || c = '>'

/-- Characters that are encoded in a fragment. -/
def inFragment (c : Char) : Bool :=
  isDelimiter c || c = '`'

/-- Characters that are encoded in a query. -/
def inQuery (c : Char) : Bool :=
  isDelimiter c || c = '#'

/-- Characters that are encoded in a path. -/
def inPath (c : Char) : Bool :=
  inFragment c || ['#', '?', '\x7b', '\x7d'].contains c

/-- Characters that are encoded in a user name and a password. -/
def inUser (c : Char) : Bool :=
  inPath c || ['/', ':', ';', '=', '@', '[', '\\', ']', '^', '|'].contains c

/-! ## Encoding -/

/-- A byte behind a percent sign. -/
def byte (b : UInt8) : List Char :=
  ['%', Digit.upper (b.toNat / 16), Digit.upper (b.toNat % 16)]

/-- Writes the characters of the given class as their bytes. -/
def encode (isEncoded : Char → Bool) (cs : List Char) : List Char :=
  cs.flatMap fun c => if isEncoded c then (String.utf8EncodeChar c).flatMap byte else [c]

/-- `encode` as a string. -/
def encoded (isEncoded : Char → Bool) (cs : List Char) : String :=
  String.ofList (encode isEncoded cs)

/-! ## Decoding -/

/-- The bytes of a text; a percent sign that is not in front of two digits stands for itself. -/
def decode : List Char → List UInt8
  | [] => []
  | '%' :: a :: b :: rest =>
    match Digit.value? 16 a, Digit.value? 16 b with
    | some high, some low => UInt8.ofNat (high * 16 + low) :: decode rest
    | _, _ => String.utf8EncodeChar '%' ++ decode (a :: b :: rest)
  | c :: rest => String.utf8EncodeChar c ++ decode rest

end PullRequestBot.Percent
