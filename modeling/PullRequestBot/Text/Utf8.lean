set_option autoImplicit false

/-! # UTF-8 bytes and characters

Bytes that come from outside (files, process output, response bodies) are decoded in two ways:
`decode` accepts exactly the well-formed texts, and `decodeLossy` replaces every maximal ill-formed
part by one U+FFFD. `encode` writes the bytes of a text. -/

namespace PullRequestBot.Text.Utf8

/-! ## Single characters -/

/-- One step of decoding: what the bytes at the front of the input are. -/
inductive Step where
  /-- A well-formed character of the given number of bytes. -/
  | char (value : Char) (width : Nat)
  /-- An ill-formed part of the given number of bytes. -/
  | bad (width : Nat)

/-- Whether a byte continues a sequence: `10xxxxxx`. -/
def isContinuation (b : UInt8) : Bool :=
  0x80 ≤ b && b ≤ 0xBF

/-- The bytes that may follow the given first byte of a longer sequence: overlong forms,
    surrogates and values above U+10FFFF are ruled out by the second byte already. -/
def isSecond (first second : UInt8) : Bool :=
  if first == 0xE0 then 0xA0 ≤ second && second ≤ 0xBF
  else if first == 0xED then 0x80 ≤ second && second ≤ 0x9F
  else if first == 0xF0 then 0x90 ≤ second && second ≤ 0xBF
  else if first == 0xF4 then 0x80 ≤ second && second ≤ 0x8F
  else isContinuation second

/-- The payload of a continuation byte. -/
def payload (b : UInt8) : Nat :=
  b.toNat % 64

/-- Reads the character, or the maximal ill-formed part, that starts with `b`. -/
def step (b : UInt8) (rest : List UInt8) : Step :=
  if b < 0x80 then .char (Char.ofNat b.toNat) 1
  else if 0xC2 ≤ b && b ≤ 0xDF then
    match rest with
    | c :: _ =>
      if isContinuation c then .char (Char.ofNat (b.toNat % 32 * 64 + payload c)) 2 else .bad 1
    | [] => .bad 1
  else if 0xE0 ≤ b && b ≤ 0xEF then
    match rest with
    | c :: tail =>
      if isSecond b c then
        match tail with
        | d :: _ =>
          if isContinuation d then
            .char (Char.ofNat ((b.toNat % 16 * 64 + payload c) * 64 + payload d)) 3
          else .bad 2
        | [] => .bad 2
      else .bad 1
    | [] => .bad 1
  else if 0xF0 ≤ b && b ≤ 0xF4 then
    match rest with
    | c :: tail =>
      if isSecond b c then
        match tail with
        | d :: tail' =>
          if isContinuation d then
            match tail' with
            | e :: _ =>
              if isContinuation e then
                .char (Char.ofNat
                  (((b.toNat % 8 * 64 + payload c) * 64 + payload d) * 64 + payload e)) 4
              else .bad 3
            | [] => .bad 3
          else .bad 2
        | [] => .bad 2
      else .bad 1
    | [] => .bad 1
  else .bad 1

/-! ## Texts -/

/-- The character that stands for an ill-formed part. -/
def replacement : Char := '\uFFFD'

/-- The steps over the whole input, one per character or ill-formed part. The `skip` bytes at the
    front belong to a step already taken. -/
def stepsFrom : Nat → List UInt8 → List Step
  | _, [] => []
  | skip + 1, _ :: rest => stepsFrom skip rest
  | 0, b :: rest =>
    match step b rest with
    | .char value width => .char value width :: stepsFrom (width - 1) rest
    | .bad width => .bad width :: stepsFrom (width - 1) rest

/-- The character read, if the part was well-formed. -/
def Step.char? : Step → Option Char
  | .char value _ => some value
  | .bad _ => none

/-- The characters, with U+FFFD for every ill-formed part. -/
def decodeLossyChars (bytes : List UInt8) : List Char :=
  (stepsFrom 0 bytes).map fun part => part.char?.getD replacement

/-- The text, with U+FFFD for every ill-formed part. -/
def decodeLossy (bytes : List UInt8) : String :=
  String.ofList (decodeLossyChars bytes)

/-- The text, if every part is well-formed. -/
def decode (bytes : List UInt8) : Option String :=
  ((stepsFrom 0 bytes).mapM Step.char?).map String.ofList

/-- The bytes of a list of characters. -/
def encodeChars (cs : List Char) : List UInt8 :=
  cs.flatMap String.utf8EncodeChar

/-- The bytes of a text. -/
def encode (s : String) : List UInt8 :=
  encodeChars s.toList

end PullRequestBot.Text.Utf8
