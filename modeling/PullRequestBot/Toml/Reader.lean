import PullRequestBot.Toml.Scalar

set_option autoImplicit false

/-! # Reading TOML

`Toml.read` reads a document: lines that each hold a key with its value, or the header of a table or
of the next table of an array. Reading steps answer `none` on a text outside the grammar, and the
rest of the input otherwise. -/

namespace PullRequestBot.Toml

/-! ## Blanks, comments and line ends -/

/-- Drops blanks inside a line. -/
def skipBlanks (cs : List Char) : List Char :=
  cs.dropWhile fun c => c = ' ' || c = '\t'

/-- A control character that may not stand in a comment or a string. -/
def isForbidden (c : Char) : Bool :=
  (c.toNat < 0x20 && c ≠ '\t') || c.toNat = 0x7F

/-- Passes a comment, if there is one, up to the line end. -/
def skipComment (cs : List Char) : Option (List Char) :=
  match cs with
  | '#' :: rest =>
    match rest.dropWhile fun c => !isForbidden c with
    | [] => some []
    | '\n' :: after => some ('\n' :: after)
    | '\r' :: '\n' :: after => some ('\n' :: after)
    | _ => none
  | _ => some cs

/-- Passes a line end, if there is one. -/
def skipLineEnd : List Char → Option (List Char)
  | '\n' :: rest => some rest
  | '\r' :: '\n' :: rest => some rest
  | _ => none

/-- Passes blanks, comments and line ends. -/
def skipSpace : Nat → List Char → Option (List Char)
  | 0, cs => some cs
  | fuel + 1, cs => do
    let cs ← skipComment (skipBlanks cs)
    match skipLineEnd cs with
    | some rest => skipSpace fuel rest
    | none => some cs

/-- Passes blanks, comments and line ends; every line end takes a character. -/
def skipAllSpace (cs : List Char) : Option (List Char) :=
  skipSpace cs.length cs

/-- Passes the rest of a line after its content. -/
def endLine (cs : List Char) : Option (List Char) := do
  let cs ← skipComment (skipBlanks cs)
  if cs.isEmpty then some [] else skipLineEnd cs

/-! ## Strings -/

/-- Reads `count` digits to base 16 as a character. -/
def readCodePoint (count : Nat) (cs : List Char) : Option (Char × List Char) := do
  let written := cs.take count
  if written.length ≠ count then none
  let value ← Digit.number? 16 written
  if h : value.isValidChar then some (Char.ofNatAux value h, cs.drop count) else none

/-- Reads the character after a backslash. -/
def readEscape : List Char → Option (Char × List Char)
  | 'b' :: rest => some ('\x08', rest)
  | 't' :: rest => some ('\t', rest)
  | 'n' :: rest => some ('\n', rest)
  | 'f' :: rest => some ('\x0c', rest)
  | 'r' :: rest => some ('\r', rest)
  | 'e' :: rest => some ('\x1b', rest)
  | '"' :: rest => some ('"', rest)
  | '\\' :: rest => some ('\\', rest)
  | 'x' :: rest => readCodePoint 2 rest
  | 'u' :: rest => readCodePoint 4 rest
  | 'U' :: rest => readCodePoint 8 rest
  | _ => none

/-- Reads the rest of a string on one line; `done` holds its characters, latest first. -/
def readBasic : Nat → List Char → List Char → Option (String × List Char)
  | 0, _, _ => none
  | fuel + 1, done, cs =>
    match cs with
    | [] => none
    | '"' :: rest => some (String.ofList done.reverse, rest)
    | '\\' :: rest => do
      let (c, after) ← readEscape rest
      readBasic fuel (c :: done) after
    | c :: rest => if isForbidden c then none else readBasic fuel (c :: done) rest

/-- Reads the rest of a literal string on one line. -/
def readLiteral (cs : List Char) : Option (String × List Char) :=
  let body := cs.takeWhile fun c => c ≠ '\'' && !isForbidden c
  match cs.drop body.length with
  | '\'' :: rest => some (String.ofList body, rest)
  | _ => none

/-- The end of a string over several lines: three quotes, with one or two more that belong to the
    string. -/
def readTripleEnd (quote : Char) (cs : List Char) : Option (List Char × List Char) :=
  let quotes := cs.takeWhile (· = quote)
  if quotes.length < 3 then none
  else if quotes.length ≤ 5 then
    some (List.replicate (quotes.length - 3) quote, cs.drop quotes.length)
  else none

/-- Passes a line break behind a backslash and all blanks and line ends after it. -/
def skipBreak (cs : List Char) : Option (List Char) := do
  let rest ← skipLineEnd (skipBlanks cs)
  some (rest.dropWhile fun c => c = ' ' || c = '\t' || c = '\n' || c = '\r')

/-- Reads the rest of a string over several lines. -/
def readMultiline (quote : Char) (escapes : Bool) :
    Nat → List Char → List Char → Option (String × List Char)
  | 0, _, _ => none
  | fuel + 1, done, cs =>
    match readTripleEnd quote cs with
    | some (inner, rest) => some (String.ofList (done.reverse ++ inner), rest)
    | none =>
      match cs with
      | [] => none
      | '\r' :: '\n' :: rest => readMultiline quote escapes fuel ('\n' :: done) rest
      | '\n' :: rest => readMultiline quote escapes fuel ('\n' :: done) rest
      | c :: rest =>
        if c = '\\' ∧ escapes then
          match skipBreak rest with
          | some after => readMultiline quote escapes fuel done after
          | none => do
            let (c, after) ← readEscape rest
            readMultiline quote escapes fuel (c :: done) after
        else if isForbidden c then none
        else readMultiline quote escapes fuel (c :: done) rest

/-- Drops the line end right after the opening quotes. -/
def dropFirstLineEnd (cs : List Char) : List Char :=
  (skipLineEnd cs).getD cs

/-- Reads a string. -/
def readString (cs : List Char) : Option (String × List Char) :=
  match cs with
  | '"' :: '"' :: '"' :: rest => readMultiline '"' true (cs.length) [] (dropFirstLineEnd rest)
  | '\'' :: '\'' :: '\'' :: rest =>
    readMultiline '\'' false (cs.length) [] (dropFirstLineEnd rest)
  | '"' :: rest => readBasic cs.length [] rest
  | '\'' :: rest => readLiteral rest
  | _ => none

/-! ## Keys -/

/-- A character of a key without quotes. -/
def isBareKeyChar (c : Char) : Bool :=
  c.isAlphanum || c = '_' || c = '-'

/-- Reads one part of a key. -/
def readKeyPart (cs : List Char) : Option (String × List Char) :=
  match cs with
  | '"' :: rest => readBasic cs.length [] rest
  | '\'' :: rest => readLiteral rest
  | _ =>
    let bare := cs.takeWhile isBareKeyChar
    if bare.isEmpty then none else some (String.ofList bare, cs.drop bare.length)

/-- Reads a key: parts with dots between them, blanks around the dots allowed. -/
def readKeyParts : Nat → List Char → Option (List String × List Char)
  | 0, _ => none
  | fuel + 1, cs => do
    let (part, rest) ← readKeyPart (skipBlanks cs)
    match skipBlanks rest with
    | '.' :: after => do
      let (more, rest) ← readKeyParts fuel after
      some (part :: more, rest)
    | rest => some ([part], rest)

/-- Reads a key; every part but the last takes a dot. -/
def readKey (cs : List Char) : Option (List String × List Char) :=
  readKeyParts (cs.length + 1) cs

/-! ## Values -/

/-- A character of a word that is neither a string nor a bracket. -/
def isWordChar (c : Char) : Bool :=
  c.isAlphanum || c = '+' || c = '-' || c = '.' || c = '_' || c = ':'

/-- The word in front; a time may follow a date after a blank. -/
def takeWord (cs : List Char) : List Char × List Char :=
  let word := cs.takeWhile isWordChar
  let rest := cs.drop word.length
  match rest with
  | ' ' :: a :: b :: ':' :: _ =>
    if (readDate word).any (fun (_, more) => more.isEmpty) && a.isDigit && b.isDigit then
      let time := rest.tail.takeWhile isWordChar
      (word ++ ' ' :: time, rest.tail.drop time.length)
    else (word, rest)
  | _ => (word, rest)

/-- Reads a boolean, a number, a date or a time. -/
def readScalar (cs : List Char) : Option (Toml × List Char) :=
  let (word, rest) := takeWord cs
  if word = "true".toList then some (.boolean true, rest)
  else if word = "false".toList then some (.boolean false, rest)
  else (scalar? word).map fun value => (value, rest)

mutual

/-- Reads a value. -/
def readValue : Nat → List Char → Option (Toml × List Char)
  | 0, _ => none
  | fuel + 1, cs =>
    match cs with
    | '"' :: _ => (readString cs).map fun (s, rest) => (.text s, rest)
    | '\'' :: _ => (readString cs).map fun (s, rest) => (.text s, rest)
    | '[' :: rest => do
      let (items, after) ← readItems fuel (← skipAllSpace rest)
      some (.array items, after)
    | '\x7b' :: rest => do
      let (entries, after) ← readEntries fuel [] (← skipAllSpace rest)
      some (.table (ofEntries entries), after)
    | _ => readScalar cs

/-- Reads the items of an array up to its end. -/
def readItems : Nat → List Char → Option (List Toml × List Char)
  | 0, _ => none
  | fuel + 1, cs =>
    match cs with
    | ']' :: rest => some ([], rest)
    | _ => do
      let (item, rest) ← readValue fuel cs
      match ← skipAllSpace rest with
      | ',' :: after => do
        let (items, rest) ← readItems fuel (← skipAllSpace after)
        some (item :: items, rest)
      | ']' :: after => some ([item], after)
      | _ => none

/-- Reads the entries of a table in braces up to its end. -/
def readEntries : Nat → Entries → List Char → Option (Entries × List Char)
  | 0, _, _ => none
  | fuel + 1, done, cs =>
    match cs with
    | '\x7d' :: rest => some (done, rest)
    | _ => do
      let (key, rest) ← readKey cs
      let (value, rest) ← readValue fuel (skipBlanks (← pass '=' rest))
      let entries ← putDotted value key done
      match ← skipAllSpace rest with
      | ',' :: after => readEntries fuel entries (← skipAllSpace after)
      | '\x7d' :: after => some (entries, after)
      | _ => none

end

/-! ## Documents -/

/-- A document so far: its tree, and the way to the table that lines add to. -/
structure Draft where
  entries : Entries := []
  current : List String := []

/-- Reads a header after its opening brackets. -/
def readHeader (closing : List Char) (cs : List Char) : Option (List String × List Char) := do
  let (key, rest) ← readKey cs
  if closing.isPrefixOf rest then some (key, rest.drop closing.length) else none

/-- Reads one line with content. -/
def readLine (draft : Draft) (cs : List Char) : Option (Draft × List Char) :=
  match cs with
  | '[' :: '[' :: rest => do
    let (key, rest) ← readHeader [']', ']'] rest
    some (⟨← openItem key draft.entries, key⟩, rest)
  | '[' :: rest => do
    let (key, rest) ← readHeader [']'] rest
    some (⟨← openTable key draft.entries, key⟩, rest)
  | _ => do
    let (key, rest) ← readKey cs
    let (value, rest) ← readValue (2 * cs.length) (skipBlanks (← pass '=' rest))
    let entries ← within (putDotted value key) draft.current draft.entries
    some ({ draft with entries := entries }, rest)

/-- Reads lines to the end of the document. -/
def readLines : Nat → Draft → List Char → Option Draft
  | 0, _, _ => none
  | fuel + 1, draft, cs => do
    match ← skipAllSpace cs with
    | [] => some draft
    | content => do
      let (draft, rest) ← readLine draft content
      readLines fuel draft (← endLine rest)

/-- Drops the mark that may stand in front of a document. -/
def dropMark : List Char → List Char
  | '\ufeff' :: rest => rest
  | cs => cs

/-- Reads a document as the entries of its top table; every line takes a character. -/
def read (text : String) : Option (List (String × Toml)) :=
  let cs := dropMark text.toList
  (readLines (cs.length + 1) {} cs).map fun draft => ofEntries draft.entries

end PullRequestBot.Toml
