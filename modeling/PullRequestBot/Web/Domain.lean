import PullRequestBot.Web.Domain.Label

set_option autoImplicit false

/-! # Domain names

`Domain.ofText?` gives the form in which a domain name is looked up: small letters, and ASCII
characters only. -/

namespace PullRequestBot.Domain

/-- Whether an ASCII character may stand in a domain name. -/
def isAllowed (c : Char) : Bool :=
  0x20 < c.toNat && c.toNat < 0x7F &&
    !(['#', '/', ':', '<', '>', '?', '@', '[', '\\', ']', '^', '|', '%'].contains c)

/-- Whether nothing has to be done to a name but to write its letters small. -/
def isPlainName (cs : List Char) : Bool :=
  cs.all Punycode.isPlain &&
    (Text.pieces '.' (cs.map Char.toLower)).all fun label => !encodingMark.isPrefixOf label

/-- The labels of a name; `none` if one of them is refused, or if letters that run to the left stand out
    of order. -/
def labels? (cs : List Char) : Option (List (List Char)) := do
  let mapped ← cs.mapM mapChar
  let labels ← (Text.pieces '.' (Text.compose mapped.flatten)).mapM readLabel
  if areOrdered labels then some labels else none

/-- Labels with points between them. -/
def join (labels : List (List Char)) : List Char :=
  ['.'].intercalate (labels.map writeLabel)

/-- The form of a name in ASCII; `none` if it is not a domain name. -/
def ofText? (cs : List Char) : Option (List Char) := do
  let name ← if isPlainName cs then some (cs.map Char.toLower) else (labels? cs).map join
  if name.all isAllowed then some name else none

end PullRequestBot.Domain
