import PullRequestBot.Text.Composed
import PullRequestBot.Text.Mark
import PullRequestBot.Text.Punycode
import PullRequestBot.Web.Domain.Direction
import PullRequestBot.Web.Domain.Joiner
import PullRequestBot.Web.Domain.MappingTable

set_option autoImplicit false

/-! # Labels of domain names

A domain name is a row of labels with points between them. A label with characters that are not in
ASCII is written in Punycode behind the mark `xn--`, and may be given in that form as well. -/

namespace PullRequestBot.Domain

/-! ## Characters -/

/-- What a character of a domain name stands for; `none` if it is refused. -/
def mapChar (c : Char) : Option (List Char) :=
  match replacements.image? c with
  | some image => some image
  | none => if refused.has c then none else some [c]

/-- Whether a character stands for itself. -/
def isKept (c : Char) : Bool :=
  mapChar c == some [c]

/-! ## Labels -/

/-- What stands in front of a label in Punycode. -/
def encodingMark : List Char := "xn--".toList

/-- The longest label that is written in Punycode, in characters. -/
def maxLength : Nat := 1000

/-- The longest row in Punycode that is read. -/
def maxCodeLength : Nat := 2000

/-- Whether the characters of a label may stand together. -/
def isSound (label : List Char) : Bool :=
  !label.head?.any Text.isMark && joinersFit [] label

/-- The characters of a label that is given in Punycode. It has to be the form in which they are
    written: they cannot be composed, mapped or given without it. -/
def decodeLabel (code : List Char) : Option (List Char) := do
  if maxCodeLength < code.length then none
  let label ← Punycode.decode code
  if label.all Punycode.isPlain || !Text.isComposed label || !label.all isKept ||
      encodingMark.isPrefixOf label then none
  else some label

/-- The characters of a label, if they may stand together. -/
def readLabel (cs : List Char) : Option (List Char) := do
  let label ←
    if encodingMark.isPrefixOf cs then decodeLabel (cs.drop encodingMark.length)
    else if cs.all Punycode.isPlain || cs.length ≤ maxLength then some cs
    else none
  if isSound label then some label else none

/-- The form of a label in ASCII. -/
def writeLabel (label : List Char) : List Char :=
  if label.all Punycode.isPlain then label else encodingMark ++ Punycode.encode label

end PullRequestBot.Domain
