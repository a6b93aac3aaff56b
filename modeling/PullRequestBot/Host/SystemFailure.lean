set_option autoImplicit false

/-! # What the operating system refuses

A failed call on the file system or on a process carries the number and the text of the operating
system's error. A few failures are noticed before the system is asked and have only a text. -/

namespace PullRequestBot

/-- Why the system refused. -/
inductive SystemFailure where
  /-- An error number of the operating system and its text. -/
  | numbered (number : Nat) (text : String)
  /-- A failure without a number. -/
  | unnumbered (text : String)
deriving DecidableEq, Repr

namespace SystemFailure

/-- The text of the failure, with the number where there is one. -/
def message : SystemFailure → String
  | .numbered number text => s!"{text} (os error {number})"
  | .unnumbered text => text

/-! ## The failures in use -/

def noSuchFile : SystemFailure := .numbered 2 "No such file or directory"

def permissionDenied : SystemFailure := .numbered 13 "Permission denied"

def fileExists : SystemFailure := .numbered 17 "File exists"

def notADirectory : SystemFailure := .numbered 20 "Not a directory"

def isADirectory : SystemFailure := .numbered 21 "Is a directory"

def nameTooLong : SystemFailure := .numbered 36 "File name too long"

def notImplemented : SystemFailure := .numbered 38 "Function not implemented"

def networkUnreachable : SystemFailure := .numbered 101 "Network is unreachable"

/-- A file name holds the character that ends names for the system. -/
def nulInPath : SystemFailure := .unnumbered "file name contained an unexpected NUL byte"

/-- An argument of a process holds the character that ends arguments for the system. -/
def nulInArgument : SystemFailure := .unnumbered "nul byte found in provided data"

/-- The content of a file is not UTF-8. -/
def invalidUtf8 : SystemFailure := .unnumbered "stream did not contain valid UTF-8"

/-- Whether the failure says that something is missing. -/
def isNotFound (failure : SystemFailure) : Bool :=
  failure == noSuchFile

end SystemFailure

end PullRequestBot
