import PullRequestBot.Text.Utf8
import PullRequestBot.Web.Domain
import PullRequestBot.Web.Ipv4
import PullRequestBot.Web.Ipv6
import PullRequestBot.Web.Percent

set_option autoImplicit false

/-! # Servers

An address names a server by its domain name or by its internet address. A name that ends in a number
is an internet address of 32 bits, and one of 128 bits stands in brackets. Schemes that are not of
the web may use names of any other kind. -/

namespace PullRequestBot

/-- Why a text is no address. -/
inductive UrlFailure where
  | relative
  | noServer
  | invalidDomain
  | invalidPort
  | invalidIpv4
  | invalidIpv6
  | invalidCharacter
deriving DecidableEq, Repr

/-- The wording of an address failure. -/
def UrlFailure.message : UrlFailure → String
  | relative => "relative URL without a base"
  | noServer => "empty host"
  | invalidDomain => "invalid international domain name"
  | invalidPort => "invalid port number"
  | invalidIpv4 => "invalid IPv4 address"
  | invalidIpv6 => "invalid IPv6 address"
  | invalidCharacter => "invalid domain character"

/-- The server that an address names. -/
inductive Server where
  /-- A name in its written form; it is empty where no server is named. -/
  | named (name : String)
  | ipv4 (address : Ipv4)
  | ipv6 (address : Ipv6)
deriving DecidableEq, Repr

namespace Server

/-- The written form of a server. -/
def text : Server → String
  | named name => name
  | ipv4 address => address.text
  | ipv6 address => s!"[{address.text}]"

/-- Whether a server is named at all. -/
def isPresent (server : Server) : Bool :=
  server ≠ named ""

/-- Reads an internet address between brackets; `cs` is what follows the first bracket. -/
def readBracketed (cs : List Char) : Except UrlFailure Server :=
  match if cs.getLast? = some ']' then Ipv6.read? cs.dropLast else none with
  | some address => .ok (.ipv6 address)
  | none => .error .invalidIpv6

/-- The domain name that a text stands for, once its percent signs are read. -/
def domain? (cs : List Char) : Option (List Char) :=
  (Text.Utf8.decode (Percent.decode cs)).bind fun text => Domain.ofText? text.toList

/-- Reads a server of the web. -/
def read : List Char → Except UrlFailure Server
  | '[' :: rest => readBracketed rest
  | cs =>
    match domain? cs with
    | none => .error .invalidDomain
    | some name =>
      if name.isEmpty then .error .noServer
      else if Ipv4.endsInNumber name then
        match Ipv4.read? name with
        | some address => .ok (.ipv4 address)
        | none => .error .invalidIpv4
      else .ok (.named (String.ofList name))

/-- Characters that stand in no name of a server. -/
def isForbidden (c : Char) : Bool :=
  ['\x00', ' ', '#', '/', ':', '<', '>', '?', '@', '[', '\\', ']', '^', '|'].contains c

/-- Reads a server of a scheme that is not of the web. -/
def readOther : List Char → Except UrlFailure Server
  | '[' :: rest => readBracketed rest
  | cs =>
    if cs.any isForbidden then .error .invalidCharacter
    else .ok (.named (Percent.encoded Percent.isControl cs))

end Server

end PullRequestBot
