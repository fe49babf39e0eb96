import ClarityCheck.Url.Domain.Ascii
import ClarityCheck.Url.Ipv4
import ClarityCheck.Url.Ipv6
import ClarityCheck.Url.Percent

/-!
# Hosts

The host of a URL is a domain name in ASCII or an address. Schemes without servers of a known kind
leave their hosts as they are, but for the characters that no host holds.
-/

namespace ClarityCheck.Url

open ClarityCheck.Text

/-- Why a text is no URL. -/
inductive ParseError where
  | relative
  | emptyHost
  | invalidPort
  | invalidDomain
  | invalidDomainCharacter
  | invalidIpv4
  | invalidIpv6
  deriving DecidableEq, Repr

/-- The wording of an error. -/
def ParseError.message : ParseError → String
  | .relative => "relative URL without a base"
  | .emptyHost => "empty host"
  | .invalidPort => "invalid port number"
  | .invalidDomain => "invalid international domain name"
  | .invalidDomainCharacter => "invalid domain character"
  | .invalidIpv4 => "invalid IPv4 address"
  | .invalidIpv6 => "invalid IPv6 address"

/-- The host of a URL. -/
inductive Host where
  | domain (name : List Char)
  | ipv4 (number : Nat)
  | ipv6 (pieces : List Nat)
  deriving DecidableEq, Repr

namespace Host

/-- A host as it is written. -/
def render : Host → List Char
  | .domain name => name
  | .ipv4 n => Ipv4.render n
  | .ipv6 ps => '[' :: Ipv6.render ps ++ [']']

/-- Reads an address in brackets behind the opening one. -/
def ofBracketed (s : List Char) : Except ParseError Host :=
  match s.getLast? with
  | some ']' =>
    match Ipv6.ofChars? s.dropLast with
    | some ps => .ok (.ipv6 ps)
    | none => .error .invalidIpv6
  | _ => .error .invalidIpv6

/-- Reads the host of a server. -/
def ofServer (s : List Char) : Except ParseError Host :=
  match s with
  | '[' :: r => ofBracketed r
  | s =>
    match (Utf8.decode? (Percent.decode s)).bind Domain.toAscii? with
    | none => .error .invalidDomain
    | some name =>
      if name.isEmpty then .error .emptyHost
      else if Ipv4.endsInNumber name then
        match Ipv4.ofHost? name with
        | some n => .ok (.ipv4 n)
        | none => .error .invalidIpv4
      else .ok (.domain name)

/-- A character that no host holds as it is. -/
def isForbidden (c : Char) : Bool :=
  c = '\x00' || "\t\n\r #/:<>?@[\\]^|".toList.contains c

/-- Reads a host of another scheme. -/
def ofOther (s : List Char) : Except ParseError Host :=
  match s with
  | '[' :: r => ofBracketed r
  | s =>
    if s.any isForbidden then .error .invalidDomainCharacter
    else .ok (.domain (Percent.encode Percent.controls s))

end Host

end ClarityCheck.Url
