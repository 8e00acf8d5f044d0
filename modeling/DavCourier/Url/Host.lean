import DavCourier.Url.Encoding
import DavCourier.Url.Numeric
import DavCourier.Url.Domain

/-!
# Hosts

A host in brackets is an address of 128 bits. With a special scheme any other host is a
domain name, or an address of 32 bits if it ends in a number; with other schemes it is
opaque.
-/

namespace DavCourier.Url

/-- Why a text is no address. -/
inductive Fault where
  | emptyHost
  | badDomain
  | badPort
  | badAddress4
  | badAddress6
  | badHostCharacter
  /-- The text has no scheme. -/
  | relative
  deriving DecidableEq, Repr

/-- The wording of a fault. -/
def Fault.message : Fault → String
  | emptyHost => "empty host"
  | badDomain => "invalid international domain name"
  | badPort => "invalid port number"
  | badAddress4 => "invalid IPv4 address"
  | badAddress6 => "invalid IPv6 address"
  | badHostCharacter => "invalid domain character"
  | relative => "relative URL without a base"

/-- The host between brackets. -/
def bracketedHost (text : List Char) : Except Fault (List Char) :=
  match text.reverse with
  | ']' :: inner =>
    match address6? inner.reverse with
    | some ns => .ok ('[' :: render6 ns ++ [']'])
    | none => .error .badAddress6
  | _ => .error .badAddress6

/-- The characters that an opaque host does not have. -/
def isForbiddenInHost (c : Char) : Bool :=
  c = '\x00' || c = ' ' || "#/:<>?@[\\]^|".toList.contains c

/-- The written form of a host of an address with a special scheme. -/
def specialHost (text : List Char) : Except Fault (List Char) :=
  match text with
  | '[' :: rest => bracketedHost rest
  | _ =>
    match domainToAscii? (Percent.decodeBytes (Utf8.encode text)) with
    | none => .error .badDomain
    | some [] => .error .emptyHost
    | some domain =>
      if endsInNumber domain then
        match address4? domain with
        | some n => .ok (render4 n)
        | none => .error .badAddress4
      else .ok domain

/-- The written form of a host of an address with another scheme; it may be empty. -/
def opaqueHost (text : List Char) : Except Fault (List Char) :=
  match text with
  | '[' :: rest => bracketedHost rest
  | _ =>
    if text.any isForbiddenInHost then .error .badHostCharacter
    else .ok (escapeWith keepsInOpaque text)

end DavCourier.Url
