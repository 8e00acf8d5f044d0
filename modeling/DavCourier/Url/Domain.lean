import DavCourier.Text.Utf8
import DavCourier.Text.Split
import DavCourier.Text.Composed
import DavCourier.Text.Mark
import DavCourier.Url.Domain.Mapping
import DavCourier.Url.Domain.Punycode
import DavCourier.Url.Domain.Joiner
import DavCourier.Url.Domain.Direction

/-!
# Domain names

A domain name has labels with points between them. `domainToAscii?` brings a name into its
common form and writes its labels in ASCII. A label that is written in ASCII already must
stand for one that could be written so.
-/

namespace DavCourier.Url

/-- Characters of ASCII that no domain name has : control characters, the space, the
delete character and the marks that delimit parts of an address. -/
def isForbiddenInDomain (c : Char) : Bool :=
  c.toNat ≤ 0x20 || c.toNat == 0x7F || "%#/:<>?@[\\]^|".toList.contains c

/-- Whether a text is ASCII. -/
def isAscii (cs : List Char) : Bool :=
  cs.all fun c => c.toNat < 0x80

/-- The common form of the characters of a text, if it has one. -/
def commonForm? (cs : List Char) : Option (List Char) :=
  match mapAll? cs with
  | none => none
  | some mapped =>
    let form := Text.compose mapped
    if form.any isForbiddenInDomain then none else some form

/-- What stands before the digits of a label that is written in ASCII. -/
def asciiMark : List Char := "xn--".toList

/-- The length of the longest digits that are read. -/
def maxDigits : Nat := 2000

/-- The length of the longest label that is written in ASCII. -/
def maxEncoded : Nat := 1000

/-- The label that a written one stands for. It has characters outside ASCII and is in the
common form. -/
def decodeLabel? (digits : List Char) : Option (List Char) :=
  if maxDigits < digits.length || digits.getLast? = some '-' then none
  else
    match Punycode.decode? digits with
    | none => none
    | some label =>
      if isAscii label || label.contains '.' || commonForm? label ≠ some label then none
      else some label

/-- The label that is meant. -/
def meantLabel? (label : List Char) : Option (List Char) :=
  if asciiMark.isPrefixOf label then decodeLabel? (label.drop asciiMark.length)
  else some label

/-- Whether a label may stand in a domain name. -/
def isLabel (label : List Char) : Bool :=
  !label.head?.any Text.isMark && joinersFit [] label

/-- A label in ASCII. -/
def writeLabel? (label : List Char) : Option (List Char) :=
  if isAscii label then some label
  else if maxEncoded < label.length then none
  else some (asciiMark ++ Punycode.encode label)

/-- The labels of a domain name in ASCII. -/
def writeLabels? (labels : List (List Char)) : Option (List (List Char)) :=
  match labels.mapM meantLabel? with
  | none => none
  | some meant =>
    if meant.all isLabel && (!meant.any (·.any turnsAround) || meant.all readsOneWay) then
      meant.mapM writeLabel?
    else none

/-- The form of a domain name in ASCII. -/
def domainToAscii? (bytes : Bytes) : Option (List Char) :=
  match Utf8.decode bytes with
  | .error _ => none
  | .ok cs =>
    match commonForm? cs with
    | none => none
    | some form => (writeLabels? (Text.splitAt '.' form)).map (Text.join '.')

end DavCourier.Url
