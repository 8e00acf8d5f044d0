import DavCourier.Text.Percent

/-!
# What the parts of an address escape

Each part of an address keeps some bytes as they are. Control characters and what lies
outside ASCII are always escaped, and a percent sign never is.
-/

namespace DavCourier.Url

/-- The bytes of an opaque part : all of ASCII but the control characters. -/
def keepsInOpaque (b : UInt8) : Bool :=
  0x20 ≤ b && b ≤ 0x7E

/-- The bytes that a fragment keeps. -/
def keepsInFragment (b : UInt8) : Bool :=
  keepsInOpaque b && b != 0x20 && b != 0x22 && b != 0x3C && b != 0x3E && b != 0x60

/-- The bytes that a query keeps; with a special scheme not the apostrophe. -/
def keepsInQuery (special : Bool) (b : UInt8) : Bool :=
  keepsInOpaque b && b != 0x20 && b != 0x22 && b != 0x23 && b != 0x3C && b != 0x3E
    && !(special && b == 0x27)

/-- The bytes that a path keeps. -/
def keepsInPath (b : UInt8) : Bool :=
  keepsInFragment b && b != 0x23 && b != 0x3F && b != 0x7B && b != 0x7D

/-- The bytes that a user name and a password keep. -/
def keepsInUser (b : UInt8) : Bool :=
  keepsInPath b && b != 0x2F && b != 0x3A && b != 0x3B && b != 0x3D && b != 0x40
    && !(0x5B ≤ b && b ≤ 0x5E) && b != 0x7C

/-- Escapes the bytes that a part does not keep. -/
def escapeWith (keep : UInt8 → Bool) (cs : List Char) : List Char :=
  Percent.encodeBytes keep (Utf8.encode cs)

end DavCourier.Url
