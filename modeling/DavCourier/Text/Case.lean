/-!
# Letters of ASCII in lower case
-/

namespace DavCourier.Text

/-- A letter from `A` to `Z` in lower case, and any other character as it is. -/
def lower (c : Char) : Char :=
  if 'A' ≤ c ∧ c ≤ 'Z' then Char.ofNat (c.toNat + 32) else c

end DavCourier.Text
