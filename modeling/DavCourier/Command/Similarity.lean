/-!
# Similar words

`similarity` measures how alike two words are, from 0 to 1, by the characters they share at
near places and by how many of these are out of order. `suggestions` are the words that
are alike enough, the most similar one last.
-/

namespace DavCourier.Command

/-- Takes the first place of a character away from places that are near, if there is one :
the place, and the places that are left. -/
def takePlace (c : Char) (near : Nat → Bool) :
    List (Char × Nat) → Option (Nat × List (Char × Nat))
  | [] => none
  | (d, j) :: rest =>
    if d = c && near j then some (j, rest)
    else (takePlace c near rest).map fun (k, left) => (k, (d, j) :: left)

/-- Pairs the characters of a word, the first at place `i`, with free places of the other
word that are no further away than `reach`. -/
def pairUp (reach : Nat) (i : Nat) (free : List (Char × Nat)) :
    List Char → List (Char × Nat)
  | [] => []
  | c :: cs =>
    match takePlace c (fun j => i ≤ j + reach && j ≤ i + reach) free with
    | some (j, free) => (c, j) :: pairUp reach (i + 1) free cs
    | none => pairUp reach (i + 1) free cs

/-- How alike two words are. -/
def similarity (a b : List Char) : Float :=
  let reach := max a.length b.length / 2 - 1
  let pairs := pairUp reach 0 b.zipIdx a
  let partners := (pairs.map Prod.snd).mergeSort.filterMap fun j => b[j]?
  let moved := ((pairs.map Prod.fst).zip partners).countP fun (c, d) => c ≠ d
  let shared := pairs.length
  if shared = 0 then if a.isEmpty && b.isEmpty then 1 else 0
  else
    (shared.toFloat / a.length.toFloat + shared.toFloat / b.length.toFloat
      + (shared - moved / 2).toFloat / shared.toFloat) / 3

/-- Puts a measured word after those that are not more similar. -/
def rank (word : Float × String) : List (Float × String) → List (Float × String)
  | [] => [word]
  | w :: ws => if w.1 > word.1 then word :: w :: ws else w :: rank word ws

/-- The measure that suggested words exceed. -/
def threshold : Float := 0.7

/-- The words that are similar to a text, the most similar one last. -/
def suggestions (text : String) (words : List String) : List String :=
  let measured := words.map fun w => (similarity text.toList w.toList, w)
  ((measured.filter fun w => w.1 > threshold).foldl (fun ws w => rank w ws) []).map Prod.snd

end DavCourier.Command
