import DavCourier.Local.Path

/-!
# What is below a root

Files and directories have places, which are the names on the way from the root, and stand in
the order of their places : a directory before what is in it, and what is in one directory by
the bytes of the names. This is the order of a walk that goes down into every directory as soon
as it comes to it.

`IsProper` is what an operating system sees to : every file and every directory has one place
with legal names, in a directory, and so has the current directory. It stays when an entry is
put where it may be (`Admits`, `IsProper.put`) and when a file is taken away (`IsProper.erase`).
-/

namespace DavCourier.Local

/-- The names on the way from the root. -/
abbrev Place := List (List Char)

/-- What is at a place. -/
inductive Entry where
  | file (content : Bytes)
  | directory
  deriving DecidableEq, Repr

/-- What is at a place. The root is a directory. -/
def entryAt? (entries : List (Place × Entry)) (place : Place) : Option Entry :=
  if place.isEmpty then some .directory
  else (entries.find? fun e => e.1 = place).map Prod.snd

/-- Puts an entry where its place belongs, instead of one at that place. -/
def putEntry (place : Place) (entry : Entry) : List (Place × Entry) → List (Place × Entry)
  | [] => [(place, entry)]
  | e :: es =>
    if place = e.1 then (place, entry) :: es
    else if place < e.1 then (place, entry) :: e :: es
    else e :: putEntry place entry es

/-- The entries without the one at a place. -/
def eraseEntry (place : Place) (entries : List (Place × Entry)) : List (Place × Entry) :=
  entries.filter fun e => e.1 ≠ place

/-- The entries are those that an operating system can have, there is a current directory, and
something is at each of the marked places. -/
structure IsProper (entries : List (Place × Entry)) (current : Place) (marked : List Place) :
    Prop where
  ordered : entries.Pairwise fun a b => a.1 < b.1
  named : ∀ e ∈ entries, e.1 ≠ [] ∧ ∀ name ∈ e.1, IsFileName name
  inside : ∀ e ∈ entries, entryAt? entries e.1.dropLast = some .directory
  current : entryAt? entries current = some .directory
  marked : ∀ place ∈ marked, entryAt? entries place ≠ none

instance (entries : List (Place × Entry)) (current : Place) (marked : List Place) :
    Decidable (IsProper entries current marked) :=
  decidable_of_iff ((entries.Pairwise fun a b => a.1 < b.1) ∧
      (∀ e ∈ entries, e.1 ≠ [] ∧ ∀ name ∈ e.1, IsFileName name) ∧
      (∀ e ∈ entries, entryAt? entries e.1.dropLast = some .directory) ∧
      entryAt? entries current = some .directory ∧ ∀ place ∈ marked, entryAt? entries place ≠ none)
    ⟨fun ⟨hordered, hnamed, hinside, hcurrent, hmarked⟩ =>
        ⟨hordered, hnamed, hinside, hcurrent, hmarked⟩,
      fun ⟨hordered, hnamed, hinside, hcurrent, hmarked⟩ =>
        ⟨hordered, hnamed, hinside, hcurrent, hmarked⟩⟩

/-- A file or a new directory may be put at the place. -/
structure Admits (entries : List (Place × Entry)) (place : Place) : Prop where
  ne_nil : place ≠ []
  named : ∀ name ∈ place, IsFileName name
  inside : entryAt? entries place.dropLast = some .directory
  free : entryAt? entries place ≠ some .directory

variable {entries : List (Place × Entry)} {entry : Entry} {place q current : Place}
  {marked marked' : List Place}

/-! ## Entries at places -/

theorem entryAt?_nil (entries : List (Place × Entry)) : entryAt? entries [] = some .directory :=
  rfl

theorem entryAt?_of_ne_nil (h : place ≠ []) :
    entryAt? entries place = (entries.find? fun e => e.1 = place).map Prod.snd :=
  if_neg (by rw [List.isEmpty_iff]; exact h)

theorem mem_of_entryAt? (hne : place ≠ []) (h : entryAt? entries place = some entry) :
    (place, entry) ∈ entries := by
  rw [entryAt?_of_ne_nil hne] at h
  obtain ⟨⟨place', entry'⟩, hfind, rfl⟩ := Option.map_eq_some_iff.mp h
  have heq : place' = place := by simpa using List.find?_some hfind
  rw [← heq]
  exact List.mem_of_find?_eq_some hfind

theorem find?_putEntry_self (place : Place) (entry : Entry) (entries : List (Place × Entry)) :
    ((putEntry place entry entries).find? fun e => e.1 = place) = some (place, entry) := by
  induction entries with
  | nil => simp [putEntry]
  | cons e es ih =>
    unfold putEntry
    split
    · simp
    · next hne =>
      split
      · simp
      · simp [Ne.symm hne, ih]

theorem find?_putEntry_of_ne (h : q ≠ place) (entry : Entry) (entries : List (Place × Entry)) :
    ((putEntry place entry entries).find? fun e => e.1 = q) = entries.find? fun e => e.1 = q := by
  induction entries with
  | nil => simp [putEntry, h.symm]
  | cons e es ih =>
    unfold putEntry
    split
    · next heq => simp [h.symm, ← heq]
    · split
      · simp [h.symm]
      · simp [List.find?_cons, ih]

theorem entryAt?_putEntry_self (hne : place ≠ []) (entry : Entry)
    (entries : List (Place × Entry)) :
    entryAt? (putEntry place entry entries) place = some entry := by
  rw [entryAt?_of_ne_nil hne, find?_putEntry_self]
  rfl

theorem entryAt?_putEntry_of_ne (h : q ≠ place) (entry : Entry) (entries : List (Place × Entry)) :
    entryAt? (putEntry place entry entries) q = entryAt? entries q := by
  unfold entryAt?
  rw [find?_putEntry_of_ne h]

theorem entryAt?_eraseEntry_self (hne : place ≠ []) (entries : List (Place × Entry)) :
    entryAt? (eraseEntry place entries) place = none := by
  rw [entryAt?_of_ne_nil hne, eraseEntry, List.find?_filter, List.find?_eq_none.mpr,
    Option.map_none]
  simp

theorem entryAt?_eraseEntry_of_ne (h : q ≠ place) (entries : List (Place × Entry)) :
    entryAt? (eraseEntry place entries) q = entryAt? entries q := by
  have hfind : ((eraseEntry place entries).find? fun e => e.1 = q) =
      entries.find? fun e => e.1 = q := by
    rw [eraseEntry, List.find?_filter]
    congr 1
    funext e
    by_cases heq : e.1 = q <;> simp [heq, h]
  rw [entryAt?, entryAt?, hfind]

theorem mem_putEntry {e : Place × Entry} (h : e ∈ putEntry place entry entries) :
    e.1 = place ∨ e ∈ entries := by
  induction entries with
  | nil => exact Or.inl (List.mem_singleton.mp h ▸ rfl)
  | cons x es ih =>
    unfold putEntry at h
    split at h
    · rcases List.mem_cons.mp h with rfl | h
      · exact Or.inl rfl
      · exact Or.inr (List.mem_cons_of_mem _ h)
    · split at h
      · rcases List.mem_cons.mp h with rfl | h
        · exact Or.inl rfl
        · exact Or.inr h
      · rcases List.mem_cons.mp h with rfl | h
        · exact Or.inr List.mem_cons_self
        · exact (ih h).imp_right (List.mem_cons_of_mem _)

/-- An entry is put between those before its place and those after it. -/
theorem pairwise_putEntry (entry : Entry) (h : entries.Pairwise fun a b => a.1 < b.1) :
    (putEntry place entry entries).Pairwise fun a b => a.1 < b.1 := by
  induction entries with
  | nil => exact List.pairwise_singleton _ _
  | cons x es ih =>
    obtain ⟨hfirst, hrest⟩ := List.pairwise_cons.mp h
    unfold putEntry
    split
    · next heq => exact List.pairwise_cons.mpr ⟨fun e he => heq ▸ hfirst e he, hrest⟩
    · next hne =>
      split
      · next hlt =>
        refine List.pairwise_cons.mpr ⟨fun e he => ?_, h⟩
        rcases List.mem_cons.mp he with rfl | he
        · exact hlt
        · exact List.lt_trans hlt (hfirst e he)
      · next hnot =>
        have hafter : x.1 < place := Std.lt_of_le_of_ne (Std.not_lt.mp hnot) (Ne.symm hne)
        refine List.pairwise_cons.mpr ⟨fun e he => ?_, ih hrest⟩
        rcases mem_putEntry he with heq | he
        · exact heq ▸ hafter
        · exact hfirst e he

/-! ## Entries of an operating system -/

namespace IsProper

/-- Whatever is around a file or a directory is a directory. -/
theorem entryAt?_dropLast (h : IsProper entries current marked)
    (hat : entryAt? entries place = some entry) :
    entryAt? entries place.dropLast = some .directory := by
  by_cases hne : place = []
  · rw [hne]
    exact entryAt?_nil entries
  · exact h.inside _ (mem_of_entryAt? hne hat)

/-- A place has legal names. -/
theorem named_of_entryAt? (h : IsProper entries current marked)
    (hat : entryAt? entries place = some entry) : ∀ name ∈ place, IsFileName name := by
  by_cases hne : place = []
  · rw [hne]
    exact nofun
  · exact (h.named _ (mem_of_entryAt? hne hat)).2

theorem put (h : IsProper entries current marked) (hplace : Admits entries place) (entry : Entry) :
    IsProper (putEntry place entry entries) current marked := by
  -- directories stay, since none is at the place
  have hkeep : ∀ {q}, entryAt? entries q = some .directory →
      entryAt? (putEntry place entry entries) q = some .directory := by
    intro q hq
    have hne : q ≠ place := fun heq => hplace.free (heq ▸ hq)
    rw [entryAt?_putEntry_of_ne hne, hq]
  refine ⟨pairwise_putEntry entry h.ordered, fun e he => ?_, fun e he => ?_, hkeep h.current,
    fun q hq => ?_⟩
  · rcases mem_putEntry he with heq | he
    · rw [heq]
      exact ⟨hplace.ne_nil, hplace.named⟩
    · exact h.named e he
  · rcases mem_putEntry he with heq | he
    · rw [heq]
      exact hkeep hplace.inside
    · exact hkeep (h.inside e he)
  · by_cases heq : q = place
    · rw [heq, entryAt?_putEntry_self hplace.ne_nil]
      exact nofun
    · rw [entryAt?_putEntry_of_ne heq]
      exact h.marked q hq

theorem erase (h : IsProper entries current marked)
    (hfree : entryAt? entries place ≠ some .directory)
    (hmarked : ∀ q ∈ marked', q ∈ marked ∧ q ≠ place) :
    IsProper (eraseEntry place entries) current marked' := by
  have hkeep : ∀ {q}, entryAt? entries q = some .directory →
      entryAt? (eraseEntry place entries) q = some .directory := by
    intro q hq
    have hne : q ≠ place := fun heq => hfree (heq ▸ hq)
    rw [entryAt?_eraseEntry_of_ne hne, hq]
  refine ⟨h.ordered.filter _, fun e he => h.named e (List.mem_filter.mp he).1,
    fun e he => hkeep (h.inside e (List.mem_filter.mp he).1), hkeep h.current, fun q hq => ?_⟩
  rw [entryAt?_eraseEntry_of_ne (hmarked q hq).2]
  exact h.marked q (hmarked q hq).1

end IsProper

/-! ## A directory and those around it -/

/-- The directory at a place and those around it. -/
def wayTo (place : Place) : List (Place × Entry) :=
  (List.range place.length).map fun n => (place.take (n + 1), .directory)

theorem lt_append {b : Place} (a : Place) (h : b ≠ []) : a < a ++ b := by
  induction a with
  | nil =>
    obtain ⟨name, rest, rfl⟩ := List.exists_cons_of_ne_nil h
    exact List.nil_lt_cons _ _
  | cons name a ih => exact List.cons_lt_cons_iff.mpr (Or.inr ⟨rfl, ih⟩)

theorem pairwise_wayTo (place : Place) : (wayTo place).Pairwise fun a b => a.1 < b.1 := by
  refine List.pairwise_map.mpr (List.pairwise_lt_range.imp_of_mem fun {m n} _ hn hlt => ?_)
  rw [List.mem_range] at hn
  have hsplit : place.take (n + 1) =
      place.take (m + 1) ++ (place.drop (m + 1)).take (n - m) := by
    rw [← List.take_add]
    congr 1
    omega
  dsimp only
  rw [hsplit]
  refine lt_append _ fun hnil => ?_
  have hlen := congrArg List.length hnil
  rw [List.length_take, List.length_drop, List.length_nil] at hlen
  omega

/-- All directories on the way to a place are there. -/
theorem entryAt?_wayTo {n : Nat} (h : n ≤ place.length) :
    entryAt? (wayTo place) (place.take n) = some .directory := by
  cases n with
  | zero => exact entryAt?_nil _
  | succ n =>
    have hmem : (place.take (n + 1), .directory) ∈ wayTo place :=
      List.mem_map.mpr ⟨n, List.mem_range.mpr h, rfl⟩
    have hne : place.take (n + 1) ≠ [] := by
      intro hnil
      have hlen := congrArg List.length hnil
      rw [List.length_take, List.length_nil] at hlen
      omega
    rw [entryAt?_of_ne_nil hne]
    cases hfind : (wayTo place).find? fun e => e.1 = place.take (n + 1) with
    | none =>
      have hnone := List.find?_eq_none.mp hfind _ hmem
      simp at hnone
    | some e =>
      obtain ⟨m, -, rfl⟩ := List.mem_map.mp (List.mem_of_find?_eq_some hfind)
      rfl

theorem isProper_wayTo (h : ∀ name ∈ place, IsFileName name) :
    IsProper (wayTo place) place [] := by
  refine ⟨pairwise_wayTo place, fun e he => ?_, fun e he => ?_, ?_, nofun⟩
  · obtain ⟨n, hn, rfl⟩ := List.mem_map.mp he
    rw [List.mem_range] at hn
    refine ⟨fun hnil => ?_, fun name hname => h name (List.mem_of_mem_take hname)⟩
    have hlen := congrArg List.length hnil
    rw [List.length_take, List.length_nil] at hlen
    omega
  · obtain ⟨n, hn, rfl⟩ := List.mem_map.mp he
    rw [List.mem_range] at hn
    have houter : (place.take (n + 1)).dropLast = place.take n := by
      rw [List.dropLast_eq_take, List.length_take, List.take_take]
      congr 1
      omega
    dsimp only
    rw [houter]
    exact entryAt?_wayTo (by omega)
  · have hself := entryAt?_wayTo (Nat.le_refl place.length)
    rwa [List.take_length] at hself

end DavCourier.Local
