import DavCourier.Dav.Resource

/-!
# Reports on several resources

A `MultiStatus` has one entry for each reference, in the order of the references.
`MultiStatus.insert` puts an entry in the place of an earlier one with its reference, and
`mem_insert` says what it leaves.
-/

namespace DavCourier.Dav

/-- Puts an entry where its reference belongs, in the place of one with that reference. -/
def insertEntry (r : Resource) : List Resource → List Resource
  | [] => [r]
  | e :: es =>
    if r.href = e.href then r :: es
    else if r.href < e.href then r :: e :: es
    else e :: insertEntry r es

/-- The order of entries by their references. -/
def Before (a b : Resource) : Prop :=
  a.href < b.href

theorem mem_insertEntry {r x : Resource} {es : List Resource} (h : x ∈ insertEntry r es) :
    x = r ∨ x ∈ es := by
  induction es with
  | nil => exact Or.inl (by simpa [insertEntry] using h)
  | cons e es ih =>
    unfold insertEntry at h
    split at h
    · rcases List.mem_cons.mp h with h | h
      · exact Or.inl h
      · exact Or.inr (List.mem_cons_of_mem _ h)
    · split at h
      · rcases List.mem_cons.mp h with h | h
        · exact Or.inl h
        · exact Or.inr h
      · rcases List.mem_cons.mp h with h | h
        · exact Or.inr (h ▸ List.mem_cons_self)
        · rcases ih h with h | h
          · exact Or.inl h
          · exact Or.inr (List.mem_cons_of_mem _ h)

theorem string_lt_of_not {a b : String} (hne : a ≠ b) (h : ¬ a < b) : b < a :=
  Classical.byContradiction fun h' =>
    hne (String.le_antisymm (String.not_lt.mp h') (String.not_lt.mp h))

theorem pairwise_insertEntry {r : Resource} {es : List Resource} (h : es.Pairwise Before) :
    (insertEntry r es).Pairwise Before := by
  induction es with
  | nil => simp [insertEntry]
  | cons e es ih =>
    obtain ⟨he, hes⟩ := List.pairwise_cons.mp h
    unfold insertEntry
    split
    · next heq =>
      refine List.pairwise_cons.mpr ⟨fun x hx => ?_, hes⟩
      unfold Before
      rw [heq]
      exact he x hx
    · next hne =>
      split
      · next hlt =>
        refine List.pairwise_cons.mpr ⟨fun x hx => ?_, h⟩
        rcases List.mem_cons.mp hx with rfl | hx
        · exact hlt
        · exact String.lt_trans hlt (he x hx)
      · next hnlt =>
        refine List.pairwise_cons.mpr ⟨fun x hx => ?_, ih hes⟩
        rcases mem_insertEntry hx with rfl | hx
        · exact string_lt_of_not hne hnlt
        · exact he x hx

/-- The entries of a report, at most one for each reference. -/
structure MultiStatus where
  /-- The entries in the order of their references. -/
  entries : List Resource
  sorted : entries.Pairwise Before

namespace MultiStatus

theorem ext_entries {m n : MultiStatus} (h : m.entries = n.entries) : m = n := by
  cases m; cases n; cases h; rfl

instance : DecidableEq MultiStatus := fun m n =>
  if h : m.entries = n.entries then isTrue (ext_entries h)
  else isFalse fun e => h (e ▸ rfl)

/-- The report without entries. -/
def empty : MultiStatus := ⟨[], List.Pairwise.nil⟩

/-- Adds an entry, in the place of an earlier one with its reference. -/
def insert (m : MultiStatus) (r : Resource) : MultiStatus :=
  ⟨insertEntry r m.entries, pairwise_insertEntry m.sorted⟩

/-- The report with these entries; of several with one reference the last counts. -/
def ofList (rs : List Resource) : MultiStatus :=
  rs.foldl insert empty

/-- The entry with a reference. -/
def get? (m : MultiStatus) (href : String) : Option Resource :=
  m.entries.find? fun r => r.href = href

/-- The number of entries. -/
def size (m : MultiStatus) : Nat :=
  m.entries.length

/-- Whether there is no entry. -/
def isEmpty (m : MultiStatus) : Bool :=
  m.entries.isEmpty

/-- The entries that are collections. -/
def collections (m : MultiStatus) : List Resource :=
  m.entries.filter Resource.isCollection

/-- The entries that are no collections. -/
def files (m : MultiStatus) : List Resource :=
  m.entries.filter fun r => !r.isCollection

theorem mem_insertEntry_iff {r x : Resource} {es : List Resource} (h : es.Pairwise Before) :
    x ∈ insertEntry r es ↔ x = r ∨ x ∈ es ∧ x.href ≠ r.href := by
  induction es with
  | nil => simp [insertEntry]
  | cons e es ih =>
    obtain ⟨he, hes⟩ := List.pairwise_cons.mp h
    have hlt : ∀ y ∈ es, y.href ≠ e.href := fun y hy heq => by
      have h : e.href < y.href := he y hy
      exact String.lt_irrefl _ (heq ▸ h)
    unfold insertEntry
    split
    · next heq =>
      simp only [List.mem_cons]
      constructor
      · rintro (rfl | hx)
        · exact Or.inl rfl
        · exact Or.inr ⟨Or.inr hx, heq ▸ hlt x hx⟩
      · rintro (rfl | ⟨rfl | hx, hne⟩)
        · exact Or.inl rfl
        · exact absurd heq.symm hne
        · exact Or.inr hx
    · next hne =>
      split
      · next hlt' =>
        simp only [List.mem_cons]
        constructor
        · rintro (rfl | rfl | hx)
          · exact Or.inl rfl
          · exact Or.inr ⟨Or.inl rfl, Ne.symm hne⟩
          · refine Or.inr ⟨Or.inr hx, fun heq => ?_⟩
            have h : e.href < x.href := he x hx
            exact String.lt_irrefl _ (String.lt_trans hlt' (heq ▸ h))
        · rintro (rfl | ⟨hx, -⟩)
          · exact Or.inl rfl
          · exact Or.inr hx
      · simp only [List.mem_cons, ih hes]
        constructor
        · rintro (rfl | rfl | ⟨hx, hne'⟩)
          · exact Or.inr ⟨Or.inl rfl, Ne.symm hne⟩
          · exact Or.inl rfl
          · exact Or.inr ⟨Or.inr hx, hne'⟩
        · rintro (rfl | ⟨rfl | hx, hne'⟩)
          · exact Or.inr (Or.inl rfl)
          · exact Or.inl rfl
          · exact Or.inr (Or.inr ⟨hx, hne'⟩)

theorem mem_insert {m : MultiStatus} {r x : Resource} :
    x ∈ (m.insert r).entries ↔ x = r ∨ x ∈ m.entries ∧ x.href ≠ r.href :=
  mem_insertEntry_iff m.sorted

end MultiStatus

end DavCourier.Dav
