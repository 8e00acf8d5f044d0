import DavCourier.Text.Utf8
import Mathlib.Data.List.Induction
import Mathlib.Logic.Function.Basic

/-!
# The tree of a server

A `Tree` says what a server has at each location. What is around something is a collection
(`at?_onWay`). `create` and `store` are the two ways to change a tree, each with what
stands against it. `Admits` says that nothing stands against a file with all the collections
around it.
-/

namespace DavCourier.Server

/-- The names on the way from the root. -/
abbrev Location := List (List Char)

/-- What a server has at a location. -/
inductive Item where
  | collection
  | file (content : Bytes)
  deriving DecidableEq, Repr

/-- Whether the item is a collection. -/
def Item.isCollection : Item → Bool
  | collection => true
  | file _ => false

/-- The collections and files of a server. The root is a collection, and so is what is right
above something. -/
structure Tree where
  /-- What is at a location. -/
  at? : Location → Option Item
  root : at? [] = some .collection
  closed : ∀ l name, at? (l ++ [name]) ≠ none → at? l = some .collection

/-- A location on the way to another one that is different. -/
theorem prefix_dropLast {l m : Location} (h : m <+: l) (hne : m ≠ l) : m <+: l.dropLast := by
  rcases List.eq_nil_or_concat l with rfl | ⟨l, name, rfl⟩
  · exact absurd (List.prefix_nil.mp h) hne
  · rw [List.concat_eq_append, List.dropLast_concat]
    rw [List.concat_eq_append] at h hne
    exact (List.prefix_concat_iff.mp h).resolve_left hne

namespace Tree

@[ext] theorem ext {t u : Tree} (h : ∀ l, t.at? l = u.at? l) : t = u := by
  cases t
  cases u
  cases funext h
  rfl

/-- The tree with nothing but the root. -/
def bare : Tree where
  at? l := if l = [] then some .collection else none
  root := if_pos rfl
  closed l _ h := absurd (if_neg (List.append_ne_nil_of_right_ne_nil l (List.cons_ne_nil _ _))) h

theorem at?_bare {l : Location} (h : l ≠ []) : bare.at? l = none :=
  if_neg h

variable {t : Tree}

/-! ## What is around an item -/

theorem at?_dropLast {l : Location} {item : Item} (h : t.at? l = some item) :
    t.at? l.dropLast = some .collection := by
  rcases List.eq_nil_or_concat l with rfl | ⟨l, name, rfl⟩
  · exact t.root
  · rw [List.concat_eq_append] at h
    rw [List.concat_eq_append, List.dropLast_concat]
    exact t.closed l name (by rw [h]; exact Option.some_ne_none _)

/-- Whatever is on the way to an item is a collection. -/
theorem at?_onWay {l m : Location} {item : Item} (h : t.at? l = some item) (hm : m <+: l)
    (hne : m ≠ l) : t.at? m = some .collection := by
  induction l using List.reverseRecOn generalizing item with
  | nil => exact absurd (List.prefix_nil.mp hm) hne
  | append_singleton l name ih =>
    have hl := at?_dropLast h
    rw [List.dropLast_concat] at hl
    by_cases heq : m = l
    · rw [heq, hl]
    · exact ih hl ((List.prefix_concat_iff.mp hm).resolve_left hne) heq

theorem exists_at?_onWay {l m : Location} {item : Item} (h : t.at? l = some item)
    (hm : m <+: l) : ∃ item, t.at? m = some item := by
  by_cases heq : m = l
  · exact ⟨item, heq ▸ h⟩
  · exact ⟨.collection, at?_onWay h hm heq⟩

/-- Nothing is below a location without a collection. -/
theorem at?_eq_none {l m : Location} (h : t.at? m ≠ some .collection) (hm : m <+: l)
    (hne : m ≠ l) : t.at? l = none := by
  cases hl : t.at? l with
  | none => rfl
  | some item => exact absurd (at?_onWay hl hm hne) h

/-! ## Changes -/

/-- The tree with an item at a location below a collection, which is none itself. -/
def put (t : Tree) (l : Location) (item : Item) (habove : t.at? l.dropLast = some .collection)
    (hfree : t.at? l ≠ some .collection) : Tree where
  at? := Function.update t.at? l (some item)
  root := by
    rw [Function.update_of_ne]
    · exact t.root
    · rintro rfl
      exact hfree t.root
  closed m name h := by
    have hm : t.at? m = some .collection := by
      by_cases heq : m ++ [name] = l
      · rw [← heq, List.dropLast_concat] at habove
        exact habove
      · rw [Function.update_of_ne heq] at h
        exact t.closed m name h
    rw [Function.update_of_ne]
    · exact hm
    · rintro rfl
      exact hfree hm

/-- The tree with a new collection, or the status that says what stands against it. -/
def create (t : Tree) (l : Location) : Except UInt16 Tree :=
  if hfree : t.at? l = none then
    if habove : t.at? l.dropLast = some .collection then
      .ok (t.put l .collection habove (by rw [hfree]; exact nofun))
    else .error 409
  else .error 405

/-- The tree with this content in a file, or the status that says what stands against it. -/
def store (t : Tree) (l : Location) (content : Bytes) : Except UInt16 Tree :=
  if habove : t.at? l.dropLast = some .collection then
    if hfree : t.at? l = some .collection then .error 405
    else .ok (t.put l (.file content) habove hfree)
  else .error 409

/-- The other tree differs by the item at the location. -/
structure Puts (t : Tree) (l : Location) (item : Item) (t' : Tree) : Prop where
  here : t'.at? l = some item
  others : ∀ m, m ≠ l → t'.at? m = t.at? m

theorem puts_put {l : Location} {item : Item} (habove) (hfree) :
    t.Puts l item (t.put l item habove hfree) :=
  ⟨Function.update_self .., fun _ h => Function.update_of_ne h ..⟩

theorem create_of_present {l : Location} {item : Item} (h : t.at? l = some item) :
    t.create l = .error 405 :=
  dif_neg (by rw [h]; exact Option.some_ne_none item)

theorem create_of_absent {l : Location} (h : t.at? l = none)
    (habove : t.at? l.dropLast = some .collection) :
    ∃ t', t.create l = .ok t' ∧ t.Puts l .collection t' := by
  rw [create, dif_pos h, dif_pos habove]
  exact ⟨_, rfl, puts_put ..⟩

theorem create_of_orphan {l : Location} (h : t.at? l = none)
    (habove : t.at? l.dropLast ≠ some .collection) : t.create l = .error 409 := by
  rw [create, dif_pos h, dif_neg habove]

theorem store_of_free {l : Location} {content : Bytes}
    (habove : t.at? l.dropLast = some .collection) (h : t.at? l ≠ some .collection) :
    ∃ t', t.store l content = .ok t' ∧ t.Puts l (.file content) t' := by
  rw [store, dif_pos habove, dif_neg h]
  exact ⟨_, rfl, puts_put ..⟩

theorem store_of_collection {l : Location} {content : Bytes} (h : t.at? l = some .collection) :
    t.store l content = .error 405 := by
  rw [store, dif_pos (at?_dropLast h), dif_pos h]

/-! ## A file with the collections around it -/

/-- Nothing stands against a file at the location : no file is on the way to it, and it is no
collection. -/
structure Admits (t : Tree) (l : Location) : Prop where
  onWay : ∀ m, m <+: l → m ≠ l → ∀ content, t.at? m ≠ some (.file content)
  target : t.at? l ≠ some .collection

/-- The other tree has, besides what the tree has, the file and the collections around it. -/
structure Extends (t : Tree) (l : Location) (content : Bytes) (t' : Tree) : Prop where
  target : t'.at? l = some (.file content)
  onWay : ∀ m, m <+: l → m ≠ l → t'.at? m = some .collection
  others : ∀ m, ¬ m <+: l → t'.at? m = t.at? m

/-- Below a collection everything but a collection gives way to a file. -/
theorem admits_of_free {l : Location} (habove : t.at? l.dropLast = some .collection)
    (hfree : t.at? l ≠ some .collection) : t.Admits l := by
  refine ⟨fun m hm hne content hfile => ?_, hfree⟩
  have hway := prefix_dropLast hm hne
  have hm' : t.at? m = some .collection := by
    by_cases heq : m = l.dropLast
    · rw [heq, habove]
    · exact at?_onWay habove hway heq
  rw [hm'] at hfile
  cases hfile

theorem admits_bare {l : Location} (h : l ≠ []) : bare.Admits l := by
  refine ⟨fun m _ _ content hfile => ?_, ?_⟩
  · unfold bare at hfile
    dsimp only at hfile
    split at hfile <;> cases hfile
  · rw [at?_bare h]
    exact nofun

theorem Admits.of_created {l m : Location} {t' : Tree} (h : t.Admits l) (hne : m ≠ l)
    (hputs : t.Puts m .collection t') : t'.Admits l := by
  refine ⟨fun k hk hkl content hfile => ?_, ?_⟩
  · by_cases heq : k = m
    · rw [heq, hputs.here] at hfile
      cases hfile
    · rw [hputs.others k heq] at hfile
      exact h.onWay k hk hkl content hfile
  · rw [hputs.others l (Ne.symm hne)]
    exact h.target

theorem Admits.of_stored {l m : Location} {content : Bytes} {t' : Tree} (h : t.Admits l)
    (hm : m <+: l → m = l) (hputs : t.Puts m (.file content) t') : t'.Admits l := by
  refine ⟨fun k hk hkl => ?_, ?_⟩
  · rw [hputs.others k fun heq => hkl (heq.trans (hm (heq ▸ hk)))]
    exact h.onWay k hk hkl
  · by_cases heq : l = m
    · rw [heq, hputs.here]
      exact nofun
    · rw [hputs.others l heq]
      exact h.target

/-- An item in the place of no collection, or of a collection, leaves all collections. -/
theorem Puts.at?_collection {l m : Location} {item : Item} {t' : Tree} (hputs : t.Puts l item t')
    (h : t.at? l = some .collection → item = .collection) (hm : t.at? m = some .collection) :
    t'.at? m = some .collection := by
  by_cases heq : m = l
  · rw [heq, hputs.here, h (heq ▸ hm)]
  · rw [hputs.others m heq, hm]

/-- To store what is there already changes nothing. -/
theorem Puts.eq_of_at? {l : Location} {item : Item} {t' : Tree} (hputs : t.Puts l item t')
    (h : t.at? l = some item) : t' = t := by
  refine Tree.ext fun m => ?_
  by_cases heq : m = l
  · rw [heq, hputs.here, h]
  · exact hputs.others m heq

theorem extends_of_stored {l : Location} {content : Bytes} {t' : Tree}
    (hputs : t.Puts l (.file content) t') : t.Extends l content t' where
  target := hputs.here
  onWay _ hm hne := at?_onWay hputs.here hm hne
  others m hm := hputs.others m fun heq => hm (heq ▸ List.prefix_refl m)

theorem Extends.of_created {l m : Location} {content : Bytes} {t' u : Tree}
    (h : t'.Extends l content u) (hm : m <+: l) (hputs : t.Puts m .collection t') :
    t.Extends l content u where
  target := h.target
  onWay := h.onWay
  others k hk := by
    rw [h.others k hk, hputs.others k fun heq => hk (heq ▸ hm)]

/-! ## Several files with the collections around them -/

/-- A file leaves room for another one, unless one of them is on the way to the other. -/
theorem Admits.of_extends {l m : Location} {content : Bytes} {t' : Tree} (h : t.Admits l)
    (hextends : t.Extends m content t') (hml : ¬ m <+: l) (hlm : ¬ l <+: m) : t'.Admits l := by
  refine ⟨fun k hk hkl c hfile => ?_, ?_⟩
  · by_cases hkm : k <+: m
    · rw [hextends.onWay k hkm fun heq => hml (heq ▸ hk)] at hfile
      cases hfile
    · rw [hextends.others k hkm] at hfile
      exact h.onWay k hk hkl c hfile
  · rw [hextends.others l hlm]
    exact h.target

/-- The other tree has, besides what the tree has, the files and the collections around them. -/
structure ExtendsAll (t : Tree) (files : List (Location × Bytes)) (t' : Tree) : Prop where
  target : ∀ e ∈ files, t'.at? e.1 = some (.file e.2)
  onWay : ∀ e ∈ files, ∀ m, m <+: e.1 → m ≠ e.1 → t'.at? m = some .collection
  others : ∀ m, (∀ e ∈ files, ¬ m <+: e.1) → t'.at? m = t.at? m

theorem extendsAll_nil (t : Tree) : t.ExtendsAll [] t :=
  ⟨nofun, nofun, fun _ _ => rfl⟩

/-- A file is a new one or was there. -/
theorem ExtendsAll.mem_or_at? {files : List (Location × Bytes)} {t' : Tree}
    (h : t.ExtendsAll files t') {l : Location} {content : Bytes}
    (hfile : t'.at? l = some (.file content)) :
    (l, content) ∈ files ∨ t.at? l = some (.file content) := by
  by_cases hway : ∃ e ∈ files, l <+: e.1
  · obtain ⟨⟨m, content'⟩, he, hle⟩ := hway
    by_cases heq : l = m
    · subst heq
      have htarget := h.target _ he
      rw [hfile] at htarget
      cases htarget
      exact Or.inl he
    · rw [h.onWay _ he l hle heq] at hfile
      cases hfile
  · rw [h.others l fun e he hle => hway ⟨e, he, hle⟩] at hfile
    exact Or.inr hfile

/-- One file and then others, with none on the way to another one. -/
theorem Extends.cons {l : Location} {content : Bytes} {files : List (Location × Bytes)}
    {t' u : Tree} (h : t.Extends l content t') (hrest : t'.ExtendsAll files u)
    (hapart : ∀ e ∈ files, ¬ l <+: e.1 ∧ ¬ e.1 <+: l) :
    t.ExtendsAll ((l, content) :: files) u := by
  refine ⟨fun e he => ?_, fun e he m hm hne => ?_, fun m hm => ?_⟩
  · rcases List.mem_cons.mp he with rfl | he
    · rw [hrest.others _ fun e he => (hapart e he).1]
      exact h.target
    · exact hrest.target e he
  · rcases List.mem_cons.mp he with rfl | he
    · by_cases hway : ∃ e ∈ files, m <+: e.1
      · obtain ⟨e, he, hme⟩ := hway
        exact hrest.onWay e he m hme fun heq => (hapart e he).2 (heq ▸ hm)
      · rw [hrest.others m fun e he hme => hway ⟨e, he, hme⟩]
        exact h.onWay m hm hne
    · exact hrest.onWay e he m hm hne
  · rw [hrest.others m fun e he => hm e (List.mem_cons_of_mem _ he)]
    exact h.others m (hm _ List.mem_cons_self)

end Tree

end DavCourier.Server
