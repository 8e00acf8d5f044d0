import DavCourier.Dav.MultiStatus.Reader
import Mathlib.Data.List.Forall2
import Mathlib.Data.Option.Basic

/-!
# Roots that make the same report

A report is read from its root by texts and by children with a name of the vocabulary. So two
roots make the same report when a relation holds between them that both respect
(`IsLikeness`) : related nodes have the same text, and their children with such a name are
related one by one. The prefixes of the two roots may differ. `ofNode?_eq_of_likeness`.
-/

namespace DavCourier.Dav

open Markup

/-- The names that a report is read by. -/
def vocabulary : List String :=
  ["response", "href", "propstat", "prop", "status", "resourcetype", "collection",
    "getcontenttype", "getetag", "creationdate", "getlastmodified"]

/-- Related nodes are read in the same way, with the prefix `p` and with the prefix `q`. -/
structure IsLikeness (p q : Option String) (R : Node → Node → Prop) : Prop where
  text? : ∀ n m, R n m → n.text? = m.text?
  childrenNamed : ∀ n m, R n m → ∀ name ∈ vocabulary,
    List.Forall₂ R (n.childrenNamed (qualified p name)) (m.childrenNamed (qualified q name))

/-! ## Lists of related nodes -/

section

variable {α β γ : Type} {R : α → β → Prop} {as : List α} {bs : List β}

theorem rel_head? (h : List.Forall₂ R as bs) : Option.Rel R as.head? bs.head? := by
  cases h with
  | nil => exact .none
  | cons h _ => exact .some h

theorem rel_find? (h : List.Forall₂ R as bs) {f : α → Bool} {g : β → Bool}
    (hfg : ∀ a b, R a b → f a = g b) : Option.Rel R (as.find? f) (bs.find? g) := by
  induction h with
  | nil => exact .none
  | @cons a b as bs hab _ ih =>
    rw [List.find?_cons, List.find?_cons, hfg a b hab]
    split
    · exact .some hab
    · exact ih

theorem rel_cases {a : Option α} {b : Option β} (h : Option.Rel R a b) :
    a = none ∧ b = none ∨ ∃ x y, a = some x ∧ b = some y ∧ R x y := by
  cases h with
  | none => exact Or.inl ⟨rfl, rfl⟩
  | some h => exact Or.inr ⟨_, _, rfl, rfl, h⟩

theorem forall₂_filter (h : List.Forall₂ R as bs) {f : α → Bool} {g : β → Bool}
    (hfg : ∀ a b, R a b → f a = g b) : List.Forall₂ R (as.filter f) (bs.filter g) := by
  induction h with
  | nil => exact .nil
  | @cons a b as bs hab _ ih =>
    rw [List.filter_cons, List.filter_cons, hfg a b hab]
    split
    · exact .cons hab ih
    · exact ih

theorem flatMap_eq (h : List.Forall₂ R as bs) {f : α → List γ} {g : β → List γ}
    (hfg : ∀ a b, R a b → f a = g b) : as.flatMap f = bs.flatMap g := by
  induction h with
  | nil => rfl
  | @cons a b as bs hab _ ih => rw [List.flatMap_cons, List.flatMap_cons, hfg a b hab, ih]

theorem filterMap_eq (h : List.Forall₂ R as bs) {f : α → Option γ} {g : β → Option γ}
    (hfg : ∀ a b, R a b → f a = g b) : as.filterMap f = bs.filterMap g := by
  induction h with
  | nil => rfl
  | @cons a b as bs hab _ ih => rw [List.filterMap_cons, List.filterMap_cons, hfg a b hab, ih]

end

namespace IsLikeness

variable {p q : Option String} {R : Node → Node → Prop} {n m : Node} {name : String}

theorem child? (h : IsLikeness p q R) (hr : R n m) (hname : name ∈ vocabulary) :
    Option.Rel R (n.child? (qualified p name)) (m.child? (qualified q name)) := by
  have hchildren := rel_head? (h.childrenNamed n m hr name hname)
  rwa [Node.childrenNamed, Node.childrenNamed, List.head?_filter, List.head?_filter] at hchildren

theorem isSome_child? (h : IsLikeness p q R) (hr : R n m) (hname : name ∈ vocabulary) :
    (n.child? (qualified p name)).isSome = (m.child? (qualified q name)).isSome := by
  rcases rel_cases (h.child? hr hname) with ⟨hn, hm⟩ | ⟨x, y, hn, hm, -⟩
  · rw [hn, hm]
  · rw [hn, hm]
    rfl

theorem childText? (h : IsLikeness p q R) (hr : R n m) (hname : name ∈ vocabulary) :
    n.childText? (qualified p name) = m.childText? (qualified q name) := by
  unfold Node.childText?
  rcases rel_cases (h.child? hr hname) with ⟨hn, hm⟩ | ⟨x, y, hn, hm, hxy⟩
  · rw [hn, hm]
  · rw [hn, hm]
    exact h.text? x y hxy

theorem marksCollection (h : IsLikeness p q R) (hr : R n m) :
    MultiStatus.marksCollection p n = MultiStatus.marksCollection q m := by
  unfold MultiStatus.marksCollection
  rcases rel_cases (h.child? hr (by decide : "resourcetype" ∈ vocabulary)) with
    ⟨hn, hm⟩ | ⟨x, y, hn, hm, hxy⟩
  · rw [hn, hm]
  · rw [hn, hm]
    exact h.isSome_child? hxy (by decide)

theorem withProperties (h : IsLikeness p q R) (hr : R n m) (r : Resource) :
    MultiStatus.withProperties p r n = MultiStatus.withProperties q r m := by
  rw [MultiStatus.withProperties, h.childText? hr (by decide), h.childText? hr (by decide),
    h.childText? hr (by decide), h.childText? hr (by decide), h.marksCollection hr]
  rfl

theorem withPropstat (h : IsLikeness p q R) (hr : R n m) (r : Resource) :
    MultiStatus.withPropstat p r n = MultiStatus.withPropstat q r m := by
  unfold MultiStatus.withPropstat
  rw [h.childText? hr (by decide : "status" ∈ vocabulary)]
  rcases rel_cases (h.child? hr (by decide : "prop" ∈ vocabulary)) with
    ⟨hn, hm⟩ | ⟨x, y, hn, hm, hxy⟩
  · rw [hn, hm]
  · rw [hn, hm]
    dsimp only
    rw [h.withProperties hxy]

theorem resourceOf? (h : IsLikeness p q R) (hr : R n m) :
    MultiStatus.resourceOf? p n = MultiStatus.resourceOf? q m := by
  have hpropstat : Option.Rel R (MultiStatus.propstat? p n) (MultiStatus.propstat? q m) :=
    rel_find? (h.childrenNamed n m hr "propstat" (by decide)) fun _ _ hr =>
      h.isSome_child? hr (by decide)
  unfold MultiStatus.resourceOf?
  rw [h.childText? hr (by decide : "href" ∈ vocabulary)]
  rcases rel_cases hpropstat with ⟨hn, hm⟩ | ⟨x, y, hn, hm, hxy⟩
  · rw [hn, hm]
  · simp only [hn, hm, h.withPropstat hxy]

end IsLikeness

/-- Roots that are alike make the same report. -/
theorem MultiStatus.ofNode?_eq_of_likeness {tag tag' : Tag} {children children' : List Node}
    {R : Node → Node → Prop} (h : IsLikeness tag.qualifier tag'.qualifier R)
    (hr : R (.element tag children) (.element tag' children')) (hspace : tag.space = tag'.space)
    (hname : tag.localName = tag'.localName) :
    ofNode? (.element tag children) = ofNode? (.element tag' children') := by
  have hresponses := h.childrenNamed _ _ hr "response" (by decide)
  rw [ofNode?, ofNode?, hspace, hname]
  dsimp only
  rw [filterMap_eq hresponses fun _ _ hr => h.resourceOf? hr]

end DavCourier.Dav
