import DavCourier.Proofs.Markup.Evaluation
import DavCourier.Proofs.Markup.Scoping
import Mathlib.Data.List.Forall2
import Mathlib.Data.List.Nodup

/-!
# Documents with another prefix

A `Renaming` puts a new prefix in the place of an old one, in the names of elements and in
declarations. A document stays well-formed if no tag has the new prefix (`document_isWellFormed`).
What a scope has for a prefix, the scope of the renamed document has for the renamed prefix
(`Matches`), which the attributes of a tag preserve (`Matches.enter`). So the nodes of a document
that is read are read again with other names (`Matches.nodes`), and so is the root, whose
namespace is that of the old prefix : `read_document`.
-/

namespace DavCourier.Markup

open Fallible

/-- A new prefix in the place of an old one, `none` for names without a prefix, and what becomes of
the names of the attributes that declare nothing. -/
structure Renaming where
  old : Option String
  new : Option String
  plain : Bytes → Bytes

/-- The tags of a content, in the order of the document. -/
def Source.tags : Source → List TagSource
  | nil => []
  | text _ rest | literal _ rest | aside _ rest => rest.tags
  | closed tag rest => tag :: rest.tags
  | element tag inner _ rest => tag :: (inner.tags ++ rest.tags)

theorem Root.tags_source (root : Root) : root.source.tags = root.tag :: root.inner.tags := by
  cases root with
  | closed tag => rfl
  | element tag inner spaces => exact congrArg _ (List.append_nil _)

theorem Root.parts_isWellFormed {root : Root} (h : root.source.IsWellFormed) :
    root.tag.IsWellFormed ∧ root.inner.IsWellFormed := by
  cases root with
  | closed tag => exact ⟨h.1, trivial⟩
  | element tag inner spaces => exact ⟨h.1.1, h.2.1⟩

namespace Renaming

variable (ρ : Renaming)

def qualifier (r : Option Bytes) : Option Bytes :=
  if r = ρ.old.map Utf8.encodeString then ρ.new.map Utf8.encodeString else r

def name (name : QName) : QName :=
  { name with qualifier := ρ.qualifier name.qualifier }

def key : AttributeKey → AttributeKey
  | .declares r => .declares (ρ.qualifier r)
  | .plain name => .plain (ρ.plain name)

def attributeSource (a : AttributeSource) : AttributeSource :=
  { a with key := ρ.key a.key }

def tag (tag : TagSource) : TagSource :=
  { tag with name := ρ.name tag.name, attributes := tag.attributes.map ρ.attributeSource }

def source : Source → Source
  | .nil => .nil
  | .text raw rest => .text raw (source rest)
  | .literal raw rest => .literal raw (source rest)
  | .aside a rest => .aside a (source rest)
  | .closed tag rest => .closed (ρ.tag tag) (source rest)
  | .element tag inner spaces rest => .element (ρ.tag tag) (source inner) spaces (source rest)

def root : Root → Root
  | .closed tag => .closed (ρ.tag tag)
  | .element tag inner spaces => .element (ρ.tag tag) (ρ.source inner) spaces

def document (d : Document) : Document :=
  { d with root := ρ.root d.root }

/-- The tag has the new prefix neither in its name nor in a declaration. -/
structure IsFresh (tag : TagSource) : Prop where
  name : tag.name.qualifier ≠ ρ.new.map Utf8.encodeString
  declares : ∀ a ∈ tag.attributes, a.key ≠ .declares (ρ.new.map Utf8.encodeString)

instance (tag : TagSource) : Decidable (ρ.IsFresh tag) :=
  decidable_of_iff (tag.name.qualifier ≠ ρ.new.map Utf8.encodeString ∧
      ∀ a ∈ tag.attributes, a.key ≠ .declares (ρ.new.map Utf8.encodeString))
    ⟨fun h => ⟨h.1, h.2⟩, fun h => ⟨h.1, h.2⟩⟩

/-- The new prefix may be the prefix of a name, and neither is one of the language itself. -/
structure IsLegal : Prop where
  old : ∀ p ∈ ρ.old, p ≠ "xml" ∧ p ≠ "xmlns"
  new : ∀ q ∈ ρ.new, IsNamePart (Utf8.encodeString q) ∧ q ≠ "xml" ∧ q ≠ "xmlns"

variable {ρ}

/-! ## Renamed documents -/

theorem qualifier_old : ρ.qualifier (ρ.old.map Utf8.encodeString) =
    ρ.new.map Utf8.encodeString :=
  if_pos rfl

theorem qualifier_of_ne {r : Option Bytes} (h : r ≠ ρ.old.map Utf8.encodeString) :
    ρ.qualifier r = r :=
  if_neg h

theorem qualifier_inj {r s : Option Bytes} (hr : r ≠ ρ.new.map Utf8.encodeString)
    (hs : s ≠ ρ.new.map Utf8.encodeString) : ρ.qualifier r = ρ.qualifier s ↔ r = s := by
  refine ⟨fun h => ?_, congrArg _⟩
  by_cases hr' : r = ρ.old.map Utf8.encodeString
  · by_cases hs' : s = ρ.old.map Utf8.encodeString
    · rw [hr', hs']
    · rw [hr', qualifier_old, qualifier_of_ne hs'] at h
      exact absurd h.symm hs
  · by_cases hs' : s = ρ.old.map Utf8.encodeString
    · rw [hs', qualifier_old, qualifier_of_ne hr'] at h
      exact absurd h hr
    · rwa [qualifier_of_ne hr', qualifier_of_ne hs'] at h

section

variable (hnew : ∀ q ∈ ρ.new, IsNamePart (Utf8.encodeString q))

include hnew

theorem isNamePart_qualifier {r : Option Bytes} (hr : ∀ q ∈ r, IsNamePart q) :
    ∀ q ∈ ρ.qualifier r, IsNamePart q := by
  unfold qualifier
  split
  · intro q hq
    obtain ⟨s, hs, rfl⟩ := Option.map_eq_some_iff.mp hq
    exact hnew s hs
  · exact hr

theorem name_isWellFormed {name : QName} (h : name.IsWellFormed) : (ρ.name name).IsWellFormed :=
  ⟨isNamePart_qualifier hnew h.qualifier, h.localName⟩

variable (hplain : ρ.plain = id)

include hplain

theorem key_isWellFormed {key : AttributeKey} (h : key.IsWellFormed) :
    (ρ.key key).IsWellFormed := by
  cases key with
  | plain name =>
    rw [Renaming.key, hplain]
    exact h
  | declares r =>
    have hr : ∀ q ∈ r, IsNamePart q := by
      rintro q rfl
      exact h
    have hpart := isNamePart_qualifier hnew hr
    rw [Renaming.key]
    cases hq : ρ.qualifier r with
    | none => trivial
    | some q => exact hpart q hq

theorem tag_isWellFormed {tag : TagSource} (h : tag.IsWellFormed) (hfresh : ρ.IsFresh tag) :
    (ρ.tag tag).IsWellFormed where
  name := name_isWellFormed hnew h.name
  attributes a' ha' := by
    obtain ⟨a, ha, rfl⟩ := List.mem_map.mp ha'
    obtain ⟨hspaces, hkey, hgaps, hquote, hvalue⟩ := h.attributes a ha
    exact ⟨hspaces, key_isWellFormed hnew hplain hkey, hgaps, hquote, hvalue⟩
  once := by
    have hkeys : (ρ.tag tag).attributes.map AttributeSource.key =
        (tag.attributes.map AttributeSource.key).map ρ.key := by
      rw [Renaming.tag, List.map_map, List.map_map]
      rfl
    have hne : ∀ k ∈ tag.attributes.map AttributeSource.key,
        k ≠ .declares (ρ.new.map Utf8.encodeString) := by
      intro k hk
      obtain ⟨a, ha, rfl⟩ := List.mem_map.mp hk
      exact hfresh.declares a ha
    rw [hkeys]
    refine List.Nodup.map_on (fun k hk l hl heq => ?_) h.once
    cases k with
    | plain name =>
      cases l with
      | plain name' =>
        rw [Renaming.key, Renaming.key, hplain] at heq
        exact heq
      | declares s => cases heq
    | declares r =>
      cases l with
      | plain name' => cases heq
      | declares s =>
        have hr : r ≠ ρ.new.map Utf8.encodeString := fun h => hne _ hk (congrArg _ h)
        have hs : s ≠ ρ.new.map Utf8.encodeString := fun h => hne _ hl (congrArg _ h)
        exact congrArg _ ((qualifier_inj hr hs).mp (AttributeKey.declares.inj heq))
  spaces := h.spaces

theorem source_isWellFormed {s : Source} (h : s.IsWellFormed)
    (hfresh : ∀ tag ∈ s.tags, ρ.IsFresh tag) : (ρ.source s).IsWellFormed := by
  induction s with
  | nil => trivial
  | text raw s ih =>
    refine ⟨h.1, ?_, ih h.2.2 hfresh⟩
    cases s <;> exact h.2.1
  | literal raw s ih => exact ⟨h.1, ih h.2 hfresh⟩
  | aside a s ih => exact ⟨h.1, ih h.2 hfresh⟩
  | closed tag s ih =>
    exact ⟨tag_isWellFormed hnew hplain h.1 (hfresh tag List.mem_cons_self),
      ih h.2 fun t ht => hfresh t (List.mem_cons_of_mem _ ht)⟩
  | element tag inner spaces s ihinner ih =>
    refine ⟨⟨tag_isWellFormed hnew hplain h.1.1 (hfresh tag List.mem_cons_self), h.1.2⟩, ?_, ?_⟩
    · exact ihinner h.2.1 fun t ht =>
        hfresh t (List.mem_cons_of_mem _ (List.mem_append_left _ ht))
    · exact ih h.2.2 fun t ht => hfresh t (List.mem_cons_of_mem _ (List.mem_append_right _ ht))

/-- A document with a new prefix is a document. -/
theorem document_isWellFormed {d : Document} (h : d.IsWellFormed) (hroot : ρ.IsFresh d.root.tag)
    (hinner : ∀ tag ∈ d.root.inner.tags, ρ.IsFresh tag) : (ρ.document d).IsWellFormed := by
  have hfresh : ∀ tag ∈ d.root.source.tags, ρ.IsFresh tag := by
    rw [Root.tags_source]
    exact List.forall_mem_cons.mpr ⟨hroot, hinner⟩
  have hsource : (ρ.root d.root).source = ρ.source d.root.source := by
    cases d.root <;> rfl
  exact ⟨h.before, hsource ▸ source_isWellFormed hnew hplain h.root hfresh, h.after⟩

end

/-! ## Scopes -/

theorem IsLegal.isNamePart_new (h : ρ.IsLegal) :
    ∀ q ∈ ρ.new, IsNamePart (Utf8.encodeString q) := fun q hq =>
  (h.new q hq).1

theorem IsLegal.old_ne (h : ρ.IsLegal) {name : String} (hname : name = "xml" ∨ name = "xmlns") :
    some (Utf8.encodeString name) ≠ ρ.old.map Utf8.encodeString := by
  intro heq
  obtain ⟨p, hp, hsame⟩ := Option.map_eq_some_iff.mp heq.symm
  obtain rfl := Utf8.encodeString_injective hsame
  exact hname.elim (h.old _ hp).1 (h.old _ hp).2

theorem IsLegal.new_ne (h : ρ.IsLegal) {name : String} (hname : name = "xml" ∨ name = "xmlns") :
    some (Utf8.encodeString name) ≠ ρ.new.map Utf8.encodeString := by
  intro heq
  obtain ⟨q, hq, hsame⟩ := Option.map_eq_some_iff.mp heq.symm
  obtain rfl := Utf8.encodeString_injective hsame
  exact hname.elim (h.new _ hq).2.1 (h.new _ hq).2.2

theorem IsLegal.new_ne_nil (h : ρ.IsLegal) : ρ.new.map Utf8.encodeString ≠ some [] := by
  intro heq
  obtain ⟨q, hq, hnil⟩ := Option.map_eq_some_iff.mp heq
  exact (h.new q hq).1.1.1 hnil

theorem IsLegal.qualifier_ne_nil (h : ρ.IsLegal) {r : Option Bytes} (hr : r ≠ some []) :
    ρ.qualifier r ≠ some [] := by
  unfold qualifier
  split
  · exact h.new_ne_nil
  · exact hr

/-- The new prefix may be declared for what is not a namespace of the language itself. -/
theorem IsLegal.permits_new (h : ρ.IsLegal) {space : Bytes}
    (hspace : space ≠ Utf8.encodeString xmlSpace ∧ space ≠ Utf8.encodeString xmlnsSpace) :
    Scope.Permits (ρ.new.map Utf8.encodeString) space := by
  intro q hq
  obtain ⟨s, hs, rfl⟩ := Option.map_eq_some_iff.mp hq
  obtain ⟨-, hxml, hxmlns⟩ := h.new s hs
  exact ⟨Utf8.encodeString_injective.ne hxml, Utf8.encodeString_injective.ne hxmlns, hspace⟩

variable (ρ) in
/-- What the one scope has for a prefix, the other has for the renamed prefix. -/
def Matches (scope scope' : Scope) : Prop :=
  ∀ r : Option Bytes, r ≠ some [] → r ≠ ρ.new.map Utf8.encodeString →
    scope'.lookup ((ρ.qualifier r).getD []) = scope.lookup (r.getD [])

namespace Matches

variable {scope scope' : Scope}

theorem initial (h : ρ.IsLegal) : ρ.Matches Scope.initial Scope.initial := by
  intro r hr hnew
  have hnone : ∀ s : Option Bytes, s ≠ some Scope.xmlName → s ≠ some Scope.xmlnsName →
      s ≠ some [] → Scope.initial.lookup (s.getD []) = none := by
    intro s hxml hxmlns hs
    have hne : ∀ name : Bytes, name ≠ [] → s ≠ some name → name ≠ s.getD [] := by
      intro name hname hne heq
      cases s with
      | none => exact hname heq
      | some s => exact hne (congrArg some heq.symm)
    rw [Scope.initial, Scope.lookup_cons, if_neg (hne _ (by decide) hxml), Scope.lookup_cons,
      if_neg (hne _ (by decide) hxmlns)]
    rfl
  by_cases hold : r = ρ.old.map Utf8.encodeString
  · rw [hold, qualifier_old,
      hnone _ (h.new_ne (Or.inl rfl)).symm (h.new_ne (Or.inr rfl)).symm h.new_ne_nil,
      hnone _ (h.old_ne (Or.inl rfl)).symm (h.old_ne (Or.inr rfl)).symm (hold ▸ hr)]
  · rw [qualifier_of_ne hold]

theorem cons (h : ρ.Matches scope scope') (hlegal : ρ.IsLegal) {r : Option Bytes}
    (hr : r ≠ some []) (hnew : r ≠ ρ.new.map Utf8.encodeString) (value : Bytes) :
    ρ.Matches (⟨r.getD [], value⟩ :: scope) (⟨(ρ.qualifier r).getD [], value⟩ :: scope') := by
  intro s hs hnew'
  rw [Scope.lookup_cons, Scope.lookup_cons, h s hs hnew']
  simp only [getD_nil_inj hr hs, qualifier_inj hnew hnew',
    getD_nil_inj (hlegal.qualifier_ne_nil hr) (hlegal.qualifier_ne_nil hs)]

/-- An attribute declares for the renamed prefix what it declares for the prefix. -/
theorem declare (h : ρ.Matches scope scope') (hlegal : ρ.IsLegal) {a : AttributeSource}
    (ha : a.IsWellFormed) (ha' : (ρ.attributeSource a).IsWellFormed)
    (hfresh : a.key ≠ .declares (ρ.new.map Utf8.encodeString))
    (hdefault : ρ.old = none → a.key = .declares none →
      Scope.Permits (ρ.new.map Utf8.encodeString) a.value) {inner : Scope}
    (hinner : scope.declare a.toAttribute = .ok inner) :
    ∃ inner', scope'.declare (ρ.attributeSource a).toAttribute = .ok inner' ∧
      ρ.Matches inner inner' := by
  cases hkey : a.key with
  | plain name =>
    have hkey' : (ρ.attributeSource a).key = .plain (ρ.plain name) := congrArg ρ.key hkey
    rw [Scope.declare_plain ha hkey] at hinner
    cases hinner
    exact ⟨scope', Scope.declare_plain ha' hkey', h⟩
  | declares r =>
    have hkey' : (ρ.attributeSource a).key = .declares (ρ.qualifier r) := congrArg ρ.key hkey
    have hr : r ≠ some [] := by
      rintro rfl
      have hpart := ha.key
      rw [hkey] at hpart
      exact hpart.1.1 rfl
    have hnew : r ≠ ρ.new.map Utf8.encodeString := fun heq => hfresh (heq ▸ hkey)
    rcases (Scope.declare_eq_ok hkey).mp hinner with ⟨rfl, hvalue, rfl⟩ | ⟨hpermits, rfl⟩
    · have hsame : ρ.qualifier (some Scope.xmlName) = some Scope.xmlName :=
        qualifier_of_ne (hlegal.old_ne (Or.inl rfl))
      exact ⟨scope', (Scope.declare_eq_ok hkey').mpr (Or.inl ⟨hsame, hvalue, rfl⟩), h⟩
    · have hpermits' : Scope.Permits (ρ.qualifier r) a.value := by
        by_cases hold : r = ρ.old.map Utf8.encodeString
        · rw [hold, qualifier_old]
          cases hp : ρ.old with
          | none => exact hdefault hp (by rw [hkey, hold, hp]; rfl)
          | some p =>
            exact hlegal.permits_new (hpermits _ (by rw [hold, hp]; rfl)).2.2
        · rwa [qualifier_of_ne hold]
      exact ⟨_, (Scope.declare_eq_ok hkey').mpr (Or.inr ⟨hpermits', rfl⟩),
        h.cons hlegal hr hnew a.value⟩

theorem enter {as : List AttributeSource} (h : ρ.Matches scope scope') (hlegal : ρ.IsLegal)
    (has : ∀ a ∈ as, a.IsWellFormed) (has' : ∀ a ∈ as, (ρ.attributeSource a).IsWellFormed)
    (hfresh : ∀ a ∈ as, a.key ≠ .declares (ρ.new.map Utf8.encodeString))
    (hdefault : ρ.old = none → ∀ a ∈ as, a.key = .declares none →
      Scope.Permits (ρ.new.map Utf8.encodeString) a.value) {inner : Scope}
    (hinner : scope.enter (as.map AttributeSource.toAttribute) = .ok inner) :
    ∃ inner', scope'.enter ((as.map ρ.attributeSource).map AttributeSource.toAttribute) =
      .ok inner' ∧ ρ.Matches inner inner' := by
  induction as generalizing scope scope' with
  | nil =>
    cases hinner
    exact ⟨scope', rfl, h⟩
  | cons a as ih =>
    obtain ⟨next, hdeclare, henter⟩ := Scope.enter_cons_eq_ok.mp hinner
    obtain ⟨ha, has⟩ := List.forall_mem_cons.mp has
    obtain ⟨ha', has'⟩ := List.forall_mem_cons.mp has'
    obtain ⟨hnew, hfresh⟩ := List.forall_mem_cons.mp hfresh
    obtain ⟨next', hdeclare', hnext⟩ := h.declare hlegal ha ha' hnew
      (fun hold => hdefault hold a List.mem_cons_self) hdeclare
    obtain ⟨inner', henter', hmatches⟩ := ih hnext has has' hfresh
      (fun hold => (List.forall_mem_cons.mp (hdefault hold)).2) henter
    exact ⟨inner', Scope.enter_cons_eq_ok.mpr ⟨next', hdeclare', henter'⟩, hmatches⟩

/-- A renamed name has the namespace of the name. -/
theorem spaceOf_resolve (h : ρ.Matches scope scope') (hlegal : ρ.IsLegal) {name : QName}
    (hname : name.IsWellFormed) (hfresh : name.qualifier ≠ ρ.new.map Utf8.encodeString)
    (hbound : ρ.old = none → ∃ value ∈ scope.lookup [], value ≠ []) {space : Option String}
    (hspace : Builder.spaceOf (scope.resolve name.bytes) = .ok space) :
    Builder.spaceOf (scope'.resolve (ρ.name name).bytes) = .ok space := by
  have hne : name.qualifier ≠ some [] := fun hnil => (hname.qualifier [] hnil).1.1 rfl
  have hlookup := h name.qualifier hne hfresh
  rw [Scope.spaceOf_resolve_eq_ok (name_isWellFormed hlegal.isNamePart_new hname)]
  rcases (Scope.spaceOf_resolve_eq_ok hname).mp hspace with
    ⟨s, hs, rfl, hfound⟩ | ⟨rfl, hnone, hempty⟩
  · exact Or.inl ⟨s, hs, rfl, hlookup.trans hfound⟩
  · -- the old prefix has a namespace, so it is another one
    have hold : none ≠ ρ.old.map Utf8.encodeString := by
      intro hold
      obtain ⟨value, hvalue, hne⟩ := hbound (Option.map_eq_none_iff.mp hold.symm)
      exact hne (hempty value hvalue)
    rw [hnone, qualifier_of_ne hold] at hlookup
    refine Or.inr ⟨rfl, ?_, fun value hvalue => hempty value (hlookup ▸ hvalue)⟩
    rw [Renaming.name, hnone, qualifier_of_ne hold]

end Matches

end Renaming

/-! ## Names -/

theorem colon_mem_encode {cs : List Char} (h : ':' ∈ cs) : 0x3A ∈ Utf8.encode cs :=
  List.mem_flatMap.mpr ⟨':', h, by decide⟩

/-- The parts of a name are before and after its first colon. -/
theorem Tag.parts_of_cut {tag : Tag} {ds es : List Char} (h : tag.name.toList = ds ++ ':' :: es)
    (hds : ':' ∉ ds) :
    tag.qualifier = some (String.ofList ds) ∧ tag.localName = String.ofList es := by
  obtain ⟨htake, hdrop⟩ := Text.cut_append_sep (r := es) (fun _ => decide_eq_true_iff) hds
  have hmem : ':' ∈ tag.name.toList := by
    rw [h]
    exact List.mem_append_right _ List.mem_cons_self
  rw [qualifier, localName, if_pos hmem, if_pos hmem, h, htake, hdrop]
  exact ⟨rfl, rfl⟩

theorem Tag.parts_of_not_mem {tag : Tag} (h : ':' ∉ tag.name.toList) :
    tag.qualifier = none ∧ tag.localName = tag.name :=
  ⟨if_neg h, if_neg h⟩

/-- A prefix has no colon. -/
theorem Tag.colon_not_mem_qualifier (tag : Tag) : ∀ s ∈ tag.qualifier, ':' ∉ s.toList := by
  intro s hs
  by_cases hcolon : ':' ∈ tag.name.toList
  · obtain ⟨ds, es, hsplit, hds⟩ := List.eq_append_cons_of_mem hcolon
    have hqualifier := (Tag.parts_of_cut hsplit hds).1
    obtain rfl := Option.some.inj (hqualifier.symm.trans hs)
    rwa [String.toList_ofList]
  · rw [(Tag.parts_of_not_mem hcolon).1] at hs
    cases hs

/-- The parts of a name that is read are those of its bytes. -/
theorem QName.eq_of_nameOf {name : QName} (h : name.IsWellFormed) {s : String}
    (hs : Builder.nameOf name.bytes = .ok s) (space : Option String) :
    name = ⟨(Tag.mk s space).qualifier.map Utf8.encodeString,
      Utf8.encodeString (Tag.mk s space).localName⟩ := by
  have hbytes := Builder.bytes_of_nameOf hs
  obtain ⟨qualifier, localName⟩ := name
  cases qualifier with
  | none =>
    have hcolon : ':' ∉ s.toList := by
      intro hmem
      have hlocal : localName = Utf8.encode s.toList := hbytes
      exact h.localName.2.1 (hlocal ▸ colon_mem_encode hmem)
    obtain ⟨hqualifier, hlocal⟩ := @Tag.parts_of_not_mem ⟨s, space⟩ hcolon
    rw [hqualifier, hlocal, ← hbytes]
    rfl
  | some q =>
    have hcut : Utf8.encode s.toList = q ++ UInt8.ofNat ':'.toNat :: localName := hbytes.symm
    obtain ⟨ds, es, rfl, rfl, hsplit⟩ := Utf8.exists_encode_of_cut (by decide) hcut
    have hds : ':' ∉ ds := fun hc => (h.qualifier _ rfl).2.1 (colon_mem_encode hc)
    obtain ⟨hqualifier, hlocal⟩ := @Tag.parts_of_cut ⟨s, space⟩ _ _ hsplit hds
    rw [hqualifier, hlocal, Option.map_some, Utf8.encodeString, Utf8.encodeString,
      String.toList_ofList, String.toList_ofList]

/-- A tag with the prefix `p` has the prefix `q` instead, and any other tag is the same. -/
inductive Tag.Renamed (p q : Option String) : Tag → Tag → Prop
  | changed {tag tag' : Tag} (hp : tag.qualifier = p) (hq : tag'.qualifier = q)
    (hname : tag'.localName = tag.localName) (hspace : tag'.space = tag.space) :
    Renamed p q tag tag'
  | kept {tag : Tag} (hp : tag.qualifier ≠ p) (hq : tag.qualifier ≠ q) : Renamed p q tag tag

/-- The tags have the prefix `q` for `p`, and all else is the same. -/
inductive Node.Renamed (p q : Option String) : Node → Node → Prop
  | text (content : String) : Renamed p q (.text content) (.text content)
  | element {tag tag' : Tag} {children children' : List Node} (htag : tag.Renamed p q tag')
    (hchildren : List.Forall₂ (Renamed p q) children children') :
    Renamed p q (.element tag children) (.element tag' children')

theorem Node.Renamed.children {p q : Option String} {n m : Node} (h : n.Renamed p q m) :
    List.Forall₂ (Renamed p q) n.children m.children := by
  cases h with
  | text content => exact .nil
  | element htag hchildren => exact hchildren

namespace Renaming

variable {ρ : Renaming}

/-- A renamed name is read as the name with the new prefix. -/
theorem exists_renamed (hlegal : ρ.IsLegal) {name : QName} (h : name.IsWellFormed)
    (hfresh : name.qualifier ≠ ρ.new.map Utf8.encodeString) {tag : Tag}
    (hname : Builder.nameOf name.bytes = .ok tag.name) : ∃ tag', tag'.space = tag.space ∧
      Builder.nameOf (ρ.name name).bytes = .ok tag'.name ∧ tag.Renamed ρ.old ρ.new tag' := by
  have heq := QName.eq_of_nameOf h hname tag.space
  have hinj := Option.map_injective Utf8.encodeString_injective
  by_cases hold : tag.qualifier = ρ.old
  · have hchanged : ρ.name name =
        ⟨ρ.new.map Utf8.encodeString, Utf8.encodeString tag.localName⟩ := by
      rw [heq, Renaming.name]
      dsimp only
      rw [hold, qualifier_old]
    obtain ⟨s, hs⟩ : ∃ s, (ρ.name name).bytes = Utf8.encodeString s :=
      ⟨_, hchanged ▸ Label.bytes_eq ⟨ρ.new, tag.localName, []⟩⟩
    have hname' : Builder.nameOf (ρ.name name).bytes = .ok s := by
      rw [hs, nameOf_encodeString]
    have hsame := QName.eq_of_nameOf (name_isWellFormed hlegal.isNamePart_new h) hname' tag.space
    rw [hchanged, QName.mk.injEq] at hsame
    exact ⟨⟨s, tag.space⟩, rfl, hname', .changed hold (hinj hsame.1).symm
      (Utf8.encodeString_injective hsame.2).symm rfl⟩
  · have hkept : ρ.name name = name := by
      have hne : name.qualifier ≠ ρ.old.map Utf8.encodeString := by
        rw [heq]
        exact hinj.ne hold
      rw [Renaming.name, qualifier_of_ne hne]
    refine ⟨tag, rfl, hkept.symm ▸ hname, .kept hold fun hnew => hfresh ?_⟩
    rw [heq]
    exact congrArg (Option.map Utf8.encodeString) hnew

/-- A renamed tag opens an element with a renamed tag. -/
theorem Matches.opened {scope scope' : Scope} (h : ρ.Matches scope scope') (hlegal : ρ.IsLegal)
    {tag : TagSource} (htag : tag.IsWellFormed) (htag' : (ρ.tag tag).IsWellFormed)
    (hfresh : ρ.IsFresh tag)
    (hdefault : ρ.old = none → ∀ a ∈ tag.attributes, a.key = .declares none →
      Scope.Permits (ρ.new.map Utf8.encodeString) a.value) {e : OpenElement}
    (he : tag.opened scope = .ok e)
    (hbound : ρ.old = none → ∃ value ∈ e.scope.lookup [], value ≠ []) {label : Tag}
    (hlabel : e.tag = .ok label) : ∃ e' label', (ρ.tag tag).opened scope' = .ok e' ∧
      e'.tag = .ok label' ∧ label.Renamed ρ.old ρ.new label' ∧ ρ.Matches e.scope e'.scope := by
  obtain ⟨inner, henter, rfl⟩ := TagSource.opened_eq_ok.mp he
  have has' : ∀ a ∈ tag.attributes, (ρ.attributeSource a).IsWellFormed := fun a ha =>
    htag'.attributes _ (List.mem_map_of_mem ha)
  obtain ⟨inner', henter', hmatches⟩ :=
    h.enter hlegal htag.attributes has' hfresh.declares hdefault henter
  obtain ⟨hspace, hname⟩ := Builder.tagOf_eq_ok.mp hlabel
  obtain ⟨label', hsame, hname', hrenamed⟩ :=
    exists_renamed hlegal htag.name hfresh.name hname
  have hspace' := hmatches.spaceOf_resolve hlegal htag.name hfresh.name hbound hspace
  exact ⟨⟨(ρ.name tag.name).bytes, inner'⟩, label',
    TagSource.opened_eq_ok.mpr ⟨inner', henter', rfl⟩,
    Builder.tagOf_eq_ok.mpr ⟨hsame ▸ hspace', hname'⟩, hrenamed, hmatches⟩

/-! ## Nodes -/

/-- A tag inside the root is fresh, and declares nothing for names without a prefix if that is
the old one. -/
structure IsInner (ρ : Renaming) (tag : TagSource) : Prop where
  fresh : ρ.IsFresh tag
  default : ρ.old = none → ∀ a ∈ tag.attributes, a.key ≠ .declares none

instance (tag : TagSource) : Decidable (ρ.IsInner tag) :=
  decidable_of_iff (ρ.IsFresh tag ∧ (ρ.old = none → ∀ a ∈ tag.attributes, a.key ≠ .declares none))
    ⟨fun h => ⟨h.1, h.2⟩, fun h => ⟨h.1, h.2⟩⟩

theorem IsInner.lookup_enter {tag : TagSource} (h : ρ.IsInner tag) (hold : ρ.old = none)
    (htag : tag.IsWellFormed) {scope : Scope} {e : OpenElement} (he : tag.opened scope = .ok e) :
    e.scope.lookup [] = scope.lookup [] := by
  obtain ⟨inner, henter, rfl⟩ := TagSource.opened_eq_ok.mp he
  refine Scope.lookup_enter htag.attributes (Or.inr fun a ha r hkey hnil => ?_) henter
  cases r with
  | none => exact h.default hold a ha hkey
  | some q =>
    have hpart := (htag.attributes a ha).key
    rw [hkey] at hpart
    exact hpart.1.1 hnil

/-- What is read is read again with the new prefix. -/
theorem Matches.nodes {s : Source} (hs : s.IsWellFormed) (hs' : (ρ.source s).IsWellFormed)
    (hlegal : ρ.IsLegal) (hinner : ∀ tag ∈ s.tags, ρ.IsInner tag) {scope scope' : Scope}
    (h : ρ.Matches scope scope')
    (hbound : ρ.old = none → ∃ value ∈ scope.lookup [], value ≠ []) {nodes : List Node}
    (hnodes : s.nodes scope = .ok nodes) : ∃ nodes', (ρ.source s).nodes scope' = .ok nodes' ∧
      List.Forall₂ (Node.Renamed ρ.old ρ.new) nodes nodes' := by
  induction s generalizing scope scope' nodes with
  | nil =>
    cases hnodes
    exact ⟨[], rfl, .nil⟩
  | text raw s ih =>
    obtain ⟨content, hcontent, hnodes⟩ := bind_eq_ok.mp hnodes
    obtain ⟨rest, hrest, hnodes⟩ := bind_eq_ok.mp hnodes
    cases hnodes
    obtain ⟨rest', hrest', hrenamed⟩ := ih hs.2.2 hs'.2.2 hinner h hbound hrest
    refine ⟨.text content :: rest', ?_, .cons (.text content) hrenamed⟩
    rw [source, Source.nodes, hcontent, ok_bind, hrest', ok_bind]
    rfl
  | literal raw s ih =>
    obtain ⟨content, hcontent, hnodes⟩ := bind_eq_ok.mp hnodes
    obtain ⟨rest, hrest, hnodes⟩ := bind_eq_ok.mp hnodes
    cases hnodes
    obtain ⟨rest', hrest', hrenamed⟩ := ih hs.2 hs'.2 hinner h hbound hrest
    refine ⟨.text content :: rest', ?_, .cons (.text content) hrenamed⟩
    rw [source, Source.nodes, hcontent, ok_bind, hrest', ok_bind]
    rfl
  | aside a s ih => exact ih hs.2 hs'.2 hinner h hbound hnodes
  | closed tag s ih =>
    have htag := hinner tag List.mem_cons_self
    obtain ⟨e, he, hnodes⟩ := bind_eq_ok.mp hnodes
    obtain ⟨label, hlabel, hnodes⟩ := bind_eq_ok.mp hnodes
    obtain ⟨rest, hrest, hnodes⟩ := bind_eq_ok.mp hnodes
    cases hnodes
    have hlookup := fun hold => htag.lookup_enter hold hs.1 he
    obtain ⟨e', label', he', hlabel', hrenamedTag, -⟩ := h.opened hlegal hs.1 hs'.1 htag.fresh
      (fun hold a ha hkey => absurd hkey (htag.default hold a ha)) he
      (fun hold => hlookup hold ▸ hbound hold) hlabel
    obtain ⟨rest', hrest', hrenamed⟩ := ih hs.2 hs'.2
      (fun t ht => hinner t (List.mem_cons_of_mem _ ht)) h hbound hrest
    refine ⟨.element label' [] :: rest', ?_, .cons (.element hrenamedTag .nil) hrenamed⟩
    rw [source, Source.nodes, he', ok_bind, hlabel', ok_bind, hrest', ok_bind]
    rfl
  | element tag inner spaces s ihinner ih =>
    have htag := hinner tag List.mem_cons_self
    obtain ⟨e, he, hnodes⟩ := bind_eq_ok.mp hnodes
    obtain ⟨label, hlabel, hnodes⟩ := bind_eq_ok.mp hnodes
    obtain ⟨children, hchildren, hnodes⟩ := bind_eq_ok.mp hnodes
    obtain ⟨rest, hrest, hnodes⟩ := bind_eq_ok.mp hnodes
    cases hnodes
    have hlookup := fun hold => htag.lookup_enter hold hs.1.1 he
    have hbound' : ρ.old = none → ∃ value ∈ e.scope.lookup [], value ≠ [] := fun hold =>
      hlookup hold ▸ hbound hold
    obtain ⟨e', label', he', hlabel', hrenamedTag, hmatches⟩ := h.opened hlegal hs.1.1 hs'.1.1
      htag.fresh (fun hold a ha hkey => absurd hkey (htag.default hold a ha)) he hbound' hlabel
    obtain ⟨children', hchildren', hrenamedInner⟩ := ihinner hs.2.1 hs'.2.1
      (fun t ht => hinner t (List.mem_cons_of_mem _ (List.mem_append_left _ ht))) hmatches hbound'
      hchildren
    obtain ⟨rest', hrest', hrenamed⟩ := ih hs.2.2 hs'.2.2
      (fun t ht => hinner t (List.mem_cons_of_mem _ (List.mem_append_right _ ht))) h hbound hrest
    refine ⟨.element label' children' :: rest', ?_,
      .cons (.element hrenamedTag hrenamedInner) hrenamed⟩
    rw [source, Source.nodes, he', ok_bind, hlabel', ok_bind, hchildren', ok_bind, hrest', ok_bind]
    rfl

/-! ## Documents -/

theorem tag_root (root : Root) : (ρ.root root).tag = ρ.tag root.tag := by
  cases root <;> rfl

theorem inner_root (root : Root) : (ρ.root root).inner = ρ.source root.inner := by
  cases root <;> rfl

/-- The namespace of an element is in force for its prefix. -/
theorem lookup_of_opened {tag : TagSource} (htag : tag.IsWellFormed) {scope : Scope}
    {e : OpenElement} (he : tag.opened scope = .ok e) {label : Tag} (hlabel : e.tag = .ok label)
    {space : String} (hspace : label.space = some space) : space ≠ "" ∧
      e.scope.lookup ((label.qualifier.map Utf8.encodeString).getD []) =
        some (Utf8.encodeString space) := by
  obtain ⟨inner, -, rfl⟩ := TagSource.opened_eq_ok.mp he
  obtain ⟨hlabel, hname⟩ := Builder.tagOf_eq_ok.mp hlabel
  have hqualifier : tag.name.qualifier = label.qualifier.map Utf8.encodeString :=
    congrArg QName.qualifier (QName.eq_of_nameOf htag.name hname label.space)
  rcases (Scope.spaceOf_resolve_eq_ok htag.name).mp hlabel with ⟨s, hs, hsome, hfound⟩ | ⟨hnone, -⟩
  · obtain rfl := Option.some.inj (hsome.symm.trans hspace)
    exact ⟨hs, hqualifier ▸ hfound⟩
  · rw [hspace] at hnone
    cases hnone

/-- The prefix of a root is none of the language itself, if its namespace is not. -/
theorem qualifier_ne_of_opened {tag : TagSource} (htag : tag.IsWellFormed) {e : OpenElement}
    (he : tag.opened Scope.initial = .ok e) {label : Tag} (hlabel : e.tag = .ok label)
    {space : String} (hspace : label.space = some space) (hxml : space ≠ xmlSpace)
    (hxmlns : space ≠ xmlnsSpace) : ∀ p ∈ label.qualifier, p ≠ "xml" ∧ p ≠ "xmlns" := by
  intro p hp
  have hlookup := (lookup_of_opened htag he hlabel hspace).2
  obtain ⟨inner, henter, rfl⟩ := TagSource.opened_eq_ok.mp he
  rw [show label.qualifier = some p from hp, Option.map_some, Option.getD_some] at hlookup
  have hinitial : ∀ name, name = Scope.xmlName ∨ name = Scope.xmlnsName →
      inner.lookup name = Scope.initial.lookup name := fun _ h =>
    Scope.lookup_enter htag.attributes (Or.inl h) henter
  constructor
  · rintro rfl
    have hvalue := (hinitial _ (Or.inl rfl)).symm.trans hlookup
    exact hxml (Utf8.encodeString_injective (Option.some.inj hvalue)).symm
  · rintro rfl
    have hvalue := (hinitial _ (Or.inr rfl)).symm.trans hlookup
    exact hxmlns (Utf8.encodeString_injective (Option.some.inj hvalue)).symm

/-- The document with the new prefix is read with the new prefix, if the old one is that of the
root. -/
theorem read_document {d : Document} (hd : d.IsWellFormed) (hd' : (ρ.document d).IsWellFormed)
    (hnew : ∀ q ∈ ρ.new, IsNamePart (Utf8.encodeString q) ∧ q ≠ "xml" ∧ q ≠ "xmlns")
    (hfresh : ρ.IsFresh d.root.tag) (hinner : ∀ tag ∈ d.root.inner.tags, ρ.IsInner tag)
    {tag : Tag} {children : List Node} (hread : Node.read d.bytes = .ok (.element tag children))
    (hold : tag.qualifier = ρ.old) {space : String} (hspace : tag.space = some space)
    (hxml : space ≠ xmlSpace) (hxmlns : space ≠ xmlnsSpace) : ∃ tag' children',
      Node.read (ρ.document d).bytes = .ok (.element tag' children') ∧
        tag.Renamed ρ.old ρ.new tag' ∧
        List.Forall₂ (Node.Renamed ρ.old ρ.new) children children' := by
  rw [Node.read_bytes hd] at hread
  obtain ⟨e, he, hread⟩ := bind_eq_ok.mp hread
  obtain ⟨label, hlabel, hread⟩ := bind_eq_ok.mp hread
  obtain ⟨nodes, hnodes, hread⟩ := bind_eq_ok.mp hread
  cases hread
  obtain ⟨htag, hsource⟩ := Root.parts_isWellFormed hd.root
  obtain ⟨htag', hsource'⟩ := Root.parts_isWellFormed hd'.root
  rw [document, tag_root] at htag'
  rw [document, inner_root] at hsource'
  have hlegal : ρ.IsLegal :=
    ⟨hold ▸ qualifier_ne_of_opened htag he hlabel hspace hxml hxmlns, hnew⟩
  obtain ⟨hempty, hlookup⟩ := lookup_of_opened htag he hlabel hspace
  rw [hold] at hlookup
  have hbound : ρ.old = none → e.scope.lookup [] = some (Utf8.encodeString space) := by
    intro hnone
    rw [hnone] at hlookup
    exact hlookup
  have hbound' : ρ.old = none → ∃ value ∈ e.scope.lookup [], value ≠ [] := fun hnone =>
    ⟨_, hbound hnone, Utf8.encodeString_injective.ne hempty⟩
  have hdefault : ρ.old = none → ∀ a ∈ d.root.tag.attributes, a.key = .declares none →
      Scope.Permits (ρ.new.map Utf8.encodeString) a.value := by
    intro hnone a ha hkey
    obtain ⟨inner, henter, rfl⟩ := TagSource.opened_eq_ok.mp he
    have hvalue := Scope.lookup_enter_default htag.attributes htag.once ha hkey henter
    rw [Option.some.inj (hvalue.symm.trans (hbound hnone))]
    exact hlegal.permits_new ⟨Utf8.encodeString_injective.ne hxml,
      Utf8.encodeString_injective.ne hxmlns⟩
  obtain ⟨e', label', he', hlabel', hrenamed, hmatches⟩ := (Matches.initial hlegal).opened hlegal
    htag htag' hfresh hdefault he hbound' hlabel
  obtain ⟨children', hchildren', hrenamedInner⟩ :=
    hmatches.nodes hsource hsource' hlegal hinner hbound' hnodes
  refine ⟨label', children', ?_, hrenamed, hrenamedInner⟩
  rw [Node.read_bytes hd', document, Root.node, tag_root, he', ok_bind, hlabel', ok_bind,
    inner_root, hchildren', ok_bind]
  rfl

end Renaming

end DavCourier.Markup
