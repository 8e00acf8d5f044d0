import DavCourier.Proofs.Dav.Likeness
import DavCourier.Proofs.Markup.Renaming

/-!
# Reports with another prefix

A report does not depend on the prefix of its vocabulary : `MultiStatus.parse_renamed`. The tree
of the renamed document has the new prefix where the tree of the document has the old one, and a
name of the vocabulary with the prefix of the root is found in both (`isLikeness_renamed`).
-/

namespace DavCourier.Markup

open Dav

/-- A name is its prefix with the part after it. -/
theorem Tag.name_eq (tag : Tag) : tag.name = qualified tag.qualifier tag.localName := by
  by_cases hcolon : ':' ∈ tag.name.toList
  · obtain ⟨ds, es, hsplit, hds⟩ := List.eq_append_cons_of_mem hcolon
    obtain ⟨hqualifier, hlocal⟩ := Tag.parts_of_cut hsplit hds
    apply String.toList_injective
    rw [hqualifier, hlocal, hsplit]
    simp [qualified]
  · obtain ⟨hqualifier, hlocal⟩ := Tag.parts_of_not_mem hcolon
    rw [hqualifier, hlocal]
    rfl

theorem Tag.parts_of_qualified {tag : Tag} {p : Option String} (hp : ∀ s ∈ p, ':' ∉ s.toList)
    {name : String} (hname : ':' ∉ name.toList) (h : tag.name = qualified p name) :
    tag.qualifier = p ∧ tag.localName = name := by
  cases p with
  | none =>
    rw [qualified] at h
    obtain ⟨hqualifier, hlocal⟩ := Tag.parts_of_not_mem (h ▸ hname)
    exact ⟨hqualifier, hlocal.trans h⟩
  | some s =>
    have hsplit : tag.name.toList = s.toList ++ ':' :: name.toList := by
      simp [h, qualified]
    obtain ⟨hqualifier, hlocal⟩ := Tag.parts_of_cut hsplit (hp s rfl)
    rw [hqualifier, hlocal, String.ofList_toList, String.ofList_toList]
    exact ⟨rfl, rfl⟩

/-- A name of the vocabulary is found by its parts. -/
theorem Node.isNamed_qualified {p : Option String} (hp : ∀ s ∈ p, ':' ∉ s.toList) {name : String}
    (hname : ':' ∉ name.toList) (tag : Tag) (children : List Node) :
    Node.isNamed (qualified p name) (.element tag children) = true ↔
      tag.qualifier = p ∧ tag.localName = name := by
  rw [isNamed, decide_eq_true_eq]
  constructor
  · exact Tag.parts_of_qualified hp hname
  · rintro ⟨rfl, rfl⟩
    exact tag.name_eq

end DavCourier.Markup

namespace DavCourier.Dav

open Markup Fallible

section

variable {p q : Option String} (hp : ∀ s ∈ p, ':' ∉ s.toList) (hq : ∀ s ∈ q, ':' ∉ s.toList)

include hp hq

theorem isNamed_renamed {n m : Node} (h : n.Renamed p q m) {name : String}
    (hname : ':' ∉ name.toList) :
    n.isNamed (qualified p name) = m.isNamed (qualified q name) := by
  cases h with
  | text content => rfl
  | element htag hchildren =>
    rw [Bool.eq_iff_iff, Node.isNamed_qualified hp hname, Node.isNamed_qualified hq hname]
    cases htag with
    | changed hold hnew hlocal hspace => rw [hold, hnew, hlocal]; simp
    | kept hold hnew => simp [hold, hnew]

theorem isLikeness_renamed : IsLikeness p q (Node.Renamed p q) where
  text? n m h := by
    have hcharacters : ∀ n m, Node.Renamed p q n m → n.characters = m.characters := by
      intro n m h
      cases h <;> rfl
    unfold Node.text?
    rw [flatMap_eq h.children hcharacters]
  childrenNamed n m h name hname := by
    have hcolon : ':' ∉ name.toList := by
      revert name
      decide
    exact forall₂_filter h.children fun _ _ h => isNamed_renamed hp hq h hcolon

end

namespace MultiStatus

/-- A document with another prefix for its root makes the same report. -/
theorem parse_renamed {d : Document} (hd : d.IsWellFormed) {tag : Tag} {children : List Node}
    (hread : Node.read d.bytes = .ok (.element tag children))
    (hspace : tag.space = some davSpace) {ρ : Renaming} (hold : tag.qualifier = ρ.old)
    (hnew : ∀ q ∈ ρ.new, IsNamePart (Utf8.encodeString q) ∧ q ≠ "xml" ∧ q ≠ "xmlns")
    (hroot : ρ.IsFresh d.root.tag) (hinner : ∀ tag ∈ d.root.inner.tags, ρ.IsInner tag) :
    (ρ.plain = id → (ρ.document d).IsWellFormed) ∧
      ((ρ.document d).IsWellFormed → parse (ρ.document d).bytes = parse d.bytes) := by
  refine ⟨fun hplain => Renaming.document_isWellFormed (fun q hq => (hnew q hq).1) hplain hd hroot
    fun inner hmem => (hinner inner hmem).fresh, fun hd' => ?_⟩
  obtain ⟨tag', children', hread', htag, hchildren⟩ := Renaming.read_document hd hd' hnew hroot
    hinner hread hold hspace (by decide) (by decide)
  rw [parse, parse, hread, hread', Except.map, Except.map]
  have hnodes : Node.Renamed ρ.old ρ.new (.element tag children) (.element tag' children') :=
    .element htag hchildren
  cases htag with
  | kept hp hq => exact absurd hold hp
  | changed hp hq hname hspace' =>
    rw [← hp, ← hq] at hnodes
    have hlikeness := isLikeness_renamed tag.colon_not_mem_qualifier tag'.colon_not_mem_qualifier
    rw [ofNode?_eq_of_likeness hlikeness hnodes hspace'.symm hname.symm]

/-- A document whose names have no prefix. -/
def bareDocument : Document :=
  ⟨[], .element
    ⟨⟨none, Utf8.encodeString "multistatus"⟩,
      [⟨[0x20], .declares none, [], [], 0x22, Utf8.encodeString "DAV:"⟩], []⟩
    (.element ⟨⟨none, Utf8.encodeString "response"⟩, [], []⟩
      (.element ⟨⟨none, Utf8.encodeString "href"⟩, [], []⟩
        (.text (Utf8.encodeString "/a") .nil) [] .nil) [] .nil) [], []⟩

def bareText : String :=
  "<multistatus xmlns=\"DAV:\"><response><href>/a</href></response></multistatus>"

def prefixedText : String :=
  "<d:multistatus xmlns:d=\"DAV:\"><d:response><d:href>/a</d:href></d:response></d:multistatus>"

theorem parse_renamed_bare :
    parse (Utf8.encodeString prefixedText) = parse (Utf8.encodeString bareText) := by
  have hbare : bareDocument.bytes = Utf8.encodeString bareText := by decide +kernel
  have hprefixed : (Renaming.document ⟨none, some "d", id⟩ bareDocument).bytes =
      Utf8.encodeString prefixedText := by
    decide +kernel
  have hroot : (Node.read bareDocument.bytes).map (fun node => match node with
      | .element tag _ => some tag
      | .text _ => none) = .ok (some ⟨"multistatus", some davSpace⟩) := by
    decide +kernel
  obtain ⟨node, hread, hnode⟩ := map_eq_ok.mp hroot
  cases node with
  | text content => cases hnode
  | element tag children =>
    obtain rfl := Option.some.inj hnode
    obtain ⟨hdocument, hparse⟩ := @parse_renamed bareDocument (by decide +kernel) _ _ hread rfl
      ⟨none, some "d", id⟩ (by decide) (by decide) (by decide +kernel) (by decide +kernel)
    rw [← hprefixed, ← hbare]
    exact hparse (hdocument rfl)

/-- A document with this prefix for its root, after a document type that leaves a `<` open. -/
def openText (q : String) : String :=
  "<!DOCTYPE m [<!-- < -->]><" ++ q ++ ":multistatus xmlns:" ++ q ++ "=\"DAV:\">" ++
    "<!-- >> <D:multistatus xmlns:D=\"DAV:\"> --></" ++ q ++ ":multistatus>"

/-- What the document type leaves open is closed in the comment, and the root is read from there.
And a name with two colons has another prefix when it loses its first one. -/
theorem parse_renamed_unbalanced :
    parse (Utf8.encodeString (openText "D")) = .ok (some empty) ∧
      parse (Utf8.encodeString (openText "qq")) =
        .error (.mismatchedEnd "D:multistatus" "qq:multistatus") ∧
      parse (Utf8.encodeString "<D:multistatus xmlns:D=\"DAV:\"><D:a:b/></D:multistatus>") =
        .ok (some empty) ∧
      parse (Utf8.encodeString "<multistatus xmlns=\"DAV:\"><a:b/></multistatus>") =
        .error (.unboundPrefix "a") := by
  refine ⟨?_, ?_, ?_, ?_⟩ <;> decide +kernel

end MultiStatus

end DavCourier.Dav
