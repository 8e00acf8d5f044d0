import DavCourier.Proofs.Dav.Likeness
import DavCourier.Proofs.Markup.Pruning

/-!
# Reports however they are written

A document is read as the tree that it is written for, and its report depends on the tree only :
`MultiStatus.parse_isWritten`. The nodes of two documents for one tree may have their texts in
other pieces. Nodes with the same tree below them are alike, because a reader of reports puts the
texts of an element together and finds its children by name. The trees need not even be the same
in elements that have no name of the vocabulary (`isLikeness_kept`).
-/

namespace DavCourier.Markup

namespace Forest

variable {α : Type}

/-- The characters that are inside no element. -/
def outerText : Forest α → List Char
  | nil => []
  | char c rest => c :: rest.outerText
  | element _ _ rest => rest.outerText

/-- The elements that are inside no other, with what is inside them. -/
def outerElements : Forest α → List (α × Forest α)
  | nil => []
  | char _ rest => rest.outerElements
  | element label inner rest => (label, inner) :: rest.outerElements

theorem outerText_chars (cs : List Char) (f : Forest α) :
    (f.chars cs).outerText = cs ++ f.outerText := by
  induction cs with
  | nil => rfl
  | cons c cs ih => exact congrArg (c :: ·) ih

theorem outerElements_chars (cs : List Char) (f : Forest α) :
    (f.chars cs).outerElements = f.outerElements := by
  induction cs with
  | nil => rfl
  | cons c cs ih => exact ih

variable {keep : α → Bool}

theorem outerText_filter (f : Forest α) : (f.filter keep).outerText = f.outerText := by
  induction f with
  | nil => rfl
  | char c rest ih => exact congrArg (c :: ·) ih
  | element label inner rest _ ih =>
    rw [filter]
    split
    · exact ih
    · exact ih

theorem outerElements_filter (f : Forest α) : (f.filter keep).outerElements =
    (f.outerElements.filter fun e => keep e.1).map fun e => (e.1, e.2.filter keep) := by
  induction f with
  | nil => rfl
  | char c rest ih => exact ih
  | element label inner rest _ ih =>
    rw [filter, outerElements, List.filter_cons]
    split
    · exact congrArg _ ih
    · exact ih

end Forest

namespace Node

theorem outerText_forest (nodes : List Node) :
    (forest nodes).outerText = nodes.flatMap characters := by
  induction nodes with
  | nil => rfl
  | cons node nodes ih =>
    cases node with
    | text content =>
      rw [forest, prepend, Forest.outerText_chars, ih]
      rfl
    | element tag children => exact ih

/-- The elements with a name, by what is inside them. -/
theorem map_filter_isNamed (name : String) (nodes : List Node) :
    (nodes.filter (isNamed name)).map (fun node => forest node.children) =
      ((forest nodes).outerElements.filter fun e => e.1.name = name).map Prod.snd := by
  induction nodes with
  | nil => rfl
  | cons node nodes ih =>
    cases node with
    | text content =>
      rw [forest, prepend, Forest.outerElements_chars, ← ih]
      rfl
    | element tag children =>
      rw [forest, prepend, Forest.outerElements, List.filter_cons, List.filter_cons, isNamed]
      dsimp only
      split
      · rw [List.map_cons, List.map_cons, ih]
        rfl
      · exact ih

variable {keep : Tag → Bool}

theorem outerText_kept (nodes : List Node) :
    (kept keep nodes).outerText = nodes.flatMap characters := by
  rw [kept, Forest.outerText_filter, outerText_forest]

/-- The elements with a name, by what is kept inside them, if those with this name are kept. -/
theorem map_filter_isNamed_kept {name : String} (hname : ∀ tag : Tag, tag.name = name →
    keep tag = true) (nodes : List Node) :
    (nodes.filter (isNamed name)).map (fun node => kept keep node.children) =
      ((kept keep nodes).outerElements.filter fun e => e.1.name = name).map Prod.snd := by
  have hboth : ∀ e : Tag × Forest Tag,
      (decide (e.1.name = name) && keep e.1) = decide (e.1.name = name) := fun e => by
    by_cases h : e.1.name = name
    · rw [hname e.1 h, Bool.and_true]
    · rw [decide_eq_false h, Bool.false_and]
  have hmap := congrArg (List.map (Forest.filter keep)) (map_filter_isNamed name nodes)
  rw [List.map_map, List.map_map] at hmap
  rw [kept, Forest.outerElements_filter, List.filter_map, List.map_map, List.filter_filter]
  simp only [Function.comp_def, hboth] at hmap ⊢
  exact hmap

end Node

end DavCourier.Markup

namespace DavCourier.Dav

open Markup Fallible

/-- Whether the element is called like one that a report is read by, with this prefix. -/
def isLookedUp (p : Option String) (tag : Tag) : Bool :=
  vocabulary.any fun name => tag.name = qualified p name

theorem isLookedUp_eq_false_iff {p : Option String} {tag : Tag} :
    isLookedUp p tag = false ↔ ∀ name ∈ vocabulary, tag.name ≠ qualified p name := by
  simp [isLookedUp]

/-- Nodes are alike if the trees below them are the same but for elements that are not looked
up. -/
theorem isLikeness_kept (p : Option String) : IsLikeness p p fun n m =>
    Node.kept (isLookedUp p) n.children = Node.kept (isLookedUp p) m.children where
  text? n m h := by
    unfold Node.text?
    rw [← Node.outerText_kept, h, Node.outerText_kept]
  childrenNamed n m h name hname := by
    have hnamed := @Node.map_filter_isNamed_kept (isLookedUp p) (qualified p name) fun tag htag =>
      List.any_eq_true.mpr ⟨name, hname, decide_eq_true htag⟩
    have hsame : (n.childrenNamed (qualified p name)).map (fun node =>
        Node.kept (isLookedUp p) node.children) = (m.childrenNamed (qualified p name)).map
          fun node => Node.kept (isLookedUp p) node.children := by
      rw [Node.childrenNamed, Node.childrenNamed, hnamed, h, hnamed]
    rwa [← List.forall₂_eq_eq_eq, List.forall₂_map_left_iff, List.forall₂_map_right_iff] at hsame

namespace MultiStatus

/-- Roots that are the same but for elements that are not looked up make the same report. -/
theorem ofNode?_eq_of_kept {tag : Tag} {children children' : List Node}
    (h : Node.kept (isLookedUp tag.qualifier) children =
      Node.kept (isLookedUp tag.qualifier) children') :
    ofNode? (.element tag children) = ofNode? (.element tag children') :=
  ofNode?_eq_of_likeness (isLikeness_kept _) h rfl rfl

/-- A tree makes one report. -/
theorem ofNode?_eq_of_forest {n m : Node} (h : Node.forest [n] = Node.forest [m]) :
    ofNode? n = ofNode? m := by
  cases n with
  | text content =>
    cases m with
    | text content' => rfl
    | element tag children =>
      have := congrArg Forest.outerElements h
      rw [Node.forest, Node.prepend, Forest.outerElements_chars] at this
      cases this
  | element tag children =>
    cases m with
    | text content =>
      have := congrArg Forest.outerElements h
      rw [Node.forest.eq_2 (.text content), Node.prepend, Forest.outerElements_chars] at this
      cases this
    | element tag' children' =>
      obtain ⟨rfl, hchildren, -⟩ := Forest.element.inj h
      exact ofNode?_eq_of_kept (congrArg (Forest.filter _) hchildren)

/-- However a tree is written, it is read as the tree, and makes the same report. The namespaces
of a tree are what its declarations have between their quotes. -/
theorem parse_isWritten {tree : Forest Label} (hbound : tree.IsBound Declarations.initial) :
    (∀ bs, tree.IsWritten bs → ∃ node, Node.read bs = .ok node ∧
        Node.forest [node] = tree.resolve Declarations.initial) ∧
      ∀ bs bs', tree.IsWritten bs → tree.IsWritten bs' → parse bs = parse bs' := by
  refine ⟨fun bs h => h.read hbound, fun bs bs' h h' => ?_⟩
  obtain ⟨node, hread, htree⟩ := h.read hbound
  obtain ⟨node', hread', htree'⟩ := h'.read hbound
  rw [parse, parse, hread, hread', Except.map, Except.map,
    ofNode?_eq_of_forest (htree.trans htree'.symm)]

/-- A report with one response and an empty element. -/
def smallTree : Forest Label :=
  .element ⟨some "D", "multistatus", [(some "D", "DAV:")]⟩
    (.element ⟨some "D", "response", []⟩
      (.element ⟨some "D", "href", []⟩ (Forest.chars ['a', '&', 'b'] .nil)
        (.element ⟨some "D", "propstat", []⟩ .nil .nil)) .nil) .nil

/-- A tag with the prefix `D`. -/
def smallTag (name : String) (attributes : List AttributeSource) : TagSource :=
  ⟨⟨some [0x44], Utf8.encodeString name⟩, attributes, []⟩

/-- The declaration of the prefix `D`. -/
def smallDeclaration (quote : UInt8) : AttributeSource :=
  ⟨[0x20], .declares (some [0x44]), [], [], quote, Utf8.encodeString "DAV:"⟩

/-- The small tree with references and a tag that closes itself. -/
def plainDocument : Document :=
  ⟨[], .element (smallTag "multistatus" [smallDeclaration 0x22])
    (.element (smallTag "response" [])
      (.element (smallTag "href" []) (.text (Utf8.encode "a&amp;b".toList) .nil) []
        (.closed (smallTag "propstat" []) .nil)) [] .nil) [], []⟩

/-- The small tree with an instruction, a comment, another attribute, a text in pieces and two
tags around nothing. -/
def busyDocument : Document :=
  ⟨[.aside (.instruction (Utf8.encodeString "xml version='1.0'"))],
    .element (smallTag "multistatus"
      [⟨[0x20], .plain (Utf8.encodeString "n"), [], [0x20], 0x22, Utf8.encodeString "'1'"⟩,
        smallDeclaration 0x27])
      (.aside (.comment (Utf8.encodeString " < "))
        (.element (smallTag "response" [])
          (.element (smallTag "href" [])
            (.text (Utf8.encode ['a']) (.literal (Utf8.encode ['&'])
              (.text (Utf8.encode "&#98;".toList) .nil))) [0x20]
            (.element (smallTag "propstat" []) .nil [] .nil)) [] .nil)) [], []⟩

def plainText : String :=
  "<D:multistatus xmlns:D=\"DAV:\"><D:response><D:href>a&amp;b</D:href><D:propstat/>" ++
  "</D:response></D:multistatus>"

def busyText : String :=
  "<?xml version='1.0'?><D:multistatus n= \"'1'\" xmlns:D='DAV:'><!-- < --><D:response><D:href>a" ++
  "<![CDATA[&]]>&#98;</D:href ><D:propstat></D:propstat></D:response></D:multistatus>"

theorem plainText_isWritten : smallTree.IsWritten (Utf8.encodeString plainText) := by
  have htext : SpellsText ['a', '&', 'b'] "a&amp;b".toList :=
    .cons (.plain (by decide) (by decide)) (.cons (@SpellsChar.named '&' "amp".toList (by decide))
      (.cons (.plain (by decide) (by decide)) .nil))
  refine ⟨plainDocument, by decide +kernel, ?_, by decide +kernel⟩
  refine .element ⟨rfl, rfl⟩ (.element ⟨rfl, rfl⟩ (.element ⟨rfl, rfl⟩ ?_ ?_) .nil) .nil
  · exact .text htext .nil
  · exact .closed ⟨rfl, rfl⟩ .nil

theorem busyText_isWritten : smallTree.IsWritten (Utf8.encodeString busyText) := by
  have hfirst : SpellsText ['a'] ['a'] := .cons (.plain (by decide) (by decide)) .nil
  have hlast : SpellsText ['b'] "&#98;".toList :=
    .cons (@SpellsChar.decimal 'b' "98".toList (by decide) (by decide)) .nil
  refine ⟨busyDocument, by decide +kernel, ?_, by decide +kernel⟩
  refine .element ⟨rfl, rfl⟩ (.aside (.element ⟨rfl, rfl⟩ (.element ⟨rfl, rfl⟩ ?_ ?_) .nil)) .nil
  · exact @Forest.Writes.text ['a'] ['a'] _ _ hfirst
      (@Forest.Writes.literal ['&'] _ _ (.text hlast .nil))
  · exact .element ⟨rfl, rfl⟩ .nil .nil

theorem parse_isWritten_small :
    smallTree.IsBound Declarations.initial ∧ plainText ≠ busyText ∧
      (∃ node, Node.read (Utf8.encodeString busyText) = .ok node ∧
        Node.forest [node] = smallTree.resolve Declarations.initial) ∧
      parse (Utf8.encodeString plainText) = parse (Utf8.encodeString busyText) := by
  have hbound : smallTree.IsBound Declarations.initial := by decide
  obtain ⟨hread, hsame⟩ := parse_isWritten hbound
  exact ⟨hbound, by decide +kernel, hread _ busyText_isWritten,
    hsame _ _ plainText_isWritten busyText_isWritten⟩

end MultiStatus

end DavCourier.Dav
