import DavCourier.Proofs.Dav.Presentation

/-!
# Reports without foreign elements

An element outside `DAV:` says nothing to a reader of reports, unless it is called like one that
the reader looks for. Names are compared with the prefix of the root, whatever this prefix means
inside, so such an element does count : `parse_prune_rebound`. All others may be taken out of the
document (`parse_prune`).
-/

namespace DavCourier.Dav

open Markup Fallible

/-- Whether the element is in the namespace of the vocabulary. -/
def isDav (tag : Tag) : Bool :=
  tag.space = some davSpace

namespace MultiStatus

/-- A document without elements that are not looked up makes the same report. -/
theorem parse_eq_of_loses {d : Document} (hd : d.IsWellFormed) {tag : Tag}
    {children : List Node} (hread : Node.read d.bytes = .ok (.element tag children))
    {keep : Tag → Bool}
    (h : (Node.forest children).Loses keep fun t => isLookedUp tag.qualifier t = false) :
    parse (d.prune keep).bytes = parse d.bytes := by
  obtain ⟨-, children', hread', hforest⟩ := d.read_prune hd hread keep
  have hkept : Node.kept (isLookedUp tag.qualifier) children' =
      Node.kept (isLookedUp tag.qualifier) children := by
    rw [Node.kept, hforest, Node.kept, Forest.filter_filter_of_loses h]
    rfl
  rw [parse, parse, hread, hread', Except.map, Except.map, ofNode?_eq_of_kept hkept]

/-- Of the elements below the root those may go that are neither in the namespace of the
vocabulary nor called like one that is looked up. All elements outside this namespace may go if
none of them is called so, but for those inside another. -/
theorem parse_prune {d : Document} (hd : d.IsWellFormed) {tag : Tag} {children : List Node}
    (hread : Node.read d.bytes = .ok (.element tag children)) :
    (∀ keep, (d.prune keep).IsWellFormed ∧ ∃ children',
        Node.read (d.prune keep).bytes = .ok (.element tag children') ∧
          Node.forest children' = (Node.forest children).filter keep) ∧
      parse (d.prune fun t => isDav t || isLookedUp tag.qualifier t).bytes = parse d.bytes ∧
      ((Node.forest children).Loses isDav (fun t => isLookedUp tag.qualifier t = false) →
        parse (d.prune isDav).bytes = parse d.bytes) := by
  refine ⟨d.read_prune hd hread, ?_, parse_eq_of_loses hd hread⟩
  exact parse_eq_of_loses hd hread
    (Forest.loses_of_forall (fun _ ht => (Bool.or_eq_false_iff.mp ht).2) _)

/-- A tag with the prefix `D`, which it declares for these namespaces. -/
def declaringTag (name : String) (spaces : List String) : TagSource :=
  ⟨⟨some [0x44], Utf8.encodeString name⟩, spaces.map fun space =>
    ⟨[0x20], .declares (some [0x44]), [], [], 0x22, Utf8.encodeString space⟩, []⟩

/-- A document with this before its root and inside it. -/
def rootedDocument (before : List Misc) (inner : Source) : Document :=
  ⟨before, .element (declaringTag "multistatus" ["DAV:"]) inner [], []⟩

/-- A report with another element in the middle of a reference. The element declares the prefix
for itself. -/
def mixedDocument : Document :=
  rootedDocument [] (.element (declaringTag "response" []) (.element (declaringTag "href" [])
    (.text (Utf8.encodeString "/") (.element (declaringTag "x" ["u"])
      (.closed (declaringTag "href" []) .nil) [] (.text (Utf8.encodeString "a") .nil))) [] .nil)
    [] .nil)

theorem parse_prune_mixed :
    mixedDocument.bytes = Utf8.encodeString ("<D:multistatus xmlns:D=\"DAV:\"><D:response>" ++
      "<D:href>/<D:x xmlns:D=\"u\"><D:href/></D:x>a</D:href></D:response></D:multistatus>") ∧
    (mixedDocument.prune isDav).bytes = Utf8.encodeString ("<D:multistatus xmlns:D=\"DAV:\">" ++
      "<D:response><D:href>/a</D:href></D:response></D:multistatus>") ∧
    parse (mixedDocument.prune isDav).bytes = parse mixedDocument.bytes := by
  have hread : Node.read mixedDocument.bytes = .ok (.element ⟨"D:multistatus", some davSpace⟩
      [.element ⟨"D:response", some davSpace⟩ [.element ⟨"D:href", some davSpace⟩
        [.text "/", .element ⟨"D:x", some "u"⟩ [.element ⟨"D:href", some "u"⟩ []],
          .text "a"]]]) := by
    decide +kernel
  obtain ⟨-, -, hdav⟩ := parse_prune (by decide +kernel) hread
  exact ⟨by decide +kernel, by decide +kernel, hdav (by decide +kernel)⟩

/-- A report whose response declares the prefix for another namespace. -/
def reboundDocument : Document :=
  rootedDocument [] (.element (declaringTag "response" ["x"])
    (.element (declaringTag "href" []) (.text (Utf8.encodeString "/a") .nil) [] .nil) [] .nil)

/-- A report with another element that refers to a declaration of the document type. -/
def entityDocument : Document :=
  rootedDocument [.doctype (Utf8.encodeString " m [<!ENTITY e \"v\">]")]
    (.element ⟨⟨none, Utf8.encodeString "x"⟩, [], []⟩ (.text (Utf8.encodeString "&e;") .nil) []
      .nil)

/-- A report with this inside its root, before a comment, and after a document type that leaves a
`<` open. -/
def nestedText (content : String) : String :=
  "<!DOCTYPE m [<!-- < -->]><D:multistatus xmlns:D=\"DAV:\">" ++ content ++
    "<!-- >> <D:multistatus xmlns:D=\"DAV:\"> --></D:multistatus>"

/-- An element outside `DAV:` that is called like a response is one. A document whose references
need its document type is no document to this reader, and one whose document type leaves a `<`
open is another document to it. -/
theorem parse_prune_rebound :
    (reboundDocument.IsWellFormed ∧
      (parse reboundDocument.bytes).map (Option.map entries) = .ok (some [{ href := "/a" }]) ∧
      parse (reboundDocument.prune isDav).bytes = .ok (some empty)) ∧
    (entityDocument.IsWellFormed ∧
      parse entityDocument.bytes = .error (.badReference (.unknown 1 2 "e")) ∧
      parse (entityDocument.prune isDav).bytes = .ok (some empty)) ∧
    parse (Utf8.encodeString (nestedText "<x>></x>")) = .error (.unmatchedEnd "x") ∧
    parse (Utf8.encodeString (nestedText "")) = .ok (some empty) := by
  refine ⟨⟨?_, ?_, ?_⟩, ⟨?_, ?_, ?_⟩, ?_, ?_⟩ <;> decide +kernel

end MultiStatus

end DavCourier.Dav
