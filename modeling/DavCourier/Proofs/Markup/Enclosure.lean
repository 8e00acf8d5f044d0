import DavCourier.Proofs.Markup.Balance

/-!
# Elements and what encloses them

`starts` numbers the elements that start in events, in order, and gives the number of the one that
encloses each; `Node.elements` does so for the elements of a tree. The two lists go together one
for one (`RecountsRoot.starts`), so each element that starts is once in the tree, below the one
that encloses it. `Node.read_balanced` says this of every document that is read, together with
which bytes are one and what the stack holds on the way.
-/

namespace DavCourier.Markup

/-! ## Elements by number -/

/-- The elements that start in the events, in order. Each has the number of the one that encloses
it, if one does; the first start here is number `next`, and `opened` are the open ones. -/
def starts (opened : List Nat) (next : Nat) : List Event → List (Opening × Option Nat)
  | [] => []
  | .start name space :: es =>
    ((name, space), opened.head?) :: starts (next :: opened) (next + 1) es
  | .stop :: es => starts opened.tail next es
  | .text _ :: es | .literal _ :: es => starts opened next es

mutual

/-- The elements of a node in the order of the document. Each has the number of the one that it is
below. The first here is number `next`, below `parent`. -/
def Node.elements (parent : Option Nat) (next : Nat) : Node → List (Tag × Option Nat)
  | .text _ => []
  | .element tag children => (tag, parent) :: Node.elementsOf (some next) (next + 1) children

/-- The elements of nodes next to each other. -/
def Node.elementsOf (parent : Option Nat) (next : Nat) : List Node → List (Tag × Option Nat)
  | [] => []
  | node :: nodes =>
    node.elements parent next ++
      Node.elementsOf parent (next + (node.elements parent next).length) nodes

end

/-- An element of the tree for one that starts : it has its tag and is below the same element. -/
def StandsFor (start : Opening × Option Nat) (element : Tag × Option Nat) : Prop :=
  Builder.tagOf start.1.1 start.1.2 = .ok element.1 ∧ start.2 = element.2

theorem starts_append_of_content {es : List Event} (h : ∀ event ∈ es, event.IsContent)
    (opened : List Nat) (next : Nat) (rest : List Event) :
    starts opened next (es ++ rest) = starts opened next rest := by
  induction es with
  | nil => rfl
  | cons event es ih =>
    obtain ⟨⟨raw, rfl | rfl⟩, hrest⟩ := List.forall_mem_cons.mp h
    · exact ih hrest
    · exact ih hrest

/-- The elements that start in the events of nodes are those of the nodes. -/
theorem Recounts.starts_append {es : List Event} {nodes : List Node} (h : Recounts es nodes)
    (opened : List Nat) (next : Nat) (rest : List Event) : ∃ listed,
      starts opened next (es ++ rest) = listed ++ starts opened (next + listed.length) rest ∧
        List.Forall₂ StandsFor listed (Node.elementsOf opened.head? next nodes) := by
  induction h generalizing opened next rest with
  | nil => exact ⟨[], rfl, by rw [Node.elementsOf]; exact .nil⟩
  | content h _ ih =>
    obtain ⟨listed, hstarts, hlisted⟩ := ih opened next rest
    refine ⟨listed, ?_, ?_⟩
    · cases h <;> exact hstarts
    · rw [Node.elementsOf, Node.elements]
      exact hlisted
  | @element name space tag inner es children nodes htag body _ ihbody ih =>
    obtain ⟨inside, hinside, hinsidelisted⟩ :=
      ihbody (next :: opened) (next + 1) (.stop :: (es ++ rest))
    obtain ⟨listed, hstarts, hlisted⟩ := ih opened (next + 1 + inside.length) rest
    refine ⟨((name, space), opened.head?) :: (inside ++ listed), ?_, ?_⟩
    · have hnumber : next + (((name, space), opened.head?) :: (inside ++ listed)).length =
          next + 1 + inside.length + listed.length := by
        rw [List.length_cons, List.length_append]
        omega
      rw [List.cons_append, List.append_assoc, List.cons_append, starts, hinside, starts,
        List.tail_cons, hstarts, hnumber, List.cons_append, List.append_assoc]
    · have hnumber : next + 1 + inside.length =
          next + (Node.elements opened.head? next (.element tag children)).length := by
        rw [Node.elements, List.length_cons, hinsidelisted.length_eq, List.head?_cons]
        omega
      rw [hnumber] at hlisted
      have hfirst : List.Forall₂ StandsFor (((name, space), opened.head?) :: inside)
          (Node.elements opened.head? next (.element tag children)) := by
        rw [Node.elements]
        exact .cons ⟨htag, rfl⟩ hinsidelisted
      rw [Node.elementsOf]
      exact List.rel_append hfirst hlisted

/-- The elements that start in the events of a document are those of its root. -/
theorem RecountsRoot.starts {es : List Event} {root : Node} (h : RecountsRoot es root) :
    List.Forall₂ StandsFor (starts [] 0 es) (root.elements none 0) := by
  obtain ⟨before, whole, after, tag, nodes, rfl, haround, -, hwhole⟩ := h
  obtain ⟨hbefore, hafter⟩ := List.forall_mem_append.mp haround
  obtain ⟨listed, hstarts, hlisted⟩ := hwhole.starts_append [] 0 after
  have hnone := starts_append_of_content hafter [] (0 + listed.length) []
  rw [List.append_nil] at hnone
  rw [starts_append_of_content hbefore, hstarts, hnone, Markup.starts, List.append_nil]
  rw [Node.elementsOf, Node.elementsOf, List.append_nil] at hlisted
  exact hlisted

/-! ## Reading balanced documents -/

/-- However far the bytes are read, the stack of the builder holds the elements that the reader has
open : at each of the events, also between the two of a tag that closes itself, and so after each
piece. An end without a start is never found. The bytes are read if and only if the reader reports
all of them and the events are those of a document; then the elements that start are those of the
tree, one for one, each below the one that encloses it. -/
theorem Node.read_balanced (bs : Bytes) :
    (∀ p h, p <+: bs → hear p = .ok h →
      opened? h.events = some (h.reader.map OpenElement.opening) ∧
        ∀ es builder, es <+: h.events → es.foldlM Builder.step Builder.start = .ok builder →
          ∃ opened, opened? es = some opened ∧ Mirrors opened builder.stack) ∧
      (∀ p r, p <+: bs → ReadsTo p r →
        (∃ es, hear p = .ok ⟨r.cutter, r.reader, es⟩ ∧
          es.foldlM Builder.step Builder.start = .ok r.builder) ∧
        List.Forall₂ (fun e frame => e.tag = .ok frame.tag) r.reader r.builder.stack) ∧
      Node.read bs ≠ .error .unopenedEnd ∧
      ((∃ root, Node.read bs = .ok root) ↔ ∃ es, events bs = .ok es ∧ IsDocument es) ∧
      ∀ root es, Node.read bs = .ok root → events bs = .ok es →
        List.Forall₂ StandsFor (starts [] 0 es) (root.elements none 0) := by
  refine ⟨fun p h _ hhear => ?_, fun p r _ hreads => ⟨readsTo_iff.mp hreads, hreads.mirrors⟩,
    Node.read_ne_unopenedEnd bs, ?_, fun root es hread hevents => ?_⟩
  · have hopened := Hearing.opened?_events hhear
    refine ⟨hopened, fun es builder hes hbuild => ?_⟩
    obtain ⟨rest, heq⟩ := hes
    rw [← heq] at hopened
    obtain ⟨inner, hinner, -⟩ := exists_opened?_of_append hopened
    exact ⟨inner, hinner, Builder.mirrors hinner hbuild⟩
  · simp only [Node.read_eq_ok_iff, ← exists_recountsRoot_iff]
    constructor
    · rintro ⟨root, es, hevents, hroot⟩
      exact ⟨es, hevents, root, hroot⟩
    · rintro ⟨es, hevents, root, hroot⟩
      exact ⟨root, es, hevents, hroot⟩
  · obtain ⟨es', hevents', hroot⟩ := Node.read_eq_ok_iff.mp hread
    cases hevents.symm.trans hevents'
    exact hroot.starts

theorem Node.read_balanced_nested :
    Mirrors [(Utf8.encodeString "b", .unbound), (Utf8.encodeString "a", .unbound)]
        [⟨⟨"b", none⟩, []⟩, ⟨⟨"a", none⟩, [.text "<"]⟩] ∧
      OpenElement.tag ⟨Utf8.encodeString "a", Scope.initial⟩ = .ok ⟨"a", none⟩ ∧
      Node.read (Utf8.encodeString "<a>&lt;<b/></a>") ≠ .error .unopenedEnd ∧
      (∃ es, events (Utf8.encodeString "<a>&lt;<b/></a>") = .ok es ∧ IsDocument es) ∧
      List.Forall₂ StandsFor
        [((Utf8.encodeString "a", .unbound), none), ((Utf8.encodeString "b", .unbound), some 0)]
        [(⟨"a", none⟩, none), (⟨"b", none⟩, some 0)] := by
  obtain ⟨hevents, hstacks, hnever, hiff, hlisted⟩ :=
    Node.read_balanced (Utf8.encodeString "<a>&lt;<b/></a>")
  have hread : Node.read (Utf8.encodeString "<a>&lt;<b/></a>") =
      .ok (.element ⟨"a", none⟩ [.text "<", .element ⟨"b", none⟩ []]) := by
    decide +kernel
  have hall : events (Utf8.encodeString "<a>&lt;<b/></a>") =
      .ok [.start (Utf8.encodeString "a") .unbound, .text (Utf8.encodeString "&lt;"),
        .start (Utf8.encodeString "b") .unbound, .stop, .stop] := by
    decide +kernel
  have hbefore : hear (Utf8.encodeString "<a>&lt;<b/>") =
      .ok ⟨Cutter.start, [⟨Utf8.encodeString "a", Scope.initial⟩],
        [.start (Utf8.encodeString "a") .unbound, .text (Utf8.encodeString "&lt;"),
          .start (Utf8.encodeString "b") .unbound, .stop]⟩ := by
    decide +kernel
  have hreads : ReadsTo (Utf8.encodeString "<a>&lt;<b/>")
      ⟨Cutter.start, [⟨Utf8.encodeString "a", Scope.initial⟩],
        ⟨[⟨⟨"a", none⟩, [.element ⟨"b", none⟩ [], .text "<"]⟩], none⟩⟩ := by
    unfold ReadsTo
    decide +kernel
  obtain ⟨-, hmirrors⟩ := hevents _ _ (by decide) hbefore
  obtain ⟨opened, hopened, hmirror⟩ := hmirrors
    [.start (Utf8.encodeString "a") .unbound, .text (Utf8.encodeString "&lt;"),
      .start (Utf8.encodeString "b") .unbound]
    ⟨[⟨⟨"b", none⟩, []⟩, ⟨⟨"a", none⟩, [.text "<"]⟩], none⟩ (by decide) (by decide +kernel)
  cases hopened
  obtain ⟨-, hstack⟩ := hstacks _ _ (by decide) hreads
  cases hstack with
  | cons hframe _ => exact ⟨hmirror, hframe, hnever, hiff.mp ⟨_, hread⟩, hlisted _ _ hread hall⟩

end DavCourier.Markup
