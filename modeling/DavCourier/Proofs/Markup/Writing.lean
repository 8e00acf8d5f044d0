import DavCourier.Proofs.Markup.Evaluation
import DavCourier.Proofs.Markup.Scoping

/-!
# Trees read back

What is written for a tree is read as the tree, whichever way it is written :
`Forest.IsWritten.read`. A text is read character by character (`SpellsText.textOf_encode`), and a
tag says what its label says because a scope keeps the declarations in force
(`Declarations.Agrees`), from the ones outside all elements (`agrees_initial`) to those inside a
tag (`Label.Writes.opened`). The rest follows the tree : `Forest.Writes.nodes`.
-/

namespace DavCourier.Markup

open Fallible

/-! ## Texts -/

/-- A text is read as its characters. -/
theorem SpellsText.textOf_encode {cs ws : List Char} (h : SpellsText cs ws) :
    Builder.textOf (Utf8.encode ws) = .ok (String.ofList cs) := by
  rw [Builder.textOf, Utf8.decode_encode]
  dsimp only
  rw [Reference.expand, h.expandFrom_eq]
  rfl

/-- A literal section is read as its characters. -/
theorem literalOf_encode (cs : List Char) :
    Builder.literalOf (Utf8.encode cs) = .ok (String.ofList cs) := by
  rw [Builder.literalOf, Utf8.decodeString, Utf8.decode_encode]
  rfl

/-! ## Declarations -/

/-- The bytes of a prefix, none for names without one. -/
def qualifierBytes (q : Option String) : Bytes :=
  (q.map Utf8.encodeString).getD []

theorem qualifierBytes_inj {q r : Option String} (hq : q ≠ some "") (hr : r ≠ some "") :
    qualifierBytes q = qualifierBytes r ↔ q = r := by
  have hne : ∀ q : Option String, q ≠ some "" → q.map Utf8.encodeString ≠ some [] := by
    intro q hq heq
    obtain ⟨s, rfl, hs⟩ := Option.map_eq_some_iff.mp heq
    exact hq (congrArg some (Utf8.encodeString_injective hs))
  rw [qualifierBytes, qualifierBytes, getD_nil_inj (hne q hq) (hne r hr)]
  exact (Option.map_injective Utf8.encodeString_injective).eq_iff

namespace Declarations

variable {ds : Declarations} {scope : Scope} {d : Option String × String}

/-- The scope finds what is declared. -/
def Finds (ds : Declarations) (scope : Scope) : Prop :=
  ∀ q, q ≠ some "" → scope.lookup (qualifierBytes q) = (ds.lookup q).map Utf8.encodeString

theorem lookup_cons (q : Option String) :
    List.lookup q (d :: ds) = if q = d.1 then some d.2 else ds.lookup q := by
  rw [List.lookup_cons]
  split
  · next heq => rw [if_pos (beq_iff_eq.mp heq)]
  · next hne => rw [if_neg (beq_eq_false_iff_ne.mp hne)]

theorem Finds.cons (h : ds.Finds scope) (hd : d.1 ≠ some "") :
    Finds (d :: ds) (⟨qualifierBytes d.1, Utf8.encodeString d.2⟩ :: scope) := by
  intro q hq
  rw [Scope.lookup_cons, lookup_cons]
  by_cases heq : q = d.1
  · rw [if_pos (congrArg qualifierBytes heq.symm), if_pos heq]
    rfl
  · have hne : qualifierBytes d.1 ≠ qualifierBytes q := fun h =>
      heq ((qualifierBytes_inj hd hq).mp h).symm
    rw [if_neg hne, if_neg heq, h q hq]

/-- What is declared once more in the same way changes nothing. -/
theorem Finds.cons_same (h : ds.Finds scope) (hd : ds.lookup d.1 = some d.2) :
    Finds (d :: ds) scope := by
  intro q hq
  rw [h q hq, lookup_cons]
  split
  · next heq => rw [heq, hd]
  · rfl

/-- A scope that has these declarations. The prefix of the language is always declared. -/
structure Agrees (ds : Declarations) (scope : Scope) : Prop where
  finds : ds.Finds scope
  xml : ds.lookup (some "xml") = some xmlSpace

theorem agrees_initial : Agrees initial Scope.initial := by
  have hnil : Finds [] [] := fun _ _ => rfl
  exact ⟨(hnil.cons (d := (some "xmlns", xmlnsSpace)) (by decide)).cons
    (d := (some "xml", xmlSpace)) (by decide), rfl⟩

theorem Agrees.declare (h : ds.Agrees scope) (hd : d.1 ≠ some "") (hlegal : IsLegal d)
    {a : AttributeSource} (hkey : a.key = .declares (d.1.map Utf8.encodeString))
    (hvalue : a.value = Utf8.encodeString d.2) :
    ∃ inner, scope.declare a.toAttribute = .ok inner ∧ Agrees (d :: ds) inner := by
  by_cases hxml : d.1 = some "xml"
  · have hspace : d.2 = xmlSpace := by simpa using hlegal "xml" hxml
    refine ⟨scope, (Scope.declare_eq_ok hkey).mpr (Or.inl ⟨?_, ?_, rfl⟩), h.finds.cons_same ?_, ?_⟩
    · rw [hxml]
      rfl
    · rw [hvalue, hspace]
    · rw [hxml, hspace, h.xml]
    · rw [lookup_cons, if_pos hxml.symm, hspace]
  · have hpermits : Scope.Permits (d.1.map Utf8.encodeString) a.value := by
      intro q hq
      obtain ⟨s, hs, rfl⟩ := Option.map_eq_some_iff.mp hq
      have hs' : s ≠ "xml" := fun heq => hxml (heq ▸ hs)
      obtain ⟨hxmlns, hspace, hspace'⟩ := (if_neg hs').mp (hlegal s hs)
      rw [hvalue]
      exact ⟨Utf8.encodeString_injective.ne hs', Utf8.encodeString_injective.ne hxmlns,
        Utf8.encodeString_injective.ne hspace, Utf8.encodeString_injective.ne hspace'⟩
    refine ⟨_, (Scope.declare_eq_ok hkey).mpr (Or.inr ⟨hpermits, rfl⟩), ?_, ?_⟩
    · rw [hvalue]
      exact h.finds.cons hd
    · rw [lookup_cons, if_neg (Ne.symm hxml), h.xml]

/-- The attributes of a tag bring what they declare into force. -/
theorem Agrees.enter {as : List AttributeSource} {declared : List (Option String × String)}
    (h : ds.Agrees scope) (has : ∀ a ∈ as, a.IsWellFormed)
    (hlegal : ∀ d ∈ declared, IsLegal d)
    (hdeclared : as.filterMap AttributeSource.declared? =
      declared.map fun d => (d.1.map Utf8.encodeString, Utf8.encodeString d.2)) :
    ∃ inner, scope.enter (as.map AttributeSource.toAttribute) = .ok inner ∧
      Agrees (declared.reverse ++ ds) inner := by
  induction as generalizing declared ds scope with
  | nil =>
    obtain rfl := List.map_eq_nil_iff.mp hdeclared.symm
    exact ⟨scope, rfl, h⟩
  | cons a as ih =>
    obtain ⟨ha, has⟩ := List.forall_mem_cons.mp has
    cases hkey : a.key with
    | plain name =>
      have hnone : a.declared? = none := by rw [AttributeSource.declared?, hkey]
      rw [List.filterMap_cons_none hnone] at hdeclared
      obtain ⟨inner, henter, hinner⟩ := ih h has hlegal hdeclared
      exact ⟨inner, Scope.enter_cons_eq_ok.mpr ⟨scope, Scope.declare_plain ha hkey, henter⟩, hinner⟩
    | declares qualifier =>
      have hsome : a.declared? = some (qualifier, a.value) := by
        rw [AttributeSource.declared?, hkey]
      rw [List.filterMap_cons_some hsome] at hdeclared
      obtain ⟨d, declared, rfl, hfirst, hrest⟩ := List.map_eq_cons_iff.mp hdeclared.symm
      obtain ⟨hqualifier, hvalue⟩ := Prod.mk.inj hfirst
      have hne : d.1 ≠ some "" := by
        intro hempty
        rw [hempty] at hqualifier
        have hpart := ha.key
        rw [hkey, ← hqualifier] at hpart
        exact hpart.1.1 rfl
      obtain ⟨hd, hlegal⟩ := List.forall_mem_cons.mp hlegal
      obtain ⟨next, hdeclare, hnext⟩ := h.declare hne hd (hqualifier ▸ hkey) hvalue.symm
      obtain ⟨inner, henter, hinner⟩ := ih hnext has hlegal hrest.symm
      refine ⟨inner, Scope.enter_cons_eq_ok.mpr ⟨next, hdeclare, henter⟩, ?_⟩
      rw [List.reverse_cons, List.append_assoc]
      exact hinner

end Declarations

/-! ## Tags -/

namespace Label.Writes

variable {label : Label} {tag : TagSource}

theorem bytes_eq (h : label.Writes tag) : tag.name.bytes = Utf8.encodeString label.name := by
  rw [h.name, label.bytes_eq]

/-- The name of a label has the namespace that is in force for its prefix. -/
theorem spaceOf_resolve (h : label.Writes tag) (hwf : tag.IsWellFormed) {ds : Declarations}
    {scope : Scope} (hagrees : (label.inside ds).Agrees scope) (hbound : label.IsBound ds) :
    Builder.spaceOf (scope.resolve tag.name.bytes) =
      .ok ((label.inside ds).space? label.qualifier) := by
  have hne : label.qualifier ≠ some "" := by
    intro hempty
    have hpart := hwf.name.qualifier []
    rw [h.name, hempty] at hpart
    exact (hpart rfl).1.1 rfl
  have hlookup := hagrees.finds label.qualifier hne
  rw [Scope.spaceOf_resolve_eq_ok hwf.name, h.name]
  dsimp only
  rw [← qualifierBytes, hlookup]
  cases hspace : (label.inside ds).space? label.qualifier with
  | some space =>
    obtain ⟨hfound, hne⟩ := Option.filter_eq_some_iff.mp hspace
    exact Or.inl ⟨space, by simpa using hne, rfl, congrArg _ hfound⟩
  | none =>
    -- only a name without a prefix may have no namespace
    have hnone : label.qualifier = none := by
      by_contra hsome
      exact hbound.bound hsome hspace
    refine Or.inr ⟨rfl, congrArg _ hnone, ?_⟩
    rw [hnone] at hlookup hspace
    intro value hvalue
    obtain ⟨space, hfound, rfl⟩ := Option.map_eq_some_iff.mp (hlookup.symm.trans hvalue)
    have hempty : space = "" := by simpa using Option.filter_eq_none_iff.mp hspace space hfound
    rw [hempty]
    rfl

/-- A tag opens an element with its label. -/
theorem opened (h : label.Writes tag) (hwf : tag.IsWellFormed) {ds : Declarations}
    {scope : Scope} (hagrees : ds.Agrees scope) (hbound : label.IsBound ds) :
    ∃ e, tag.opened scope = .ok e ∧ e.tag = .ok (label.resolve ds) ∧
      (label.inside ds).Agrees e.scope := by
  obtain ⟨inner, henter, hinner⟩ := hagrees.enter hwf.attributes hbound.legal h.declared
  refine ⟨⟨tag.name.bytes, inner⟩, TagSource.opened_eq_ok.mpr ⟨inner, henter, rfl⟩, ?_, hinner⟩
  · rw [OpenElement.tag, Builder.tagOf, h.spaceOf_resolve hwf hinner hbound, ok_bind, h.bytes_eq,
      nameOf_encodeString, ok_bind]
    rfl

end Label.Writes

/-! ## Trees -/

namespace Forest

theorem isBound_chars (cs : List Char) (f : Forest Label) (ds : Declarations) :
    (f.chars cs).IsBound ds ↔ f.IsBound ds := by
  induction cs with
  | nil => rfl
  | cons c cs ih => exact ih

theorem resolve_chars (cs : List Char) (f : Forest Label) (ds : Declarations) :
    (f.chars cs).resolve ds = (f.resolve ds).chars cs := by
  induction cs with
  | nil => rfl
  | cons c cs ih => exact congrArg (char c) ih

/-- What is written for a tree stands for the tree. -/
theorem Writes.nodes {f : Forest Label} {s : Source} (h : f.Writes s) (hwf : s.IsWellFormed)
    {ds : Declarations} {scope : Scope} (hagrees : ds.Agrees scope) (hbound : f.IsBound ds) :
    ∃ nodes, s.nodes scope = .ok nodes ∧ Node.forest nodes = f.resolve ds := by
  induction h generalizing ds scope with
  | nil => exact ⟨[], rfl, rfl⟩
  | @text cs ws f s hspells rest ih =>
    obtain ⟨nodes, hnodes, htree⟩ := ih hwf.2.2 hagrees ((isBound_chars cs f ds).mp hbound)
    refine ⟨.text (String.ofList cs) :: nodes, ?_, ?_⟩
    · rw [Source.nodes, hspells.textOf_encode, ok_bind, hnodes, ok_bind]
      rfl
    · rw [Node.forest, Node.prepend, String.toList_ofList, htree, resolve_chars]
  | @literal cs f s rest ih =>
    obtain ⟨nodes, hnodes, htree⟩ := ih hwf.2 hagrees ((isBound_chars cs f ds).mp hbound)
    refine ⟨.text (String.ofList cs) :: nodes, ?_, ?_⟩
    · rw [Source.nodes, literalOf_encode, ok_bind, hnodes, ok_bind]
      rfl
    · rw [Node.forest, Node.prepend, String.toList_ofList, htree, resolve_chars]
  | aside rest ih => exact ih hwf.2 hagrees hbound
  | @closed label tag f s hlabel rest ih =>
    obtain ⟨e, hopened, htag, -⟩ := hlabel.opened hwf.1 hagrees hbound.1
    obtain ⟨nodes, hnodes, htree⟩ := ih hwf.2 hagrees hbound.2.2
    refine ⟨.element (label.resolve ds) [] :: nodes, ?_, ?_⟩
    · rw [Source.nodes, hopened, ok_bind, htag, ok_bind, hnodes, ok_bind]
      rfl
    · rw [Node.forest, Node.prepend, htree]
      rfl
  | @element label tag inner f body s spaces hlabel hinner rest ihinner ih =>
    obtain ⟨e, hopened, htag, hinside⟩ := hlabel.opened hwf.1.1 hagrees hbound.1
    obtain ⟨children, hchildren, hbody⟩ := ihinner hwf.2.1 hinside hbound.2.1
    obtain ⟨nodes, hnodes, htree⟩ := ih hwf.2.2 hagrees hbound.2.2
    refine ⟨.element (label.resolve ds) children :: nodes, ?_, ?_⟩
    · rw [Source.nodes, hopened, ok_bind, htag, ok_bind, hchildren, ok_bind, hnodes, ok_bind]
      rfl
    · rw [Node.forest, Node.prepend, hbody, htree]
      rfl

end Forest

/-- A root on its own stands for one node. -/
theorem Root.nodes_source (root : Root) :
    root.source.nodes Scope.initial = root.node.map ([·]) := by
  cases root with
  | closed tag =>
    simp only [source, Source.nodes, node, Root.tag, inner, ok_bind]
    cases tag.opened Scope.initial with
    | error fault => rfl
    | ok e => cases he : e.tag <;> simp [he] <;> rfl
  | element tag inner spaces =>
    simp only [source, Source.nodes, node, Root.tag, Root.inner, ok_bind]
    cases tag.opened Scope.initial with
    | error fault => rfl
    | ok e =>
      cases he : e.tag with
      | error fault => simp [he]; rfl
      | ok label => cases hinner : inner.nodes e.scope <;> simp [he, hinner] <;> rfl

/-- A document with a tree as its root is read as the tree, whichever way it is written. -/
theorem Forest.IsWritten.read {tree : Forest Label} {bs : Bytes} (h : tree.IsWritten bs)
    (hbound : tree.IsBound Declarations.initial) : ∃ node,
      Node.read bs = .ok node ∧ Node.forest [node] = tree.resolve Declarations.initial := by
  obtain ⟨d, hwf, hwrites, rfl⟩ := h
  obtain ⟨nodes, hnodes, htree⟩ :=
    hwrites.nodes hwf.root Declarations.agrees_initial hbound
  rw [Root.nodes_source] at hnodes
  obtain ⟨node, hnode, rfl⟩ := map_eq_ok.mp hnodes
  exact ⟨node, (Node.read_bytes hwf).trans hnode, htree⟩

end DavCourier.Markup
