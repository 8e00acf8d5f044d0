import DavCourier.Proofs.Markup.Evaluation
import DavCourier.Proofs.Markup.Writing

/-!
# Trees and documents without some elements

`Forest.filter` takes elements out of a tree, with what is inside them, and `Source.prune` does
the same to a document as it is written : where an element was, its bytes are missing. The pruned
document is well-formed, and is read as the tree without these elements (`Document.read_prune`).
An element that is gone may leave two texts side by side. They are read as one, because each of
them is whole (`Builder.textOf_append`).
-/

namespace DavCourier.Markup

open Fallible

/-! ## Trees -/

namespace Forest

variable {α : Type}

/-- One tree after another. -/
def append : Forest α → Forest α → Forest α
  | nil, g => g
  | char c rest, g => char c (rest.append g)
  | element label inner rest, g => element label inner (rest.append g)

/-- The tree without the elements that are not kept. -/
def filter (keep : α → Bool) : Forest α → Forest α
  | nil => nil
  | char c rest => char c (rest.filter keep)
  | element label inner rest =>
    if keep label then element label (inner.filter keep) (rest.filter keep)
    else rest.filter keep

/-- What is not kept, and is not inside anything that is not kept, has the property. -/
def Loses (keep : α → Bool) (P : α → Prop) : Forest α → Prop
  | nil => True
  | char _ rest => rest.Loses keep P
  | element label inner rest =>
    (if keep label then inner.Loses keep P else P label) ∧ rest.Loses keep P

instance decidableLoses (keep : α → Bool) (P : α → Prop) [DecidablePred P] :
    (f : Forest α) → Decidable (f.Loses keep P)
  | nil => isTrue trivial
  | char _ rest => rest.decidableLoses keep P
  | element label inner rest =>
    let _ := inner.decidableLoses keep P
    let _ := rest.decidableLoses keep P
    inferInstanceAs (Decidable ((if keep label then inner.Loses keep P else P label) ∧
      rest.Loses keep P))

variable {keep : α → Bool} {P : α → Prop}

theorem chars_append (cs : List Char) (f g : Forest α) :
    (f.chars cs).append g = (f.append g).chars cs := by
  induction cs with
  | nil => rfl
  | cons c cs ih => exact congrArg (char c) ih

theorem filter_chars (cs : List Char) (f : Forest α) :
    (f.chars cs).filter keep = (f.filter keep).chars cs := by
  induction cs with
  | nil => rfl
  | cons c cs ih => exact congrArg (char c) ih

theorem filter_append (f g : Forest α) :
    (f.append g).filter keep = (f.filter keep).append (g.filter keep) := by
  induction f with
  | nil => rfl
  | char c rest ih => exact congrArg (char c) ih
  | element label inner rest _ ih =>
    rw [append, filter, filter, ih]
    split
    · rfl
    · rfl

theorem loses_of_forall (h : ∀ label, keep label = false → P label) (f : Forest α) :
    f.Loses keep P := by
  induction f with
  | nil => trivial
  | char c rest ih => exact ih
  | element label inner rest ihinner ih =>
    refine ⟨?_, ih⟩
    split
    · exact ihinner
    · next hkeep => exact h label (Bool.not_eq_true _ |>.mp hkeep)

/-- Elements that are looked for are found as before when nothing of them is lost. -/
theorem filter_filter_of_loses {wanted : α → Bool} {f : Forest α}
    (h : f.Loses keep fun label => wanted label = false) :
    (f.filter keep).filter wanted = f.filter wanted := by
  induction f with
  | nil => rfl
  | char c rest ih => exact congrArg (char c) (ih h)
  | element label inner rest ihinner ih =>
    obtain ⟨hlabel, hrest⟩ := h
    rw [filter, filter]
    by_cases hkeep : keep label = true
    · rw [if_pos hkeep] at hlabel ⊢
      rw [filter, ihinner hlabel, ih hrest]
    · rw [if_neg hkeep] at hlabel ⊢
      rw [hlabel, if_neg Bool.false_ne_true, ih hrest]

end Forest

namespace Node

/-- The tree of nodes without the elements that are not kept. -/
def kept (keep : Tag → Bool) (nodes : List Node) : Forest Tag :=
  (forest nodes).filter keep

variable {keep : Tag → Bool}

theorem forest_append (ns ms : List Node) : forest (ns ++ ms) = (forest ns).append (forest ms) := by
  induction ns with
  | nil => rfl
  | cons node ns ih =>
    cases node with
    | text content =>
      rw [List.cons_append, forest, forest, prepend, prepend, Forest.chars_append, ih]
    | element tag children => exact congrArg (Forest.element tag (forest children)) ih

theorem kept_append (ns ms : List Node) :
    kept keep (ns ++ ms) = (kept keep ns).append (kept keep ms) := by
  rw [kept, forest_append, Forest.filter_append]
  rfl

theorem kept_text (content : String) (nodes : List Node) :
    kept keep (.text content :: nodes) = (kept keep nodes).chars content.toList := by
  rw [kept, forest, prepend, Forest.filter_chars]
  rfl

theorem kept_element (tag : Tag) (children nodes : List Node) :
    kept keep (.element tag children :: nodes) =
      if keep tag then .element tag (kept keep children) (kept keep nodes)
      else kept keep nodes :=
  rfl

end Node

/-! ## Texts -/

theorem Builder.textOf_nil : textOf [] = .ok "" :=
  textOf_eq_ok.mpr ⟨[], rfl, Reference.expand_escape []⟩

/-- Texts that are whole are read one after the other. -/
theorem Builder.textOf_append {raw : Bytes} {a : String} (h : textOf raw = .ok a)
    {raw' : Bytes} {c : String} :
    textOf (raw ++ raw') = .ok c ↔ ∃ b, textOf raw' = .ok b ∧ c = a ++ b := by
  obtain ⟨cs, rfl, hcs⟩ := textOf_eq_ok.mp h
  simp only [textOf_eq_ok]
  constructor
  · rintro ⟨es, hes, hexpand⟩
    obtain ⟨ds, rfl, rfl⟩ := Utf8.exists_of_encode_append hes.symm
    obtain ⟨bs, hbs, hc⟩ := (Reference.expand_append_eq_ok hcs).mp hexpand
    refine ⟨String.ofList bs, ⟨ds, rfl, hbs.trans (congrArg _ String.toList_ofList.symm)⟩, ?_⟩
    apply String.toList_injective
    rw [hc, String.toList_append, String.toList_ofList]
  · rintro ⟨b, ⟨ds, rfl, hds⟩, rfl⟩
    refine ⟨cs ++ ds, (Utf8.encode_append cs ds).symm, ?_⟩
    exact (Reference.expand_append_eq_ok hcs).mpr ⟨_, hds, String.toList_append⟩

/-! ## Documents -/

/-- A text before a content. -/
def Source.addText (raw : Bytes) : Source → Source
  | .text raw' rest => .text (raw ++ raw') rest
  | rest => .text raw rest

/-- The element that a tag opens, with its name and namespace. -/
def TagSource.read (tag : TagSource) (scope : Scope) : Except Fault (OpenElement × Tag) := do
  let e ← tag.opened scope
  let label ← e.tag
  return (e, label)

theorem TagSource.read_eq_ok {tag : TagSource} {scope : Scope} {e : OpenElement} {label : Tag}
    (he : tag.opened scope = .ok e) (hlabel : e.tag = .ok label) :
    tag.read scope = .ok (e, label) := by
  rw [TagSource.read, he, ok_bind, hlabel]
  rfl

/-- The content without the elements that are not kept. -/
def Source.prune (keep : Tag → Bool) : Source → Scope → Source
  | .nil, _ => .nil
  | .text raw rest, scope => (rest.prune keep scope).addText raw
  | .literal raw rest, scope => .literal raw (rest.prune keep scope)
  | .aside a rest, scope => .aside a (rest.prune keep scope)
  | .closed tag rest, scope =>
    match tag.read scope with
    | .ok (_, label) =>
      if keep label then .closed tag (rest.prune keep scope) else rest.prune keep scope
    | .error _ => .closed tag (rest.prune keep scope)
  | .element tag inner spaces rest, scope =>
    match tag.read scope with
    | .ok (e, label) =>
      if keep label then
        .element tag (inner.prune keep e.scope) spaces (rest.prune keep scope)
      else rest.prune keep scope
    | .error _ => .element tag inner spaces (rest.prune keep scope)

/-- The document without the elements below its root that are not kept. -/
def Root.prune (keep : Tag → Bool) : Root → Root
  | .closed tag => .closed tag
  | .element tag inner spaces =>
    match tag.opened Scope.initial with
    | .ok e => .element tag (inner.prune keep e.scope) spaces
    | .error _ => .element tag inner spaces

def Document.prune (keep : Tag → Bool) (d : Document) : Document :=
  { d with root := d.root.prune keep }

namespace Source

variable {keep : Tag → Bool}

theorem isWellFormed_addText {raw : Bytes} (hraw : raw ≠ [] ∧ 0x3C ∉ raw) {s : Source}
    (h : s.IsWellFormed) : (s.addText raw).IsWellFormed := by
  cases s with
  | text raw' rest =>
    obtain ⟨⟨-, hlt⟩, hrest⟩ := h
    refine ⟨⟨List.append_ne_nil_of_left_ne_nil hraw.1 _, ?_⟩, hrest⟩
    rw [List.mem_append, not_or]
    exact ⟨hraw.2, hlt⟩
  | nil | literal _ _ | aside _ _ | closed _ _ | element _ _ _ _ => exact ⟨hraw, rfl, h⟩

theorem isWellFormed_prune {s : Source} (h : s.IsWellFormed) (scope : Scope) :
    (s.prune keep scope).IsWellFormed := by
  induction s generalizing scope with
  | nil => trivial
  | text raw rest ih => exact isWellFormed_addText h.1 (ih h.2.2 scope)
  | literal raw rest ih => exact ⟨h.1, ih h.2 scope⟩
  | aside a rest ih => exact ⟨h.1, ih h.2 scope⟩
  | closed tag rest ih =>
    rw [prune]
    split
    · split
      · exact ⟨h.1, ih h.2 scope⟩
      · exact ih h.2 scope
    · exact ⟨h.1, ih h.2 scope⟩
  | element tag inner spaces rest ihinner ih =>
    obtain ⟨htag, hinner, hrest⟩ := h
    rw [prune]
    split
    · split
      · exact ⟨htag, ihinner hinner _, ih hrest scope⟩
      · exact ih hrest scope
    · exact ⟨htag, hinner, ih hrest scope⟩

/-- A text goes on with the text after it. -/
theorem nodes_addText {raw : Bytes} {a : String} (ha : Builder.textOf raw = .ok a) {s : Source}
    {scope : Scope} {nodes : List Node} (h : s.nodes scope = .ok nodes) :
    ∃ nodes', (s.addText raw).nodes scope = .ok nodes' ∧
      Node.forest nodes' = (Node.forest nodes).chars a.toList := by
  cases s with
  | text raw' rest =>
    obtain ⟨b, hb, h⟩ := bind_eq_ok.mp h
    obtain ⟨ns, hns, h⟩ := bind_eq_ok.mp h
    cases h
    refine ⟨.text (a ++ b) :: ns, ?_, Node.forest_text_append a b ns⟩
    rw [addText, Source.nodes, (Builder.textOf_append ha).mpr ⟨b, hb, rfl⟩, ok_bind, hns]
    rfl
  | nil | literal _ _ | aside _ _ | closed _ _ | element _ _ _ _ =>
    refine ⟨.text a :: nodes, ?_, rfl⟩
    rw [addText, Source.nodes, ha, ok_bind, h]
    · rfl
    · rintro _ _ ⟨⟩

/-- A pruned content stands for the nodes without the elements that are not kept. -/
theorem nodes_prune {s : Source} {scope : Scope} {nodes : List Node}
    (h : s.nodes scope = .ok nodes) : ∃ nodes', (s.prune keep scope).nodes scope = .ok nodes' ∧
      Node.forest nodes' = Node.kept keep nodes := by
  induction s generalizing scope nodes with
  | nil =>
    cases h
    exact ⟨[], rfl, rfl⟩
  | text raw rest ih =>
    obtain ⟨a, ha, h⟩ := bind_eq_ok.mp h
    obtain ⟨ns, hns, h⟩ := bind_eq_ok.mp h
    cases h
    obtain ⟨ns', hns', hforest⟩ := ih hns
    rw [Node.kept_text, ← hforest]
    exact nodes_addText ha hns'
  | literal raw rest ih =>
    obtain ⟨a, ha, h⟩ := bind_eq_ok.mp h
    obtain ⟨ns, hns, h⟩ := bind_eq_ok.mp h
    cases h
    obtain ⟨ns', hns', hforest⟩ := ih hns
    refine ⟨.text a :: ns', ?_, ?_⟩
    · rw [prune, Source.nodes, ha, ok_bind, hns']
      rfl
    · rw [Node.kept_text, ← hforest]
      rfl
  | aside a rest ih => exact ih h
  | closed tag rest ih =>
    obtain ⟨e, he, h⟩ := bind_eq_ok.mp h
    obtain ⟨label, hlabel, h⟩ := bind_eq_ok.mp h
    obtain ⟨ns, hns, h⟩ := bind_eq_ok.mp h
    cases h
    obtain ⟨ns', hns', hforest⟩ := ih hns
    rw [prune, TagSource.read_eq_ok he hlabel, Node.kept_element]
    dsimp only
    split
    · refine ⟨.element label [] :: ns', ?_, ?_⟩
      · rw [Source.nodes, he, ok_bind, hlabel, ok_bind, hns']
        rfl
      · rw [← hforest]
        rfl
    · exact ⟨ns', hns', hforest⟩
  | element tag inner spaces rest ihinner ih =>
    obtain ⟨e, he, h⟩ := bind_eq_ok.mp h
    obtain ⟨label, hlabel, h⟩ := bind_eq_ok.mp h
    obtain ⟨children, hchildren, h⟩ := bind_eq_ok.mp h
    obtain ⟨ns, hns, h⟩ := bind_eq_ok.mp h
    cases h
    obtain ⟨children', hchildren', hforest'⟩ := ihinner hchildren
    obtain ⟨ns', hns', hforest⟩ := ih hns
    rw [prune, TagSource.read_eq_ok he hlabel, Node.kept_element]
    dsimp only
    split
    · refine ⟨.element label children' :: ns', ?_, ?_⟩
      · rw [Source.nodes, he, ok_bind, hlabel, ok_bind, hchildren', ok_bind, hns']
        rfl
      · rw [← hforest, ← hforest']
        rfl
    · exact ⟨ns', hns', hforest⟩

end Source

theorem Root.isWellFormed_prune {root : Root} (h : root.source.IsWellFormed) (keep : Tag → Bool) :
    (root.prune keep).source.IsWellFormed := by
  cases root with
  | closed tag => exact h
  | element tag inner spaces =>
    rw [prune]
    split
    · exact ⟨h.1, Source.isWellFormed_prune h.2.1 _, trivial⟩
    · exact h

/-- A pruned document is a document, and is read as the root without the elements that are not
kept. -/
theorem Document.read_prune {d : Document} (hd : d.IsWellFormed) {tag : Tag}
    {children : List Node} (hread : Node.read d.bytes = .ok (.element tag children))
    (keep : Tag → Bool) : (d.prune keep).IsWellFormed ∧ ∃ children',
      Node.read (d.prune keep).bytes = .ok (.element tag children') ∧
        Node.forest children' = Node.kept keep children := by
  have hd' : (d.prune keep).IsWellFormed :=
    ⟨hd.before, Root.isWellFormed_prune hd.root keep, hd.after⟩
  refine ⟨hd', ?_⟩
  rw [Node.read_bytes hd] at hread
  rw [Node.read_bytes hd']
  obtain ⟨e, he, hread⟩ := bind_eq_ok.mp hread
  obtain ⟨label, hlabel, hread⟩ := bind_eq_ok.mp hread
  obtain ⟨nodes, hnodes, hread⟩ := bind_eq_ok.mp hread
  cases hread
  obtain ⟨nodes', hnodes', hforest⟩ := @Source.nodes_prune keep _ _ _ hnodes
  refine ⟨nodes', ?_, hforest⟩
  have htag : (d.root.prune keep).tag = d.root.tag := by
    cases d.root with
    | closed tag => rfl
    | element tag inner spaces =>
      rw [Root.prune]
      split <;> rfl
  have hinner : (d.root.prune keep).inner = d.root.inner.prune keep e.scope := by
    cases hroot : d.root with
    | closed tag => rfl
    | element tag inner spaces =>
      rw [hroot] at he
      rw [Root.prune, show tag.opened Scope.initial = .ok e from he]
      rfl
  show (d.root.prune keep).node = _
  rw [Root.node, htag, he, ok_bind, hlabel, ok_bind, hinner, hnodes']
  rfl

end DavCourier.Markup
