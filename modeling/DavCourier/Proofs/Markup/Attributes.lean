import DavCourier.Proofs.Markup.Delimiting
import DavCourier.Proofs.Text.Split

/-!
# Tags as they are read

The attributes of a tag are read as they are written (`TagSource.attributes_eq`), with its name
(`TagSource.tagName_eq`), and an end tag ends the element that its name says
(`endName_append`). So a tag opens the element of its name, with its declarations in force :
`TagSource.ofTag_eq`.
-/

namespace DavCourier.Markup

/-! ## Attributes -/

/-- The value after an equals sign ends with the quote that it starts with. -/
theorem quotedValue?_append {q : UInt8} {value : Bytes} (hq : q ∈ ([0x22, 0x27] : Bytes))
    (h : q ∉ value) (rest : Bytes) :
    quotedValue? (q :: (value ++ q :: rest)) = some (value, rest) := by
  obtain ⟨htake, hdrop⟩ := Text.cut_append_sep (r := rest) (fun _ => bne_iff_ne) h
  have hquote : (q == 0x22 || q == 0x27) = true := by
    simpa using hq
  rw [quotedValue?, if_pos hquote, hdrop, htake]

/-- An attribute is read as it is written, whatever follows it. -/
theorem AttributeSource.attribute?_bytes {a : AttributeSource} (h : a.IsWellFormed)
    (rest : Bytes) : attribute? (a.bytes ++ rest) = some (a.toAttribute, rest) := by
  obtain ⟨⟨hne, hbytes⟩, hequals⟩ := h.key.bytes
  obtain ⟨k, ks, hkey⟩ := List.exists_cons_of_ne_nil hne
  rw [hkey] at hbytes hequals
  have hks : ∀ b ∈ ks, isKeyByte b = true := by
    intro b hb
    have hspace := (hbytes b (List.mem_cons_of_mem _ hb)).2
    have hb' : b ≠ 0x3D := by
      rintro rfl
      exact hequals (List.mem_cons_of_mem _ hb)
    simp [isKeyByte, hspace, hb']
  have hspaces : (a.bytes ++ rest).dropWhile isSpace = k :: (ks ++ (a.beforeEquals ++ 0x3D ::
      (a.afterEquals ++ a.quote :: (a.value ++ a.quote :: rest)))) := by
    have hsplit : a.bytes ++ rest = a.spaces ++ k :: (ks ++ (a.beforeEquals ++ 0x3D ::
        (a.afterEquals ++ a.quote :: (a.value ++ a.quote :: rest)))) := by
      simp [bytes, hkey]
    rw [hsplit, List.dropWhile_append_of_pos h.spaces.2,
      List.dropWhile_cons_of_neg (by simp [(hbytes k List.mem_cons_self).2])]
  -- what follows the key is no part of it
  have hgap : ∀ tail, (ks ++ (a.beforeEquals ++ 0x3D :: tail)).takeWhile isKeyByte = ks ∧
      (ks ++ (a.beforeEquals ++ 0x3D :: tail)).dropWhile isKeyByte =
        a.beforeEquals ++ 0x3D :: tail := by
    refine fun tail => Text.cut_append_of_head hks ?_
    cases hbefore : a.beforeEquals with
    | nil =>
      rintro b ⟨⟩
      rfl
    | cons b bs =>
      have hb : isSpace b = true := h.gaps.1 b (hbefore ▸ List.mem_cons_self)
      rintro b ⟨⟩
      simp [isKeyByte, hb]
  have hequalsSign : ∀ tail, (a.beforeEquals ++ 0x3D :: tail).dropWhile isSpace = 0x3D :: tail := by
    intro tail
    rw [List.dropWhile_append_of_pos h.gaps.1, List.dropWhile_cons_of_neg (by decide)]
  have hvalue : (a.afterEquals ++ a.quote :: (a.value ++ a.quote :: rest)).dropWhile isSpace =
      a.quote :: (a.value ++ a.quote :: rest) := by
    have hquote : ¬ isSpace a.quote = true := by
      have hq := h.quote
      simp only [List.mem_cons, List.not_mem_nil, or_false] at hq
      rcases hq with hq | hq <;> rw [hq] <;> decide
    rw [List.dropWhile_append_of_pos h.gaps.2, List.dropWhile_cons_of_neg hquote]
  unfold attribute?
  rw [hspaces]
  dsimp only
  rw [(hgap _).2, hequalsSign, (hgap _).1]
  dsimp only
  rw [hvalue, quotedValue?_append h.quote h.value, toAttribute, hkey]
  rfl

namespace TagSource

variable {tag : TagSource}

theorem attributes_spaces {bs : Bytes} (h : IsSpaces bs) : Markup.attributes bs = [] := by
  have hnone : attribute? bs = none := by
    rw [attribute?, List.dropWhile_eq_nil_iff.mpr h]
  rw [Markup.attributes]
  split
  · rfl
  · next hsome =>
    rw [hnone] at hsome
    cases hsome

/-- The attributes of a tag are read as they are written. -/
theorem attributes_eq (h : tag.IsWellFormed) :
    Markup.attributes (tag.attributes.flatMap AttributeSource.bytes ++ tag.spaces) =
      tag.attributes.map AttributeSource.toAttribute := by
  have hall := h.attributes
  generalize tag.attributes = as at hall ⊢
  induction as with
  | nil => exact attributes_spaces h.spaces
  | cons a as ih =>
    have hfirst := AttributeSource.attribute?_bytes (hall a List.mem_cons_self)
      (as.flatMap AttributeSource.bytes ++ tag.spaces)
    rw [List.flatMap_cons, List.append_assoc, attributes_eq_cons hfirst,
      ih fun x hx => hall x (List.mem_cons_of_mem _ hx)]
    rfl

/-! ## Names and ends -/

/-- What follows the name of a tag is nothing, or starts with a space. -/
theorem rest_eq_nil_or_cons (h : tag.IsWellFormed) :
    tag.attributes.flatMap AttributeSource.bytes ++ tag.spaces = [] ∨
      ∃ b bs, tag.attributes.flatMap AttributeSource.bytes ++ tag.spaces = b :: bs ∧
        isSpace b = true := by
  cases has : tag.attributes with
  | nil =>
    cases hspaces : tag.spaces with
    | nil => exact Or.inl rfl
    | cons b bs => exact Or.inr ⟨b, bs, rfl, h.spaces b (hspaces ▸ List.mem_cons_self)⟩
  | cons a as =>
    obtain ⟨hne, hspaces⟩ := (h.attributes a (has ▸ List.mem_cons_self)).spaces
    obtain ⟨b, bs, hbs⟩ := List.exists_cons_of_ne_nil hne
    rw [List.flatMap_cons, AttributeSource.bytes, hbs]
    exact Or.inr ⟨b, _, rfl, hspaces b (hbs ▸ List.mem_cons_self)⟩

theorem tagName_eq (h : tag.IsWellFormed) : tagName tag.bytes = tag.name.bytes ∧
    tagRest tag.bytes = tag.attributes.flatMap AttributeSource.bytes ++ tag.spaces := by
  have hname : ∀ b ∈ tag.name.bytes, (!isSpace b) = true := by
    intro b hb
    rw [(h.name.bytes.2 b hb).2]
    rfl
  refine Text.cut_append_of_head hname ?_
  rcases rest_eq_nil_or_cons h with hrest | ⟨b, bs, hrest, hb⟩
  · rw [hrest]
    exact nofun
  · rw [hrest]
    rintro b ⟨⟩
    rw [hb]
    rfl

/-- The element of the name of a tag, with its declarations in force. -/
def opened (tag : TagSource) (scope : Scope) : Except Fault OpenElement :=
  ((scope.enter (tag.attributes.map AttributeSource.toAttribute)).map
    (⟨tag.name.bytes, ·⟩)).mapError Fault.binding

theorem opened_eq_ok {scope : Scope} {e : OpenElement} : tag.opened scope = .ok e ↔
    ∃ inner, scope.enter (tag.attributes.map AttributeSource.toAttribute) = .ok inner ∧
      e = ⟨tag.name.bytes, inner⟩ := by
  rw [opened]
  cases scope.enter (tag.attributes.map AttributeSource.toAttribute) with
  | error fault => simp [Except.map, Except.mapError]
  | ok inner => simp [Except.map, Except.mapError, eq_comm]

theorem ofTag_eq (h : tag.IsWellFormed) (scope : Scope) :
    OpenElement.ofTag scope tag.bytes = tag.opened scope := by
  obtain ⟨hname, hrest⟩ := tagName_eq h
  rw [OpenElement.ofTag, hname, hrest, attributes_eq h, opened]
  cases scope.enter (tag.attributes.map AttributeSource.toAttribute) <;> rfl

theorem selfClosed?_eq_none {bs : Bytes} (h : bs.getLast? ≠ some 0x2F) :
    selfClosed? bs = none := by
  unfold selfClosed?
  split
  · next rest hrev =>
    refine absurd ?_ h
    rw [List.getLast?_eq_head?_reverse, hrev]
    rfl
  · rfl

theorem getLast?_append_ne {as bs : Bytes} {b : UInt8} (ha : as.getLast? ≠ some b)
    (hb : bs.getLast? ≠ some b) : (as ++ bs).getLast? ≠ some b := by
  rw [List.getLast?_append]
  cases hlast : bs.getLast? with
  | none => exact ha
  | some c =>
    rw [hlast] at hb
    exact hb

/-- No tag ends with a slash of its own. -/
theorem selfClosed?_bytes (h : tag.IsWellFormed) : selfClosed? tag.bytes = none := by
  have hname : tag.name.bytes.getLast? ≠ some 0x2F := fun hlast =>
    (h.name.bytes.2 _ (List.mem_of_getLast? hlast)).1 (by decide)
  have hspaces : tag.spaces.getLast? ≠ some 0x2F := fun hlast =>
    absurd (h.spaces _ (List.mem_of_getLast? hlast)) (by decide)
  have hattribute : ∀ a : AttributeSource, a.IsWellFormed → a.bytes.getLast? ≠ some 0x2F := by
    intro a ha
    have hlast : a.bytes.getLast? = some a.quote := by
      simp [AttributeSource.bytes, List.getLast?_append, List.getLast?_cons]
    rw [hlast]
    intro heq
    have hquote := ha.quote
    rw [Option.some.inj heq] at hquote
    exact absurd hquote (by decide)
  have hattributes : (tag.attributes.flatMap AttributeSource.bytes).getLast? ≠ some 0x2F := by
    have hall := h.attributes
    generalize tag.attributes = as at hall
    induction as with
    | nil => exact nofun
    | cons a as ih =>
      exact getLast?_append_ne (hattribute a (hall a List.mem_cons_self))
        (ih fun x hx => hall x (List.mem_cons_of_mem _ hx))
  exact selfClosed?_eq_none (getLast?_append_ne hname (getLast?_append_ne hattributes hspaces))

theorem selfClosed?_bytes_slash (tag : TagSource) :
    selfClosed? (tag.bytes ++ [0x2F]) = some tag.bytes := by
  simp [selfClosed?]

/-- The spaces in an end tag do not belong to the name. -/
theorem endName_append (h : tag.IsWellFormed) {spaces : Bytes} (hspaces : IsSpaces spaces) :
    endName (tag.name.bytes ++ spaces) = tag.name.bytes := by
  obtain ⟨hne, hbytes⟩ := h.name.bytes
  obtain ⟨init, b, hname⟩ := List.eq_nil_or_concat tag.name.bytes |>.resolve_left hne
  have hb : ¬ isSpace b = true := by
    rw [(hbytes b (by rw [hname]; simp)).2]
    exact Bool.false_ne_true
  have hall : ¬ (tag.name.bytes ++ spaces).all isSpace = true := by
    intro hall
    rw [List.all_eq_true] at hall
    exact hb (hall b (by rw [hname]; simp))
  have hreverse : ∀ x ∈ spaces.reverse, isSpace x = true := fun x hx =>
    hspaces x (List.mem_reverse.mp hx)
  rw [endName, if_neg hall, List.reverse_append, List.dropWhile_append_of_pos hreverse, hname]
  simp [hb]

end TagSource

end DavCourier.Markup
