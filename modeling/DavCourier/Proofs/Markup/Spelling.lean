import DavCourier.Proofs.Markup.Content
import DavCourier.Proofs.Markup.Reference
import DavCourier.Proofs.Text.Utf8
import Mathlib.Data.List.TakeWhile

/-!
# Bytes of elements

`Spells scope nodes bs` : the bytes are whole markup, which inside an element with these
declarations is a way to write the nodes. Elements without attributes are put together from
their content (`Spells.element`) or from an escaped text (`Spells.textElement`), and stand one
after the other (`Spells.append`).
-/

namespace DavCourier.Markup

open Fallible

/-! ## Names -/

theorem takeWhile_encode {c : Char} (hc : c.toNat < 0x80) (cs : List Char) :
    (Utf8.encode cs).takeWhile (· != UInt8.ofNat c.toNat) =
      Utf8.encode (cs.takeWhile (· ≠ c)) := by
  induction cs with
  | nil => rfl
  | cons d cs ih =>
    by_cases hd : d = c
    · subst hd
      simp [Utf8.encodeChar_ascii hc]
    · have hne : ∀ b ∈ String.utf8EncodeChar d, (b != UInt8.ofNat c.toNat) = true := by
        intro b hb
        have hmem : b ∈ Utf8.encode [d] := by simpa using hb
        rw [bne_iff_ne]
        rintro rfl
        have hbyte : (UInt8.ofNat c.toNat).toNat = c.toNat :=
          UInt8.toNat_ofNat_of_lt' (by unfold UInt8.size; omega)
        have := Utf8.ascii_mem_encode (by rw [hbyte]; exact hc) hmem
        rw [hbyte, Char.ofNat_toNat, List.mem_singleton] at this
        exact hd this.symm
      rw [Utf8.encode_cons, List.takeWhile_append_of_pos hne, ih,
        List.takeWhile_cons_of_pos (by simpa using hd), Utf8.encode_cons]

/-- The name of an element is read back from its bytes. -/
theorem nameOf_encodeString (name : String) :
    Builder.nameOf (Utf8.encodeString name) = .ok name := by
  have hqualifier : ∃ cs, (qualifierOf (Utf8.encodeString name)).getD [] = Utf8.encode cs := by
    unfold qualifierOf
    split
    · exact ⟨_, takeWhile_encode (c := ':') (by decide) _⟩
    · exact ⟨[], rfl⟩
  obtain ⟨cs, hcs⟩ := hqualifier
  rw [Builder.nameOf, hcs, Utf8.decode_encode]
  show (Utf8.decodeString (Utf8.encodeString name)).mapError Fault.badName = _
  rw [Utf8.decodeString_encodeString]
  rfl

theorem spaceOf_bound_eq_ok {value : Bytes} {space : Option String} :
    Builder.spaceOf (.bound value) = .ok space ↔
      ∃ s, space = some s ∧ value = Utf8.encodeString s := by
  rw [Builder.spaceOf, mapError_eq_ok, map_eq_ok]
  constructor
  · rintro ⟨s, hvalue, rfl⟩
    exact ⟨s, rfl, Utf8.decodeString_eq_ok.mp hvalue⟩
  · rintro ⟨s, rfl, hvalue⟩
    exact ⟨s, Utf8.decodeString_eq_ok.mpr hvalue, rfl⟩

theorem Builder.tagOf_eq_ok {name : Bytes} {resolution : Resolution} {tag : Tag} :
    tagOf name resolution = .ok tag ↔
      spaceOf resolution = .ok tag.space ∧ nameOf name = .ok tag.name := by
  unfold tagOf
  cases spaceOf resolution with
  | error fault => simp
  | ok space =>
    cases nameOf name with
    | error fault => simp
    | ok name =>
      obtain ⟨name', space'⟩ := tag
      simp [pure, Except.pure, and_comm]

theorem Builder.bytes_of_nameOf {name : Bytes} {s : String} (h : nameOf name = .ok s) :
    name = Utf8.encodeString s := by
  unfold nameOf at h
  split at h
  · exact Utf8.decodeString_eq_ok.mp (mapError_eq_ok.mp h)
  · cases h

/-! ## Texts -/

theorem Builder.textOf_eq_ok {raw : Bytes} {text : String} : textOf raw = .ok text ↔
    ∃ cs, raw = Utf8.encode cs ∧ Reference.expand cs = .ok text.toList := by
  have hexpanded : ∀ {cs : List Char},
      ((Reference.expand cs).map String.ofList).mapError Fault.badReference = .ok text ↔
        Reference.expand cs = .ok text.toList := fun {cs} => by
    rw [mapError_eq_ok, map_eq_ok]
    constructor
    · rintro ⟨ds, hds, rfl⟩
      rw [hds, String.toList_ofList]
    · exact fun h => ⟨_, h, String.ofList_toList⟩
  unfold textOf
  split
  · next cs hcs =>
    obtain rfl := Utf8.decode_eq_ok.mp hcs
    rw [hexpanded]
    constructor
    · exact fun h => ⟨cs, rfl, h⟩
    · rintro ⟨cs', hcs', h⟩
      rw [Utf8.encode_injective hcs', h]
  · next fault hfault =>
    refine iff_of_false nofun ?_
    rintro ⟨cs, rfl, -⟩
    rw [Utf8.decode_encode] at hfault
    cases hfault

theorem Builder.literalOf_eq_ok {raw : Bytes} {text : String} :
    literalOf raw = .ok text ↔ raw = Utf8.encodeString text := by
  rw [literalOf, mapError_eq_ok, Utf8.decodeString_eq_ok]

/-! ## Attributes -/

theorem attributes_nil : attributes [] = [] := by
  rw [attributes]
  split
  · rfl
  · next hsome => cases hsome

theorem attributes_eq_cons {bs after : Bytes} {a : Attribute}
    (h : attribute? bs = some (a, after)) : attributes bs = a :: attributes after := by
  rw [attributes]
  split
  · next hnone => rw [h] at hnone; cases hnone
  · next hsome =>
    rw [h] at hsome
    cases hsome
    rfl

/-- Bytes that make a name wherever they stand in a tag. -/
def IsNameBytes (bs : Bytes) : Prop :=
  bs ≠ [] ∧ ∀ b ∈ bs, b ∉ [0x21, 0x22, 0x27, 0x2F, 0x3E, 0x3F] ∧ isSpace b = false

instance (bs : Bytes) : Decidable (IsNameBytes bs) :=
  @instDecidableAnd _ _ _ (List.decidableBAll _ bs)

namespace IsNameBytes

variable {bs : Bytes}

theorem quiet (h : IsNameBytes bs) : Cutter.IsQuiet bs := by
  intro b hb
  have hplain := (h.2 b hb).1
  simp only [List.mem_cons, List.not_mem_nil, or_false, not_or] at hplain ⊢
  exact ⟨hplain.2.1, hplain.2.2.1, hplain.2.2.2.2.1⟩

theorem run_tag (h : IsNameBytes bs) :
    Cutter.start.run (0x3C :: (bs ++ [0x3E])) = .ok (Cutter.start, [.tag bs]) := by
  have hquiet := h.quiet
  obtain ⟨hne, hbytes⟩ := h
  cases bs with
  | nil => exact absurd rfl hne
  | cons b bs =>
    have hb := (hbytes b List.mem_cons_self).1
    simp only [List.mem_cons, List.not_mem_nil, or_false, not_or] at hb
    exact Cutter.run_tag (by simp [hb]) hquiet

theorem run_closed (h : IsNameBytes bs) :
    Cutter.start.run (0x3C :: (bs ++ [0x2F, 0x3E])) =
      .ok (Cutter.start, [.tag (bs ++ [0x2F])]) := by
  have hquiet := h.quiet
  obtain ⟨hne, hbytes⟩ := h
  cases bs with
  | nil => exact absurd rfl hne
  | cons b bs =>
    have hb := (hbytes b List.mem_cons_self).1
    simp only [List.mem_cons, List.not_mem_nil, or_false, not_or] at hb
    have hquiet' : Cutter.IsQuiet (b :: (bs ++ [0x2F])) := by
      intro x hx
      rcases List.mem_append.mp (show x ∈ (b :: bs) ++ [0x2F] from hx) with hx | hx
      · exact hquiet x hx
      · rw [List.mem_singleton.mp hx]
        decide
    have := Cutter.run_tag (by simp [hb]) hquiet'
    simpa using this

theorem tagName_eq (h : IsNameBytes bs) : tagName bs = bs :=
  List.takeWhile_eq_self_iff.mpr fun b hb => by simp [(h.2 b hb).2]

theorem tagRest_eq (h : IsNameBytes bs) : tagRest bs = [] :=
  List.dropWhile_eq_nil_iff.mpr fun b hb => by simp [(h.2 b hb).2]

theorem selfClosed?_eq (h : IsNameBytes bs) : selfClosed? bs = none := by
  unfold selfClosed?
  split
  · next rest hrev =>
    have hmem : (0x2F : UInt8) ∈ bs := by
      rw [← List.mem_reverse, hrev]
      exact List.mem_cons_self
    exact absurd (h.2 _ hmem).1 (by decide)
  · rfl

theorem endName_eq (h : IsNameBytes bs) : endName bs = bs := by
  unfold endName
  split
  · rfl
  · have hlast : bs.reverse.dropWhile isSpace = bs.reverse := by
      cases hrev : bs.reverse with
      | nil => rfl
      | cons b rest =>
        have hmem : b ∈ bs := by
          rw [← List.mem_reverse, hrev]
          exact List.mem_cons_self
        exact List.dropWhile_cons_of_neg (by simp [(h.2 b hmem).2])
    rw [hlast, List.reverse_reverse]

/-- A tag without attributes leaves the declarations as they are. -/
theorem ofTag_eq (h : IsNameBytes bs) (scope : Scope) :
    OpenElement.ofTag scope bs = .ok ⟨bs, scope⟩ := by
  unfold OpenElement.ofTag
  rw [h.tagRest_eq, h.tagName_eq, attributes_nil]
  rfl

end IsNameBytes

/-- A name that these declarations put into a namespace. -/
structure IsNameIn (scope : Scope) (space name : String) : Prop where
  bytes : IsNameBytes (Utf8.encodeString name)
  resolve : scope.resolve (Utf8.encodeString name) = .bound (Utf8.encodeString space)

theorem IsNameIn.tag_eq {scope : Scope} {space name : String} (h : IsNameIn scope space name) :
    (⟨Utf8.encodeString name, scope⟩ : OpenElement).tag = .ok ⟨name, some space⟩ := by
  have hspace : Builder.spaceOf (.bound (Utf8.encodeString space)) = .ok (some space) := by
    show ((Utf8.decodeString (Utf8.encodeString space)).map some).mapError Fault.badSpace = _
    rw [Utf8.decodeString_encodeString]
    rfl
  rw [OpenElement.tag, h.resolve, Builder.tagOf, hspace, nameOf_encodeString]
  rfl

instance (scope : Scope) (space name : String) : Decidable (IsNameIn scope space name) :=
  decidable_of_iff (IsNameBytes (Utf8.encodeString name) ∧
      scope.resolve (Utf8.encodeString name) = .bound (Utf8.encodeString space))
    ⟨fun h => ⟨h.1, h.2⟩, fun h => ⟨h.1, h.2⟩⟩

/-! ## Elements -/

/-- The nodes that an escaped text is read as. -/
def textNodes (text : String) : List Node :=
  if text = "" then [] else [.text text]

/-- Whole markup that is a way to write nodes. -/
def Spells (scope : Scope) (nodes : List Node) (bs : Bytes) : Prop :=
  ∃ pieces, Cutter.start.run bs = .ok (Cutter.start, pieces) ∧ Content scope nodes pieces

namespace Spells

variable {scope : Scope} {space name : String} {nodes : List Node} {bs : Bytes}

theorem nil (scope : Scope) : Spells scope [] [] :=
  ⟨[], rfl, .nil scope⟩

theorem append {nodes' : List Node} {bs' : Bytes} (h : Spells scope nodes bs)
    (h' : Spells scope nodes' bs') : Spells scope (nodes ++ nodes') (bs ++ bs') := by
  obtain ⟨pieces, hrun, hcontent⟩ := h
  obtain ⟨pieces', hrun', hcontent'⟩ := h'
  exact ⟨pieces ++ pieces', Cutter.run_append hrun hrun', hcontent.append hcontent'⟩

theorem flatMap {α : Type} {f : α → Node} {g : α → Bytes} {as : List α}
    (h : ∀ a ∈ as, Spells scope [f a] (g a)) : Spells scope (as.map f) (as.flatMap g) := by
  induction as with
  | nil => exact nil scope
  | cons a as ih =>
    exact append (h a List.mem_cons_self) (ih fun x hx => h x (List.mem_cons_of_mem _ hx))

/-- An element is spelled by its start tag, what is inside it, and its end tag. -/
theorem element (hname : IsNameIn scope space name) (h : Spells scope nodes bs) :
    Spells scope [.element ⟨name, some space⟩ nodes]
      (0x3C :: (Utf8.encodeString name ++ [0x3E]) ++ bs ++
        0x3C :: 0x2F :: (Utf8.encodeString name ++ [0x3E])) := by
  obtain ⟨pieces, hrun, hcontent⟩ := h
  refine ⟨[.tag (Utf8.encodeString name)] ++ pieces ++ [.endTag (Utf8.encodeString name)],
    Cutter.run_append (Cutter.run_append hname.bytes.run_tag hrun)
      (Cutter.run_endTag hname.bytes.quiet), ?_⟩
  exact .element hname.bytes.selfClosed?_eq (hname.bytes.ofTag_eq scope) hname.tag_eq
    hname.bytes.endName_eq hcontent (.nil scope)

theorem closed (hname : IsNameIn scope space name) :
    Spells scope [.element ⟨name, some space⟩ []]
      (0x3C :: (Utf8.encodeString name ++ [0x2F, 0x3E])) := by
  refine ⟨_, hname.bytes.run_closed, ?_⟩
  have hclosed : selfClosed? (Utf8.encodeString name ++ [0x2F]) =
      some (Utf8.encodeString name) := by
    simp [selfClosed?]
  exact .closed hclosed (hname.bytes.ofTag_eq scope) hname.tag_eq (.nil scope)

theorem textOf_escape (cs : List Char) :
    Builder.textOf (Utf8.encode (Reference.escape cs)) = .ok (String.ofList cs) := by
  unfold Builder.textOf
  rw [Utf8.decode_encode]
  show ((Reference.expand (Reference.escape cs)).map String.ofList).mapError Fault.badReference = _
  rw [Reference.expand_escape]
  rfl

theorem escape_ne_nil {cs : List Char} (h : cs ≠ []) :
    Utf8.encode (Reference.escape cs) ≠ [] := by
  cases cs with
  | nil => exact absurd rfl h
  | cons c cs =>
    intro hnil
    have htext := textOf_escape (c :: cs)
    rw [hnil, ← Utf8.encode_nil, ← show Reference.escape [] = [] from rfl, textOf_escape] at htext
    cases String.ofList_injective (Except.ok.inj htext)

theorem lt_not_mem_encode_escape (cs : List Char) :
    0x3C ∉ Utf8.encode (Reference.escape cs) :=
  fun h => Reference.lt_not_mem_escape cs (Utf8.ascii_mem_encode (by decide) h)

/-- The piece of an escaped text, which may be none, is its content. -/
theorem content_text (scope : Scope) (text : String) :
    Content scope (textNodes text)
      (Cutter.textPiece (Utf8.encode (Reference.escape text.toList)).reverse).toList := by
  unfold textNodes Cutter.textPiece
  by_cases htext : text = ""
  · subst htext
    exact .nil scope
  · have hne := escape_ne_nil (mt String.toList_eq_nil_iff.mp htext)
    have hempty : (Utf8.encode (Reference.escape text.toList)).reverse.isEmpty = false := by
      simpa using hne
    rw [if_neg htext, hempty, List.reverse_reverse]
    refine .text ?_ (.nil scope)
    rw [textOf_escape, String.ofList_toList]

/-- An escaped text comes back, whatever characters it has. -/
theorem textElement (hname : IsNameIn scope space name) (text : String) :
    Spells scope [.element ⟨name, some space⟩ (textNodes text)]
      (0x3C :: (Utf8.encodeString name ++ [0x3E]) ++
        (Utf8.encode (Reference.escape text.toList) ++
          0x3C :: 0x2F :: (Utf8.encodeString name ++ [0x3E]))) := by
  have htext := Cutter.run_text (lt_not_mem_encode_escape text.toList) []
  rw [List.append_nil] at htext
  have hrun := Cutter.run_append hname.bytes.run_tag
    (Cutter.run_append htext (Cutter.run_text_lt (Cutter.run_endTag hname.bytes.quiet) _))
  refine ⟨_, hrun, ?_⟩
  exact .element hname.bytes.selfClosed?_eq (hname.bytes.ofTag_eq scope) hname.tag_eq
    hname.bytes.endName_eq (content_text scope text) (.nil scope)

end Spells

end DavCourier.Markup
