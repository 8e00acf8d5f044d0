import DavCourier.Proofs.Markup.Attributes
import DavCourier.Proofs.Markup.Forest

/-!
# Declarations and prefixes as they are written

What a written attribute declares (`Scope.declare_plain`, `Scope.declare_default`,
`Scope.declare_qualified`, and in all `Scope.declare_eq_ok`), what the attributes of a tag leave
as it was (`Scope.lookup_enter`), and which namespace a written name has (`Scope.resolve_bytes`,
`Scope.spaceOf_resolve_eq_ok`).
-/

namespace DavCourier.Markup

open Fallible

/-! ## Declarations -/

theorem xmlnsName_eq : Scope.xmlnsName = [0x78, 0x6D, 0x6C, 0x6E, 0x73] := by decide

namespace AttributeKey

theorem declared?_declares (qualifier : Option Bytes) (value : Bytes) :
    Attribute.declared? ⟨(declares qualifier).bytes, value⟩ = some (qualifier.getD []) := by
  cases qualifier <;> rw [bytes, xmlnsName_eq] <;> rfl

theorem declared?_plain {name : Bytes} (h : (plain name).IsWellFormed) (value : Bytes) :
    Attribute.declared? ⟨(plain name).bytes, value⟩ = none := by
  obtain ⟨-, -, hname, hprefix⟩ := h
  rw [xmlnsName_eq] at hname hprefix
  rw [bytes]
  unfold Attribute.declared?
  dsimp only
  split
  · split
    · exact absurd rfl hname
    · exact absurd (List.prefix_append _ _) hprefix
    · rfl
  · rfl

end AttributeKey

namespace Scope

variable {a : AttributeSource} {scope : Scope}

theorem declare_plain (h : a.IsWellFormed) {name : Bytes} (hkey : a.key = .plain name) :
    scope.declare a.toAttribute = .ok scope := by
  have hplain := h.key
  rw [hkey] at hplain
  rw [declare, AttributeSource.toAttribute, hkey, AttributeKey.declared?_plain hplain]

theorem declare_default (hkey : a.key = .declares none) :
    scope.declare a.toAttribute = .ok (⟨[], a.value⟩ :: scope) := by
  rw [declare, AttributeSource.toAttribute, hkey, AttributeKey.declared?_declares]
  rfl

/-- Which prefixes may stand for which namespaces. -/
theorem declare_qualified {q : Bytes} (hkey : a.key = .declares (some q)) :
    scope.declare a.toAttribute =
      if q = xmlName then
        if a.value = Utf8.encodeString xmlSpace then .ok scope else .error (.xmlTo a.value)
      else if q = xmlnsName then .error (.xmlnsTo a.value)
      else if a.value = Utf8.encodeString xmlSpace then .error (.toXml q)
      else if a.value = Utf8.encodeString xmlnsSpace then .error (.toXmlns q)
      else .ok (⟨q, a.value⟩ :: scope) := by
  have hlength : isDefault ⟨(AttributeKey.declares (some q)).bytes, a.value⟩ = false := by
    have hxmlns : xmlnsName.length = 5 := by decide
    simp only [isDefault, AttributeKey.bytes, List.length_append, List.length_cons, hxmlns]
    exact beq_eq_false_iff_ne.mpr (by omega)
  rw [declare, AttributeSource.toAttribute, hkey, AttributeKey.declared?_declares]
  dsimp only
  rw [hlength, if_neg Bool.false_ne_true]
  rfl

theorem lookup_cons (b : Binding) (scope : Scope) (name : Bytes) :
    Scope.lookup (b :: scope) name = if b.name = name then some b.space else scope.lookup name := by
  unfold lookup
  rw [List.find?_cons]
  split
  · next heq => rw [if_pos (beq_iff_eq.mp heq)]; rfl
  · next hne => rw [if_neg (beq_eq_false_iff_ne.mp hne)]

/-- The prefix may stand for the namespace. -/
def Permits (qualifier : Option Bytes) (space : Bytes) : Prop :=
  ∀ q ∈ qualifier, q ≠ xmlName ∧ q ≠ xmlnsName ∧
    space ≠ Utf8.encodeString xmlSpace ∧ space ≠ Utf8.encodeString xmlnsSpace

/-- A declaration comes into force, unless it says once more what the prefix `xml` is. -/
theorem declare_eq_ok {qualifier : Option Bytes} (hkey : a.key = .declares qualifier)
    {inner : Scope} : scope.declare a.toAttribute = .ok inner ↔
      qualifier = some xmlName ∧ a.value = Utf8.encodeString xmlSpace ∧ inner = scope ∨
        Permits qualifier a.value ∧ inner = ⟨qualifier.getD [], a.value⟩ :: scope := by
  cases qualifier with
  | none => simp [declare_default hkey, Permits, eq_comm]
  | some q =>
    rw [declare_qualified hkey]
    by_cases hxml : q = xmlName
    · by_cases hvalue : a.value = Utf8.encodeString xmlSpace <;>
        simp [hxml, hvalue, Permits, eq_comm]
    · split_ifs <;> simp_all [Permits, eq_comm]

theorem Permits.getD_ne {qualifier : Option Bytes} {space name : Bytes}
    (h : Permits qualifier space) (hname : name = xmlName ∨ name = xmlnsName) :
    qualifier.getD [] ≠ name := by
  cases qualifier with
  | none => rcases hname with rfl | rfl <;> decide
  | some q =>
    obtain ⟨hxml, hxmlns, -⟩ := h q rfl
    rcases hname with rfl | rfl
    · exact hxml
    · exact hxmlns

/-- The declarations of a tag come into force one after the other. -/
theorem enter_cons_eq_ok {as : List AttributeSource} {inner : Scope} :
    scope.enter ((a :: as).map AttributeSource.toAttribute) = .ok inner ↔ ∃ next,
      scope.declare a.toAttribute = .ok next ∧
        next.enter (as.map AttributeSource.toAttribute) = .ok inner := by
  rw [List.map_cons, enter, List.foldlM_cons, bind_eq_ok]
  rfl

/-- A prefix of the language stays, and so does one that no attribute declares. -/
theorem lookup_enter {as : List AttributeSource} (has : ∀ a ∈ as, a.IsWellFormed) {name : Bytes}
    (hname : (name = xmlName ∨ name = xmlnsName) ∨
      ∀ a ∈ as, ∀ qualifier, a.key = .declares qualifier → qualifier.getD [] ≠ name)
    {inner : Scope} (h : scope.enter (as.map AttributeSource.toAttribute) = .ok inner) :
    inner.lookup name = scope.lookup name := by
  induction as generalizing scope with
  | nil =>
    cases h
    rfl
  | cons a as ih =>
    obtain ⟨next, hdeclare, henter⟩ := enter_cons_eq_ok.mp h
    obtain ⟨ha, has⟩ := List.forall_mem_cons.mp has
    have hrest : (name = xmlName ∨ name = xmlnsName) ∨
        ∀ x ∈ as, ∀ qualifier, x.key = .declares qualifier → qualifier.getD [] ≠ name :=
      hname.imp_right fun hname => (List.forall_mem_cons.mp hname).2
    rw [ih has hrest henter]
    cases hkey : a.key with
    | plain plainName =>
      rw [declare_plain ha hkey] at hdeclare
      cases hdeclare
      rfl
    | declares qualifier =>
      rcases (declare_eq_ok hkey).mp hdeclare with ⟨-, -, rfl⟩ | ⟨hpermits, rfl⟩
      · rfl
      · have hne : qualifier.getD [] ≠ name := by
          rcases hname with hreserved | hname
          · exact hpermits.getD_ne hreserved
          · exact hname a List.mem_cons_self qualifier hkey
        rw [lookup_cons, if_neg hne]

/-- The only declaration for names without a prefix is the one in force. -/
theorem lookup_enter_default {as : List AttributeSource} (has : ∀ a ∈ as, a.IsWellFormed)
    (honce : (as.map AttributeSource.key).Nodup) (ha : a ∈ as) (hkey : a.key = .declares none)
    {inner : Scope} (h : scope.enter (as.map AttributeSource.toAttribute) = .ok inner) :
    inner.lookup [] = some a.value := by
  induction as generalizing scope with
  | nil => cases ha
  | cons b as ih =>
    obtain ⟨next, hdeclare, henter⟩ := enter_cons_eq_ok.mp h
    have has' := (List.forall_mem_cons.mp has).2
    obtain ⟨hnew, honce⟩ := List.nodup_cons.mp honce
    rcases List.mem_cons.mp ha with rfl | ha
    · rw [declare_default hkey] at hdeclare
      cases hdeclare
      have hrest : ∀ x ∈ as, ∀ qualifier, x.key = .declares qualifier →
          qualifier.getD [] ≠ [] := by
        intro x hx qualifier hx'
        cases qualifier with
        | none => exact absurd (hkey ▸ hx' ▸ List.mem_map_of_mem hx) hnew
        | some q =>
          have hpart := (has' x hx).key
          rw [hx'] at hpart
          exact hpart.1.1
      rw [lookup_enter has' (Or.inr hrest) henter, lookup_cons, if_pos rfl]
    · exact ih has' honce ha henter

end Scope

/-! ## Prefixes -/

/-- The bytes of the name of a label. -/
theorem Label.bytes_eq (label : Label) :
    QName.bytes ⟨label.qualifier.map Utf8.encodeString, Utf8.encodeString label.localName⟩ =
      Utf8.encodeString label.name := by
  rw [Label.name]
  cases label.qualifier with
  | none => rfl
  | some q =>
    show Utf8.encodeString q ++ 0x3A :: Utf8.encodeString label.localName = _
    rw [Utf8.encodeString_append, Utf8.encodeString_append, List.append_assoc]
    rfl

theorem QName.qualifierOf_bytes {name : QName} (h : name.IsWellFormed) :
    qualifierOf name.bytes = name.qualifier := by
  obtain ⟨qualifier, localName⟩ := name
  cases qualifier with
  | none =>
    have hcolon : ¬ localName.contains 0x3A = true := by
      simpa using h.localName.2.1
    rw [bytes, qualifierOf, if_neg hcolon]
  | some q =>
    have hcolon : (q ++ 0x3A :: localName).contains 0x3A = true := by simp
    rw [bytes, qualifierOf, if_pos hcolon,
      (Text.cut_append_sep (fun _ => bne_iff_ne) (h.qualifier q rfl).2.1).1]

section

variable {name : QName} {scope : Scope}

/-- The namespace of a written name is that of its prefix. -/
theorem Scope.resolve_bytes (h : name.IsWellFormed) : scope.resolve name.bytes =
    match scope.lookup (name.qualifier.getD []) with
    | none | some [] => (name.qualifier.elim .unbound .unknown : Resolution)
    | some space => .bound space := by
  rw [resolve, QName.qualifierOf_bytes h]
  cases hqualifier : name.qualifier with
  | none => rfl
  | some q =>
    obtain ⟨b, bs, rfl⟩ := List.exists_cons_of_ne_nil (h.qualifier q hqualifier).1.1
    rfl

theorem Scope.resolve_of_unbound (h : name.IsWellFormed)
    (hnone : ∀ value ∈ scope.lookup (name.qualifier.getD []), value = []) :
    scope.resolve name.bytes = name.qualifier.elim .unbound .unknown := by
  rw [resolve_bytes h]
  split
  · rfl
  · rfl
  · next value hvalue hfound => exact absurd (hnone _ hfound) hvalue

theorem Scope.resolve_of_bound (h : name.IsWellFormed) {value : Bytes}
    (hfound : scope.lookup (name.qualifier.getD []) = some value) (hvalue : value ≠ []) :
    scope.resolve name.bytes = .bound value := by
  rw [resolve_bytes h, hfound]
  split
  · next hnone => cases hnone
  · next hnil => exact absurd (Option.some.inj hnil) hvalue
  · next hsome => rw [Option.some.inj hsome]

/-- The namespace of a name is that of its prefix, and only a name without a prefix may have
none. -/
theorem Scope.spaceOf_resolve_eq_ok (h : name.IsWellFormed) {space : Option String} :
    Builder.spaceOf (scope.resolve name.bytes) = .ok space ↔
      (∃ s, s ≠ "" ∧ space = some s ∧
        scope.lookup (name.qualifier.getD []) = some (Utf8.encodeString s)) ∨
      space = none ∧ name.qualifier = none ∧ ∀ value ∈ scope.lookup [], value = [] := by
  have hempty : ∀ s, s ≠ "" → Utf8.encodeString s ≠ [] := fun s hs =>
    Utf8.encodeString_injective.ne hs
  by_cases hnone : ∀ value ∈ scope.lookup (name.qualifier.getD []), value = []
  · have hno : ¬ ∃ s, s ≠ "" ∧ space = some s ∧
        scope.lookup (name.qualifier.getD []) = some (Utf8.encodeString s) :=
      fun ⟨s, hs, _, hfound⟩ => hempty s hs (hnone _ hfound)
    rw [or_iff_right hno, resolve_of_unbound h hnone]
    cases hqualifier : name.qualifier with
    | none =>
      rw [hqualifier] at hnone
      have hspace : Builder.spaceOf .unbound = .ok space ↔ space = none := by
        simp [Builder.spaceOf, eq_comm]
      exact hspace.trans (and_iff_left ⟨rfl, hnone⟩).symm
    | some q => simp [Builder.spaceOf]
  · push Not at hnone
    obtain ⟨value, hfound, hvalue⟩ := hnone
    have hbound : ¬ (space = none ∧ name.qualifier = none ∧
        ∀ value ∈ scope.lookup [], value = []) := by
      rintro ⟨-, hqualifier, hall⟩
      rw [hqualifier] at hfound
      exact hvalue (hall _ hfound)
    rw [or_iff_left hbound, resolve_of_bound h hfound hvalue, spaceOf_bound_eq_ok]
    constructor
    · rintro ⟨s, rfl, rfl⟩
      exact ⟨s, fun hs => hvalue (by rw [hs]; rfl), rfl, hfound⟩
    · rintro ⟨s, -, rfl, hs⟩
      exact ⟨s, rfl, Option.some.inj (hfound.symm.trans hs)⟩

end

theorem getD_nil_inj {r s : Option Bytes} (hr : r ≠ some []) (hs : s ≠ some []) :
    r.getD [] = s.getD [] ↔ r = s := by
  cases r with
  | none =>
    cases s with
    | none => simp
    | some s => simpa using fun h : [] = s => hs (congrArg some h.symm)
  | some r =>
    cases s with
    | none => simpa using fun h : r = [] => hr (congrArg some h)
    | some s => simp

end DavCourier.Markup
