import DavCourier.Markup.Reference
import DavCourier.Proofs.Fallible
import DavCourier.Proofs.Text.Numeral
import Mathlib.Tactic.SplitIfs

/-!
# Texts between references

`SpellsText` lists the ways to write a text : each character as it is, if markup does not use it,
or as a reference that stands for it, by name or by number. However it is written, `expandFrom`
finds the text (`SpellsText.expandFrom_eq`). `escape` is one of the ways, so `expand` takes back
what it did (`expand_escape`), and no way opens markup (`lt_not_mem_escape`). A text with whole
references may be cut off from what follows it (`expand_append_eq_ok`). A text is expanded if and
only if each `&` of it starts a reference that stands for a character (`exists_expand_eq_ok`).
-/

namespace DavCourier.Markup

open Fallible

namespace Reference

theorem cut?_append {name : List Char} (h : ';' ∉ name ∧ '&' ∉ name) (rest : List Char) :
    cut? (name ++ ';' :: rest) = some (name, rest) := by
  induction name with
  | nil => simp [cut?]
  | cons c name ih =>
    simp only [List.mem_cons, not_or] at h
    have hcut := ih ⟨h.1.2, h.2.2⟩
    rw [List.cons_append, cut?, if_neg (Ne.symm h.1.1), if_neg (Ne.symm h.2.1), hcut]
    rfl

/-- A reference that stands for `c` is expanded to it, and the rest on its own. -/
theorem expandFrom_reference {name : List Char} {c : Char} (h : ';' ∉ name ∧ '&' ∉ name)
    (hc : ∀ start, resolve start name = .ok c) (offset : Nat) (rest : List Char) :
    expandFrom offset ('&' :: name ++ ';' :: rest) =
      (expandFrom (offset + 2 + size name) rest).map (c :: ·) := by
  rw [List.cons_append, expandFrom, if_pos rfl]
  split
  · next hnone => rw [cut?_append h] at hnone; cases hnone
  · next content tail hsome =>
    rw [cut?_append h] at hsome
    cases hsome
    rw [hc]
    cases expandFrom (offset + 2 + size name) rest <;> rfl

theorem expandFrom_plain {c : Char} (h : c ≠ '&') (offset : Nat) (rest : List Char) :
    expandFrom offset (c :: rest) =
      (expandFrom (offset + size [c]) rest).map (c :: ·) := by
  rw [expandFrom, if_neg h]
  cases expandFrom (offset + size [c]) rest <;> rfl

/-! ## Texts one after the other -/

theorem cut?_append_right {cs name rest : List Char} (h : cut? cs = some (name, rest))
    (ds : List Char) : cut? (cs ++ ds) = some (name, rest ++ ds) := by
  induction cs generalizing name with
  | nil => cases h
  | cons c cs ih =>
    rw [cut?] at h
    rw [List.cons_append, cut?]
    split_ifs at h ⊢
    · cases h
      rfl
    · obtain ⟨⟨tail, rest'⟩, hcut, heq⟩ := Option.map_eq_some_iff.mp h
      cases heq
      rw [ih hcut]
      rfl

theorem resolve_eq_ok {start : Nat} {name : List Char} {c : Char}
    (h : resolve start name = .ok c) (start' : Nat) : resolve start' name = .ok c := by
  unfold resolve at h ⊢
  split at h
  · exact h
  · split at h
    · exact h
    · cases h

/-- The places of references do not matter for what they stand for. -/
theorem expandFrom_eq_ok {offset : Nat} {cs as : List Char} (h : expandFrom offset cs = .ok as)
    (offset' : Nat) : expandFrom offset' cs = .ok as := by
  fun_induction expandFrom offset cs generalizing as offset' with
  | case1 offset =>
    rw [expandFrom]
    exact h
  | case2 offset cs hcut => cases h
  | case3 offset cs content rest hcut ih =>
    obtain ⟨c, hc, h⟩ := bind_eq_ok.mp h
    obtain ⟨ds, hds, h⟩ := bind_eq_ok.mp h
    rw [expandFrom, if_pos rfl]
    split
    · next hnone =>
      rw [hcut] at hnone
      cases hnone
    · next hsome =>
      rw [hcut] at hsome
      cases hsome
      rw [resolve_eq_ok hc, ok_bind, ih hds, ok_bind]
      exact h
  | case4 offset c cs hc ih =>
    obtain ⟨ds, hds, h⟩ := bind_eq_ok.mp h
    rw [expandFrom, if_neg hc, ih hds, ok_bind]
    exact h

/-- Characters with whole references are expanded on their own. -/
theorem expandFrom_append {offset : Nat} {cs as : List Char} (h : expandFrom offset cs = .ok as)
    (ds : List Char) :
    ∃ next, expandFrom offset (cs ++ ds) = (expandFrom next ds).map (as ++ ·) := by
  have hnil : ∀ x : Except Fault (List Char), x = x.map ([] ++ ·) := fun x => by cases x <;> rfl
  have hcons : ∀ (c : Char) (bs : List Char) (x : Except Fault (List Char)),
      (x.map (bs ++ ·) >>= fun ds => .ok (c :: ds)) = x.map (c :: bs ++ ·) := fun c bs x => by
    cases x <;> rfl
  fun_induction expandFrom offset cs generalizing as with
  | case1 offset =>
    cases h
    exact ⟨offset, hnil _⟩
  | case2 offset cs hcut => cases h
  | case3 offset cs content rest hcut ih =>
    obtain ⟨c, hc, h⟩ := bind_eq_ok.mp h
    obtain ⟨bs, hbs, h⟩ := bind_eq_ok.mp h
    cases h
    obtain ⟨next, hnext⟩ := ih hbs
    refine ⟨next, ?_⟩
    rw [List.cons_append, expandFrom, if_pos rfl]
    split
    · next hnone =>
      rw [cut?_append_right hcut] at hnone
      cases hnone
    · next hsome =>
      rw [cut?_append_right hcut] at hsome
      cases hsome
      rw [hc, ok_bind, hnext]
      exact hcons c bs _
  | case4 offset c cs hc ih =>
    obtain ⟨bs, hbs, h⟩ := bind_eq_ok.mp h
    cases h
    obtain ⟨next, hnext⟩ := ih hbs
    refine ⟨next, ?_⟩
    rw [List.cons_append, expandFrom, if_neg hc, hnext]
    exact hcons c bs _

/-- The references of two texts are expanded one text after the other. -/
theorem expand_append_eq_ok {cs as : List Char} (h : expand cs = .ok as) {ds es : List Char} :
    expand (cs ++ ds) = .ok es ↔ ∃ bs, expand ds = .ok bs ∧ es = as ++ bs := by
  obtain ⟨next, hnext⟩ := expandFrom_append h ds
  have hsome : ∀ bs, expandFrom next ds = .ok bs ↔ expand ds = .ok bs := fun bs =>
    ⟨fun h => expandFrom_eq_ok h 0, fun h => expandFrom_eq_ok h next⟩
  rw [expand, hnext, map_eq_ok]
  simp only [hsome, eq_comm]

/-! ## Numbers and names -/

section

variable {base acc n : Nat} {cs : List Char}

/-- A number below the bound is read whole, because no start of its digits is greater. -/
theorem numberFrom_eq (hbase : 0 < base) (hn : n < UInt32.size)
    (h : Numeral.valueFrom? base acc cs = some n) : numberFrom base acc cs = .ok n := by
  induction cs generalizing acc with
  | nil =>
    cases h
    rfl
  | cons c cs ih =>
    rw [Numeral.valueFrom?] at h
    cases hdigit : Numeral.digit? base c with
    | none =>
      rw [hdigit] at h
      cases h
    | some v =>
      rw [hdigit] at h
      have hle := Numeral.le_of_valueFrom? hbase h
      rw [numberFrom, hdigit]
      dsimp only
      rw [if_pos (Nat.lt_of_le_of_lt hle hn), ih h]

/-- A number is read from its digits. -/
theorem number_eq (hbase : 0 < base) (hbase' : base ≤ 16) (hn : n < UInt32.size)
    (h : Numeral.value? base cs = some n) : number base cs = .ok n := by
  cases cs with
  | nil => cases h
  | cons c cs =>
    have hsign : ¬ (c = '+' ∨ c = '-') := by
      rintro (rfl | rfl)
      · exact Numeral.not_mem_of_value? (by decide) hbase' h List.mem_cons_self
      · exact Numeral.not_mem_of_value? (by decide) hbase' h List.mem_cons_self
    rw [number, if_neg hsign]
    exact numberFrom_eq hbase hn h

theorem ofNumber_toNat {c : Char} (h : c.toNat ≠ 0) : ofNumber c.toNat = .ok c := by
  have hvalid : c.toNat.isValidChar := c.valid
  rw [ofNumber, if_neg h, if_pos hvalid, Char.ofNat_toNat]

theorem toNat_lt (c : Char) : c.toNat < UInt32.size :=
  c.val.toNat_lt

/-- A decimal number stands for its character. -/
theorem numeric_decimal {c : Char} (h : Numeral.value? 10 cs = some c.toNat)
    (hzero : c.toNat ≠ 0) : numeric cs = .ok c := by
  have hx : 'x' ∉ cs := Numeral.not_mem_of_value? (by decide) (by decide) h
  unfold numeric
  split
  · exact absurd List.mem_cons_self hx
  · rw [number_eq (by decide) (by decide) (toNat_lt c) h, ok_bind, ofNumber_toNat hzero]

/-- A hexadecimal number stands for its character. -/
theorem numeric_hexadecimal {c : Char} (h : Numeral.value? 16 cs = some c.toNat)
    (hzero : c.toNat ≠ 0) : numeric ('x' :: cs) = .ok c := by
  rw [numeric, number_eq (by decide) (by decide) (toNat_lt c) h, ok_bind, ofNumber_toNat hzero]

/-- The names that stand for characters. -/
def names : List (List Char) :=
  ["lt".toList, "gt".toList, "amp".toList, "apos".toList, "quot".toList]

theorem mem_names_of_named? {c : Char} (h : named? cs = some c) : cs ∈ names := by
  unfold named? at h
  split_ifs at h <;> simp_all [names]

theorem plain_of_mem_names : ∀ name ∈ names,
    (';' ∉ name ∧ '&' ∉ name) ∧ '<' ∉ name ∧ name.head? ≠ some '#' := by
  decide

theorem resolve_of_named? {c : Char} (h : named? cs = some c) (start : Nat) :
    resolve start cs = .ok c := by
  have hhash := (plain_of_mem_names cs (mem_names_of_named? h)).2.2
  unfold resolve
  split
  · exact absurd rfl hhash
  · rw [h]

end

end Reference

/-! ## Ways to write -/

/-- What may be written for a character. -/
inductive SpellsChar : Char → List Char → Prop
  | plain {c : Char} (hlt : c ≠ '<') (hamp : c ≠ '&') : SpellsChar c [c]
  | named {c : Char} {name : List Char} (h : Reference.named? name = some c) :
    SpellsChar c ('&' :: name ++ [';'])
  | decimal {c : Char} {digits : List Char} (h : Numeral.value? 10 digits = some c.toNat)
    (hzero : c.toNat ≠ 0) : SpellsChar c ('&' :: '#' :: digits ++ [';'])
  | hexadecimal {c : Char} {digits : List Char} (h : Numeral.value? 16 digits = some c.toNat)
    (hzero : c.toNat ≠ 0) : SpellsChar c ('&' :: '#' :: 'x' :: digits ++ [';'])

/-- What may be written for a text, character by character. -/
inductive SpellsText : List Char → List Char → Prop
  | nil : SpellsText [] []
  | cons {c : Char} {cs w ws : List Char} (h : SpellsChar c w) (rest : SpellsText cs ws) :
    SpellsText (c :: cs) (w ++ ws)

open Reference in
/-- What may be written for a character is the character, or a reference that stands for it. -/
theorem SpellsChar.cases {c : Char} {w : List Char} (h : SpellsChar c w) :
    (c ≠ '&' ∧ c ≠ '<' ∧ w = [c]) ∨
      ∃ name, w = '&' :: name ++ [';'] ∧ (';' ∉ name ∧ '&' ∉ name) ∧ '<' ∉ name ∧
        ∀ start, resolve start name = .ok c := by
  cases h with
  | plain hlt hamp => exact Or.inl ⟨hamp, hlt, rfl⟩
  | @named name h =>
    obtain ⟨hplain, hlt, -⟩ := plain_of_mem_names name (mem_names_of_named? h)
    exact Or.inr ⟨name, rfl, hplain, hlt, resolve_of_named? h⟩
  | @decimal digits h hzero =>
    have hnot : ∀ d : Char, Numeral.digit? 16 d = none → d ∉ digits := fun d hd =>
      Numeral.not_mem_of_value? hd (by decide) h
    refine Or.inr ⟨'#' :: digits, rfl, ?_, ?_, fun start => ?_⟩
    · simp [hnot ';' (by decide), hnot '&' (by decide)]
    · simp [hnot '<' (by decide)]
    · rw [resolve, numeric_decimal h hzero]
      rfl
  | @hexadecimal digits h hzero =>
    have hnot : ∀ d : Char, Numeral.digit? 16 d = none → d ∉ digits := fun d hd =>
      Numeral.not_mem_of_value? hd (by decide) h
    refine Or.inr ⟨'#' :: 'x' :: digits, rfl, ?_, ?_, fun start => ?_⟩
    · simp [hnot ';' (by decide), hnot '&' (by decide)]
    · simp [hnot '<' (by decide)]
    · rw [resolve, numeric_hexadecimal h hzero]
      rfl

/-- However a text is written, its references are expanded to it. -/
theorem SpellsText.expandFrom_eq {cs ws : List Char} (h : SpellsText cs ws) (offset : Nat) :
    Reference.expandFrom offset ws = .ok cs := by
  induction h generalizing offset with
  | nil => simp [Reference.expandFrom]
  | cons h rest ih =>
    rcases h.cases with ⟨hamp, -, rfl⟩ | ⟨name, rfl, hplain, -, hstands⟩
    · rw [List.singleton_append, Reference.expandFrom_plain hamp, ih]
      rfl
    · rw [List.append_assoc, List.singleton_append, Reference.expandFrom_reference hplain hstands,
        ih]
      rfl

theorem SpellsText.lt_not_mem {cs ws : List Char} (h : SpellsText cs ws) : '<' ∉ ws := by
  induction h with
  | nil => exact List.not_mem_nil
  | cons h rest ih =>
    rw [List.mem_append, not_or]
    refine ⟨?_, ih⟩
    rcases h.cases with ⟨-, hlt, rfl⟩ | ⟨name, rfl, -, hlt, -⟩
    · simpa using Ne.symm hlt
    · simp [hlt]

namespace Reference

/-! ## Escaped texts -/

theorem escapeChar_spells (c : Char) : SpellsChar c (escapeChar c) := by
  unfold escapeChar
  split_ifs with hlt hgt hapos hamp hquot
  · exact @SpellsChar.named c "lt".toList (hlt ▸ rfl)
  · exact @SpellsChar.named c "gt".toList (hgt ▸ rfl)
  · exact @SpellsChar.named c "apos".toList (hapos ▸ rfl)
  · exact @SpellsChar.named c "amp".toList (hamp ▸ rfl)
  · exact @SpellsChar.named c "quot".toList (hquot ▸ rfl)
  · exact .plain hlt hamp

theorem escape_cons (c : Char) (cs : List Char) : escape (c :: cs) = escapeChar c ++ escape cs :=
  rfl

theorem escape_spells (cs : List Char) : SpellsText cs (escape cs) := by
  induction cs with
  | nil => exact .nil
  | cons c cs ih => exact .cons (escapeChar_spells c) ih

/-- The characters that are written as references. -/
def escaped : List Char := ['<', '>', '\'', '&', '"']

theorem escape_eq_self {cs : List Char} (h : ∀ c ∈ cs, c ∉ escaped) : escape cs = cs := by
  induction cs with
  | nil => rfl
  | cons c cs ih =>
    have hne := h c List.mem_cons_self
    simp only [escaped, List.mem_cons, List.not_mem_nil, or_false, not_or] at hne
    have hself : escapeChar c = [c] := by simp [escapeChar, hne]
    rw [escape_cons, hself, ih fun d hd => h d (List.mem_cons_of_mem _ hd)]
    rfl

/-- Escaped characters expand to the characters. -/
theorem expand_escape (cs : List Char) : expand (escape cs) = .ok cs :=
  (escape_spells cs).expandFrom_eq 0

/-- An escaped text holds no `<`. -/
theorem lt_not_mem_escape (cs : List Char) : '<' ∉ escape cs :=
  (escape_spells cs).lt_not_mem

/-! ## Texts whose references are known -/

theorem value?_of_number {base n : Nat} {cs : List Char} (h : number base cs = .ok n) :
    Numeral.value? base cs = some n := by
  have hfrom : ∀ {acc : Nat} {cs : List Char}, numberFrom base acc cs = .ok n →
      Numeral.valueFrom? base acc cs = some n := by
    intro acc cs h
    induction cs generalizing acc with
    | nil =>
      cases h
      rfl
    | cons c cs ih =>
      rw [numberFrom] at h
      rw [Numeral.valueFrom?]
      split at h
      · cases h
      · next v hdigit =>
        split_ifs at h
        rw [hdigit]
        exact ih h
  cases cs with
  | nil => cases h
  | cons c cs =>
    rw [number] at h
    split_ifs at h
    exact hfrom h

theorem toNat_of_ofNumber {n : Nat} {c : Char} (h : ofNumber n = .ok c) :
    n = c.toNat ∧ c.toNat ≠ 0 := by
  unfold ofNumber at h
  split_ifs at h with hzero hvalid
  cases h
  have htoNat : (Char.ofNat n).toNat = n := by
    rw [Char.ofNat, dif_pos hvalid]
    rfl
  rw [htoNat]
  exact ⟨rfl, hzero⟩

theorem cut?_eq_some {cs name rest : List Char} (h : cut? cs = some (name, rest)) :
    cs = name ++ ';' :: rest ∧ '&' ∉ name := by
  induction cs generalizing name with
  | nil => cases h
  | cons c cs ih =>
    rw [cut?] at h
    split_ifs at h with hend hamp
    · cases h
      exact ⟨by rw [hend]; rfl, List.not_mem_nil⟩
    · obtain ⟨⟨tail, rest'⟩, hcut, heq⟩ := Option.map_eq_some_iff.mp h
      cases heq
      obtain ⟨rfl, htail⟩ := ih hcut
      exact ⟨rfl, List.not_mem_cons_of_ne_of_not_mem (Ne.symm hamp) htail⟩

/-- Only a name or a number is read as a reference. -/
theorem spells_of_resolve {start : Nat} {name : List Char} {c : Char}
    (h : resolve start name = .ok c) : SpellsChar c ('&' :: name ++ [';']) := by
  unfold resolve at h
  split at h
  · next digits =>
    have hnumeric : numeric digits = .ok c := mapError_eq_ok.mp h
    unfold numeric at hnumeric
    split at hnumeric
    · obtain ⟨n, hn, hc⟩ := bind_eq_ok.mp hnumeric
      obtain ⟨rfl, hzero⟩ := toNat_of_ofNumber hc
      exact .hexadecimal (value?_of_number hn) hzero
    · obtain ⟨n, hn, hc⟩ := bind_eq_ok.mp hnumeric
      obtain ⟨rfl, hzero⟩ := toNat_of_ofNumber hc
      exact .decimal (value?_of_number hn) hzero
  · split at h
    · next heq =>
      cases h
      exact .named heq
    · cases h

/-- Each `&` starts a reference that stands for a character. -/
def AllKnown (cs : List Char) : Prop :=
  ∀ before after, cs = before ++ '&' :: after →
    ∃ c w rest, '&' :: after = w ++ rest ∧ SpellsChar c w

theorem AllKnown.of_append (cs : List Char) {ds : List Char} (h : AllKnown (cs ++ ds)) :
    AllKnown ds := by
  rintro before after rfl
  exact h (cs ++ before) after (List.append_assoc _ _ _).symm

/-- Characters before a text say nothing of its references if no `&` is among them. -/
theorem AllKnown.append {cs ds : List Char} (h : AllKnown ds) (hcs : '&' ∉ cs) :
    AllKnown (cs ++ ds) := by
  intro before after heq
  rcases List.append_eq_append_iff.mp heq with ⟨front, rfl, hds⟩ | ⟨tail, rfl, htail⟩
  · exact h front after hds
  · cases tail with
    | nil => exact h [] after htail.symm
    | cons c tail =>
      cases htail
      exact absurd (List.mem_append_right _ List.mem_cons_self) hcs

/-- The reference that a text starts with. -/
theorem AllKnown.exists_name {cs : List Char} (h : AllKnown ('&' :: cs)) : ∃ name rest c,
    cs = name ++ ';' :: rest ∧ cut? cs = some (name, rest) ∧
      ∀ start, resolve start name = .ok c := by
  obtain ⟨c, w, rest, heq, hc⟩ := h [] cs rfl
  rcases hc.cases with ⟨hne, -, rfl⟩ | ⟨name, rfl, hplain, -, hstands⟩
  · exact absurd (List.cons.inj heq).1.symm hne
  · have hcs : cs = name ++ ';' :: rest := by
      rw [List.append_assoc] at heq
      exact (List.cons.inj heq).2
    exact ⟨name, rest, c, hcs, hcs ▸ cut?_append hplain rest, hstands⟩

/-- References are expanded if and only if all are known. -/
theorem exists_expand_eq_ok {cs : List Char} : (∃ ds, expand cs = .ok ds) ↔ AllKnown cs := by
  unfold expand
  generalize 0 = offset
  constructor
  · rintro ⟨ds, h⟩
    fun_induction expandFrom offset cs generalizing ds with
    | case1 offset => exact fun before after heq => absurd heq.symm (by simp)
    | case2 offset cs hcut => cases h
    | case3 offset cs content rest hcut ih =>
      obtain ⟨c, hc, h⟩ := bind_eq_ok.mp h
      obtain ⟨ds', hds, -⟩ := bind_eq_ok.mp h
      obtain ⟨rfl, hamp⟩ := cut?_eq_some hcut
      have hrest : AllKnown (content ++ ';' :: rest) := by
        rw [List.append_cons]
        exact (ih _ hds).append (by simp [hamp])
      intro before after heq
      cases before with
      | nil =>
        cases heq
        exact ⟨c, '&' :: content ++ [';'], rest, by simp, spells_of_resolve hc⟩
      | cons d before =>
        exact hrest before after (List.cons.inj heq).2
    | case4 offset c cs hc ih =>
      obtain ⟨ds', hds, -⟩ := bind_eq_ok.mp h
      have hamp : '&' ∉ [c] := by simpa using Ne.symm hc
      exact (ih _ hds).append hamp
  · intro h
    fun_induction expandFrom offset cs with
    | case1 offset => exact ⟨[], rfl⟩
    | case2 offset cs hcut =>
      obtain ⟨name, rest, c, -, hsome, -⟩ := h.exists_name
      rw [hcut] at hsome
      cases hsome
    | case3 offset cs content rest hcut ih =>
      obtain ⟨name, rest', c, hcs, hsome, hstands⟩ := h.exists_name
      cases hcut.symm.trans hsome
      subst hcs
      obtain ⟨ds, hds⟩ := ih (AllKnown.of_append ('&' :: content ++ [';']) (by simpa using h))
      exact ⟨c :: ds, by rw [hstands, ok_bind, hds]; rfl⟩
    | case4 offset c cs hc ih =>
      obtain ⟨ds, hds⟩ := ih (AllKnown.of_append [c] h)
      exact ⟨c :: ds, by rw [hds]; rfl⟩

end Reference

end DavCourier.Markup
