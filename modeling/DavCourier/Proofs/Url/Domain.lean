import DavCourier.Proofs.Text.Percent
import DavCourier.Url.Basic

/-!
# Hosts with padding

A space or a control character at the end of a text stays there when the text is composed
(`compose_append`), so a host that ends with one is refused (`specialHost_padded`).
-/

namespace DavCourier

namespace Text

/-! ## Composing characters -/

variable {c : Char}

theorem markClass_of_lt (h : c.toNat < 0xC0) : markClass c = 0 :=
  if_pos (by omega)

theorem partsOf_of_lt (h : c.toNat < 0xC0) (depth : Nat) : partsOf depth c = [c] := by
  have hpair : pair? c = none := by
    have hlt : c.toNat < firstSyllable := Nat.lt_trans h (by decide)
    have hno : (decide (firstSyllable ≤ c.toNat) && decide (c.toNat ≤ lastSyllable)) = false := by
      rw [decide_eq_false (Nat.not_le.mpr hlt), Bool.false_and]
    rw [pair?, if_neg (by rw [hno]; exact Bool.false_ne_true), if_pos h]
  unfold partsOf
  split
  · next hsome =>
    rw [hpair] at hsome
    cases hsome
  · rfl

theorem placeMark_append (h : markClass c = 0) (d : Char) (ds : List Char) :
    placeMark d (ds ++ [c]) = placeMark d ds ++ [c] := by
  induction ds with
  | nil =>
    rw [List.nil_append, placeMark.eq_2, h]
    rfl
  | cons e ds ih =>
    rw [List.cons_append, placeMark, placeMark, ih]
    split <;> rfl

theorem orderMarks_append (h : markClass c = 0) (cs : List Char) :
    orderMarks (cs ++ [c]) = orderMarks cs ++ [c] := by
  induction cs with
  | nil => exact if_pos h
  | cons d cs ih =>
    have hcons : ∀ ds, orderMarks (d :: ds) =
        if markClass d = 0 then d :: orderMarks ds else placeMark d (orderMarks ds) :=
      fun ds => rfl
    rw [List.cons_append, hcons, hcons, ih, placeMark_append h]
    split <;> rfl

theorem composeFrom_append (h : c.toNat < 0xC0) (base : Char) (kept cs : List Char) :
    composeFrom base kept (cs ++ [c]) = composeFrom base kept cs ++ [c] := by
  induction cs generalizing base kept with
  | nil =>
    have hnone : composite? base c = none := if_pos (by omega)
    rw [List.nil_append, composeFrom, composeFrom, hnone, markClass_of_lt h, ite_self]
    rfl
  | cons d cs ih =>
    rw [List.cons_append, composeFrom, composeFrom]
    split
    · exact ih _ _
    · split
      · rw [ih, List.append_assoc]
      · exact ih _ _

theorem joinPairs_append (h : c.toNat < 0xC0) (cs : List Char) :
    joinPairs (cs ++ [c]) = joinPairs cs ++ [c] := by
  induction cs with
  | nil => exact if_pos (markClass_of_lt h)
  | cons d cs ih =>
    rw [List.cons_append, joinPairs, joinPairs, composeFrom_append h, ih]
    split <;> rfl

/-- A character before the marks and the letters that have them is composed with none. -/
theorem compose_append (h : c.toNat < 0xC0) (cs : List Char) :
    compose (cs ++ [c]) = compose cs ++ [c] := by
  rw [compose, List.flatMap_append, List.flatMap_singleton, partsOf_of_lt h,
    orderMarks_append (markClass_of_lt h), joinPairs_append h]
  rfl

end Text

namespace Url

/-! ## Domain names -/

theorem mapAll?_append {c : Char} (h : isPadding c = true) (cs : List Char) :
    mapAll? (cs ++ [c]) = (mapAll? cs).map (· ++ [c]) := by
  have hle : c.toNat ≤ 0x20 := of_decide_eq_true h
  have hlower : Text.lower c = c := by
    refine if_neg fun hletter => ?_
    have hge : 0x41 ≤ c.toNat := hletter.1
    omega
  have hchar : mapChar? c = some [c] := by
    rw [mapChar?, if_pos (by omega), hlower]
  induction cs with
  | nil => rw [List.nil_append, mapAll?.eq_2, hchar]; rfl
  | cons d cs ih =>
    rw [List.cons_append, mapAll?, mapAll?, ih]
    cases mapChar? d with
    | none => rfl
    | some form =>
      cases mapAll? cs with
      | none => rfl
      | some mapped =>
        rw [Option.map_some, Option.map_some, List.append_assoc]

/-- A text with padding at its end has no common form. -/
theorem commonForm?_padded {c : Char} (h : isPadding c = true) (cs : List Char) :
    commonForm? (cs ++ [c]) = none := by
  rw [commonForm?, mapAll?_append h]
  cases mapAll? cs with
  | none => rfl
  | some mapped =>
    have hle : c.toNat ≤ 0x20 := of_decide_eq_true h
    have hforbidden : isForbiddenInDomain c = true := by
      rw [isForbiddenInDomain, decide_eq_true hle]
      rfl
    rw [Option.map_some]
    dsimp only
    rw [Text.compose_append (by omega), List.any_append, if_pos (by simp [hforbidden])]

theorem hexValue?_of_padding : ∀ n < 0x21, Percent.hexValue? (UInt8.ofNat n) = none := by
  decide

theorem domainToAscii?_padded {c : Char} (h : isPadding c = true) (cs : List Char) :
    domainToAscii? (Percent.decodeBytes (Utf8.encode (cs ++ [c]))) = none := by
  have hle : c.toNat ≤ 0x20 := of_decide_eq_true h
  have hlast : (Utf8.encode (cs ++ [c])).getLast? = some (UInt8.ofNat c.toNat) := by
    rw [Utf8.encode_append, Utf8.encode_cons, Utf8.encodeChar_ascii (by omega)]
    exact List.getLast?_concat
  have hdecoded := Percent.getLast?_decodeBytes (hexValue?_of_padding c.toNat (by omega)) hlast
  rw [domainToAscii?]
  cases hread : Utf8.decode (Percent.decodeBytes (Utf8.encode (cs ++ [c]))) with
  | error fault => rfl
  | ok ds =>
    have hbyte : (UInt8.ofNat c.toNat).toNat = c.toNat := by
      rw [UInt8.toNat_ofNat']
      omega
    have hchar := Utf8.getLast?_of_decodeFrom hread (by omega) hdecoded
    rw [hbyte, Char.ofNat_toNat] at hchar
    obtain ⟨es, rfl⟩ := List.getLast?_eq_some_iff.mp hchar
    dsimp only
    rw [commonForm?_padded h]

/-- A host with padding at its end is refused. -/
theorem specialHost_padded {c : Char} (h : isPadding c = true) (cs : List Char) :
    ∃ fault, specialHost (cs ++ [c]) = .error fault := by
  have hle : c.toNat ≤ 0x20 := of_decide_eq_true h
  unfold specialHost
  split
  · next rest hbracket =>
    have hlast : ('[' :: rest).getLast? = some c := by
      rw [← hbracket]
      exact List.getLast?_concat
    have hreverse : rest.reverse.head? ≠ some ']' := by
      intro hhead
      rw [List.head?_reverse] at hhead
      rw [List.getLast?_cons, hhead] at hlast
      cases hlast
      exact absurd hle (by decide)
    unfold bracketedHost
    split
    · next hinner =>
      rw [hinner] at hreverse
      exact absurd rfl hreverse
    · exact ⟨_, rfl⟩
  · rw [domainToAscii?_padded h]
    exact ⟨_, rfl⟩

end Url

end DavCourier
