import DavCourier.Proofs.Fallible
import DavCourier.Proofs.Text.Split
import DavCourier.Proofs.Url.Domain

/-!
# Where an authority ends

With a special scheme the authority is what stands before the first character that ends one,
and depends on nothing else (`readAuthority_eq`). Its user is what stands before the last `@`
(`userOf`), and its host ends at its end or before a port (`spanHost_cases`). There is no
authority with padding at its end (`authorityOf_padded`).
-/

namespace DavCourier

namespace Url

/-- What stands before the first character that ends an authority. -/
def authorityText (cs : List Char) : List Char :=
  cs.takeWhile (!endsAuthority true ·)

/-- That character and what follows it. -/
def authorityRest (cs : List Char) : List Char :=
  cs.dropWhile (!endsAuthority true ·)

/-- The authority that a text is. -/
def authorityOf (scheme text : List Char) : Except Fault Authority :=
  (readAuthority scheme text).map Prod.fst

variable {scheme t r : List Char}

/-! ## The parts of an authority -/

/-- The rest of an authority after the user : the host and the port. -/
def readServer (scheme : List Char) (user : List Char × Option (List Char)) (cs : List Char) :
    Except Fault (Authority × List Char) := do
  let (text, cs) := spanHost (isSpecial scheme) false cs
  let host ← readHost (isSpecial scheme) text
  match cs with
  | ':' :: rest =>
    if host.isEmpty then .error .emptyHost
    else do
      let (port, rest) ← readPort scheme rest
      return (⟨user.1, user.2, host, port⟩, rest)
  | _ =>
    if host.isEmpty && (!user.1.isEmpty || user.2.isSome) then .error .emptyHost
    else return (⟨user.1, user.2, host, none⟩, cs)

theorem readAuthority_eq_bind (scheme cs : List Char) : readAuthority scheme cs =
    readUser (isSpecial scheme) cs >>= fun result => readServer scheme result.1 result.2 := rfl

/-- The host of an authority with a port. -/
theorem readServer_of_colon (user : List Char × Option (List Char)) {cs text rest : List Char}
    (h : spanHost (isSpecial scheme) false cs = (text, ':' :: rest)) :
    readServer scheme user cs = do
      let host ← readHost (isSpecial scheme) text
      if host.isEmpty then .error .emptyHost
      else do
        let (port, rest) ← readPort scheme rest
        return (⟨user.1, user.2, host, port⟩, rest) := by
  rw [readServer, h]
  rfl

/-- The host of an authority without one. -/
theorem readServer_of_not_colon (user : List Char × Option (List Char)) {cs text rest : List Char}
    (h : spanHost (isSpecial scheme) false cs = (text, rest)) (hrest : rest.head? ≠ some ':') :
    readServer scheme user cs = do
      let host ← readHost (isSpecial scheme) text
      if host.isEmpty && (!user.1.isEmpty || user.2.isSome) then .error .emptyHost
      else return (⟨user.1, user.2, host, none⟩, rest) := by
  rw [readServer, h]
  dsimp only
  cases readHost (isSpecial scheme) text with
  | error fault => rfl
  | ok host =>
    rw [Fallible.ok_bind, Fallible.ok_bind]
    split
    · exact absurd rfl hrest
    · rfl

/-! ## Hosts and ports -/

/-- No character of the text ends an authority. -/
def IsWithin (t : List Char) : Prop :=
  ∀ c ∈ t, endsAuthority true c = false

theorem IsWithin.of_suffix (h : IsWithin t) {cs : List Char} (hcs : cs <:+ t) : IsWithin cs :=
  fun c hc => h c (hcs.subset hc)

theorem IsWithin.eq_nil (h : IsWithin t) (hends : ∀ c ∈ t.head?, endsAuthority true c = true) :
    t = [] := by
  cases t with
  | nil => rfl
  | cons c t =>
    have hc := h c List.mem_cons_self
    rw [hends c rfl] at hc
    cases hc

theorem endsPort_eq (c : Char) : endsPort c = endsAuthority true c := by
  unfold endsPort endsAuthority
  rw [Bool.true_and]
  ac_rfl

theorem isDigit_of_ends {c : Char} (h : endsAuthority true c = true) : c.isDigit = false := by
  have hc : c = '/' ∨ c = '?' ∨ c = '#' ∨ c = '\\' := by
    simpa [endsAuthority, or_assoc] using h
  rcases hc with rfl | rfl | rfl | rfl <;> rfl

/-- The host ends where the authority does, or before a port. -/
theorem spanHost_cases (h : IsWithin t) (inside : Bool) : ∃ text,
    spanHost true inside t = (text, []) ∨
      ∃ port, spanHost true inside t = (text, ':' :: port) ∧ ':' :: port <:+ t := by
  induction t generalizing inside with
  | nil => exact ⟨[], Or.inl rfl⟩
  | cons c t ih =>
    have hc := h c List.mem_cons_self
    rw [spanHost, hc, Bool.false_or]
    split
    · next hcolon =>
      rw [Bool.and_eq_true, decide_eq_true_eq] at hcolon
      rw [hcolon.1]
      exact ⟨[], Or.inr ⟨t, rfl, List.suffix_refl _⟩⟩
    · obtain ⟨text, hspan | ⟨port, hspan, hport⟩⟩ :=
        ih (h.of_suffix (List.suffix_cons c t)) (c = '[' || (inside && c ≠ ']'))
      · rw [hspan]
        exact ⟨c :: text, Or.inl rfl⟩
      · rw [hspan]
        exact ⟨c :: text, Or.inr ⟨port, rfl, hport.trans (List.suffix_cons c t)⟩⟩

/-- Nothing is left after a port at the end of an authority. -/
theorem readPort_rest (h : IsWithin t) {port : Option Nat} {rest : List Char}
    (hport : readPort scheme t = .ok (port, rest)) : rest = [] := by
  unfold readPort at hport
  dsimp only at hport
  split at hport
  · cases hport
  · next hends =>
    have hrest : t.dropWhile Char.isDigit = rest := by
      split at hport
      · exact (Prod.mk.inj (Except.ok.inj hport)).2
      · split at hport
        · cases hport
        · exact (Prod.mk.inj (Except.ok.inj hport)).2
    rw [hrest] at hends
    refine IsWithin.eq_nil (h.of_suffix (hrest ▸ List.dropWhile_suffix _)) fun c hc => ?_
    rw [Option.mem_def.mp hc, Option.any_some, endsPort_eq, Bool.not_eq_true',
      Bool.not_eq_false] at hends
    exact hends

/-- A special scheme needs a host. -/
theorem readServer_nil (hs : isSpecial scheme = true) (user : List Char × Option (List Char)) :
    readServer scheme user [] = .error .emptyHost := by
  rw [readServer, hs]
  rfl

/-- Nothing is left after an authority. -/
theorem readServer_rest (hs : isSpecial scheme = true) (h : IsWithin t)
    {user : List Char × Option (List Char)} {result : Authority × List Char}
    (hserver : readServer scheme user t = .ok result) : result.2 = [] := by
  obtain ⟨text, hspan | ⟨port, hspan, hport⟩⟩ := spanHost_cases h false
  · rw [← hs] at hspan
    rw [readServer_of_not_colon user hspan nofun] at hserver
    obtain ⟨host, -, hserver⟩ := Fallible.bind_eq_ok.mp hserver
    split at hserver
    · cases hserver
    · rw [← Except.ok.inj hserver]
  · rw [← hs] at hspan
    rw [readServer_of_colon user hspan] at hserver
    obtain ⟨host, -, hserver⟩ := Fallible.bind_eq_ok.mp hserver
    split at hserver
    · cases hserver
    · obtain ⟨⟨number, rest⟩, hnumber, hresult⟩ := Fallible.bind_eq_ok.mp hserver
      rw [← Except.ok.inj hresult]
      exact readPort_rest ((h.of_suffix hport).of_suffix (List.suffix_cons _ _)) hnumber

/-! ## Users -/

theorem splitLastAt_of_not_mem {cs : List Char} (h : '@' ∉ cs) : splitLastAt cs = none := by
  have hnil : cs.reverse.dropWhile (· ≠ '@') = [] := by
    rw [List.dropWhile_eq_nil_iff]
    intro c hc
    exact decide_eq_true fun heq => h (heq ▸ List.mem_reverse.mp hc)
  rw [splitLastAt, List.span_eq_takeWhile_dropWhile, hnil]

theorem splitLastAt_append (before : List Char) {after : List Char} (h : '@' ∉ after) :
    splitLastAt (before ++ '@' :: after) = some (before, after) := by
  have hplain : ∀ c ∈ after.reverse, decide (c ≠ '@') = true := fun c hc =>
    decide_eq_true fun heq => h (heq ▸ List.mem_reverse.mp hc)
  have hat : ∀ c ∈ ('@' :: before.reverse).head?, decide (c ≠ '@') = false := by
    rintro c hc
    cases hc
    rfl
  have hreverse : (before ++ '@' :: after).reverse = after.reverse ++ '@' :: before.reverse := by
    simp
  rw [splitLastAt, List.span_eq_takeWhile_dropWhile, hreverse,
    Text.takeWhile_append_of_head hat, Text.dropWhile_append_of_head hat,
    List.takeWhile_eq_self_iff.mpr hplain, List.dropWhile_eq_nil_iff.mpr hplain, List.nil_append]
  dsimp only
  rw [List.reverse_reverse, List.reverse_reverse]

/-- The user of an authority, and its host and port. -/
def userOf (t : List Char) : (List Char × Option (List Char)) × List Char :=
  match splitLastAt t with
  | none => (([], none), t)
  | some (before, after) => (credentials before, after)

theorem userOf_append (t : List Char) {more : List Char} (h : '@' ∉ more) :
    userOf (t ++ more) = ((userOf t).1, (userOf t).2 ++ more) := by
  by_cases hat : '@' ∈ t
  · obtain ⟨before, after, rfl, hafter⟩ := Text.exists_last_of_mem hat
    have hlast : '@' ∉ after ++ more := fun hmem => (List.mem_append.mp hmem).elim hafter h
    rw [List.append_assoc, List.cons_append, userOf, userOf, splitLastAt_append before hlast,
      splitLastAt_append before hafter]
  · have hnone : '@' ∉ t ++ more := fun hmem => (List.mem_append.mp hmem).elim hat h
    rw [userOf, userOf, splitLastAt_of_not_mem hnone, splitLastAt_of_not_mem hat]

theorem userOf_suffix (t : List Char) : (userOf t).2 <:+ t := by
  by_cases hat : '@' ∈ t
  · obtain ⟨before, after, rfl, hafter⟩ := Text.exists_last_of_mem hat
    rw [userOf, splitLastAt_append before hafter]
    exact (List.suffix_cons _ _).trans (List.suffix_append _ _)
  · have hwhole : (userOf t).2 = t := by rw [userOf, splitLastAt_of_not_mem hat]
    exact hwhole.symm ▸ List.suffix_refl t

/-! ## Texts that are cut where an authority ends -/

/-- The first text does not end an authority, and the second one starts with a character that
does, or is empty. -/
structure IsCut (t r : List Char) : Prop where
  before : IsWithin t
  ends : ∀ c ∈ r.head?, endsAuthority true c = true

theorem isCut_authority (cs : List Char) : IsCut (authorityText cs) (authorityRest cs) where
  before c hc := by
    have hall := List.all_eq_true.mp List.all_takeWhile c hc
    rwa [Bool.not_eq_true'] at hall
  ends c hc := by
    have hnot := Text.head?_dropWhile_eq c hc
    rwa [Bool.not_eq_false'] at hnot

theorem IsWithin.cut_nil (h : IsWithin t) : IsCut t [] :=
  ⟨h, nofun⟩

namespace IsCut

theorem of_suffix (h : IsCut t r) {cs : List Char} (hcs : cs <:+ t) : IsCut cs r :=
  ⟨h.before.of_suffix hcs, h.ends⟩

theorem head (h : IsCut t r) : ∀ c ∈ r.head?, (!endsAuthority true c) = false := fun c hc => by
  rw [h.ends c hc]
  rfl

theorem authority_eq (h : IsCut t r) :
    authorityText (t ++ r) = t ∧ authorityRest (t ++ r) = r := by
  refine Text.cut_append_of_head (fun c hc => ?_) h.head
  rw [h.before c hc]
  rfl

theorem spanHost_append (h : IsCut t r) (inside : Bool) : spanHost true inside (t ++ r) =
    ((spanHost true inside t).1, (spanHost true inside t).2 ++ r) := by
  obtain ⟨hbefore, hends⟩ := h
  induction t generalizing inside with
  | nil =>
    cases r with
    | nil => rfl
    | cons c r =>
      rw [List.nil_append, spanHost.eq_2, hends c rfl]
      rfl
  | cons c t ih =>
    have hrest := fun inside' => ih inside' (hbefore.of_suffix (List.suffix_cons c t))
    rw [List.cons_append, spanHost, spanHost]
    split
    · rfl
    · rw [hrest]

theorem readPort_append (h : IsCut t r) : readPort scheme (t ++ r) =
    (readPort scheme t).map fun result => (result.1, result.2 ++ r) := by
  have hdigits : ∀ c ∈ r.head?, c.isDigit = false := fun c hc => isDigit_of_ends (h.ends c hc)
  have hhead : (t.dropWhile Char.isDigit ++ r).head?.any (!endsPort ·) =
      (t.dropWhile Char.isDigit).head?.any (!endsPort ·) := by
    cases t.dropWhile Char.isDigit with
    | nil =>
      cases hr : r.head? with
      | none => rw [List.nil_append, hr]; rfl
      | some c =>
        rw [List.nil_append, hr, Option.any_some, endsPort_eq, h.ends c hr]
        rfl
    | cons c cs => rfl
  unfold readPort
  dsimp only
  rw [Text.dropWhile_append_of_head hdigits, Text.takeWhile_append_of_head hdigits, hhead]
  split
  · rfl
  · split
    · rfl
    · split <;> rfl

theorem readServer_append (hs : isSpecial scheme = true) (h : IsCut t r)
    (user : List Char × Option (List Char)) : readServer scheme user (t ++ r) =
      (readServer scheme user t).map fun result => (result.1, result.2 ++ r) := by
  have happend := h.spanHost_append false
  obtain ⟨text, hspan | ⟨port, hspan, hport⟩⟩ := spanHost_cases h.before false
  · have hcolon : r.head? ≠ some ':' := fun hr => absurd (h.ends ':' hr) (by decide)
    rw [hspan, List.nil_append, ← hs] at happend
    rw [← hs] at hspan
    rw [readServer_of_not_colon user hspan nofun, readServer_of_not_colon user happend hcolon]
    cases readHost (isSpecial scheme) text with
    | error fault => rfl
    | ok host =>
      rw [Fallible.ok_bind, Fallible.ok_bind]
      split <;> rfl
  · have hcut : IsCut port r := h.of_suffix ((List.suffix_cons _ _).trans hport)
    rw [hspan, List.cons_append, ← hs] at happend
    rw [← hs] at hspan
    rw [readServer_of_colon user hspan, readServer_of_colon user happend, hcut.readPort_append]
    cases readHost (isSpecial scheme) text with
    | error fault => rfl
    | ok host =>
      rw [Fallible.ok_bind, Fallible.ok_bind]
      split
      · rfl
      · cases readPort scheme port <;> rfl

/-- Without a host a user is read, or refused because of the missing host. -/
theorem readUser_append (h : IsCut t r) :
    readUser true (t ++ r) = .ok ((userOf t).1, (userOf t).2 ++ r) ∨
      r ≠ [] ∧ (userOf t).2 = [] ∧ readUser true (t ++ r) = .error .emptyHost := by
  obtain ⟨htext, hrest⟩ := h.authority_eq
  rw [authorityText] at htext
  rw [authorityRest] at hrest
  rw [readUser, htext, hrest, userOf]
  cases splitLastAt t with
  | none => exact Or.inl rfl
  | some parts =>
    dsimp only
    split
    · next hafter => exact Or.inr ⟨nofun, hafter, rfl⟩
    · exact Or.inl rfl

theorem readAuthority_within (hs : isSpecial scheme = true) (h : IsWithin t) :
    readAuthority scheme t = readServer scheme (userOf t).1 (userOf t).2 := by
  have huser := h.cut_nil.readUser_append.resolve_right fun hne => hne.1 rfl
  rw [List.append_nil, List.append_nil] at huser
  rw [readAuthority_eq_bind, hs, huser]
  rfl

theorem readAuthority_append (hs : isSpecial scheme = true) (h : IsCut t r) :
    readAuthority scheme (t ++ r) =
      (readAuthority scheme t).map fun result => (result.1, result.2 ++ r) := by
  rw [readAuthority_within hs h.before, readAuthority_eq_bind, hs]
  rcases h.readUser_append with huser | ⟨-, hnil, huser⟩
  · rw [huser]
    exact (h.of_suffix (userOf_suffix t)).readServer_append hs _
  · rw [huser, hnil, readServer_nil hs]
    rfl

end IsCut

/-- With a special scheme an authority ends before the first character that ends one. -/
theorem readAuthority_eq (hs : isSpecial scheme = true) (cs : List Char) :
    readAuthority scheme cs =
      (authorityOf scheme (authorityText cs)).map fun authority =>
        (authority, authorityRest cs) := by
  have hcut := isCut_authority cs
  have happend := hcut.readAuthority_append hs
  have hwhole : authorityText cs ++ authorityRest cs = cs := List.takeWhile_append_dropWhile
  rw [hwhole] at happend
  rw [happend, authorityOf]
  cases hread : readAuthority scheme (authorityText cs) with
  | error fault => rfl
  | ok result =>
    rw [IsCut.readAuthority_within hs hcut.before] at hread
    have hrest := readServer_rest hs (hcut.before.of_suffix (userOf_suffix _)) hread
    rw [Except.map, hrest]
    rfl

theorem authorityOf_nil (hs : isSpecial scheme = true) :
    authorityOf scheme [] = .error .emptyHost := by
  rw [authorityOf, readAuthority_eq_bind, hs]
  exact congrArg _ (readServer_nil hs ([], none))

/-! ## Padding -/

/-- The text is padding, and not empty. -/
structure IsPadded (padding : List Char) : Prop where
  nonempty : padding ≠ []
  padding : ∀ c ∈ padding, isPadding c = true

namespace IsPadded

variable {padding : List Char}

/-- Padding has none of the characters that delimit a host. -/
theorem plain : ∀ n < 0x21, endsAuthority true (Char.ofNat n) = false ∧ Char.ofNat n ≠ ':' ∧
    Char.ofNat n ≠ '@' ∧ (Char.ofNat n).isDigit = false := by
  decide

theorem plain_of_mem (h : IsPadded padding) {c : Char} (hc : c ∈ padding) :
    endsAuthority true c = false ∧ c ≠ ':' ∧ c ≠ '@' ∧ c.isDigit = false := by
  have hle : c.toNat ≤ 0x20 := of_decide_eq_true (h.padding c hc)
  have hplain := plain c.toNat (by omega)
  rwa [Char.ofNat_toNat] at hplain

theorem spanHost_eq (h : ∀ c ∈ padding, endsAuthority true c = false ∧ c ≠ ':')
    (inside : Bool) : spanHost true inside padding = (padding, []) := by
  induction padding generalizing inside with
  | nil => rfl
  | cons c padding ih =>
    obtain ⟨hends, hcolon⟩ := h c List.mem_cons_self
    have hrest := fun inside' => ih (fun d hd => h d (List.mem_cons_of_mem _ hd)) inside'
    rw [spanHost, hends, decide_eq_false hcolon, Bool.false_and, Bool.or_self,
      if_neg Bool.false_ne_true, hrest]

/-- Padding goes on with a host, unless that has ended before. -/
theorem spanHost_append (h : ∀ c ∈ padding, endsAuthority true c = false ∧ c ≠ ':')
    (inside : Bool) (cs : List Char) : spanHost true inside (cs ++ padding) =
      if (spanHost true inside cs).2 = [] then ((spanHost true inside cs).1 ++ padding, [])
      else ((spanHost true inside cs).1, (spanHost true inside cs).2 ++ padding) := by
  induction cs generalizing inside with
  | nil => exact spanHost_eq h inside
  | cons c cs ih =>
    rw [List.cons_append, spanHost, spanHost]
    split
    · rfl
    · rw [ih]
      dsimp only
      split <;> rfl

theorem specialHost_append (h : IsPadded padding) (cs : List Char) :
    ∃ fault, specialHost (cs ++ padding) = .error fault := by
  obtain ⟨more, c, rfl⟩ : ∃ more c, padding = more ++ [c] :=
    ⟨_, _, (List.dropLast_append_getLast h.nonempty).symm⟩
  rw [← List.append_assoc]
  exact specialHost_padded (h.padding c (List.mem_append_right _ List.mem_cons_self)) _

theorem readPort_append (h : IsPadded padding) {cs : List Char} (hcs : IsWithin cs) :
    readPort scheme (cs ++ padding) = .error .badPort := by
  have hdigits : ∀ c ∈ padding.head?, c.isDigit = false := fun c hc =>
    (h.plain_of_mem (List.mem_of_head? hc)).2.2.2
  obtain ⟨c, rest, hrest⟩ := List.exists_cons_of_ne_nil
    (List.append_ne_nil_of_right_ne_nil (cs.dropWhile Char.isDigit) h.nonempty)
  have hmem : c ∈ cs.dropWhile Char.isDigit ++ padding := hrest ▸ List.mem_cons_self
  have hends : endsAuthority true c = false := by
    rcases List.mem_append.mp hmem with hc | hc
    · exact hcs c ((List.dropWhile_suffix _).subset hc)
    · exact (h.plain_of_mem hc).1
  unfold readPort
  dsimp only
  rw [Text.dropWhile_append_of_head hdigits, hrest, List.head?_cons, Option.any_some,
    endsPort_eq, hends]
  rfl

theorem readServer_append (hs : isSpecial scheme = true) (h : IsPadded padding) {cs : List Char}
    (hcs : IsWithin cs) (user : List Char × Option (List Char)) :
    ∃ fault, readServer scheme user (cs ++ padding) = .error fault := by
  have happend := spanHost_append
    (fun c hc => ⟨(h.plain_of_mem hc).1, (h.plain_of_mem hc).2.1⟩) false cs
  obtain ⟨text, hspan | ⟨port, hspan, hport⟩⟩ := spanHost_cases hcs false
  · -- the padding belongs to the host
    obtain ⟨fault, hfault⟩ := h.specialHost_append text
    have hne : (text ++ padding).isEmpty = false := by
      rw [List.isEmpty_eq_false_iff]
      exact List.append_ne_nil_of_right_ne_nil _ h.nonempty
    rw [hspan, if_pos rfl, ← hs] at happend
    rw [readServer_of_not_colon user happend nofun, readHost, if_pos hs, hne,
      if_neg Bool.false_ne_true, hfault]
    exact ⟨fault, rfl⟩
  · -- the padding follows a port
    rw [hspan, if_neg (List.cons_ne_nil _ _), List.cons_append, ← hs] at happend
    rw [readServer_of_colon user happend,
      h.readPort_append ((hcs.of_suffix hport).of_suffix (List.suffix_cons _ _))]
    cases readHost (isSpecial scheme) text with
    | error fault => exact ⟨fault, rfl⟩
    | ok host =>
      rw [Fallible.ok_bind]
      split
      · exact ⟨_, rfl⟩
      · exact ⟨_, rfl⟩

theorem isWithin_append (h : IsPadded padding) {cs : List Char} (hcs : IsWithin cs) :
    IsWithin (cs ++ padding) := by
  intro c hc
  rcases List.mem_append.mp hc with hc | hc
  · exact hcs c hc
  · exact (h.plain_of_mem hc).1

end IsPadded

/-- No authority ends with padding. -/
theorem authorityOf_padded (hs : isSpecial scheme = true) {padding : List Char}
    (h : IsPadded padding) (ht : IsWithin t) :
    ∃ fault, authorityOf scheme (t ++ padding) = .error fault := by
  have hpadding : '@' ∉ padding := fun hat => (h.plain_of_mem hat).2.2.1 rfl
  obtain ⟨fault, hfault⟩ :=
    h.readServer_append hs (ht.of_suffix (userOf_suffix t)) (userOf t).1
  refine ⟨fault, ?_⟩
  rw [authorityOf, IsCut.readAuthority_within hs (h.isWithin_append ht),
    userOf_append t hpadding, hfault]
  rfl

end Url

end DavCourier
