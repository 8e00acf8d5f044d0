import DavCourier.Proofs.Dav.Document

/-!
# Rendering a report and reading it back

`parse_render` : what a rendered report is read as. Entries in order make a report with these
entries (`entries_ofList`), so a report whose entries are settled and have a reference comes
back as it was. Whatever is read is settled (`isSettled_of_parse`), so a report that was read
comes back too, unless it has an entry with an empty reference : `parse_render_of_parse`.
-/

namespace DavCourier.Dav

open Markup Fallible

namespace Resource

/-- Nothing of the entry is lost in a rendered report, if it has a reference. -/
structure IsSettled (r : Resource) : Prop where
  href : Text.trim r.href = r.href
  contentType : r.contentType ≠ some ""
  etag : r.etag ≠ some ""
  creationDate : r.creationDate ≠ some ""
  lastModified : r.lastModified ≠ some ""

instance (r : Resource) : Decidable r.IsSettled :=
  decidable_of_iff (Text.trim r.href = r.href ∧ r.contentType ≠ some "" ∧ r.etag ≠ some "" ∧
      r.creationDate ≠ some "" ∧ r.lastModified ≠ some "")
    ⟨fun ⟨h, h₁, h₂, h₃, h₄⟩ => ⟨h, h₁, h₂, h₃, h₄⟩, fun ⟨h, h₁, h₂, h₃, h₄⟩ => ⟨h, h₁, h₂, h₃, h₄⟩⟩

theorem nonEmpty_eq_self {value : Option String} (h : value ≠ some "") :
    nonEmpty value = value := by
  cases value with
  | none => rfl
  | some text =>
    have hne : text ≠ "" := fun heq => h (heq ▸ rfl)
    rw [nonEmpty, Option.filter_some, if_pos (by simpa using hne)]

theorem IsSettled.readBack_eq {r : Resource} (h : r.IsSettled) : r.readBack = r := by
  unfold readBack
  rw [h.href, nonEmpty_eq_self h.contentType, nonEmpty_eq_self h.etag,
    nonEmpty_eq_self h.creationDate, nonEmpty_eq_self h.lastModified]

end Resource

namespace MultiStatus

/-! ## Reports from lists of entries -/

theorem insertEntry_eq_append {r : Resource} {es : List Resource} (h : ∀ e ∈ es, Before e r) :
    insertEntry r es = es ++ [r] := by
  induction es with
  | nil => rfl
  | cons e es ih =>
    have hlt : e.href < r.href := h e List.mem_cons_self
    have hne : r.href ≠ e.href := fun heq => String.lt_irrefl _ (heq ▸ hlt)
    have hnlt : ¬ r.href < e.href := fun hgt => String.lt_irrefl _ (String.lt_trans hlt hgt)
    rw [insertEntry, if_neg hne, if_neg hnlt, ih fun x hx => h x (List.mem_cons_of_mem _ hx)]
    rfl

theorem entries_foldl_insert {m : MultiStatus} {rs : List Resource}
    (h : (m.entries ++ rs).Pairwise Before) :
    (rs.foldl insert m).entries = m.entries ++ rs := by
  induction rs generalizing m with
  | nil => exact (List.append_nil _).symm
  | cons r rs ih =>
    have hlast : (m.insert r).entries = m.entries ++ [r] :=
      insertEntry_eq_append fun e he =>
        (List.pairwise_append.mp h).2.2 e he r List.mem_cons_self
    have hassoc : (m.insert r).entries ++ rs = m.entries ++ r :: rs := by
      rw [hlast, List.append_assoc, List.singleton_append]
    rw [List.foldl_cons, ih (hassoc ▸ h), hassoc]

/-- Entries in order make a report with these entries. -/
theorem entries_ofList {rs : List Resource} (h : rs.Pairwise Before) :
    (ofList rs).entries = rs :=
  entries_foldl_insert h

theorem mem_foldl_insert {m : MultiStatus} {rs : List Resource} {x : Resource}
    (h : x ∈ (rs.foldl insert m).entries) : x ∈ m.entries ∨ x ∈ rs := by
  induction rs generalizing m with
  | nil => exact Or.inl h
  | cons r rs ih =>
    rcases ih h with hm | hrs
    · rcases mem_insert.mp hm with rfl | ⟨hm, -⟩
      · exact Or.inr List.mem_cons_self
      · exact Or.inl hm
    · exact Or.inr (List.mem_cons_of_mem _ hrs)

theorem mem_of_mem_ofList {rs : List Resource} {x : Resource} (h : x ∈ (ofList rs).entries) :
    x ∈ rs := by
  rcases mem_foldl_insert h with h | h
  · cases h
  · exact h

/-- References in the order of their characters are in the order of their bytes. -/
theorem sorted_bytes (m : MultiStatus) : m.entries.Pairwise fun a b =>
    Utf8.encodeString a.href < Utf8.encodeString b.href :=
  m.sorted.imp fun h => Utf8.encode_lt_encode h

theorem get?_eq_none_iff {m : MultiStatus} {href : String} :
    m.get? href = none ↔ ∀ r ∈ m.entries, r.href ≠ href := by
  simp [get?]

/-! ## Rendered reports -/

/-- What comes back of a report. -/
def readBack (m : MultiStatus) : MultiStatus :=
  ofList ((m.entries.filter fun r => r.href ≠ "").map Resource.readBack)

theorem parse_render_eq (m : MultiStatus) :
    parse (Utf8.encodeString m.render) = .ok (some m.readBack) := by
  rw [parse, read_render]
  exact congrArg Except.ok (ofNode?_rootNode m)

/-- Entries whose references are not trimmed come back one by one. -/
theorem entries_readBack_of_href {m : MultiStatus}
    (h : ∀ r ∈ m.entries, Text.trim r.href = r.href ∧ r.href ≠ "") :
    m.readBack.entries = m.entries.map Resource.readBack := by
  have hfilter : (m.entries.filter fun r => r.href ≠ "") = m.entries :=
    List.filter_eq_self.mpr fun r hr => decide_eq_true (h r hr).2
  rw [readBack, hfilter]
  refine entries_ofList (List.pairwise_map.mpr (m.sorted.imp_of_mem ?_))
  intro a b ha hb hlt
  have ha' : a.readBack.href = a.href := (h a ha).1
  have hb' : b.readBack.href = b.href := (h b hb).1
  rwa [Before, ha', hb']

/-- Of settled entries those with a reference come back. -/
theorem entries_readBack {m : MultiStatus} (h : ∀ r ∈ m.entries, r.IsSettled) :
    m.readBack.entries = m.entries.filter fun r => r.href ≠ "" := by
  have hmap : (m.entries.filter fun r => r.href ≠ "").map Resource.readBack =
      (m.entries.filter fun r => r.href ≠ "").map id :=
    List.map_congr_left fun r hr => (h r (List.mem_of_mem_filter hr)).readBack_eq
  rw [readBack, hmap, List.map_id]
  exact entries_ofList (m.sorted.filter _)

/-- Settled entries come back as they were if and only if all have a reference. -/
theorem readBack_eq_self_iff {m : MultiStatus} (h : ∀ r ∈ m.entries, r.IsSettled) :
    m.readBack = m ↔ ∀ r ∈ m.entries, r.href ≠ "" := by
  have hentries := entries_readBack h
  constructor
  · intro heq
    rw [heq] at hentries
    simpa using List.filter_eq_self.mp hentries.symm
  · intro hne
    refine ext_entries (hentries.trans (List.filter_eq_self.mpr ?_))
    simpa using hne

/-- A rendered report is a text in UTF-8 with the entries in the order of the bytes of their
references, and it is read as a report with those entries that have a reference. It comes back
as it was if all have one and none has blanks around it or an empty property. -/
theorem parse_render (m : MultiStatus) :
    Utf8.decodeString (Utf8.encodeString m.render) = .ok m.render ∧
      (m.entries.Pairwise fun a b => Utf8.encodeString a.href < Utf8.encodeString b.href) ∧
      parse (Utf8.encodeString m.render) = .ok (some
        (ofList ((m.entries.filter fun r => r.href ≠ "").map Resource.readBack))) ∧
      ((∀ r ∈ m.entries, r.href ≠ "" ∧ r.IsSettled) →
        parse (Utf8.encodeString m.render) = .ok (some m)) := by
  refine ⟨Utf8.decodeString_encodeString _, sorted_bytes m, parse_render_eq m, fun h => ?_⟩
  have hself := (readBack_eq_self_iff fun r hr => (h r hr).2).mpr fun r hr => (h r hr).1
  rw [parse_render_eq, hself]

theorem parse_render_markup :
    parse (Utf8.encodeString
        (empty.insert { href := "/<a> &", etag := some "'\"\n", status := 200 }).render) =
      .ok (some (empty.insert { href := "/<a> &", etag := some "'\"\n", status := 200 })) :=
  (parse_render _).2.2.2 (by decide)

/-! ## Reports that were read -/

theorem text?_ne_empty (node : Node) : node.text? ≠ some "" := by
  unfold Node.text?
  split
  · exact nofun
  · next hne =>
    intro h
    rw [Option.some.injEq, String.ofList_eq_empty_iff] at h
    exact hne h

theorem childText?_ne_empty (node : Node) (name : String) : node.childText? name ≠ some "" := by
  intro h
  obtain ⟨child, -, htext⟩ := Option.bind_eq_some_iff.mp h
  exact text?_ne_empty child htext

theorem isSettled_withProperties {qualifier : Option String} {r : Resource} {prop : Node}
    (h : Text.trim r.href = r.href) : (withProperties qualifier r prop).IsSettled :=
  ⟨h, childText?_ne_empty _ _, childText?_ne_empty _ _, childText?_ne_empty _ _,
    childText?_ne_empty _ _⟩

theorem isSettled_withStatusLine {r : Resource} (h : r.IsSettled) (line : String) :
    (r.withStatusLine line).IsSettled :=
  ⟨h.href, h.contentType, h.etag, h.creationDate, h.lastModified⟩

theorem isSettled_withPropstat {qualifier : Option String} {r : Resource} {propstat : Node}
    (h : r.IsSettled) : (withPropstat qualifier r propstat).IsSettled := by
  unfold withPropstat
  split
  · exact h
  · dsimp only
    split
    · exact isSettled_withStatusLine (isSettled_withProperties h.href) _
    · exact isSettled_withProperties h.href

theorem isSettled_of_resourceOf? {qualifier : Option String} {response : Node} {r : Resource}
    (h : resourceOf? qualifier response = some r) : r.IsSettled := by
  obtain ⟨href, -, rfl⟩ := Option.map_eq_some_iff.mp h
  have hstart : ({ href := Text.trim href } : Resource).IsSettled :=
    ⟨Text.trim_trim href, nofun, nofun, nofun, nofun⟩
  dsimp only
  split
  · exact isSettled_withPropstat hstart
  · exact hstart

/-- Whatever is read is settled. -/
theorem isSettled_of_parse {bs : Bytes} {m : MultiStatus} (h : parse bs = .ok (some m)) :
    ∀ r ∈ m.entries, r.IsSettled := by
  obtain ⟨root, -, hroot⟩ := map_eq_ok.mp h
  unfold ofNode? at hroot
  split at hroot
  · cases hroot
  · split at hroot
    · cases hroot
      intro r hr
      obtain ⟨response, -, hresource⟩ := List.mem_filterMap.mp (mem_of_mem_ofList hr)
      exact isSettled_of_resourceOf? hresource
    · cases hroot

/-- Rendered and read again, a report that was read keeps its entries with a reference. It is
the same report if and only if it has no entry with an empty one. -/
theorem parse_render_of_parse {bs : Bytes} {m : MultiStatus} (h : parse bs = .ok (some m)) :
    (∃ m', parse (Utf8.encodeString m.render) = .ok (some m') ∧
      m'.entries = m.entries.filter fun r => r.href ≠ "") ∧
    (parse (Utf8.encodeString m.render) = .ok (some m) ↔ m.get? "" = none) := by
  have hsettled := isSettled_of_parse h
  have hiff : parse (Utf8.encodeString m.render) = .ok (some m) ↔ m.readBack = m := by
    rw [parse_render_eq, Except.ok.injEq, Option.some.injEq]
  exact ⟨⟨m.readBack, parse_render_eq m, entries_readBack hsettled⟩,
    hiff.trans ((readBack_eq_self_iff hsettled).trans get?_eq_none_iff.symm)⟩

theorem parse_render_of_parse_cdata :
    parse (Utf8.encodeString ("<multistatus xmlns=\"DAV:\"><response><href> <![CDATA[/<a>]]>" ++
        "</href></response></multistatus>")) = .ok (some (empty.insert { href := "/<a>" })) ∧
      parse (Utf8.encodeString (empty.insert { href := "/<a>" }).render) =
        .ok (some (empty.insert { href := "/<a>" })) := by
  have h : parse (Utf8.encodeString ("<multistatus xmlns=\"DAV:\"><response><href> " ++
      "<![CDATA[/<a>]]></href></response></multistatus>")) =
        .ok (some (empty.insert { href := "/<a>" })) := by
    decide +kernel
  exact ⟨h, (parse_render_of_parse h).2.mpr rfl⟩

/-- A reference of blanks is read as an empty one, and its entry is lost with the next
reading. -/
theorem parse_render_blank_href :
    parse (Utf8.encodeString ("<D:multistatus xmlns:D=\"DAV:\"><D:response><D:href> </D:href>" ++
        "</D:response></D:multistatus>")) = .ok (some (empty.insert { href := "" })) ∧
      parse (Utf8.encodeString (empty.insert { href := "" }).render) = .ok (some empty) ∧
      empty.insert { href := "" } ≠ empty := by
  refine ⟨by decide +kernel, ?_, by decide⟩
  rw [parse_render_eq]
  rfl

end MultiStatus

end DavCourier.Dav
