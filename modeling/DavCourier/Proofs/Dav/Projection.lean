import DavCourier.Proofs.Dav.RoundTrip
import Mathlib.Data.List.Induction

/-!
# What a report says of its document

`IsReportOf` says which report belongs to the nodes inside a root, without reading them in turn :
its entry for a reference is the projection of the last response with this reference
(`Projects`), and at each level the first element with a name counts. Of all reports just one
belongs to the nodes (`IsReportOf.unique`), and it is the one that is read : `parse_projects`.

The report is made by putting one entry after the other into it, which leaves the last entry for
each reference (`get?_ofList`). So responses with different references may come in any order.
-/

namespace DavCourier

/-! ## First and last members -/

section

variable {α β : Type}

/-- The first member of a list with a property. -/
def IsFirst (P : α → Prop) (as : List α) (a : α) : Prop :=
  ∃ before after, as = before ++ a :: after ∧ P a ∧ ∀ b ∈ before, ¬ P b

/-- The last member of a list with a property. -/
def IsLast (P : α → Prop) (as : List α) (a : α) : Prop :=
  ∃ before after, as = before ++ a :: after ∧ P a ∧ ∀ b ∈ after, ¬ P b

variable {P : α → Prop} {as : List α} {a : α}

theorem isFirst_iff_find? {p : α → Bool} :
    IsFirst (fun a => p a = true) as a ↔ as.find? p = some a := by
  rw [List.find?_eq_some_iff_append]
  constructor
  · rintro ⟨before, after, has, ha, hbefore⟩
    exact ⟨ha, before, after, has, by simpa using hbefore⟩
  · rintro ⟨ha, before, after, has, hbefore⟩
    exact ⟨before, after, has, ha, by simpa using hbefore⟩

theorem IsFirst.mem (h : IsFirst P as a) : a ∈ as ∧ P a := by
  obtain ⟨before, after, rfl, ha, -⟩ := h
  exact ⟨List.mem_append_right _ List.mem_cons_self, ha⟩

theorem IsLast.mem (h : IsLast P as a) : a ∈ as ∧ P a := by
  obtain ⟨before, after, rfl, ha, -⟩ := h
  exact ⟨List.mem_append_right _ List.mem_cons_self, ha⟩

theorem isLast_concat {b : α} :
    IsLast P (as ++ [b]) a ↔ P b ∧ a = b ∨ ¬ P b ∧ IsLast P as a := by
  constructor
  · rintro ⟨before, after, has, ha, hafter⟩
    rcases List.eq_nil_or_concat' after with rfl | ⟨after, c, rfl⟩
    · obtain ⟨rfl, hb⟩ := List.append_inj' has rfl
      obtain rfl : b = a := by simpa using hb
      exact Or.inl ⟨ha, rfl⟩
    · rw [← List.cons_append, ← List.append_assoc] at has
      obtain ⟨rfl, hb⟩ := List.append_inj' has rfl
      obtain rfl : b = c := by simpa using hb
      exact Or.inr ⟨hafter b (List.mem_append_right _ List.mem_cons_self), before, after, rfl, ha,
        fun x hx => hafter x (List.mem_append_left _ hx)⟩
  · rintro (⟨hb, rfl⟩ | ⟨hb, before, after, rfl, ha, hafter⟩)
    · exact ⟨as, [], rfl, hb, nofun⟩
    · refine ⟨before, after ++ [b], by simp, ha, fun x hx => ?_⟩
      rcases List.mem_append.mp hx with hx | hx
      · exact hafter x hx
      · rwa [List.mem_singleton.mp hx]

theorem exists_isLast_iff : (∃ a, IsLast P as a) ↔ ∃ a ∈ as, P a := by
  refine ⟨fun ⟨a, h⟩ => ⟨a, h.mem⟩, ?_⟩
  rintro ⟨a, hmem, ha⟩
  induction as using List.reverseRecOn with
  | nil => cases hmem
  | append_singleton as b ih =>
    by_cases hb : P b
    · exact ⟨b, isLast_concat.mpr (Or.inl ⟨hb, rfl⟩)⟩
    · have hmem' : a ∈ as := by
        refine (List.mem_append.mp hmem).resolve_right fun h => hb ?_
        rwa [← List.mem_singleton.mp h]
      obtain ⟨c, hc⟩ := ih hmem'
      exact ⟨c, isLast_concat.mpr (Or.inr ⟨hb, hc⟩)⟩

/-- The last result with a property is that of the last member with such a result. -/
theorem isLast_filterMap {f : α → Option β} {Q : β → Prop} {b : β} :
    IsLast Q (as.filterMap f) b ↔
      ∃ a, IsLast (fun a => ∃ b, f a = some b ∧ Q b) as a ∧ f a = some b := by
  induction as using List.reverseRecOn with
  | nil =>
    have hnil : ∀ {γ : Type} {R : γ → Prop} {c : γ}, ¬ IsLast R [] c := fun h => by
      simpa using h.mem.1
    exact iff_of_false hnil fun ⟨a, ha, _⟩ => hnil ha
  | append_singleton as x ih =>
    rw [List.filterMap_append]
    cases hx : f x with
    | none =>
      have hskip : ∀ a, IsLast (fun a => ∃ b, f a = some b ∧ Q b) (as ++ [x]) a ↔
          IsLast (fun a => ∃ b, f a = some b ∧ Q b) as a := fun a => by
        rw [isLast_concat]
        simp [hx]
      simp only [List.filterMap_cons_none hx, List.filterMap_nil, List.append_nil, ih, hskip]
    | some y =>
      simp only [List.filterMap_cons_some hx, List.filterMap_nil, isLast_concat, hx,
        Option.some.injEq, exists_eq_left', ih]
      constructor
      · rintro (⟨hy, rfl⟩ | ⟨hy, a, ha, hb⟩)
        · exact ⟨x, Or.inl ⟨hy, rfl⟩, hx⟩
        · exact ⟨a, Or.inr ⟨hy, ha⟩, hb⟩
      · rintro ⟨a, ⟨hy, rfl⟩ | ⟨hy, ha⟩, hb⟩
        · exact Or.inl ⟨hy, Option.some.inj (hb.symm.trans hx)⟩
        · exact Or.inr ⟨hy, a, ha, hb⟩

end

/-! ## Texts and elements of a node -/

namespace Markup.Node

variable {node : Node} {name : String} {value : Option String}

/-- The texts below a node, put together. -/
def ownText (node : Node) : String :=
  String.join (node.children.map fun
    | .text content => content
    | .element _ _ => "")

/-- The value is the text of the first element with this name, if it is not empty. -/
def Gives (node : Node) (name : String) (value : Option String) : Prop :=
  ∀ t, value = some t ↔ t ≠ "" ∧
    ∃ child, IsFirst (fun n => n.isNamed name = true) node.children child ∧ child.ownText = t

theorem text?_eq_some_iff {t : String} : node.text? = some t ↔ t ≠ "" ∧ node.ownText = t := by
  have hown : node.ownText = String.ofList (node.children.flatMap characters) := by
    apply String.toList_injective
    rw [ownText, String.toList_join, List.flatMap_map, String.toList_ofList]
    congr 1
    funext child
    cases child <;> rfl
  rw [hown, text?]
  split
  · next hnil =>
    rw [hnil]
    exact iff_of_false nofun fun ⟨hne, heq⟩ => hne heq.symm
  · next hne =>
    rw [Option.some.injEq]
    refine ⟨fun heq => ⟨?_, heq⟩, And.right⟩
    rwa [← heq, Ne, String.ofList_eq_empty_iff]

theorem isFirst_iff_child? {child : Node} :
    IsFirst (fun n => n.isNamed name = true) node.children child ↔
      node.child? name = some child :=
  isFirst_iff_find?

theorem childText?_eq_some_iff {t : String} : node.childText? name = some t ↔ t ≠ "" ∧
    ∃ child, IsFirst (fun n => n.isNamed name = true) node.children child ∧ child.ownText = t := by
  simp only [childText?, Option.bind_eq_some_iff, text?_eq_some_iff, isFirst_iff_child?]
  constructor
  · rintro ⟨child, hchild, hne, ht⟩
    exact ⟨hne, child, hchild, ht⟩
  · rintro ⟨hne, child, hchild, ht⟩
    exact ⟨child, hchild, hne, ht⟩

theorem gives_iff : node.Gives name value ↔ value = node.childText? name := by
  rw [Gives]
  constructor
  · intro h
    refine Option.ext fun t => ?_
    rw [h t, childText?_eq_some_iff]
  · rintro rfl t
    exact childText?_eq_some_iff

theorem isSome_child?_iff :
    (node.child? name).isSome = true ↔ ∃ child ∈ node.children, child.isNamed name = true := by
  rw [child?, List.find?_isSome]

end Markup.Node

namespace Dav

open Markup Fallible

/-! ## Projections -/

/-- The response has this reference : the text of its first `href`, without blanks around it. -/
def HasReference (qualifier : Option String) (response : Node) (href : String) : Prop :=
  ∃ child, IsFirst (fun n => n.isNamed (qualified qualifier "href") = true) response.children
    child ∧ child.ownText ≠ "" ∧ Text.trim child.ownText = href

/-- The first `propstat` of a response that has a `prop`. -/
def IsUsable (qualifier : Option String) (response propstat : Node) : Prop :=
  IsFirst (fun n => n.isNamed (qualified qualifier "propstat") = true ∧
    ∃ prop ∈ n.children, prop.isNamed (qualified qualifier "prop") = true) response.children
    propstat

/-- What a `propstat` with this `prop` says of a resource. -/
structure Tells (qualifier : Option String) (propstat prop : Node) (r : Resource) : Prop where
  contentType : prop.Gives (qualified qualifier "getcontenttype") r.contentType
  etag : prop.Gives (qualified qualifier "getetag") r.etag
  creationDate : prop.Gives (qualified qualifier "creationdate") r.creationDate
  lastModified : prop.Gives (qualified qualifier "getlastmodified") r.lastModified
  isCollection : r.isCollection = true ↔ ∃ kind,
    IsFirst (fun n => n.isNamed (qualified qualifier "resourcetype") = true) prop.children kind ∧
      ∃ child ∈ kind.children, child.isNamed (qualified qualifier "collection") = true
  status : ∃ line, propstat.Gives (qualified qualifier "status") line ∧
    r.status = line.elim 0 statusOfLine

/-- The entry of a response. Without a `propstat` of use it has no more than the reference. -/
def Projects (qualifier : Option String) (response : Node) (r : Resource) : Prop :=
  HasReference qualifier response r.href ∧
    ((∃ propstat prop, IsUsable qualifier response propstat ∧
        IsFirst (fun n => n.isNamed (qualified qualifier "prop") = true) propstat.children prop ∧
        Tells qualifier propstat prop r) ∨
      (¬ ∃ propstat, IsUsable qualifier response propstat) ∧ r = { href := r.href })

/-- The report of the nodes inside a root with this prefix : for each reference the entry of the
last response with it. -/
def IsReportOf (qualifier : Option String) (children : List Node) (m : MultiStatus) : Prop :=
  ∀ href r, m.get? href = some r ↔ ∃ response,
    IsLast (fun n => n.isNamed (qualified qualifier "response") = true ∧
      HasReference qualifier n href) children response ∧ Projects qualifier response r

section

variable {qualifier : Option String} {response propstat prop : Node} {r : Resource} {href : String}

theorem hasReference_iff : HasReference qualifier response href ↔
    ∃ t, response.childText? (qualified qualifier "href") = some t ∧ Text.trim t = href := by
  simp only [HasReference, Node.childText?_eq_some_iff]
  constructor
  · rintro ⟨child, hchild, hne, htrim⟩
    exact ⟨_, ⟨hne, child, hchild, rfl⟩, htrim⟩
  · rintro ⟨_, ⟨hne, child, hchild, rfl⟩, htrim⟩
    exact ⟨child, hchild, hne, htrim⟩

theorem HasReference.unique {href' : String} (h : HasReference qualifier response href)
    (h' : HasReference qualifier response href') : href = href' := by
  obtain ⟨t, ht, rfl⟩ := hasReference_iff.mp h
  obtain ⟨t', ht', rfl⟩ := hasReference_iff.mp h'
  rw [Option.some.inj (ht.symm.trans ht')]

theorem isUsable_iff : IsUsable qualifier response propstat ↔
    MultiStatus.propstat? qualifier response = some propstat := by
  have hcongr : (fun n : Node => n.isNamed (qualified qualifier "propstat") = true ∧
      ∃ prop ∈ n.children, prop.isNamed (qualified qualifier "prop") = true) = fun n =>
        (n.isNamed (qualified qualifier "propstat") &&
          (n.child? (qualified qualifier "prop")).isSome) = true := by
    funext n
    rw [Bool.and_eq_true, Node.isSome_child?_iff]
  rw [IsUsable, hcongr, isFirst_iff_find?, MultiStatus.propstat?, Node.childrenNamed,
    List.find?_filter]
  simp only [Bool.decide_and, Bool.decide_eq_true]

theorem marksCollection_iff : MultiStatus.marksCollection qualifier prop = true ↔ ∃ kind,
    IsFirst (fun n => n.isNamed (qualified qualifier "resourcetype") = true) prop.children kind ∧
      ∃ child ∈ kind.children, child.isNamed (qualified qualifier "collection") = true := by
  simp only [Node.isFirst_iff_child?, MultiStatus.marksCollection]
  cases prop.child? (qualified qualifier "resourcetype") with
  | none => simp
  | some kind => simp [Node.isSome_child?_iff]

/-- What a `propstat` tells of a resource is all that is known of it but for its reference. -/
theorem tells_iff (hprop : propstat.child? (qualified qualifier "prop") = some prop) :
    Tells qualifier propstat prop r ↔
      r = MultiStatus.withPropstat qualifier { href := r.href } propstat := by
  have hwith : MultiStatus.withPropstat qualifier { href := r.href } propstat =
      { href := r.href
        contentType := prop.childText? (qualified qualifier "getcontenttype")
        etag := prop.childText? (qualified qualifier "getetag")
        creationDate := prop.childText? (qualified qualifier "creationdate")
        lastModified := prop.childText? (qualified qualifier "getlastmodified")
        isCollection := MultiStatus.marksCollection qualifier prop
        status := (propstat.childText? (qualified qualifier "status")).elim 0 statusOfLine } := by
    rw [MultiStatus.withPropstat, hprop]
    cases propstat.childText? (qualified qualifier "status") <;> rfl
  rw [hwith]
  constructor
  · rintro ⟨htype, hetag, hcreation, hmodified, hcollection, line, hline, hstatus⟩
    rw [Node.gives_iff] at htype hetag hcreation hmodified hline
    rw [← marksCollection_iff, ← Bool.eq_iff_iff] at hcollection
    rw [← htype, ← hetag, ← hcreation, ← hmodified, ← hcollection, ← hline, ← hstatus]
  · intro heq
    rw [heq]
    exact ⟨Node.gives_iff.mpr rfl, Node.gives_iff.mpr rfl, Node.gives_iff.mpr rfl,
      Node.gives_iff.mpr rfl, marksCollection_iff, _, Node.gives_iff.mpr rfl, rfl⟩

theorem href_withPropstat (r : Resource) (propstat : Node) :
    (MultiStatus.withPropstat qualifier r propstat).href = r.href := by
  unfold MultiStatus.withPropstat
  split
  · rfl
  · dsimp only
    split <;> rfl

/-- The entry that is made of a response is its projection. -/
theorem resourceOf?_eq_some_iff :
    MultiStatus.resourceOf? qualifier response = some r ↔ Projects qualifier response r := by
  constructor
  · intro h
    obtain ⟨t, ht, rfl⟩ := Option.map_eq_some_iff.mp h
    cases hpropstat : MultiStatus.propstat? qualifier response with
    | none =>
      refine ⟨hasReference_iff.mpr ⟨t, ht, rfl⟩, Or.inr ⟨?_, rfl⟩⟩
      rintro ⟨propstat, husable⟩
      rw [isUsable_iff, hpropstat] at husable
      cases husable
    | some propstat =>
      have husable := isUsable_iff.mpr hpropstat
      obtain ⟨prop, hprop⟩ :=
        Option.isSome_iff_exists.mp (Node.isSome_child?_iff.mpr husable.mem.2.2)
      dsimp only
      have hhref := @href_withPropstat qualifier { href := Text.trim t } propstat
      refine ⟨hasReference_iff.mpr ⟨t, ht, hhref.symm⟩, Or.inl ⟨propstat, prop, husable,
        Node.isFirst_iff_child?.mpr hprop, ?_⟩⟩
      rw [tells_iff hprop, href_withPropstat]
  · rintro ⟨href, hrest⟩
    obtain ⟨t, ht, htrim⟩ := hasReference_iff.mp href
    rw [MultiStatus.resourceOf?, ht, Option.map_some, htrim, Option.some.injEq]
    rcases hrest with ⟨propstat, prop, husable, hprop, htells⟩ | ⟨hnone, hr⟩
    · rw [isUsable_iff.mp husable]
      exact ((tells_iff (Node.isFirst_iff_child?.mp hprop)).mp htells).symm
    · cases hpropstat : MultiStatus.propstat? qualifier response with
      | none => exact hr.symm
      | some propstat => exact absurd ⟨propstat, isUsable_iff.mpr hpropstat⟩ hnone

/-- A response has a projection exactly if it has a reference, and it is that of the projection. -/
theorem exists_projects_iff : (∃ r, Projects qualifier response r ∧ r.href = href) ↔
    HasReference qualifier response href := by
  constructor
  · rintro ⟨r, hr, rfl⟩
    exact hr.1
  · intro h
    obtain ⟨t, ht, rfl⟩ := hasReference_iff.mp h
    obtain ⟨r, hr⟩ : ∃ r, MultiStatus.resourceOf? qualifier response = some r := by
      rw [MultiStatus.resourceOf?, ht]
      exact ⟨_, rfl⟩
    have hprojects := resourceOf?_eq_some_iff.mp hr
    exact ⟨r, hprojects, hprojects.1.unique h⟩

end

/-! ## Entries by their references -/

namespace MultiStatus

variable {m n : MultiStatus} {href : String} {r : Resource} {rs : List Resource}

theorem get?_eq_some_iff : m.get? href = some r ↔ r ∈ m.entries ∧ r.href = href := by
  constructor
  · intro h
    exact ⟨List.mem_of_find?_eq_some h, by simpa using List.find?_some h⟩
  · rintro ⟨hr, rfl⟩
    obtain ⟨before, after, hentries⟩ := List.append_of_mem hr
    have hsorted := m.sorted
    rw [hentries] at hsorted
    refine isFirst_iff_find?.mp ⟨before, after, hentries, by simp, fun e he heq => ?_⟩
    have hlt : e.href < r.href := (List.pairwise_append.mp hsorted).2.2 e he r List.mem_cons_self
    exact String.lt_irrefl _ ((of_decide_eq_true heq) ▸ hlt)

/-- A report is known by its entries for all references. -/
theorem ext_get? (h : ∀ href, m.get? href = n.get? href) : m = n := by
  have hmem : ∀ r, r ∈ m.entries ↔ r ∈ n.entries := fun r => by
    have hm := @get?_eq_some_iff m r.href r
    rw [h, get?_eq_some_iff] at hm
    simpa using hm.symm
  have hnodup : ∀ m : MultiStatus, m.entries.Nodup := by
    refine fun m => m.sorted.imp ?_
    rintro a _ hlt rfl
    exact String.lt_irrefl _ hlt
  refine ext_entries (List.Perm.eq_of_pairwise (fun a b _ _ hab hba => ?_) m.sorted n.sorted
    ((List.perm_ext_iff_of_nodup (hnodup m) (hnodup n)).mpr hmem))
  exact absurd (String.lt_trans hab hba) (String.lt_irrefl _)

theorem get?_insert :
    (m.insert r).get? href = if r.href = href then some r else m.get? href := by
  refine Option.ext fun x => ?_
  split
  · next heq =>
    subst heq
    rw [get?_eq_some_iff, mem_insert, Option.some.injEq]
    constructor
    · rintro ⟨rfl | ⟨-, hne⟩, heq⟩
      · rfl
      · exact absurd heq hne
    · rintro rfl
      exact ⟨Or.inl rfl, rfl⟩
  · next hne =>
    rw [get?_eq_some_iff, get?_eq_some_iff, mem_insert]
    constructor
    · rintro ⟨rfl | ⟨hx, -⟩, heq⟩
      · exact absurd heq hne
      · exact ⟨hx, heq⟩
    · rintro ⟨hx, rfl⟩
      exact ⟨Or.inr ⟨hx, Ne.symm hne⟩, rfl⟩

/-- Of several entries with one reference the last counts. -/
theorem get?_ofList :
    (ofList rs).get? href = some r ↔ IsLast (fun r => r.href = href) rs r := by
  induction rs using List.reverseRecOn with
  | nil => exact iff_of_false nofun fun h => by simpa using h.mem.1
  | append_singleton rs x ih =>
    rw [isLast_concat, ← ih, ofList, List.foldl_append]
    show ((ofList rs).insert x).get? href = some r ↔ _
    rw [get?_insert]
    split
    · next hx => simp [hx, eq_comm]
    · next hx => simp [hx]

end MultiStatus

/-! ## Reports -/

section

variable {qualifier : Option String} {children : List Node} {m n : MultiStatus}

theorem IsReportOf.unique (hm : IsReportOf qualifier children m)
    (hn : IsReportOf qualifier children n) : m = n :=
  MultiStatus.ext_get? fun href => Option.ext fun r => (hm href r).trans (hn href r).symm

/-- The entries of the responses, put into a report one after the other. -/
theorem isReportOf_ofList : IsReportOf qualifier children (.ofList
    ((children.filter (Node.isNamed (qualified qualifier "response"))).filterMap
      (MultiStatus.resourceOf? qualifier))) := by
  intro href r
  have hkeys : (fun n : Node => ∃ r, (if n.isNamed (qualified qualifier "response") = true then
      MultiStatus.resourceOf? qualifier n else none) = some r ∧ r.href = href) = fun n =>
        n.isNamed (qualified qualifier "response") = true ∧ HasReference qualifier n href := by
    funext n
    simp only [Option.ite_none_right_eq_some, resourceOf?_eq_some_iff, and_assoc,
      exists_and_left, exists_projects_iff]
  rw [MultiStatus.get?_ofList, List.filterMap_filter, isLast_filterMap, hkeys]
  simp only [Option.ite_none_right_eq_some, resourceOf?_eq_some_iff]
  exact exists_congr fun response => ⟨fun ⟨hlast, _, hr⟩ => ⟨hlast, hr⟩,
    fun ⟨hlast, hr⟩ => ⟨hlast, hlast.mem.2.1, hr⟩⟩

theorem IsReportOf.isSome_get?_iff (h : IsReportOf qualifier children m) {href : String} :
    (∃ r, m.get? href = some r) ↔ ∃ response ∈ children,
      response.isNamed (qualified qualifier "response") = true ∧
        HasReference qualifier response href := by
  rw [← exists_isLast_iff]
  constructor
  · rintro ⟨r, hr⟩
    obtain ⟨response, hlast, -⟩ := (h href r).mp hr
    exact ⟨response, hlast⟩
  · rintro ⟨response, hlast⟩
    obtain ⟨r, hr, -⟩ := exists_projects_iff.mpr hlast.mem.2.2
    exact ⟨r, (h href r).mpr ⟨response, hlast, hr⟩⟩

/-- No two of the responses have one reference. -/
def DifferInReference (qualifier : Option String) (responses : List Node) : Prop :=
  responses.Pairwise fun a b => ∀ href, HasReference qualifier a href →
    ¬ HasReference qualifier b href

/-- Where references differ, each response with a reference is the last one with it. -/
theorem IsReportOf.get?_iff_of_differ (h : IsReportOf qualifier children m)
    (hdiffer : DifferInReference qualifier
      (children.filter (Node.isNamed (qualified qualifier "response")))) {href : String}
    {r : Resource} : m.get? href = some r ↔
      ∃ response ∈ children.filter (Node.isNamed (qualified qualifier "response")),
        HasReference qualifier response href ∧ Projects qualifier response r := by
  rw [h href r]
  refine exists_congr fun response => ?_
  rw [List.mem_filter, and_assoc]
  constructor
  · rintro ⟨hlast, hr⟩
    exact ⟨hlast.mem.1, hlast.mem.2.1, hlast.mem.2.2, hr⟩
  · rintro ⟨hmem, hnamed, href', hr⟩
    obtain ⟨before, after, rfl⟩ := List.append_of_mem hmem
    refine ⟨⟨before, after, rfl, ⟨hnamed, href'⟩, fun other hother hboth => ?_⟩, hr⟩
    rw [DifferInReference, List.filter_append, List.filter_cons_of_pos hnamed] at hdiffer
    have hrest := (List.pairwise_append.mp hdiffer).2.1
    exact (List.pairwise_cons.mp hrest).1 other (List.mem_filter.mpr ⟨hother, hboth.1⟩) _ href'
      hboth.2

theorem differInReference_iff {responses : List Node} : DifferInReference qualifier responses ↔
    responses.Pairwise fun a b =>
      ∀ t ∈ a.childText? (qualified qualifier "href"),
        ∀ t' ∈ b.childText? (qualified qualifier "href"), Text.trim t ≠ Text.trim t' := by
  unfold DifferInReference
  simp only [hasReference_iff]
  refine List.Pairwise.iff fun a b => ⟨fun h t ht t' ht' heq => ?_, ?_⟩
  · exact h (Text.trim t) ⟨t, ht, rfl⟩ ⟨t', ht', heq.symm⟩
  · rintro h _ ⟨t, ht, rfl⟩ ⟨t', ht', heq⟩
    exact h t ht t' ht' heq.symm

instance (responses : List Node) : Decidable (DifferInReference qualifier responses) :=
  decidable_of_iff _ differInReference_iff.symm

theorem DifferInReference.perm {responses responses' : List Node}
    (h : DifferInReference qualifier responses) (hperm : responses'.Perm responses) :
    DifferInReference qualifier responses' :=
  (hperm.pairwise_iff fun hab href hb ha => hab href ha hb).mpr h

end

namespace MultiStatus

variable {bs : Bytes} {tag : Tag} {children : List Node}

theorem parse_eq_ofList (hread : Node.read bs = .ok (.element tag children))
    (hspace : tag.space = some davSpace) (hname : tag.localName = "multistatus") :
    parse bs = .ok (some (.ofList
      ((children.filter (Node.isNamed (qualified tag.qualifier "response"))).filterMap
        (resourceOf? tag.qualifier)))) := by
  rw [parse, hread, Except.map, ofNode?, if_pos ⟨hspace, hname⟩]
  rfl

/-- The report of a document with the root of a report. Its references are those of the responses,
its entry for a reference is the projection of the last response with it, and responses with
different references may come in any order. -/
theorem parse_projects (hread : Node.read bs = .ok (.element tag children))
    (hspace : tag.space = some davSpace) (hname : tag.localName = "multistatus") :
    ∃ m, parse bs = .ok (some m) ∧
      (∀ m', IsReportOf tag.qualifier children m' ↔ m' = m) ∧
      (∀ href, (∃ r, m.get? href = some r) ↔ ∃ response ∈ children,
        response.isNamed (qualified tag.qualifier "response") = true ∧
          HasReference tag.qualifier response href) ∧
      ∀ bs' children', Node.read bs' = .ok (.element tag children') →
        (children'.filter (Node.isNamed (qualified tag.qualifier "response"))).Perm
          (children.filter (Node.isNamed (qualified tag.qualifier "response"))) →
        DifferInReference tag.qualifier
          (children.filter (Node.isNamed (qualified tag.qualifier "response"))) →
        parse bs' = .ok (some m) := by
  have hreport := @isReportOf_ofList tag.qualifier children
  refine ⟨_, parse_eq_ofList hread hspace hname, fun m' => ⟨fun h => h.unique hreport, ?_⟩,
    fun href => hreport.isSome_get?_iff, fun bs' children' hread' hperm hdiffer => ?_⟩
  · rintro rfl
    exact hreport
  · have hreport' := @isReportOf_ofList tag.qualifier children'
    rw [parse_eq_ofList hread' hspace hname, Except.ok.injEq, Option.some.injEq]
    refine ext_get? fun href => Option.ext fun r => ?_
    rw [hreport.get?_iff_of_differ hdiffer, hreport'.get?_iff_of_differ (hdiffer.perm hperm)]
    simp only [hperm.mem_iff]

/-- Two responses of which the second has the reference of the first, and a third one. -/
def olderEntry : Resource := { href := "/a", etag := some "0" }

def newerEntry : Resource :=
  { href := " /a ", isCollection := true, etag := some "&", status := 200 }

def otherEntry : Resource := { href := "/b" }

/-- The document with these responses, in this order. -/
def responsesText (rs : List Resource) : Bytes :=
  Utf8.encode (documentAround (rs.flatMap responseElement))

theorem parse_projects_reordered : ∃ m n,
    parse (responsesText [olderEntry, newerEntry]) = .ok (some m) ∧
    IsReportOf (some "D") [responseNode olderEntry, responseNode newerEntry] m ∧
    m.get? "/a" = some { newerEntry with href := "/a" } ∧
    parse (responsesText [newerEntry, otherEntry]) = .ok (some n) ∧
    parse (responsesText [otherEntry, newerEntry]) = .ok (some n) := by
  have hread : ∀ rs : List Resource, Node.read (responsesText rs) =
      .ok (node "D:multistatus" (rs.map responseNode)) := fun rs =>
    read_documentAround (spells_entries rs)
  obtain ⟨m, hparse, hreport, -⟩ := parse_projects (hread [olderEntry, newerEntry]) rfl (by decide)
  obtain ⟨n, hparse', -, -, hperm⟩ :=
    parse_projects (hread [newerEntry, otherEntry]) rfl (by decide)
  refine ⟨m, n, hparse, (hreport m).mpr rfl, ?_, hparse', ?_⟩
  · rw [← (hreport _).mp isReportOf_ofList]
    decide +kernel
  · exact hperm _ _ (hread [otherEntry, newerEntry]) (.swap _ _ _) (by decide +kernel)

end MultiStatus

end Dav

end DavCourier
