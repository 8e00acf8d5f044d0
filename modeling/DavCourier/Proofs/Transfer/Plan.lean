import DavCourier.Proofs.Transfer.Transcript

/-!
# Dialogues that keep to a plan

A plan is a list of requests, and a test says which answers pass. A dialogue keeps to the plan
(`KeepsTo`) if it sends the requests one after the other as long as the answers pass, fails at
the first answer that does not, and succeeds after the last one. Whatever the server says, the
log of such a dialogue follows the plan (`KeepsTo.follows`) : its requests are a start of the
plan (`Follows.requests`), nothing comes after an answer that does not pass
(`Follows.pass_of_next`), and a request is sent if and only if the answers to all requests
before it pass (`Follows.sent_iff`).
-/

namespace DavCourier.Transfer

open Http

variable {ε σ : Type} {pass : Request → Answer → Prop}

/-! ## Logs -/

/-- What may be said by a plan : its requests in turn, up to the first answer that does not
pass. -/
inductive Follows (pass : Request → Answer → Prop) :
    List Request → List (Request × Answer) → Prop
  | done : Follows pass [] []
  | fail {request : Request} {plan : List Request} {answer : Answer} :
    ¬ pass request answer → Follows pass (request :: plan) [(request, answer)]
  | pass {request : Request} {plan : List Request} {answer : Answer}
    {log : List (Request × Answer)} : pass request answer → Follows pass plan log →
    Follows pass (request :: plan) ((request, answer) :: log)

namespace Follows

variable {plan : List Request} {log : List (Request × Answer)}

theorem requests (h : Follows pass plan log) : log.map Prod.fst <+: plan := by
  induction h with
  | done => exact List.nil_prefix
  | @fail request plan answer _ =>
    exact (List.prefix_cons_inj request).mpr List.nil_prefix
  | @pass request plan answer log _ _ ih => exact (List.prefix_cons_inj request).mpr ih

/-- An answer that something follows passes. -/
theorem pass_of_next (h : Follows pass plan log) {before after : List (Request × Answer)}
    {e f : Request × Answer} (heq : log = before ++ e :: f :: after) : pass e.1 e.2 := by
  induction h generalizing before with
  | done => exact absurd heq.symm (List.append_ne_nil_of_right_ne_nil _ (List.cons_ne_nil _ _))
  | fail _ =>
    have hlen := congrArg List.length heq
    simp only [List.length_append, List.length_cons, List.length_nil] at hlen
    omega
  | pass hpass _ ih =>
    cases before with
    | nil =>
      obtain ⟨rfl, -⟩ := List.cons.inj heq
      exact hpass
    | cons b before => exact ih (List.cons.inj heq).2

/-- If all answers pass, the whole plan was sent. -/
theorem requests_eq (h : Follows pass plan log) (hpass : ∀ e ∈ log, pass e.1 e.2) :
    log.map Prod.fst = plan := by
  induction h with
  | done => rfl
  | fail hfail => exact absurd (hpass _ List.mem_cons_self) hfail
  | pass _ _ ih =>
    rw [List.map_cons, ih fun e he => hpass e (List.mem_cons_of_mem _ he)]

/-- The last request of a plan tells whether all answers pass. -/
theorem all_pass_iff {last : Request} (h : Follows pass (plan ++ [last]) log)
    (hnew : last ∉ plan) : (∀ e ∈ log, pass e.1 e.2) ↔
      ∃ answer, (last, answer) ∈ log ∧ pass last answer := by
  generalize hplan : plan ++ [last] = whole at h
  constructor
  · intro hpass
    have hmem : last ∈ log.map Prod.fst := by
      rw [h.requests_eq hpass, ← hplan]
      exact List.mem_append_right _ List.mem_cons_self
    obtain ⟨⟨_, answer⟩, he, rfl⟩ := List.mem_map.mp hmem
    exact ⟨answer, he, hpass _ he⟩
  · rintro ⟨answer, hmem, hpass⟩
    induction h generalizing plan with
    | done => exact absurd hmem List.not_mem_nil
    | fail hfail =>
      obtain ⟨rfl, rfl⟩ := Prod.mk.inj (List.mem_singleton.mp hmem)
      exact absurd hpass hfail
    | @pass request tail first log hfirst htail ih =>
      intro e he
      cases plan with
      | nil =>
        -- the last request is the first one, and nothing follows it
        obtain ⟨rfl, rfl⟩ := List.cons.inj hplan
        cases htail
        rw [List.mem_singleton.mp he]
        exact hfirst
      | cons q plan =>
        obtain ⟨rfl, hrest⟩ := List.cons.inj hplan
        have hne : last ≠ q := List.ne_of_not_mem_cons hnew
        have hmem' : (last, answer) ∈ log := by
          refine (List.mem_cons.mp hmem).resolve_left fun heq => hne ?_
          exact (Prod.mk.inj heq).1
        rcases List.mem_cons.mp he with rfl | he
        · exact hfirst
        · exact ih (List.not_mem_of_not_mem_cons hnew) hrest hmem' e he

/-- A request is sent if and only if every request before it was answered and the answer
passed. -/
theorem sent_iff {front back : List Request} {request : Request}
    (h : Follows pass (front ++ request :: back) log) (hnodup : (front ++ [request]).Nodup) :
    request ∈ log.map Prod.fst ↔ ∀ q ∈ front, ∃ answer, (q, answer) ∈ log ∧ pass q answer := by
  generalize hplan : front ++ request :: back = whole at h
  induction h generalizing front with
  | done => exact absurd hplan (List.append_ne_nil_of_right_ne_nil _ (List.cons_ne_nil _ _))
  | @fail q plan answer hfail =>
    cases front with
    | nil =>
      obtain ⟨rfl, -⟩ := List.cons.inj hplan
      simp
    | cons x front =>
      obtain ⟨rfl, -⟩ := List.cons.inj hplan
      have hne : request ≠ x := by
        rintro rfl
        exact (List.nodup_cons.mp hnodup).1 (List.mem_append_right _ List.mem_cons_self)
      constructor
      · intro hmem
        exact absurd (List.mem_singleton.mp hmem) hne
      · intro hall
        obtain ⟨answer', hmem, hpass⟩ := hall x List.mem_cons_self
        rw [List.mem_singleton, Prod.mk.injEq] at hmem
        exact absurd (hmem.2 ▸ hpass) hfail
  | @pass q plan answer log hpass hlog ih =>
    cases front with
    | nil =>
      obtain ⟨rfl, -⟩ := List.cons.inj hplan
      simp
    | cons x front =>
      obtain ⟨rfl, hrest⟩ := List.cons.inj hplan
      obtain ⟨hx, hnodup'⟩ := List.nodup_cons.mp hnodup
      have hne : request ≠ x := by
        rintro rfl
        exact hx (List.mem_append_right _ List.mem_cons_self)
      have hfront : ∀ q ∈ front, q ≠ x := by
        rintro q hq rfl
        exact hx (List.mem_append_left _ hq)
      rw [List.map_cons, List.mem_cons, or_iff_right hne, ih hnodup' hrest]
      constructor
      · intro hall q hq
        rcases List.mem_cons.mp hq with rfl | hq
        · exact ⟨answer, List.mem_cons_self, hpass⟩
        · obtain ⟨answer', hmem, hpass'⟩ := hall q hq
          exact ⟨answer', List.mem_cons_of_mem _ hmem, hpass'⟩
      · intro hall q hq
        obtain ⟨answer', hmem, hpass'⟩ := hall q (List.mem_cons_of_mem _ hq)
        refine ⟨answer', (List.mem_cons.mp hmem).resolve_left fun heq => ?_, hpass'⟩
        exact hfront q hq (Prod.mk.inj heq).1

end Follows

/-! ## Dialogues -/

/-- The dialogue sends the requests of the plan in turn as long as the answers pass. It fails at
the first answer that does not, and succeeds after the last one. -/
inductive KeepsTo (pass : Request → Answer → Prop) :
    List Request → Dialogue (Except ε Unit) → Prop
  | done : KeepsTo pass [] (.done (.ok ()))
  | ask {request : Request} {plan : List Request} {next : Answer → Dialogue (Except ε Unit)} :
    (∀ answer, pass request answer → KeepsTo pass plan (next answer)) →
    (∀ answer, ¬ pass request answer → ∃ failure, next answer = .done (.error failure)) →
    KeepsTo pass (request :: plan) (.ask request next)

namespace KeepsTo

/-- One plan after the other, where a failure of the first dialogue is one of both. -/
theorem bind {first second : List Request} {d : Dialogue (Except ε Unit)}
    {f : Except ε Unit → Dialogue (Except ε Unit)} (h : KeepsTo pass first d)
    (hfail : ∀ failure, f (.error failure) = .done (.error failure))
    (hnext : KeepsTo pass second (f (.ok ()))) : KeepsTo pass (first ++ second) (d.bind f) := by
  induction h with
  | done => exact hnext
  | ask _ hstop ih =>
    refine .ask ih fun answer hnot => ?_
    obtain ⟨failure, heq⟩ := hstop answer hnot
    refine ⟨failure, ?_⟩
    rw [heq]
    exact hfail failure

/-- Whatever the server says, the log follows the plan, and the dialogue succeeds if and only if
all answers pass. -/
theorem follows {plan : List Request} {d : Dialogue (Except ε Unit)} (h : KeepsTo pass plan d)
    (server : σ → Request → Answer × σ) (s : σ) :
    Follows pass plan (d.transcript server s) ∧
      ((d.run server s).1 = .ok () ↔ ∀ e ∈ d.transcript server s, pass e.1 e.2) := by
  induction h generalizing s with
  | done => exact ⟨.done, ⟨fun _ => nofun, fun _ => rfl⟩⟩
  | @ask request plan next _ hstop ih =>
    obtain ⟨answer, s', hserve⟩ : ∃ answer s', server s request = (answer, s') :=
      ⟨_, _, rfl⟩
    rw [Dialogue.run_ask hserve, Dialogue.transcript_ask hserve]
    by_cases hpass : pass request answer
    · obtain ⟨hfollows, hiff⟩ := ih answer hpass s'
      refine ⟨.pass hpass hfollows, hiff.trans ?_⟩
      rw [List.forall_mem_cons]
      exact (and_iff_right hpass).symm
    · obtain ⟨failure, heq⟩ := hstop answer hpass
      rw [heq]
      refine ⟨.fail hpass, ⟨nofun, fun hall => ?_⟩⟩
      exact absurd (hall _ List.mem_cons_self) hpass

end KeepsTo

end DavCourier.Transfer
