import DavCourier.Proofs.Transfer.Transcript
import Mathlib.Data.Fintype.Basic
import Mathlib.Logic.Function.Basic
import Mathlib.Logic.Relation

/-!
# Clients of one server

`Clients` are dialogues that are held with one server at the same time. In one `Clients.Step`
the server answers the next request of any of them, so the sequences of steps are the ways in
which the requests may come one after the other. To hold one dialogue from its start to its
end is such a way (`steps_run`).
-/

namespace DavCourier.Transfer

open Http

variable {ι α σ : Type}

/-- Clients by name, the server that they share, and what was said so far. -/
structure Clients (ι α σ : Type) where
  /-- The state of the server. -/
  state : σ
  /-- What is left of the dialogue of each client. -/
  dialogues : ι → Dialogue α
  /-- The requests with their answers, the last one first. -/
  log : List (Request × Answer)

namespace Clients

/-- Clients before their first requests. -/
def start (s : σ) (dialogues : ι → Dialogue α) : Clients ι α σ :=
  ⟨s, dialogues, []⟩

variable [DecidableEq ι]

/-- The clients once a client goes on, with the state of the server and what was said. -/
def goOn (c : Clients ι α σ) (i : ι) (s : σ) (d : Dialogue α)
    (exchanges : List (Request × Answer)) : Clients ι α σ :=
  ⟨s, Function.update c.dialogues i d, exchanges ++ c.log⟩

/-- The server answers one request. -/
inductive Step (server : σ → Request → Answer × σ) (c : Clients ι α σ) : Clients ι α σ → Prop
  | answer {i : ι} {request : Request} {next : Answer → Dialogue α} {answer : Answer} {s : σ} :
    c.dialogues i = .ask request next → server c.state request = (answer, s) →
    Step server c (c.goOn i s (next answer) [(request, answer)])

@[simp] theorem log_goOn (c : Clients ι α σ) (i : ι) (s : σ) (d : Dialogue α)
    (es : List (Request × Answer)) : (c.goOn i s d es).log = es ++ c.log := rfl

@[simp] theorem dialogues_goOn_self (c : Clients ι α σ) (i : ι) (s : σ) (d : Dialogue α)
    (es : List (Request × Answer)) : (c.goOn i s d es).dialogues i = d :=
  Function.update_self ..

theorem dialogues_goOn_of_ne {i j : ι} (h : j ≠ i) (c : Clients ι α σ) (s : σ) (d : Dialogue α)
    (es : List (Request × Answer)) : (c.goOn i s d es).dialogues j = c.dialogues j :=
  Function.update_of_ne h ..

theorem goOn_goOn (c : Clients ι α σ) (i : ι) (s s' : σ) (d d' : Dialogue α)
    (es es' : List (Request × Answer)) :
    (c.goOn i s d es).goOn i s' d' es' = c.goOn i s' d' (es' ++ es) := by
  simp [goOn]

theorem goOn_self {c : Clients ι α σ} {i : ι} {d : Dialogue α} (h : c.dialogues i = d) :
    c.goOn i c.state d [] = c := by
  simp [goOn, ← h]

/-- The server may answer all requests of one client first. -/
theorem steps_run (server : σ → Request → Answer × σ) {c : Clients ι α σ} {i : ι}
    {d : Dialogue α} (h : c.dialogues i = d) :
    Relation.ReflTransGen (Step server) c
      (c.goOn i (d.run server c.state).2 (.done (d.run server c.state).1)
        (d.transcript server c.state).reverse) := by
  induction d generalizing c with
  | done result =>
    have hself := goOn_self h
    rw [Dialogue.run, Dialogue.transcript, List.reverse_nil, hself]
  | ask request next ih =>
    obtain ⟨answer, s, hserve⟩ : ∃ answer s, server c.state request = (answer, s) :=
      ⟨_, _, rfl⟩
    have hstep : Step server c (c.goOn i s (next answer) [(request, answer)]) :=
      .answer h hserve
    have hrest := ih answer (c.dialogues_goOn_self i s (next answer) [(request, answer)])
    rw [goOn_goOn] at hrest
    rw [Dialogue.run_ask hserve, Dialogue.transcript_ask hserve, List.reverse_cons]
    exact hrest.head hstep

/-- Finitely many clients can come to their ends from anywhere. -/
theorem exists_steps_done [Fintype ι] (server : σ → Request → Answer × σ)
    (c : Clients ι α σ) : ∃ c', Relation.ReflTransGen (Step server) c c' ∧
      ∀ i, ∃ result, c'.dialogues i = .done result := by
  have hsome : ∀ clients : Finset ι, ∃ c', Relation.ReflTransGen (Step server) c c' ∧
      ∀ i ∈ clients, ∃ result, c'.dialogues i = .done result := by
    intro clients
    induction clients using Finset.induction_on with
    | empty => exact ⟨c, .refl, fun i hi => absurd hi (Finset.notMem_empty i)⟩
    | insert i clients _ ih =>
      obtain ⟨c', hsteps, hdone⟩ := ih
      have hrun := steps_run server (rfl : c'.dialogues i = c'.dialogues i)
      refine ⟨_, hsteps.trans hrun, fun j hj => ?_⟩
      by_cases heq : j = i
      · rw [heq, dialogues_goOn_self]
        exact ⟨_, rfl⟩
      · rw [dialogues_goOn_of_ne heq]
        exact hdone j ((Finset.mem_insert.mp hj).resolve_left heq)
  obtain ⟨c', hsteps, hdone⟩ := hsome Finset.univ
  exact ⟨c', hsteps, fun i => hdone i (Finset.mem_univ i)⟩

end Clients

end DavCourier.Transfer
