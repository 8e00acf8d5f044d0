import DavCourier.Proofs.Transfer.Transcript
import DavCourier.Transfer.Upload

/-!
# Dialogues in turn

Dialogues in turn (`InTurn`) are held one after the other up to the first one that fails, and its
failure is the result; what is said is what they say. So are dialogues in order, whatever the server
says : `inTurn_inOrder`.
-/

namespace DavCourier.Transfer

open Http

variable {ε σ : Type} {server : σ → Request → Answer × σ}

/-- The dialogues are held in turn, up to the first one that fails : from a state of the server,
with what is said and the result, to the state that the server is left in. -/
inductive InTurn (server : σ → Request → Answer × σ) :
    List (Dialogue (Except ε Unit)) → σ → List (Request × Answer) → Except ε Unit → σ → Prop
  | done {s : σ} : InTurn server [] s [] (.ok ()) s
  | fail {d : Dialogue (Except ε Unit)} {ds : List (Dialogue (Except ε Unit))} {s s' : σ}
    {failure : ε} : d.run server s = (.error failure, s') →
    InTurn server (d :: ds) s (d.transcript server s) (.error failure) s'
  | next {d : Dialogue (Except ε Unit)} {ds : List (Dialogue (Except ε Unit))} {s s₁ s' : σ}
    {log : List (Request × Answer)} {result : Except ε Unit} :
    d.run server s = (.ok (), s₁) → InTurn server ds s₁ log result s' →
    InTurn server (d :: ds) s (d.transcript server s ++ log) result s'

/-- Whatever is said is said in one of the dialogues. -/
theorem InTurn.exists_mem {ds : List (Dialogue (Except ε Unit))} {s s' : σ}
    {log : List (Request × Answer)} {result : Except ε Unit}
    (h : InTurn server ds s log result s') {e : Request × Answer} (he : e ∈ log) :
    ∃ d ∈ ds, ∃ s, e ∈ d.transcript server s := by
  induction h with
  | done => cases he
  | fail _ => exact ⟨_, List.mem_cons_self, _, he⟩
  | next _ _ ih =>
    rcases List.mem_append.mp he with he | he
    · exact ⟨_, List.mem_cons_self, _, he⟩
    · obtain ⟨d, hd, hsaid⟩ := ih he
      exact ⟨d, List.mem_cons_of_mem _ hd, hsaid⟩

/-- All of them succeed if none fails. -/
theorem InTurn.run_eq_ok {ds : List (Dialogue (Except ε Unit))} {s s' : σ}
    {log : List (Request × Answer)} {result : Except ε Unit}
    (h : InTurn server ds s log result s') (hok : result = .ok ()) :
    ∀ d ∈ ds, ∃ s, (d.run server s).1 = .ok () := by
  induction h with
  | done => exact nofun
  | fail _ => cases hok
  | next hrun _ ih => exact List.forall_mem_cons.mpr ⟨⟨_, congrArg Prod.fst hrun⟩, ih hok⟩

/-- Dialogues in order are held in turn. -/
theorem inTurn_inOrder (ds : List (Dialogue (Except Failure Unit))) (s : σ) :
    InTurn server ds s ((inOrder ds).transcript server s) ((inOrder ds).run server s).1
      ((inOrder ds).run server s).2 := by
  induction ds generalizing s with
  | nil => exact .done
  | cons d ds ih =>
    rw [inOrder, Dialogue.run_bind, Dialogue.transcript_bind]
    obtain ⟨result, s₁, hrun⟩ : ∃ result s₁, d.run server s = (result, s₁) := ⟨_, _, rfl⟩
    rw [hrun]
    cases result with
    | error failure =>
      rw [Dialogue.transcript, List.append_nil]
      exact .fail hrun
    | ok _ => exact .next hrun (ih s₁)

end DavCourier.Transfer
