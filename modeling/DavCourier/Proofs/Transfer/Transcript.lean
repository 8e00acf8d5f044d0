import DavCourier.Transfer.Dialogue

/-!
# What is said in a dialogue

`Dialogue.transcript` lists the requests of a run with their answers, and `transcript_bind`
says that of two dialogues one after the other.
-/

namespace DavCourier.Transfer

open Http

/-- A server that says the same to every request. -/
def constantServer (answer : Answer) (_ : Unit) (_ : Request) : Answer × Unit :=
  (answer, ())

namespace Dialogue

variable {α β σ : Type} {server : σ → Request → Answer × σ}

/-- The requests against a server with their answers, the first one first. -/
def transcript (server : σ → Request → Answer × σ) : Dialogue α → σ → List (Request × Answer)
  | .done _, _ => []
  | .ask request next, s =>
    let (answer, s) := server s request
    (request, answer) :: (next answer).transcript server s

theorem transcript_bind (d : Dialogue α) (f : α → Dialogue β) (s : σ) :
    (d.bind f).transcript server s =
      d.transcript server s ++ (f (d.run server s).1).transcript server (d.run server s).2 := by
  induction d generalizing s with
  | done a => rfl
  | ask request next ih => exact congrArg _ (ih _ _)

theorem run_ask {request : Request} {next : Answer → Dialogue α} {s s' : σ} {answer : Answer}
    (h : server s request = (answer, s')) :
    (Dialogue.ask request next).run server s = (next answer).run server s' := by
  rw [run, h]

theorem transcript_ask {request : Request} {next : Answer → Dialogue α} {s s' : σ}
    {answer : Answer} (h : server s request = (answer, s')) :
    (Dialogue.ask request next).transcript server s =
      (request, answer) :: (next answer).transcript server s' := by
  rw [transcript, h]

theorem run_map (f : α → β) (d : Dialogue α) (s : σ) :
    (d.map f).run server s = (f (d.run server s).1, (d.run server s).2) := by
  rw [map, run_bind]
  rfl

theorem transcript_map (f : α → β) (d : Dialogue α) (s : σ) :
    (d.map f).transcript server s = d.transcript server s := by
  rw [map, transcript_bind]
  exact List.append_nil _

end Dialogue

end DavCourier.Transfer
