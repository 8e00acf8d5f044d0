import DavCourier.Http.Message

/-!
# Dialogues with a server

A `Dialogue` is what a client does : it ends with a result, or sends a request and goes on
as the answer says. `Dialogue.run` holds it with a server, which may keep a state.
-/

namespace DavCourier.Transfer

open Http

/-- A client that ends with a result of type `α`. -/
inductive Dialogue (α : Type) where
  | done (result : α)
  | ask (request : Request) (next : Answer → Dialogue α)

namespace Dialogue

variable {α β σ : Type}

/-- The first dialogue, and then the one that its result leads to. -/
def bind : Dialogue α → (α → Dialogue β) → Dialogue β
  | .done a, f => f a
  | .ask request next, f => .ask request fun answer => (next answer).bind f

/-- The dialogue with another result. -/
def map (f : α → β) (d : Dialogue α) : Dialogue β :=
  d.bind fun a => .done (f a)

/-- One request, with its answer as the result. -/
def send (request : Request) : Dialogue Answer :=
  .ask request .done

/-- The result against a server, and the state the server is left in. -/
def run (server : σ → Request → Answer × σ) : Dialogue α → σ → α × σ
  | .done a, s => (a, s)
  | .ask request next, s =>
    let (answer, s) := server s request
    (next answer).run server s

theorem run_bind (server : σ → Request → Answer × σ) (d : Dialogue α) (f : α → Dialogue β)
    (s : σ) : (d.bind f).run server s =
      (f (d.run server s).1).run server (d.run server s).2 := by
  induction d generalizing s with
  | done a => rfl
  | ask request next ih => exact ih _ _

end Dialogue

end DavCourier.Transfer
