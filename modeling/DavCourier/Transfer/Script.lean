import DavCourier.Transfer.Dialogue

/-!
# Servers that follow a script

A `Script` has a queue of lines for each method and address. A request takes the first
line of its queue; the last one stays and repeats. Without a queue the answer is 404.
Every request is recorded.
-/

namespace DavCourier.Transfer

open Http

/-- What a script says to a request. -/
inductive Line where
  | respond (response : Response)
  | timeout
  deriving DecidableEq, Repr

/-- The method and the address of a request. -/
abbrev Key := Method × String

/-- The lines by key, and the requests so far. -/
structure Script where
  queues : List (Key × List Line) := []
  requests : List Request := []
  deriving Repr

/-- Adds a line at the end of a queue, which may be new. -/
def addLine (key : Key) (line : Line) : List (Key × List Line) → List (Key × List Line)
  | [] => [(key, [line])]
  | (k, queue) :: rest =>
    if k = key then (k, queue ++ [line]) :: rest else (k, queue) :: addLine key line rest

/-- Takes the first line away from a queue that has more than one. -/
def advance (key : Key) : List (Key × List Line) → List (Key × List Line)
  | [] => []
  | (k, queue) :: rest =>
    if k = key then (k, if queue.length ≤ 1 then queue else queue.drop 1) :: rest
    else (k, queue) :: advance key rest

namespace Script

/-- The script with one more line. -/
def add (script : Script) (key : Key) (line : Line) : Script :=
  { script with queues := addLine key line script.queues }

/-- The line that comes next for a key. -/
def next? (script : Script) (key : Key) : Option Line :=
  (script.queues.lookup key).bind List.head?

/-- What the next line says to a request. -/
def lineAnswer (url : String) : Option Line → Answer
  | some (.respond response) => .ok response
  | some .timeout => .error (.timeout url)
  | none => .ok { status := { code := 404 } }

/-- The answer to a request, and the script after it. -/
def serve (script : Script) (request : Request) : Answer × Script :=
  let key := (request.method, request.url)
  (lineAnswer request.url (script.next? key),
    { queues := advance key script.queues, requests := script.requests ++ [request] })

end Script

end DavCourier.Transfer
