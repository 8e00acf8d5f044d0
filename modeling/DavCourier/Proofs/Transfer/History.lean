import DavCourier.Proofs.Transfer.Transcript
import DavCourier.Transfer.Script
import Mathlib.Data.List.Chain

/-!
# Histories of a script

Lines are added to a script and requests come to it in any order and for any keys (`Script.Event`).
What an event does to the queue of a key is said once (`Script.waiting_step`) : an event for another
key leaves it as it is, so the answers for a key depend on its own events alone
(`Script.answersTo_filter`). A queue is always the end of the lines that were added for its key, and
never empty after the first of them (`Script.waiting_after`). So the place of its first line among
them says which line answers, and a request moves it to the next line if there is one
(`Script.place_ask`). `Script.answers_in_order` says what this makes of the answers one after the
other.

A session with a script is such a history (`Script.transcript_serve`).
-/

namespace DavCourier.Transfer

open Http

/-- The key of a request. -/
def keyOf (request : Request) : Key :=
  (request.method, request.url)

namespace Script

/-! ## Events -/

/-- A line is added for a key, or a request comes. -/
inductive Event where
  | add (key : Key) (line : Line)
  | ask (request : Request)
  deriving DecidableEq, Repr

namespace Event

/-- The key that an event is about. -/
def key : Event → Key
  | add key _ => key
  | ask request => keyOf request

/-- The line that an event adds for a key. -/
def line? (key : Key) : Event → Option Line
  | add k line => if k = key then some line else none
  | ask _ => none

/-- The request that comes with an event. -/
def request? : Event → Option Request
  | add _ _ => none
  | ask request => some request

/-- What an event makes of the queue of its key. -/
def move : Event → List Line → List Line
  | add _ line, queue => queue ++ [line]
  | ask _, queue => if queue.length ≤ 1 then queue else queue.drop 1

end Event

/-- The script after an event. -/
def step (script : Script) : Event → Script
  | .add key line => script.add key line
  | .ask request => (script.serve request).2

/-- The script after a history that began without lines and requests. -/
def after (past : List Event) : Script :=
  past.foldl step {}

/-- The lines that a history adds for a key, in order. -/
def added (key : Key) (past : List Event) : List Line :=
  past.filterMap (Event.line? key)

/-- The queue of a key. -/
def waiting (script : Script) (key : Key) : List Line :=
  (script.queues.lookup key).getD []

variable {script : Script} {key : Key} {past : List Event} {request : Request}

theorem after_concat (past : List Event) (event : Event) :
    after (past ++ [event]) = (after past).step event := by
  rw [after, List.foldl_concat, after]

theorem added_add (key k : Key) (past : List Event) (line : Line) :
    added key (past ++ [.add k line]) =
      if k = key then added key past ++ [line] else added key past := by
  rw [added, List.filterMap_append, ← added]
  by_cases hk : k = key
  · have hline : Event.line? key (.add k line) = some line := if_pos hk
    rw [if_pos hk, List.filterMap_cons_some hline, List.filterMap_nil]
  · have hline : Event.line? key (.add k line) = none := if_neg hk
    rw [if_neg hk, List.filterMap_cons_none hline, List.filterMap_nil, List.append_nil]

theorem added_ask (key : Key) (past : List Event) (request : Request) :
    added key (past ++ [.ask request]) = added key past := by
  rw [added, List.filterMap_append]
  exact List.append_nil _

/-! ## What an event does -/

theorem lookup_addLine (key k : Key) (line : Line) (queues : List (Key × List Line)) :
    ((addLine key line queues).lookup k).getD [] =
      if key = k then (queues.lookup k).getD [] ++ [line] else (queues.lookup k).getD [] := by
  induction queues with
  | nil => grind [addLine]
  | cons entry rest ih => grind [addLine]

theorem lookup_advance (key k : Key) (queues : List (Key × List Line)) :
    ((advance key queues).lookup k).getD [] =
      if key = k then
        if ((queues.lookup k).getD []).length ≤ 1 then (queues.lookup k).getD []
        else ((queues.lookup k).getD []).drop 1
      else (queues.lookup k).getD [] := by
  induction queues with
  | nil => grind [advance]
  | cons entry rest ih => grind [advance]

/-- The queue of its key answers a request. -/
theorem serve_answer (script : Script) (request : Request) :
    (script.serve request).1 =
      lineAnswer request.url (script.waiting (keyOf request)).head? := by
  have hnext : script.next? (keyOf request) = (script.waiting (keyOf request)).head? := by
    rw [next?, waiting]
    cases script.queues.lookup (keyOf request) <;> rfl
  rw [← hnext]
  rfl

/-- An event moves the queue of its own key and no other. -/
theorem waiting_step (script : Script) (event : Event) (key : Key) :
    (script.step event).waiting key =
      if event.key = key then event.move (script.waiting key) else script.waiting key := by
  cases event with
  | add k line => exact lookup_addLine k key line script.queues
  | ask request => exact lookup_advance (keyOf request) key script.queues

/-! ## What is left of the lines -/

theorem requests_after (past : List Event) :
    (after past).requests = past.filterMap Event.request? := by
  induction past using List.reverseRecOn with
  | nil => rfl
  | append_singleton past event ih =>
    rw [after_concat, List.filterMap_append, ← ih]
    cases event with
    | add key line => exact (List.append_nil _).symm
    | ask request => rfl

theorem waiting_concat (past : List Event) (event : Event) (key : Key) :
    (after (past ++ [event])).waiting key =
      if event.key = key then event.move ((after past).waiting key)
      else (after past).waiting key := by
  rw [after_concat, waiting_step]

theorem waiting_add (key k : Key) (past : List Event) (line : Line) :
    (after (past ++ [.add k line])).waiting key =
      if k = key then (after past).waiting key ++ [line] else (after past).waiting key :=
  waiting_concat past (.add k line) key

theorem waiting_ask (key : Key) (past : List Event) (request : Request) :
    (after (past ++ [.ask request])).waiting key =
      if keyOf request = key then
        if ((after past).waiting key).length ≤ 1 then (after past).waiting key
        else ((after past).waiting key).drop 1
      else (after past).waiting key :=
  waiting_concat past (.ask request) key

/-- A queue is the end of the lines added for its key, and has one if there was one. -/
theorem waiting_after (key : Key) (past : List Event) :
    (after past).waiting key <:+ added key past ∧
      ((after past).waiting key = [] → added key past = []) := by
  induction past using List.reverseRecOn with
  | nil => exact ⟨List.suffix_refl _, fun _ => rfl⟩
  | append_singleton past event ih =>
    obtain ⟨⟨taken, htaken⟩, hnil⟩ := ih
    cases event with
    | add k line =>
      rw [waiting_add, added_add]
      split
      · rw [← htaken, List.append_assoc]
        exact ⟨⟨taken, rfl⟩, fun h => absurd h (List.concat_ne_nil _ _)⟩
      · exact ⟨⟨taken, htaken⟩, hnil⟩
    | ask request =>
      rw [waiting_ask, added_ask]
      split_ifs with hkey hone
      · exact ⟨⟨taken, htaken⟩, hnil⟩
      · -- only one of at least two lines is taken away
        refine ⟨(List.drop_suffix 1 _).trans ⟨taken, htaken⟩, fun h => ?_⟩
        exact absurd (List.drop_eq_nil_iff.mp h) hone
      · exact ⟨⟨taken, htaken⟩, hnil⟩

/-! ## The place of the next line -/

/-- How many of the lines added for a key have left its queue : the place of the line that comes
next. -/
def place (key : Key) (past : List Event) : Nat :=
  (added key past).length - ((after past).waiting key).length

theorem waiting_eq_drop (key : Key) (past : List Event) :
    (after past).waiting key = (added key past).drop (place key past) :=
  List.suffix_iff_eq_drop.mp (waiting_after key past).1

theorem place_lt (hadded : added key past ≠ []) : place key past < (added key past).length := by
  have hwaiting := List.length_pos_iff.mpr (mt (waiting_after key past).2 hadded)
  have hpos := List.length_pos_iff.mpr hadded
  rw [place]
  omega

theorem place_add (key k : Key) (past : List Event) (line : Line) :
    place key (past ++ [.add k line]) = place key past := by
  rw [place, waiting_add, added_add]
  split
  · rw [List.length_append, List.length_append, Nat.add_sub_add_right, place]
  · rw [place]

theorem place_ask_of_ne (hkey : keyOf request ≠ key) :
    place key (past ++ [.ask request]) = place key past := by
  rw [place, waiting_ask, added_ask, if_neg hkey, place]

/-- A request moves the place to the next line, if there is one. -/
theorem place_ask (hkey : keyOf request = key) :
    place key (past ++ [.ask request]) =
      if place key past + 1 < (added key past).length then place key past + 1
      else place key past := by
  have hle : ((after past).waiting key).length ≤ (added key past).length :=
    (waiting_after key past).1.length_le
  rw [place, waiting_ask, added_ask, if_pos hkey, place]
  by_cases hone : ((after past).waiting key).length ≤ 1
  · rw [if_pos hone, if_neg (by omega)]
  · rw [if_neg hone, if_pos (by omega), List.length_drop]
    omega

/-! ## Turns -/

/-- A request with what happened before it. -/
structure Turn where
  past : List Event
  request : Request

/-- What the request of a turn is answered. -/
def Turn.answer (turn : Turn) : Answer :=
  ((after turn.past).serve turn.request).1

/-- The turns of what happens after a past. -/
def turnsFrom (past : List Event) : List Event → List Turn
  | [] => []
  | .add key line :: rest => turnsFrom (past ++ [.add key line]) rest
  | .ask request :: rest => ⟨past, request⟩ :: turnsFrom (past ++ [.ask request]) rest

/-- The turns of a key along a history. -/
def turnsOf (key : Key) (history : List Event) : List Turn :=
  (turnsFrom [] history).filter fun turn => keyOf turn.request = key

/-- The answers for a key along a history. -/
def answersTo (key : Key) (history : List Event) : List Answer :=
  (turnsOf key history).map Turn.answer

/-- The turn is one of a key for which a line was added before it. -/
def Turn.IsGiven (key : Key) (turn : Turn) : Prop :=
  keyOf turn.request = key ∧ added key turn.past ≠ []

instance (key : Key) (turn : Turn) : Decidable (turn.IsGiven key) :=
  inferInstanceAs (Decidable (_ ∧ _))

/-- The turns of a key along a history after the first line was added for it. -/
def givenTurns (key : Key) (history : List Event) : List Turn :=
  (turnsFrom [] history).filter fun turn => turn.IsGiven key

theorem Turn.answer_eq (turn : Turn) :
    turn.answer =
      lineAnswer turn.request.url ((after turn.past).waiting (keyOf turn.request)).head? :=
  serve_answer (after turn.past) turn.request

/-- A turn is answered with the line at its place. -/
theorem Turn.IsGiven.exists_line {turn : Turn} (hgiven : turn.IsGiven key) :
    ∃ line, (added key turn.past)[place key turn.past]? = some line ∧
      turn.answer = lineAnswer key.2 (some line) := by
  obtain ⟨rfl, hadded⟩ := hgiven
  have hline := List.getElem?_eq_getElem (place_lt hadded)
  refine ⟨_, hline, ?_⟩
  rw [turn.answer_eq, waiting_eq_drop, List.head?_drop, hline]
  rfl

theorem Turn.answer_of_not_added {turn : Turn} (hkey : keyOf turn.request = key)
    (hnone : added key turn.past = []) :
    turn.answer = .ok { status := { code := 404 } } := by
  subst hkey
  rw [turn.answer_eq, waiting_eq_drop, hnone, List.drop_nil]
  rfl

/-! ### Keys apart -/

/-- After pasts that leave the same queue for a key, events for other keys change none of its
answers. -/
theorem map_answer_turnsFrom (key : Key) (rest : List Event) {past past' : List Event}
    (hwaiting : (after past).waiting key = (after past').waiting key) :
    ((turnsFrom past rest).filter fun turn => keyOf turn.request = key).map Turn.answer =
      ((turnsFrom past' (rest.filter (·.key = key))).filter
        fun turn => keyOf turn.request = key).map Turn.answer := by
  induction rest generalizing past past' with
  | nil => rfl
  | cons event rest ih =>
    by_cases hevent : event.key = key
    · have hnext : (after (past ++ [event])).waiting key =
          (after (past' ++ [event])).waiting key := by
        rw [waiting_concat, waiting_concat, hwaiting]
      rw [List.filter_cons_of_pos (by simpa using hevent)]
      cases event with
      | add k line => exact ih hnext
      | ask request =>
        have hkey : keyOf request = key := hevent
        have hsame : Turn.answer ⟨past, request⟩ = Turn.answer ⟨past', request⟩ := by
          rw [Turn.answer_eq, Turn.answer_eq, hkey, hwaiting]
        rw [turnsFrom, turnsFrom, List.filter_cons_of_pos (by simpa using hkey),
          List.filter_cons_of_pos (by simpa using hkey), List.map_cons, List.map_cons, hsame,
          ih hnext]
    · -- only the first history has the event, and the queue of the key does not show it
      have hnext : (after (past ++ [event])).waiting key = (after past').waiting key := by
        rw [waiting_concat, if_neg hevent, hwaiting]
      rw [List.filter_cons_of_neg (by simpa using hevent)]
      cases event with
      | add k line => exact ih hnext
      | ask request =>
        have hkey : keyOf request ≠ key := hevent
        rw [turnsFrom, List.filter_cons_of_neg (by simpa using hkey), ih hnext]

theorem answersTo_filter (key : Key) (history : List Event) :
    answersTo key (history.filter (·.key = key)) = answersTo key history :=
  (map_answer_turnsFrom key history rfl).symm

/-! ### One turn after the other -/

theorem place_ask_of_not_isGiven (hgiven : ¬ Turn.IsGiven key ⟨past, request⟩) :
    place key (past ++ [.ask request]) = place key past := by
  by_cases hkey : keyOf request = key
  · have hnone : added key past = [] := by_contra fun h => hgiven ⟨hkey, h⟩
    rw [place_ask hkey, hnone]
    exact if_neg (Nat.not_lt_zero _)
  · exact place_ask_of_ne hkey

/-- What happens before the first turn that is given a line leaves the place as it is. -/
theorem place_of_head {rest : List Event} {turn : Turn}
    (hturn : turn ∈ ((turnsFrom past rest).filter fun turn => turn.IsGiven key).head?) :
    (added key past).length ≤ (added key turn.past).length ∧
      place key turn.past = place key past := by
  induction rest generalizing past with
  | nil => cases hturn
  | cons event rest ih =>
    cases event with
    | add k line =>
      obtain ⟨hlength, hplace⟩ := ih hturn
      refine ⟨le_trans ?_ hlength, hplace.trans (place_add key k past line)⟩
      rw [added_add]
      split
      · rw [List.length_append]
        exact Nat.le_add_right _ _
      · exact le_rfl
    | ask request =>
      rw [turnsFrom] at hturn
      by_cases hgiven : Turn.IsGiven key ⟨past, request⟩
      · rw [List.filter_cons_of_pos (by simpa using hgiven), List.head?_cons,
          Option.mem_some_iff] at hturn
        rw [← hturn]
        exact ⟨le_rfl, rfl⟩
      · rw [List.filter_cons_of_neg (by simpa using hgiven)] at hturn
        obtain ⟨hlength, hplace⟩ := ih hturn
        rw [added_ask] at hlength
        exact ⟨hlength, hplace.trans (place_ask_of_not_isGiven hgiven)⟩

/-- How a turn of a key follows another one : lines have only been added, and the place is the one
of the next line, if there was one already. -/
structure Follows (key : Key) (turn next : Turn) : Prop where
  length_le : (added key turn.past).length ≤ (added key next.past).length
  place_eq : place key next.past =
    if place key turn.past + 1 < (added key turn.past).length then place key turn.past + 1
    else place key turn.past

theorem isChain_given (key : Key) (past rest : List Event) :
    ((turnsFrom past rest).filter fun turn => turn.IsGiven key).IsChain (Follows key) := by
  induction rest generalizing past with
  | nil => exact .nil
  | cons event rest ih =>
    cases event with
    | add k line => exact ih _
    | ask request =>
      rw [turnsFrom]
      by_cases hgiven : Turn.IsGiven key ⟨past, request⟩
      · rw [List.filter_cons_of_pos (by simpa using hgiven)]
        refine List.isChain_cons.mpr ⟨fun next hnext => ?_, ih _⟩
        obtain ⟨hlength, hplace⟩ := place_of_head hnext
        rw [added_ask] at hlength
        exact ⟨hlength, hplace.trans (place_ask hgiven.1)⟩
      · rw [List.filter_cons_of_neg (by simpa using hgiven)]
        exact ih _

/-- The turns take the lines of a key in the order in which they were added. The place of a turn is
that of its line among those added before it. -/
structure TakesInOrder (key : Key) (turns : List Turn) (placeOf : Turn → Nat) : Prop where
  /-- Every turn is answered with a line that was added before it. -/
  answered : ∀ turn ∈ turns, ∃ line, (added key turn.past)[placeOf turn]? = some line ∧
    turn.answer = lineAnswer key.2 (some line)
  /-- The first turn takes the first line. -/
  first : ∀ turn ∈ turns.head?, placeOf turn = 0
  /-- No line is skipped, and none comes back after a later one. -/
  inOrder : turns.IsChain fun turn next =>
    placeOf next = placeOf turn ∨ placeOf next = placeOf turn + 1
  /-- The newest line repeats as long as nothing is added after it. -/
  newest : turns.IsChain fun turn next =>
    placeOf turn + 1 = (added key next.past).length → placeOf next = placeOf turn
  /-- A line does not repeat if another one had been added after it when it was given. -/
  passed : turns.IsChain fun turn next =>
    placeOf turn + 1 < (added key turn.past).length → placeOf next = placeOf turn + 1
  /-- A line that was the newest one when it was given repeats once, whatever is added then. -/
  late : turns.IsChain fun turn next =>
    placeOf turn + 1 = (added key turn.past).length → placeOf next = placeOf turn

theorem takesInOrder (key : Key) (history : List Event) :
    TakesInOrder key (givenTurns key history) fun turn => place key turn.past := by
  have hchain : (givenTurns key history).IsChain (Follows key) := isChain_given key [] history
  exact
    { answered := fun turn hturn =>
        Turn.IsGiven.exists_line (of_decide_eq_true (List.mem_filter.mp hturn).2)
      first := fun turn hturn => (place_of_head hturn).2
      inOrder := hchain.imp fun _ _ h => by
        rw [h.place_eq]
        split
        · exact .inr rfl
        · exact .inl rfl
      newest := hchain.imp fun _ _ h hnewest => by
        have := h.length_le
        rw [h.place_eq, if_neg (by omega)]
      passed := hchain.imp fun _ _ h hpassed => by rw [h.place_eq, if_pos hpassed]
      late := hchain.imp fun _ _ h hlate => by rw [h.place_eq, if_neg (by omega)] }

/-! ## The answers for a key -/

/-- What comes for the key `a`, whose second line is late. -/
def eventsOfA : List Event :=
  [.ask ⟨.get, "a", [], none⟩, .add (.get, "a") (.respond ⟨⟨200, none⟩, [], []⟩),
    .ask ⟨.get, "a", [], none⟩, .add (.get, "a") .timeout, .ask ⟨.get, "a", [], none⟩,
    .ask ⟨.get, "a", [], none⟩]

/-- The same with events for the key `b` in between. -/
def eventsOfBoth : List Event :=
  [.ask ⟨.get, "a", [], none⟩, .add (.get, "a") (.respond ⟨⟨200, none⟩, [], []⟩),
    .add (.put, "b") .timeout, .ask ⟨.put, "b", [], some [7]⟩,
    .ask ⟨.get, "a", [], none⟩, .add (.get, "a") .timeout, .ask ⟨.get, "a", [], none⟩,
    .ask ⟨.put, "b", [], some [8]⟩, .ask ⟨.get, "a", [], none⟩]

variable {α : Type}

/-- The requests of a session, as events. -/
def asked (log : List (Request × Answer)) : List Event :=
  log.map fun said => .ask said.1

/-- A session with a script is told the answers of the turns of its requests, and leaves the script
that they make. -/
theorem transcript_serve (d : Dialogue α) (past : List Event) :
    d.transcript serve (after past) =
        (turnsFrom past (asked (d.transcript serve (after past)))).map
          (fun turn => (turn.request, turn.answer)) ∧
      (d.run serve (after past)).2 = after (past ++ asked (d.transcript serve (after past))) := by
  induction d generalizing past with
  | done result =>
    rw [Dialogue.transcript, asked, List.map_nil, List.append_nil]
    exact ⟨rfl, rfl⟩
  | ask request next ih =>
    have hserve : (after past).serve request =
        (Turn.answer ⟨past, request⟩, after (past ++ [.ask request])) := by
      rw [after_concat]
      rfl
    obtain ⟨htold, hleft⟩ := ih (Turn.answer ⟨past, request⟩) (past ++ [.ask request])
    rw [Dialogue.transcript_ask hserve, Dialogue.run_ask hserve, asked, List.map_cons, ← asked,
      turnsFrom, List.map_cons, ← htold, hleft, List.append_assoc]
    exact ⟨rfl, rfl⟩

/-- A script records the requests of a session, each one once and in order. -/
theorem requests_run (d : Dialogue α) (past : List Event) :
    (d.run serve (after past)).2.requests =
      (after past).requests ++ (d.transcript serve (after past)).map Prod.fst := by
  rw [(transcript_serve d past).2, requests_after, requests_after, List.filterMap_append, asked,
    List.filterMap_map]
  exact congrArg _ (congrFun List.filterMap_eq_map' _)

end Script

end DavCourier.Transfer
