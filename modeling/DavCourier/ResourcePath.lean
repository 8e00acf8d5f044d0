import DavCourier.Text.Split

/-!
# Paths of resources in a repository

A `ResourcePath` is the list of the segments that lead from the root of a repository to a
resource. A segment is not empty, not `.` or `..`, and holds neither a slash nor a
backslash. `resolve` reads a written path from a place in the tree, and `ofString` reads
it from the root : both kinds of slash separate, empty and `.` segments say nothing, and
`..` goes back by one segment, at the root by none.
-/

namespace DavCourier

/-- Whether a text may name a step down in a path. -/
def IsSegment (cs : List Char) : Prop :=
  cs ≠ [] ∧ cs ≠ ['.'] ∧ cs ≠ ['.', '.'] ∧ '/' ∉ cs ∧ '\\' ∉ cs

instance (cs : List Char) : Decidable (IsSegment cs) := by
  unfold IsSegment; infer_instance

/-- The way from the root of a repository to a resource. -/
structure ResourcePath where
  /-- The steps, the one below the root first. -/
  segments : List (List Char)
  clean : ∀ s ∈ segments, IsSegment s

namespace ResourcePath

theorem ext_segments {p q : ResourcePath} (h : p.segments = q.segments) : p = q := by
  cases p; cases q; cases h; rfl

instance : DecidableEq ResourcePath := fun p q =>
  if h : p.segments = q.segments then isTrue (ext_segments h)
  else isFalse fun e => h (e ▸ rfl)

/-- The root of the repository. -/
def root : ResourcePath := ⟨[], by simp⟩

/-- Whether the path is the root. -/
def isRoot (p : ResourcePath) : Bool :=
  p.segments.isEmpty

/-- The slash of either kind as a slash. -/
def slash (c : Char) : Char :=
  if c = '\\' then '/' else c

/-- The pieces between the slashes of either kind. -/
def pieces (cs : List Char) : List (List Char) :=
  Text.splitAt '/' (cs.map slash)

/-- Takes one step, with the steps so far in reverse. -/
def step (stack : List (List Char)) (piece : List Char) : List (List Char) :=
  if piece = [] ∨ piece = ['.'] then stack
  else if piece = ['.', '.'] then stack.drop 1
  else piece :: stack

theorem backslash_not_mem_map_slash (cs : List Char) : '\\' ∉ cs.map slash := by
  intro h
  obtain ⟨c, -, hc⟩ := List.mem_map.mp h
  unfold slash at hc
  split at hc
  · simp at hc
  · exact absurd hc ‹_›

/-- What stands between slashes of either kind holds none of them. -/
theorem not_mem_of_mem_pieces {cs piece : List Char} (h : piece ∈ pieces cs) :
    '/' ∉ piece ∧ '\\' ∉ piece :=
  ⟨Text.not_mem_of_mem_splitAt h,
    fun hx => backslash_not_mem_map_slash cs (Text.mem_of_mem_splitAt h hx)⟩

theorem clean_step {stack : List (List Char)} {piece : List Char}
    (hstack : ∀ s ∈ stack, IsSegment s) (hpiece : '/' ∉ piece ∧ '\\' ∉ piece) :
    ∀ s ∈ step stack piece, IsSegment s := by
  unfold step
  split
  · exact hstack
  · next h₁ =>
    rw [not_or] at h₁
    split
    · exact fun s hs => hstack s (List.mem_of_mem_drop hs)
    · next h₂ =>
      intro s hs
      rcases List.mem_cons.mp hs with rfl | hs
      · exact ⟨h₁.1, h₁.2, h₂, hpiece⟩
      · exact hstack s hs

theorem clean_foldl {pieces : List (List Char)} (hp : ∀ p ∈ pieces, '/' ∉ p ∧ '\\' ∉ p) :
    ∀ {stack : List (List Char)}, (∀ s ∈ stack, IsSegment s) →
      ∀ s ∈ pieces.foldl step stack, IsSegment s := by
  induction pieces with
  | nil => exact fun h => h
  | cons p ps ih =>
    exact fun h => ih (fun q hq => hp q (List.mem_cons_of_mem _ hq))
      (clean_step h (hp p List.mem_cons_self))

/-- The place that the written path leads to from `p`. -/
def resolve (p : ResourcePath) (cs : List Char) : ResourcePath where
  segments := ((pieces cs).foldl step p.segments.reverse).reverse
  clean := fun s hs =>
    clean_foldl (fun _ h => not_mem_of_mem_pieces h)
      (fun t ht => p.clean t (List.mem_reverse.mp ht)) s (List.mem_reverse.mp hs)

/-- The place that the written path leads to from the root. -/
def ofChars (cs : List Char) : ResourcePath :=
  root.resolve cs

/-- The place that the written path leads to from the root. -/
def ofString (s : String) : ResourcePath :=
  ofChars s.toList

/-- The segments with a slash between each two. -/
def toChars (p : ResourcePath) : List Char :=
  Text.join '/' p.segments

/-- The segments with a slash between each two. -/
protected def toString (p : ResourcePath) : String :=
  String.ofList p.toChars

instance : ToString ResourcePath := ⟨ResourcePath.toString⟩

/-- The path without its last segment; the root for itself. -/
def parent (p : ResourcePath) : ResourcePath :=
  ⟨p.segments.dropLast, fun s hs => p.clean s (List.dropLast_subset _ hs)⟩

/-- The last segment; empty for the root. -/
def name (p : ResourcePath) : List Char :=
  p.segments.getLast?.getD []

/-- The first `n` segments. -/
def take (p : ResourcePath) (n : Nat) : ResourcePath :=
  ⟨p.segments.take n, fun s hs => p.clean s (List.mem_of_mem_take hs)⟩

/-- Every path on the way to `p` but the root, the shortest first and `p` last. -/
def chain (p : ResourcePath) : List ResourcePath :=
  (List.range p.segments.length).map fun n => p.take (n + 1)

end ResourcePath

end DavCourier
