import TextQuery.Text.Basic

/-!
# Paths

A path is kept as it is written: where it begins, and what stands between its slashes.  Empty segments and dots say
nothing, except that a dot at the very beginning names the working directory; two dots are a name like any other.
Parents are found in the text alone, without looking at files.
-/

namespace TextQuery

/-- Where a path begins. -/
inductive Anchor where
  /-- At the working directory, without saying so. -/
  | relative
  /-- At the working directory, by a leading dot. -/
  | here
  /-- At the root of all files, by a leading slash. -/
  | root
  deriving DecidableEq, Repr

/-- A path: where it begins, and its segments behind that. -/
structure Path where
  anchor : Anchor
  segments : List Text
  deriving DecidableEq, Repr

namespace Path

/-- What stands between the slashes of a text. -/
def splitSlashes : Text → List Text
  | [] => [[]]
  | c :: rest =>
    if c = '/' then [] :: splitSlashes rest
    else match splitSlashes rest with
      | [] => [[c]]
      | segment :: more => (c :: segment) :: more

/-- The path that a text writes. -/
def ofText : Text → Path
  | '/' :: rest => ⟨.root, splitSlashes rest⟩
  | ['.'] => ⟨.here, []⟩
  | '.' :: '/' :: rest => ⟨.here, splitSlashes rest⟩
  | t => ⟨.relative, splitSlashes t⟩

/-- A path as it is written. -/
def toText (p : Path) : Text :=
  match p.anchor with
  | .relative => List.intercalate ['/'] p.segments
  | .here => '.' :: p.segments.flatMap ('/' :: ·)
  | .root => '/' :: List.intercalate ['/'] p.segments

/-- Whether a segment names a step: it is not empty, nor a dot. -/
def isName (segment : Text) : Bool := !segment.isEmpty && segment != ['.']

/-- The segments up to the last one that names a step. -/
def trimmed : List Text → List Text
  | [] => []
  | s :: rest =>
    match trimmed rest with
    | [] => if isName s then [s] else []
    | kept => s :: kept

/-- The path one step up.  The empty path and the root have none. -/
def parent? (p : Path) : Option Path :=
  match trimmed p.segments with
  | [] => if p.anchor = .here then some ⟨.relative, []⟩ else none
  | kept => some ⟨p.anchor, trimmed kept.dropLast⟩

/-- The path of a file in the directory with this path. -/
def child (p : Path) (name : Text) : Path :=
  if p.segments.getLast? = some [] then { p with segments := p.segments.dropLast ++ [name] }
  else { p with segments := p.segments ++ [name] }

/-- The names that a path steps through. -/
def names (p : Path) : List Text := p.segments.filter isName

/-- Whether two paths begin at one place and step through the same names. -/
def same (p q : Path) : Bool := p.anchor == q.anchor && p.names == q.names

private theorem length_trimmed_le (segments : List Text) : (trimmed segments).length ≤ segments.length := by
  induction segments with
  | nil => simp [trimmed]
  | cons s rest ih =>
    unfold trimmed
    split
    · split <;> simp
    · simpa using ih

/-- What becomes less with every step up: the segments and the leading dot. -/
def height (p : Path) : Nat := 2 * p.segments.length + if p.anchor = .here then 1 else 0

theorem height_of_parent? {p q : Path} (h : p.parent? = some q) : q.height < p.height := by
  have hp := length_trimmed_le p.segments
  unfold parent? at h
  split at h
  · split at h
    · next hHere =>
      cases h
      simp [height, hHere]
    · simp at h
  · next hKept =>
    cases h
    have hDrop := length_trimmed_le (trimmed p.segments).dropLast
    have hPos : 0 < (trimmed p.segments).length :=
      List.length_pos_iff.2 hKept
    rw [List.length_dropLast] at hDrop
    simp only [height]
    omega

/-- A path and all paths above it, the nearest first. -/
def ancestors (p : Path) : List Path :=
  p :: match _h : p.parent? with
    | none => []
    | some q => ancestors q
termination_by p.height
decreasing_by exact height_of_parent? _h

end Path

end TextQuery
