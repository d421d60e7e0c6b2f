import TextQuery.Matching.Options
import TextQuery.Text.Offsets
import TextQuery.Unicode.Alphanumeric

/-!
# Terms

A term looks for one pattern, character for character.  With whole words, an occurrence counts only when no word
character stands directly before or after it.

Whole words are searched for from the left.  An occurrence that does not count is passed over by one character, so that
one which overlaps it can count still.  The places of the search are offsets; none of them lies inside a character, and
the fuel always suffices.
-/

namespace TextQuery

/-- Whether a character is part of a word: a letter, a number or the underscore. -/
def isInWord (c : Char) : Bool := Unicode.isAlphanumeric c || c == '_'

/-- A pattern in prepared form, and whether it has to stand on word boundaries. -/
structure Term where
  pattern : Text
  wholeWords : Bool
  deriving DecidableEq, Repr

namespace Term

/-- The term for a piece of a query.  White space around the piece does not count. -/
def ofText (o : Options) (t : Text) : Term := ⟨o.prepare t.trim, o.wholeWords⟩

/-- Whether a neighbour, if there is one, is no word character. -/
def isBoundary (neighbour : Option Char) : Bool := !neighbour.any isInWord

/-- Why a search could not go on. -/
inductive SearchFault where
  /-- A text cannot be cut inside a character. -/
  | insideCharacter (offset : Nat)
  /-- The fuel does not suffice. -/
  | outOfFuel
  deriving DecidableEq, Repr

/-- Cuts a text at an offset. -/
def cut (t : Text) (offset : Nat) : Except SearchFault (Text × Text) :=
  match t.cutAt? offset with
  | some parts => .ok parts
  | none => .error (.insideCharacter offset)

/-- Whether what stands between two offsets has a boundary on both sides. -/
def isOnBoundary (t : Text) (start stop : Nat) : Except SearchFault Bool := do
  let (before, _) ← cut t start
  let (_, behind) ← cut t stop
  return isBoundary before.getLast? && isBoundary behind.head?

/-- Looks for a pattern that stands on boundaries, from an offset on. -/
def searchFrom (pattern t : Text) : Nat → Nat → Except SearchFault Bool
  | 0, _ => .error .outOfFuel
  | fuel + 1, offset => do
    let (_, rest) ← cut t offset
    match Text.offsetOf? pattern rest with
    | none => return false
    | some found =>
      let start := offset + found
      if ← isOnBoundary t start (start + pattern.utf8Size) then return true
      let (_, here) ← cut t start
      searchFrom pattern t fuel (start + (here.head?.map Char.utf8Size).getD 1)

/-- Looks for a term in a prepared text.  The empty pattern is found nowhere. -/
def search (term : Term) (t : Text) : Except SearchFault Bool :=
  if term.pattern.isEmpty then .ok false
  else if term.wholeWords then searchFrom term.pattern t (t.length + 1) 0
  else .ok (Text.hasPart term.pattern t)

/-- Whether a term is found in a prepared text. -/
def isIn (term : Term) (t : Text) : Bool :=
  match term.search t with
  | .ok found => found
  | .error _ => false

end Term

end TextQuery
