import TextQuery.Text.Accents
import TextQuery.Text.SmallLetters

/-!
# Matching options

Three choices decide how terms are compared with a text.  Patterns and texts are prepared in one way, so that a term
is found by comparing characters alone.
-/

namespace TextQuery

/-- How terms are compared with a text. -/
structure Options where
  /-- Capitals and small letters are the same. -/
  ignoreCase : Bool := true
  /-- Letters with and without accents are the same. -/
  ignoreAccents : Bool := true
  /-- A term begins and ends where words do. -/
  wholeWords : Bool := true
  deriving DecidableEq, Repr

/-- A text in the form in which it is compared.  Where no small letters are written, it is the text without accents. -/
def Options.prepare (o : Options) (t : Text) : Text :=
  let bare := if o.ignoreAccents then t.withoutAccents else t
  (if o.ignoreCase then bare.smallLetters? else none).getD bare

end TextQuery
