import TextQuery.Text.Basic
import TextQuery.Unicode.CombiningClass
import TextQuery.Unicode.Decomposition
import TextQuery.Unicode.Mark

/-!
# Texts without accents

Accents are ignored by writing a text in its canonical decomposition and dropping the marks.  Decomposition takes two
steps: every character is decomposed, and the marks behind one base character are put in the order of their combining
classes.
-/

namespace TextQuery.Text

/-- Puts a mark in front of a text in canonical order, behind the marks of lower class that the text begins with. -/
def insertMark (c : Char) : Text → Text
  | [] => [c]
  | d :: rest =>
    if Unicode.combiningClass d ≠ 0 ∧ Unicode.combiningClass d < Unicode.combiningClass c then
      d :: insertMark c rest
    else c :: d :: rest

/-- Puts a character in front of a text in canonical order. -/
def insertInOrder (c : Char) (t : Text) : Text :=
  if Unicode.combiningClass c = 0 then c :: t else insertMark c t

/-- Sorts every run of marks by combining class.  Marks of one class keep their order. -/
def canonicalOrder (t : Text) : Text := t.foldr insertInOrder []

/-- The canonical decomposition of a text. -/
def decomposition (t : Text) : Text := canonicalOrder (t.flatMap Unicode.decompose)

/-- A text without its marks. -/
def dropMarks (t : Text) : Text := t.filter fun c => !Unicode.isMark c

/-- A text without accents.  An ASCII text has none, and is its own decomposition. -/
def withoutAccents (t : Text) : Text := if t.isAscii then t else dropMarks (decomposition t)

end TextQuery.Text
