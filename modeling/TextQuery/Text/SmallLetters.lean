import TextQuery.Text.Basic
import TextQuery.Unicode.LetterCase

/-!
# Texts in small letters

Letter case is ignored by writing a text in small letters.  All characters but one are mapped by themselves; the
capital sigma becomes a final sigma at the end of a word, that is, when a cased letter stands before it and none after
it.  Characters such as marks and apostrophes are passed over on both sides.
-/

namespace TextQuery.Text

/-- What is known of the letters before a place, after one more character: whether the nearest character that is not
passed over is cased. -/
def casedAfter (before : Bool) (c : Char) : Bool :=
  if Unicode.isCaseIgnorable c then before else Unicode.isCased c

/-- Whether the first character of a text that is not passed over is cased. -/
def beginsCased : Text → Bool
  | [] => false
  | c :: rest => if Unicode.isCaseIgnorable c then beginsCased rest else Unicode.isCased c

/-- The small form of a character between its neighbours. -/
def smallForm (before : Bool) (c : Char) (rest : Text) : Text :=
  if c = 'Σ' then [if before && !beginsCased rest then 'ς' else 'σ'] else Unicode.toLower c

/-- The small letters of a text whose beginning is done already, and kept in reverse. -/
def smallLettersFrom (before : Bool) (done : Text) : Text → Text
  | [] => done.reverse
  | c :: rest => smallLettersFrom (casedAfter before c) ((smallForm before c rest).reverse ++ done) rest

/-- A text in small letters. -/
def smallLetters (t : Text) : Text := smallLettersFrom false [] t

/-- Whether a character is one of the capitals A to Z. -/
def isAsciiCapital (c : Char) : Bool := Nat.ble 65 c.toNat && Nat.ble c.toNat 90

/-- The small letters of a text, where they are written anew.  An ASCII text without capitals is in small letters
already, and is handed on as it is. -/
def smallLetters? (t : Text) : Option Text := if t.isAscii && !t.any isAsciiCapital then none else some (smallLetters t)

/-- A text in small letters. -/
def withoutCase (t : Text) : Text := (smallLetters? t).getD t

end TextQuery.Text
