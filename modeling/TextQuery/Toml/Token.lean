import TextQuery.Text.Basic

/-!
# TOML tokens

A document is cut into tokens before anything is made of them.  Where a token ends does not depend on what it stands
for: a word ends before a blank, a line end or a symbol, and a string behind its closing marks.  Whether a word is a
number, or the inside of a string is well-formed, is asked later.  Comments are no tokens, but a control character in
a comment spoils the document; so does a carriage return that does not belong to a line end.
-/

namespace TextQuery.Toml

/-- How a string is marked off. -/
structure Quoting where
  /-- Between quotation marks, where a backslash begins an escape.  Otherwise it stands between apostrophes. -/
  escapes : Bool
  /-- Between three marks in place of one, and over several lines. -/
  multiline : Bool
  deriving DecidableEq, Repr

/-- The mark before and behind a string. -/
def Quoting.mark (q : Quoting) : Char := if q.escapes then '"' else '\''

/-- A word or a string as it is written. -/
inductive Lexeme where
  | word (t : Text)
  /-- A string, with what stands between its marks when the closing ones are there. -/
  | string (q : Quoting) (inside : Option Text)
  deriving DecidableEq, Repr

/-- A piece of a document. -/
inductive Token where
  | lexeme (l : Lexeme)
  /-- Spaces and tabs. -/
  | blanks (t : Text)
  | lineEnd
  | point
  | equals
  | comma
  | openBracket
  | closeBracket
  | openBrace
  | closeBrace
  deriving DecidableEq, Repr

/-- The token that a character is by itself. -/
def symbol? (c : Char) : Option Token :=
  match c with
  | '\n' => some .lineEnd
  | '.' => some .point
  | '=' => some .equals
  | ',' => some .comma
  | '[' => some .openBracket
  | ']' => some .closeBracket
  | '\x7b' => some .openBrace
  | '\x7d' => some .closeBrace
  | _ => none

/-- Whether a character is a space or a tab. -/
def isSpace (c : Char) : Bool := c == ' ' || c == '\t'

/-- Whether a character is a control character. -/
def isControl (c : Char) : Bool := Nat.blt c.toNat 0x20 || c.toNat == 0x7F

/-- Whether a character may not stand in a comment or a string: a control character other than a tab or a line feed. -/
def isForbidden (c : Char) : Bool := isControl c && c != '\t' && c != '\n'

/-- Whether a character ends a word. -/
def endsWord (c : Char) : Bool := (symbol? c).isSome || isSpace c || c == '\r' || c == '#'

/-- A text without the byte order mark that it may begin with. -/
def dropByteOrderMark : Text → Text
  | [] => []
  | c :: rest => if c = '\uFEFF' then rest else c :: rest

/-- How the string that a text begins with is marked off, and the text behind its opening marks. -/
def opening? : Text → Option (Quoting × Text)
  | '"' :: '"' :: '"' :: rest => some (⟨true, true⟩, rest)
  | '"' :: rest => some (⟨true, false⟩, rest)
  | '\'' :: '\'' :: '\'' :: rest => some (⟨false, true⟩, rest)
  | '\'' :: rest => some (⟨false, false⟩, rest)
  | _ => none

/-- The closing marks that a text begins with: what belongs to the string still, and the text behind them.  Up to two
marks before three closing ones belong to the string. -/
def closing? (q : Quoting) (t : Text) : Option (Text × Text) :=
  let run := min (t.takeWhile (· == q.mark)).length (if q.multiline then 5 else 1)
  let marks := if q.multiline then 3 else 1
  if run < marks then none else some (List.replicate (run - marks) q.mark, t.drop run)

/-- A cut string with one more character in front. -/
def pushInside (c : Char) : Option Text × Text → Option Text × Text
  | (inside, rest) => (inside.map (c :: ·), rest)

/-- Cuts off a string behind its opening marks.  `escaped` tells that a backslash stands before the text; it keeps a
mark or another backslash from counting.  A string on one line ends with the line at the latest. -/
def cutString (q : Quoting) (escaped : Bool) : Text → Option Text × Text
  | [] => (none, [])
  | c :: rest =>
    if escaped && (c == '\\' || c == q.mark) then pushInside c (cutString q false rest)
    else if !q.multiline && c == '\n' then (none, c :: rest)
    else match closing? q (c :: rest) with
      | some (tail, rest) => (some tail, rest)
      | none => pushInside c (cutString q (q.escapes && c == '\\') rest)

/-- The tokens that a character and the text behind it begin with, one at most, and the text behind them. -/
def cutToken (c : Char) (rest : Text) : Option (List Token × Text) :=
  match symbol? c, opening? (c :: rest) with
  | some token, _ => some ([token], rest)
  | none, some (q, rest) =>
    let (inside, rest) := cutString q false rest
    some ([.lexeme (.string q inside)], rest)
  | none, none =>
    if c = '\r' then if rest.head? = some '\n' then some ([], rest) else none
    else if c = '#' then
      let comment := rest.takeWhile fun d => d != '\n' && d != '\r'
      if comment.any isForbidden then none else some ([], rest.drop comment.length)
    else if isSpace c then
      let blanks := rest.takeWhile isSpace
      some ([.blanks (c :: blanks)], rest.drop blanks.length)
    else
      let word := rest.takeWhile fun d => !endsWord d
      some ([.lexeme (.word (c :: word))], rest.drop word.length)

/-- Cuts a text into tokens, with fuel for every character. -/
def cutTokens : Nat → Text → Option (List Token)
  | _, [] => some []
  | 0, _ :: _ => none
  | fuel + 1, c :: rest => do
    let (tokens, rest) ← cutToken c rest
    return tokens ++ (← cutTokens fuel rest)

/-- The tokens of a document. -/
def tokens (t : Text) : Option (List Token) :=
  let t := dropByteOrderMark t
  cutTokens t.length t

end TextQuery.Toml
