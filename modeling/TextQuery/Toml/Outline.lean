import TextQuery.Toml.Token

/-!
# The outline of a TOML document

The lines of a document that open a table or give a value to a key, with keys and values as they are written.  The
outline shows how brackets, braces, commas and lines fit together.  What its words and strings stand for, and whether
the lines agree with each other, is left open, and so is a word that is missing: it is taken for the empty word.
-/

namespace TextQuery.Toml

/-- How deep arrays and tables in braces may be nested, and how many parts a key may have. -/
def depthLimit : Nat := 80

/-- A value as it is written. -/
inductive Node where
  | scalar (l : Lexeme)
  | array (items : List Node)
  | table (fields : List (List Lexeme × Node))
  deriving Repr

/-- A line of a document that is not blank. -/
inductive Line where
  | open (header : List Lexeme)
  | openItem (header : List Lexeme)
  | assign (key : List Lexeme) (value : Node)
  deriving Repr

/-- The word that stands for one that is missing. -/
def missingWord : Lexeme := .word []

/-- Whether a token is made of blanks. -/
def Token.isBlanks : Token → Bool
  | blanks _ => true
  | _ => false

/-- Tokens behind the blanks that they begin with. -/
def skipBlanks (ts : List Token) : List Token := ts.dropWhile Token.isBlanks

/-- Tokens behind the blanks and line ends that they begin with. -/
def skipGap (ts : List Token) : List Token := ts.dropWhile fun t => t.isBlanks || t == .lineEnd

/-- Reads the parts of a key, which are separated by points, and the blanks around them.  `part` is the part that has
been read since the last point. -/
def readKey (part : Option Lexeme) : List Token → List Lexeme × List Token
  | .blanks _ :: rest => readKey part rest
  | .point :: rest =>
    let (parts, rest) := readKey none rest
    (part.getD missingWord :: parts, rest)
  | .lexeme l :: rest =>
    match part with
    | none => readKey (some l) rest
    | some first => ([first], .lexeme l :: rest)
  | ts => ([part.getD missingWord], ts)

/-- Reads words and points as one word, together with the blanks that stand before a word. -/
def readWord : List Token → Text × List Token
  | .lexeme (.word t) :: rest =>
    let (more, rest) := readWord rest
    (t ++ more, rest)
  | .point :: rest =>
    let (more, rest) := readWord rest
    ('.' :: more, rest)
  | .blanks b :: .lexeme (.word t) :: rest =>
    let (more, rest) := readWord rest
    (b ++ t ++ more, rest)
  | ts => ([], ts)

/-- Reads one given token. -/
def expectToken? (expected : Token) : List Token → Option (List Token)
  | [] => none
  | t :: rest => if t = expected then some rest else none

/-- The tokens behind a key in braces, from the value on.  When that is missing, they are those from the closing brace
on; the equals sign may be missing then, too. -/
def skipEquals? (ts : List Token) : Option (List Token) :=
  match skipGap ts with
  | .closeBrace :: rest => some (.closeBrace :: rest)
  | ts => (expectToken? .equals ts).map skipGap

mutual

/-- Reads a value.  `depth` tells how many brackets and braces may still be opened. -/
def readNode : Nat → Nat → List Token → Option (Node × List Token)
  | 0, _, _ => none
  | fuel + 1, depth, ts =>
    match ts with
    | .openBracket :: rest =>
      if depth = 0 then none
      else (readItems fuel (depth - 1) (skipGap rest)).map fun (items, rest) => (.array items, rest)
    | .openBrace :: rest =>
      if depth = 0 then none
      else (readFields fuel (depth - 1) (skipGap rest)).map fun (fields, rest) => (.table fields, rest)
    | .lexeme (.string q inside) :: rest => some (.scalar (.string q inside), rest)
    | .lexeme (.word t) :: rest =>
      let (word, rest) := readWord (.lexeme (.word t) :: rest)
      some (.scalar (.word word), rest)
    | .point :: rest =>
      let (word, rest) := readWord (.point :: rest)
      some (.scalar (.word word), rest)
    | _ => none

/-- Reads the items of an array up to its closing bracket. -/
def readItems : Nat → Nat → List Token → Option (List Node × List Token)
  | 0, _, _ => none
  | _ + 1, _, .closeBracket :: rest => some ([], rest)
  | fuel + 1, depth, ts => do
    let (item, rest) ← readNode fuel depth ts
    match skipGap rest with
    | .comma :: more =>
      let (items, rest) ← readItems fuel depth (skipGap more)
      return (item :: items, rest)
    | .closeBracket :: rest => return ([item], rest)
    | _ => none

/-- Reads the keys and values of a table in braces up to its closing brace.  The last value may be missing. -/
def readFields : Nat → Nat → List Token → Option (List (List Lexeme × Node) × List Token)
  | 0, _, _ => none
  | _ + 1, _, .closeBrace :: rest => some ([], rest)
  | fuel + 1, depth, ts => do
    let (key, rest) := readKey none ts
    match ← skipEquals? rest with
    | .closeBrace :: rest => return ([(key, .scalar missingWord)], rest)
    | ts =>
      let (value, rest) ← readNode fuel depth ts
      match skipGap rest with
      | .comma :: more =>
        let (fields, rest) ← readFields fuel depth (skipGap more)
        return ((key, value) :: fields, rest)
      | .closeBrace :: rest => return ([(key, value)], rest)
      | _ => none

end

/-- Enough fuel to read a value: two calls to a token at most. -/
def fuelFor (ts : List Token) : Nat := 2 * ts.length + 2

/-- Reads the value behind an equals sign. -/
def readAssigned (ts : List Token) : Option (Node × List Token) :=
  match skipBlanks ts with
  | [] => some (.scalar missingWord, [])
  | .lineEnd :: rest => some (.scalar missingWord, .lineEnd :: rest)
  | ts => readNode (fuelFor ts) depthLimit ts

/-- Reads a header behind its first bracket or brackets.  When neither the last part of its key nor a closing bracket is
there, the rest of the line does not matter. -/
def readHeader (isItem : Bool) (ts : List Token) : Option (List Lexeme × List Token) :=
  match readKey none ts with
  | (key, .closeBracket :: rest) =>
    if isItem then (expectToken? .closeBracket rest).map (key, ·) else some (key, rest)
  | (key, rest) =>
    if key.getLast? = some missingWord then some (key, rest.dropWhile (· != .lineEnd)) else none

/-- Reads a line without its line end. -/
def readLine : List Token → Option (Line × List Token)
  | .openBracket :: .openBracket :: rest => do
    let (key, rest) ← readHeader true rest
    return (.openItem key, rest)
  | .openBracket :: rest => do
    let (key, rest) ← readHeader false rest
    return (.open key, rest)
  | ts =>
    let (key, rest) := readKey none ts
    do
      let (value, rest) ← readAssigned (← expectToken? .equals rest)
      return (.assign key value, rest)

/-- Reads the line end, or the end of the document, behind a line. -/
def readLineEnd (ts : List Token) : Option (List Token) :=
  match skipBlanks ts with
  | [] => some []
  | .lineEnd :: rest => some rest
  | _ => none

/-- Reads all lines, with fuel for every token. -/
def readLines : Nat → List Token → Option (List Line)
  | 0, ts => if (skipGap ts).isEmpty then some [] else none
  | fuel + 1, ts =>
    match skipGap ts with
    | [] => some []
    | ts => do
      let (line, rest) ← readLine ts
      return line :: (← readLines fuel (← readLineEnd rest))

/-- The outline of a document. -/
def outline (t : Text) : Option (List Line) := do
  let ts ← tokens t
  readLines ts.length ts

end TextQuery.Toml
