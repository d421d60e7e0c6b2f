import TextQuery.Query.Token

/-!
# From characters to tokens

One pass over the characters.  Between two characters the scan is outside all tokens, inside a word, or inside a
phrase; each character moves it on and may end tokens.  The scan fails only when the text ends inside a phrase.
-/

namespace TextQuery.Lexer

/-- Where a scan stands between two characters.  The characters of an unfinished token are kept in reverse, with the
offset where the token begins. -/
inductive Mode where
  | between
  | inWord (start : Nat) (done : Text)
  | inPhrase (start : Nat) (done : Text)
  deriving DecidableEq, Repr

/-- A phrase without a closing quotation mark. -/
structure UnclosedQuote where
  /-- The offset of the opening quotation mark. -/
  position : Nat
  deriving DecidableEq, Repr

/-- The effect of a character outside of all tokens. -/
def begin (offset : Nat) (c : Char) : List Located × Mode :=
  if Unicode.isBlank c then ([], .between)
  else if c = '"' then ([], .inPhrase offset [])
  else if c = '(' then ([⟨.openParen, offset⟩], .between)
  else if c = ')' then ([⟨.closeParen, offset⟩], .between)
  else ([], .inWord offset [c])

/-- Whether a character ends a word. -/
def breaksWord (c : Char) : Bool := Unicode.isBlank c || c == '"' || c == '(' || c == ')'

/-- The tokens that a character ends, and the mode behind it. -/
def step (mode : Mode) (offset : Nat) (c : Char) : List Located × Mode :=
  match mode with
  | .between => begin offset c
  | .inWord start done =>
    if breaksWord c then
      let (tokens, next) := begin offset c
      (⟨.word done.reverse, start⟩ :: tokens, next)
    else ([], .inWord start (c :: done))
  | .inPhrase start done =>
    if c = '"' then ([⟨.phrase done.reverse, start⟩], .between)
    else ([], .inPhrase start (c :: done))

/-- The tokens that the end of the text ends. -/
def finish : Mode → Except UnclosedQuote (List Located)
  | .between => .ok []
  | .inWord start done => .ok [⟨.word done.reverse, start⟩]
  | .inPhrase start _ => .error ⟨start⟩

/-- The tokens of a text that begins at an offset, in a mode. -/
def scan (mode : Mode) (offset : Nat) : Text → Except UnclosedQuote (List Located)
  | [] => finish mode
  | c :: rest => do
    let (tokens, next) := step mode offset c
    let more ← scan next (offset + c.utf8Size) rest
    return tokens ++ more

/-- The tokens of a query, each with its offset. -/
def tokens (query : Text) : Except UnclosedQuote (List Located) := scan .between 0 query

end TextQuery.Lexer
