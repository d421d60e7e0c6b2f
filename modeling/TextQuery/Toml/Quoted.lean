import TextQuery.Toml.Token

/-!
# TOML strings

What a string stands for.  Between apostrophes every character is itself.  Between quotation marks a backslash begins
an escape: a letter for a control character, the digits of a code point, or, over several lines, a line end that is
left out together with the white space around it.
-/

namespace TextQuery.Toml

/-- The value of a hexadecimal digit. -/
def hexDigit? (c : Char) : Option Nat :=
  if '0' ≤ c ∧ c ≤ '9' then some (c.toNat - 0x30)
  else if 'a' ≤ c ∧ c ≤ 'f' then some (c.toNat - 0x57)
  else if 'A' ≤ c ∧ c ≤ 'F' then some (c.toNat - 0x37)
  else none

/-- What a letter stands for behind a backslash. -/
def escaped? (c : Char) : Option Char :=
  match c with
  | 'b' => some '\x08'
  | 't' => some '\t'
  | 'n' => some '\n'
  | 'f' => some '\x0c'
  | 'r' => some '\r'
  | 'e' => some '\x1b'
  | '"' => some '"'
  | '\\' => some '\\'
  | _ => none

/-- How many hexadecimal digits of a code point follow a letter behind a backslash. -/
def codeDigits? (c : Char) : Option Nat :=
  match c with
  | 'x' => some 2
  | 'u' => some 4
  | 'U' => some 8
  | _ => none

/-- The character of a code point; surrogates have none. -/
def charOfCode? (n : Nat) : Option Char := if n.isValidChar then some (Char.ofNat n) else none

/-- Where a reader stands between quotation marks. -/
inductive EscapeMode where
  | plain
  /-- Behind a backslash. -/
  | escape
  /-- Inside the digits of a code point. -/
  | code (missing value : Nat)
  /-- Behind a backslash and blanks, before the line end that they hide. -/
  | hidden
  /-- Behind a hidden line end, before the next character that counts. -/
  | margin
  deriving DecidableEq, Repr

/-- Replaces the escapes of a text by what they stand for. -/
def unescape (multiline : Bool) : EscapeMode → Text → Option Text
  | .plain, [] => some []
  | .margin, [] => some []
  | _, [] => none
  | .plain, c :: rest =>
    if c = '\\' then unescape multiline .escape rest
    else (unescape multiline .plain rest).map (c :: ·)
  | .escape, c :: rest =>
    match escaped? c, codeDigits? c with
    | some d, _ => (unescape multiline .plain rest).map (d :: ·)
    | none, some n => unescape multiline (.code n 0) rest
    | none, none =>
      if multiline && isSpace c then unescape multiline .hidden rest
      else if multiline && c == '\n' then unescape multiline .margin rest
      else none
  | .code missing value, c :: rest =>
    match hexDigit? c with
    | none => none
    | some d =>
      if missing ≤ 1 then
        match charOfCode? (16 * value + d) with
        | some e => (unescape multiline .plain rest).map (e :: ·)
        | none => none
      else unescape multiline (.code (missing - 1) (16 * value + d)) rest
  | .hidden, c :: rest =>
    if isSpace c then unescape multiline .hidden rest
    else if c = '\n' then unescape multiline .margin rest
    else none
  | .margin, c :: rest =>
    if isSpace c || c == '\n' then unescape multiline .margin rest
    else if c = '\\' then unescape multiline .escape rest
    else (unescape multiline .plain rest).map (c :: ·)

/-- A text with a line feed for every line end.  A carriage return elsewhere is refused. -/
def unifyLineEnds : Text → Option Text
  | [] => some []
  | '\r' :: '\n' :: rest => (unifyLineEnds rest).map ('\n' :: ·)
  | c :: rest => if c = '\r' then none else (unifyLineEnds rest).map (c :: ·)

/-- A text without the line end that it may begin with. -/
def dropLineEnd : Text → Text
  | '\n' :: rest => rest
  | t => t

/-- What a string stands for, given what is between its marks. -/
def Quoting.decode (q : Quoting) (inside : Text) : Option Text := do
  let t := dropLineEnd (← unifyLineEnds inside)
  if t.any isForbidden then none
  else if q.escapes then unescape q.multiline .plain t
  else some t

end TextQuery.Toml
