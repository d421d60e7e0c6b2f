import TextQuery.Text.Basic
import TextQuery.Unicode.Printable

/-!
# Quoted texts

A text is shown between quotation marks on one line.  A quotation mark, a backslash and the usual control characters
are written with a backslash; every other character that would not be seen as itself is written by its code point.
-/

namespace TextQuery.Text

/-- The code point of a character in hexadecimal digits, between braces. -/
def codePointEscape (c : Char) : Text :=
  ['\\', 'u', '\x7b'] ++ Nat.toDigits 16 c.toNat ++ ['\x7d']

/-- How a character is written between quotation marks. -/
def escapeChar (c : Char) : Text :=
  if c = '"' then ['\\', '"']
  else if c = '\\' then ['\\', '\\']
  else if c = '\n' then ['\\', 'n']
  else if c = '\r' then ['\\', 'r']
  else if c = '\t' then ['\\', 't']
  else if c = '\x00' then ['\\', '0']
  else if Unicode.isExtendingMark c || !Unicode.isPrintable c then codePointEscape c
  else [c]

/-- A text between quotation marks. -/
def quoted (t : Text) : Text := '"' :: (t.flatMap escapeChar ++ ['"'])

end TextQuery.Text
