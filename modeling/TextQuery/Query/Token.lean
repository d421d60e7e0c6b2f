import TextQuery.Text.Basic

/-!
# Tokens of a query

A query is made of words, phrases in quotation marks, and parentheses.  A token does not know whether a word is an
operator: the place of the word decides that.
-/

namespace TextQuery

/-- The words that can be operators. -/
inductive Keyword where
  | and
  | or
  | not
  deriving DecidableEq, Repr

/-- A keyword in capitals. -/
def Keyword.spelling : Keyword → Text
  | .and => "AND".toList
  | .or => "OR".toList
  | .not => "NOT".toList

/-- A piece of a query. -/
inductive Token where
  /-- Characters other than white space, parentheses and quotation marks. -/
  | word (text : Text)
  /-- The text between two quotation marks. -/
  | phrase (text : Text)
  | openParen
  | closeParen
  deriving DecidableEq, Repr

/-- Whether a word is spelled like a keyword, in capitals, small letters or both. -/
def Keyword.spells (k : Keyword) (word : Text) : Bool := k.spelling.sameIgnoringAsciiCase word

namespace Token

/-- Whether a token is a word that is spelled like a keyword. -/
def spells (k : Keyword) : Token → Bool
  | word text => k.spells text
  | _ => false

/-- How a message names a token. -/
def describe : Token → Text
  | word text => ['\''] ++ text ++ ['\'']
  | phrase text => "phrase \"".toList ++ text ++ ['"']
  | openParen => "'('".toList
  | closeParen => "')'".toList

end Token

/-- A token with the offset of its first character. -/
structure Located where
  token : Token
  offset : Nat
  deriving DecidableEq, Repr

end TextQuery
