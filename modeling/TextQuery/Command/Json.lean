import TextQuery.Text.Basic

/-!
# JSON output

Values are written over several lines, each level two columns to the right of the one above it.
-/

namespace TextQuery

/-- A JSON value.  The fields of an object keep their order. -/
inductive Json where
  | null
  | bool (b : Bool)
  | number (n : Nat)
  | string (t : Text)
  | array (items : List Json)
  | object (fields : List (Text × Json))
  deriving Repr

namespace Json

/-- A control character as four hexadecimal digits. -/
def controlEscape (c : Char) : Text :=
  let digits := Nat.toDigits 16 c.toNat
  ['\\', 'u'] ++ List.replicate (4 - digits.length) '0' ++ digits

/-- How a character is written in a string. -/
def escapeChar (c : Char) : Text :=
  if c = '"' then ['\\', '"']
  else if c = '\\' then ['\\', '\\']
  else if c = '\x08' then ['\\', 'b']
  else if c = '\x0c' then ['\\', 'f']
  else if c = '\n' then ['\\', 'n']
  else if c = '\r' then ['\\', 'r']
  else if c = '\t' then ['\\', 't']
  else if Nat.blt c.toNat 0x20 then controlEscape c
  else [c]

/-- A string between quotation marks. -/
def quoted (t : Text) : Text := '"' :: (t.flatMap escapeChar ++ ['"'])

/-- The margin of a level. -/
def margin (level : Nat) : Text := List.replicate (2 * level) ' '

mutual

/-- A value whose first line is placed already, and whose other lines begin at the margin of a level. -/
def render (level : Nat) : Json → Text
  | null => "null".toList
  | bool b => Text.ofBool b
  | number n => Text.ofNat n
  | string t => quoted t
  | array [] => "[]".toList
  | array items => "[\n".toList ++ renderItems (level + 1) items ++ ['\n'] ++ margin level ++ [']']
  | object [] => ['\x7b', '\x7d']
  | object fields => ['\x7b', '\n'] ++ renderFields (level + 1) fields ++ ['\n'] ++ margin level ++ ['\x7d']

/-- The items of an array, one below the other. -/
def renderItems (level : Nat) : List Json → Text
  | [] => []
  | [j] => margin level ++ render level j
  | j :: rest => margin level ++ render level j ++ ",\n".toList ++ renderItems level rest

/-- The fields of an object, one below the other. -/
def renderFields (level : Nat) : List (Text × Json) → Text
  | [] => []
  | [(name, j)] => margin level ++ quoted name ++ ": ".toList ++ render level j
  | (name, j) :: rest =>
    margin level ++ quoted name ++ ": ".toList ++ render level j ++ ",\n".toList ++ renderFields level rest

end

/-- An object with fields named by string literals. -/
def ofFields (fields : List (String × Json)) : Json := object (fields.map fun (name, j) => (name.toList, j))

/-- Nothing or a value. -/
def ofOption {α : Type} (encode : α → Json) : Option α → Json
  | none => null
  | some a => encode a

end Json

end TextQuery
