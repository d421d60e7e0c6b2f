import TextQuery.Unicode.Ranges

/-!
# White space

The `White_Space` property of the Unicode character database: what separates the words of a query and what is
trimmed from the ends of a text.
-/

namespace TextQuery.Unicode

/-- The characters with the `White_Space` property. -/
def blankRanges : List (Nat × Nat) := [
  (0x9, 0xD), (0x20, 0x20), (0x85, 0x85), (0xA0, 0xA0), (0x1680, 0x1680), (0x2000, 0x200A),
  (0x2028, 0x2029), (0x202F, 0x202F), (0x205F, 0x205F), (0x3000, 0x3000)]

/-- Whether a character is white space. -/
def isBlank (c : Char) : Bool := inRanges c.toNat blankRanges

end TextQuery.Unicode
