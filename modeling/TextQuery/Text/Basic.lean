import TextQuery.Unicode.Blank

/-!
# Texts

A text is a list of characters, so that its parts are those of lists: a prefix, a split, the character in front of a
place.  Offsets into a text count the bytes of its UTF-8 form.
-/

namespace TextQuery

/-- A text is the list of its characters. -/
abbrev Text := List Char

namespace Text

/-- Whether a text has no character but white space. -/
def isBlank (t : Text) : Bool := t.all Unicode.isBlank

/-- A text without the white space at its beginning. -/
def trimStart (t : Text) : Text := t.dropWhile Unicode.isBlank

/-- A text without the white space at its end. -/
def trimEnd (t : Text) : Text := (t.reverse.dropWhile Unicode.isBlank).reverse

/-- A text without the white space at its two ends. -/
def trim (t : Text) : Text := trimEnd (trimStart t)

/-- The number of bytes in the UTF-8 form of a text. -/
def utf8Size (t : Text) : Nat := t.foldr (fun c n => c.utf8Size + n) 0

/-- Whether a text has ASCII characters only. -/
def isAscii (t : Text) : Bool := t.all fun c => Nat.blt c.toNat 128

/-- Whether two texts agree when the letters A to Z are not told from a to z. -/
def sameIgnoringAsciiCase (t u : Text) : Bool := t.map Char.toLower == u.map Char.toLower

/-- Whether `part` occurs somewhere in a text. -/
def hasPart (part : Text) : Text → Bool
  | [] => part.isEmpty
  | c :: rest => part.isPrefixOf (c :: rest) || hasPart part rest

/-- The decimal digits of a number. -/
def ofNat (n : Nat) : Text := Nat.toDigits 10 n

/-- The words that state a truth value. -/
def ofBool (b : Bool) : Text := if b then "true".toList else "false".toList

@[simp] theorem utf8Size_nil : utf8Size [] = 0 := rfl

@[simp] theorem utf8Size_cons (c : Char) (t : Text) : utf8Size (c :: t) = c.utf8Size + t.utf8Size := rfl

@[simp] theorem utf8Size_append (t u : Text) : utf8Size (t ++ u) = t.utf8Size + u.utf8Size := by
  induction t with
  | nil => simp
  | cons c rest ih => simp [ih, Nat.add_assoc]

theorem mem_of_mem_trim {t : Text} {c : Char} (h : c ∈ t.trim) : c ∈ t := by
  rw [trim, trimEnd, List.mem_reverse] at h
  have hStart : c ∈ trimStart t := List.mem_reverse.1 ((List.dropWhile_sublist _).subset h)
  exact (List.dropWhile_sublist _).subset hStart

theorem hasPart_eq_true_iff {part t : Text} : hasPart part t = true ↔ part <:+: t := by
  induction t with
  | nil => simp [hasPart, List.infix_nil]
  | cons c rest ih => simp [hasPart, List.infix_cons_iff, ih]

end Text

end TextQuery
