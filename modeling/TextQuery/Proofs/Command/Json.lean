import Mathlib.Tactic.FinCases
import Mathlib.Tactic.IntervalCases
import TextQuery.Command.Json
import TextQuery.Toml.Quoted

/-!
# Reading JSON back

A reader for JSON with whole numbers, where white space may stand between all parts of a value.  Every value can be read
back from the text in which it is written (`read?_render`), so that the text stands for no other.
-/

namespace TextQuery.Json

/-! ### Strings -/

/-- What a letter stands for behind a backslash. -/
def escaped? (c : Char) : Option Char :=
  match c with
  | '"' => some '"'
  | '\\' => some '\\'
  | '/' => some '/'
  | 'b' => some '\x08'
  | 'f' => some '\x0c'
  | 'n' => some '\n'
  | 'r' => some '\r'
  | 't' => some '\t'
  | _ => none

/-- The character with a code point of four hexadecimal digits. -/
def codeChar? (digits : Text) : Option Char := do
  let values ← digits.mapM Toml.hexDigit?
  Toml.charOfCode? (values.foldl (fun n d => 16 * n + d) 0)

/-- A string that was read, with one more character in front. -/
def pushChar (c : Char) : Option (Text × Text) → Option (Text × Text) :=
  Option.map fun (t, rest) => (c :: t, rest)

/-- Reads a string behind its first quotation mark.  The result has the text behind the second one. -/
def readString : Text → Option (Text × Text)
  | [] => none
  | '"' :: rest => some ([], rest)
  | '\\' :: 'u' :: a :: b :: c :: d :: rest => do pushChar (← codeChar? [a, b, c, d]) (readString rest)
  | '\\' :: c :: rest => do pushChar (← escaped? c) (readString rest)
  | c :: rest => if c = '\\' ∨ c.toNat < 0x20 then none else pushChar c (readString rest)

private theorem readString_controlEscape {c : Char} (h : c.toNat < 0x20) (rest : Text) :
    readString (controlEscape c ++ rest) = pushChar c (readString rest) := by
  have hAll : ∀ n < 0x20, ∃ a b d e, controlEscape (Char.ofNat n) = ['\\', 'u', a, b, d, e] ∧
      codeChar? [a, b, d, e] = some (Char.ofNat n) := by
    intro n hn
    interval_cases n <;> exact ⟨_, _, _, _, rfl, rfl⟩
  obtain ⟨a, b, d, e, hEscape, hCode⟩ := hAll c.toNat h
  rw [Char.ofNat_toNat] at hEscape hCode
  rw [hEscape]
  simp [readString, hCode]

private theorem readString_escapeChar (c : Char) (rest : Text) :
    readString (escapeChar c ++ rest) = pushChar c (readString rest) := by
  by_cases hLetter : c ∈ ['"', '\\', '\x08', '\x0c', '\n', '\r', '\t']
  · -- a letter of its own behind the backslash
    fin_cases hLetter <;> rfl
  · simp only [List.mem_cons, List.not_mem_nil, or_false, not_or] at hLetter
    obtain ⟨hMark, hBackslash, hBackspace, hPage, hFeed, hReturn, hTab⟩ := hLetter
    by_cases hControl : c.toNat < 0x20
    · have hEscape : escapeChar c = controlEscape c := by
        simp [escapeChar, hMark, hBackslash, hBackspace, hPage, hFeed, hReturn, hTab, hControl]
      rw [hEscape, readString_controlEscape hControl]
    · have hItself : escapeChar c = [c] := by
        simp [escapeChar, hMark, hBackslash, hBackspace, hPage, hFeed, hReturn, hTab, Nat.not_lt.1 hControl]
      rw [hItself, List.singleton_append]
      simp [readString, hBackslash, Nat.not_lt.1 hControl]

theorem readString_quoted (t rest : Text) : readString (t.flatMap escapeChar ++ '"' :: rest) = some (t, rest) := by
  induction t with
  | nil => rfl
  | cons c t ih =>
    rw [List.flatMap_cons, List.append_assoc, readString_escapeChar, ih]
    rfl

/-! ### Numbers and words -/

/-- Reads the decimal digits that a text begins with. -/
def readNumber (t : Text) : Json × Text :=
  let digits := t.takeWhile Char.isDigit
  (.number (Nat.ofDigitChars 10 digits 0), t.drop digits.length)

/-- Reads the word that a text begins with. -/
def readWord (t : Text) : Option (Json × Text) :=
  if "null".toList.isPrefixOf t then some (.null, t.drop 4)
  else if "true".toList.isPrefixOf t then some (.bool true, t.drop 4)
  else if "false".toList.isPrefixOf t then some (.bool false, t.drop 5)
  else none

/-- Whether a text begins with a digit. -/
def beginsWithDigit (t : Text) : Bool := t.head?.any Char.isDigit

theorem readNumber_ofNat (n : Nat) {rest : Text} (hRest : beginsWithDigit rest = false) :
    readNumber (Text.ofNat n ++ rest) = (.number n, rest) := by
  have hDigits : ∀ c ∈ Text.ofNat n, c.isDigit = true := by
    intro c hc
    exact Nat.isDigit_of_mem_toDigits (by decide) (by decide) hc
  have hEnd : rest.takeWhile Char.isDigit = [] := by
    cases rest with
    | nil => rfl
    | cons c rest => exact List.takeWhile_cons_of_neg (by simpa [beginsWithDigit] using hRest)
  have hTake : (Text.ofNat n ++ rest).takeWhile Char.isDigit = Text.ofNat n := by
    rw [List.takeWhile_append_of_pos hDigits, hEnd, List.append_nil]
  have hValue : Nat.ofDigitChars 10 (Text.ofNat n) 0 = n := Nat.ofDigitChars_toDigits (by decide) (by decide)
  simp only [readNumber, hTake, hValue, List.drop_left]

/-! ### Values -/

/-- Whether a character is white space between the parts of a value. -/
def isGap (c : Char) : Bool := c == ' ' || c == '\n' || c == '\r' || c == '\t'

/-- A text without the white space at its beginning. -/
def skipGap (t : Text) : Text := t.dropWhile isGap

mutual

/-- Reads a value.  The result has the text behind it. -/
def readValue : Nat → Text → Option (Json × Text)
  | 0, _ => none
  | fuel + 1, t =>
    match skipGap t with
    | [] => none
    | c :: rest =>
      if c.isDigit then some (readNumber (c :: rest))
      else if c = '"' then (readString rest).map fun (s, rest) => (.string s, rest)
      else if c = '[' then
        if (skipGap rest).head? = some ']' then some (.array [], (skipGap rest).tail)
        else (readItems fuel rest).map fun (items, rest) => (.array items, rest)
      else if c = '\x7b' then
        if (skipGap rest).head? = some '\x7d' then some (.object [], (skipGap rest).tail)
        else (readFields fuel rest).map fun (fields, rest) => (.object fields, rest)
      else readWord (c :: rest)

/-- Reads the items of an array up to its closing bracket. -/
def readItems : Nat → Text → Option (List Json × Text)
  | 0, _ => none
  | fuel + 1, t => do
    let (item, rest) ← readValue fuel t
    match skipGap rest with
    | ',' :: rest => (readItems fuel rest).map fun (items, rest) => (item :: items, rest)
    | ']' :: rest => some ([item], rest)
    | _ => none

/-- Reads the fields of an object up to its closing brace. -/
def readFields : Nat → Text → Option (List (Text × Json) × Text)
  | 0, _ => none
  | fuel + 1, t =>
    match skipGap t with
    | '"' :: rest => do
      let (name, rest) ← readString rest
      match skipGap rest with
      | ':' :: rest => do
        let (value, rest) ← readValue fuel rest
        match skipGap rest with
        | ',' :: rest => (readFields fuel rest).map fun (fields, rest) => ((name, value) :: fields, rest)
        | '\x7d' :: rest => some ([(name, value)], rest)
        | _ => none
      | _ => none
    | _ => none

end

/-- The value that a text is. -/
def read? (t : Text) : Option Json := do
  let (j, rest) ← readValue (t.length + 1) t
  if (skipGap rest).isEmpty then some j else none

theorem skipGap_margin (level : Nat) (t : Text) : skipGap (margin level ++ t) = skipGap t := by
  have hBlank : ∀ c ∈ margin level, isGap c = true := by
    intro c hc
    rw [List.eq_of_mem_replicate hc]
    rfl
  exact List.dropWhile_append_of_pos hBlank

private theorem skipGap_cons {c : Char} (h : isGap c = false) (t : Text) : skipGap (c :: t) = c :: t :=
  List.dropWhile_cons_of_neg (by simp [h])

private theorem skipGap_feed (t : Text) : skipGap ('\n' :: t) = skipGap t := rfl

private theorem readValue_congr {t u : Text} (h : skipGap t = skipGap u) (fuel : Nat) :
    readValue fuel t = readValue fuel u := by
  cases fuel with
  | zero => rfl
  | succ fuel => rw [readValue, readValue, h]

private theorem readValue_blank (fuel : Nat) (t : Text) : readValue fuel (' ' :: t) = readValue fuel t := by
  apply readValue_congr
  rfl

private theorem readFields_congr {t u : Text} (h : skipGap t = skipGap u) (fuel : Nat) :
    readFields fuel t = readFields fuel u := by
  cases fuel with
  | zero => rfl
  | succ fuel => rw [readFields, readFields, h]

/-! ### What is written is read -/

private theorem exists_ofNat_cons (n : Nat) : ∃ c t, Text.ofNat n = c :: t ∧ c.isDigit = true := by
  obtain ⟨c, t, hDigits⟩ := List.exists_cons_of_ne_nil (Nat.toDigits_ne_nil (n := n) (b := 10))
  have hMem : c ∈ Nat.toDigits 10 n := by simp [hDigits]
  exact ⟨c, t, hDigits, Nat.isDigit_of_mem_toDigits (by decide) (by decide) hMem⟩

private theorem isGap_of_isDigit {c : Char} (h : c.isDigit = true) : isGap c = false := by
  rw [Bool.eq_false_iff]
  intro hGap
  simp only [isGap, Bool.or_eq_true, beq_iff_eq] at hGap
  rcases hGap with ((rfl | rfl) | rfl) | rfl <;> cases h

/-- A value begins with a character that belongs to it and closes nothing. -/
private theorem exists_render_cons (level : Nat) (j : Json) :
    ∃ c t, render level j = c :: t ∧ isGap c = false ∧ c ≠ ']' := by
  cases j with
  | null => exact ⟨_, _, rfl, rfl, by decide⟩
  | bool b => cases b <;> exact ⟨_, _, rfl, rfl, by decide⟩
  | number n =>
    obtain ⟨c, t, hDigits, hDigit⟩ := exists_ofNat_cons n
    refine ⟨c, t, hDigits, isGap_of_isDigit hDigit, ?_⟩
    rintro rfl
    cases hDigit
  | string t => exact ⟨_, _, rfl, rfl, by decide⟩
  | array items => cases items <;> exact ⟨_, _, rfl, rfl, by decide⟩
  | object fields => cases fields <;> exact ⟨_, _, rfl, rfl, by decide⟩

private theorem renderItems_cons (level : Nat) (item next : Json) (items : List Json) :
    renderItems level (item :: next :: items) =
      margin level ++ render level item ++ ",\n".toList ++ renderItems level (next :: items) := by
  rw [renderItems]
  exact List.cons_ne_nil next items

private theorem renderFields_cons (level : Nat) (name : Text) (value : Json) (next : Text × Json)
    (fields : List (Text × Json)) : renderFields level ((name, value) :: next :: fields) =
      margin level ++ quoted name ++ ": ".toList ++ render level value ++ ",\n".toList ++
        renderFields level (next :: fields) := by
  rw [renderFields]
  exact List.cons_ne_nil next fields

/-- The items of an array begin with the first of them behind its margin. -/
private theorem head?_skipGap_renderItems {items : List Json} (hItems : items ≠ []) (level : Nat) (tail : Text) :
    (skipGap (renderItems level items ++ tail)).head? ≠ some ']' := by
  obtain ⟨item, items, rfl⟩ := List.exists_cons_of_ne_nil hItems
  obtain ⟨c, t, hRender, hGap, hOpen⟩ := exists_render_cons level item
  have hFirst : ∃ more, renderItems level (item :: items) = margin level ++ c :: more := by
    cases items with
    | nil => exact ⟨t, by rw [renderItems, hRender]⟩
    | cons next items =>
      refine ⟨t ++ (",\n".toList ++ renderItems level (next :: items)), ?_⟩
      rw [renderItems_cons, hRender]
      simp
  obtain ⟨more, hMore⟩ := hFirst
  rw [hMore, List.append_assoc, skipGap_margin, List.cons_append, skipGap_cons hGap]
  simpa using hOpen

/-- The fields of an object begin with the name of the first of them. -/
private theorem head?_skipGap_renderFields {fields : List (Text × Json)} (hFields : fields ≠ []) (level : Nat)
    (tail : Text) : (skipGap (renderFields level fields ++ tail)).head? ≠ some '\x7d' := by
  obtain ⟨⟨name, value⟩, fields, rfl⟩ := List.exists_cons_of_ne_nil hFields
  have hFirst : ∃ more, renderFields level ((name, value) :: fields) = margin level ++ '"' :: more := by
    cases fields with
    | nil => exact ⟨_, by rw [renderFields, quoted, List.append_assoc, List.append_assoc]; rfl⟩
    | cons next fields =>
      refine ⟨name.flatMap escapeChar ++ ['"'] ++ ": ".toList ++ render level value ++ ",\n".toList ++
        renderFields level (next :: fields), ?_⟩
      rw [renderFields_cons, quoted]
      simp
  obtain ⟨more, hMore⟩ := hFirst
  have hMark : skipGap ('"' :: (more ++ tail)) = '"' :: (more ++ tail) := skipGap_cons rfl _
  rw [hMore, List.append_assoc, skipGap_margin, List.cons_append, hMark, List.head?_cons]
  decide

section

variable {fuel : Nat} {rest : Text}

private theorem readValue_number (n : Nat) (hRest : beginsWithDigit rest = false) :
    readValue (fuel + 1) (Text.ofNat n ++ rest) = some (.number n, rest) := by
  obtain ⟨c, t, hDigits, hDigit⟩ := exists_ofNat_cons n
  have hSkip : skipGap (Text.ofNat n ++ rest) = c :: (t ++ rest) := by
    rw [hDigits, List.cons_append, skipGap_cons (isGap_of_isDigit hDigit)]
  have hRead := readNumber_ofNat n hRest
  rw [hDigits, List.cons_append] at hRead
  rw [readValue, hSkip]
  simp only [hDigit, if_true, hRead]

private theorem readValue_string (t : Text) :
    readValue (fuel + 1) (quoted t ++ rest) = some (.string t, rest) := by
  have hSkip : skipGap (quoted t ++ rest) = '"' :: (t.flatMap escapeChar ++ '"' :: rest) := by
    rw [quoted, List.cons_append, List.append_assoc]
    exact skipGap_cons rfl _
  have hDigit : '"'.isDigit = false := rfl
  rw [readValue, hSkip]
  simp only [hDigit, Bool.false_eq_true, if_false, if_true, readString_quoted, Option.map_some]

private theorem readValue_array {t : Text} (hOpen : (skipGap t).head? ≠ some ']') {items : List Json}
    (hItems : readItems fuel t = some (items, rest)) : readValue (fuel + 1) ('[' :: t) = some (.array items, rest) := by
  have hSkip : skipGap ('[' :: t) = '[' :: t := skipGap_cons rfl t
  have hDigit : '['.isDigit = false := rfl
  rw [readValue, hSkip]
  simp [hDigit, hOpen, hItems]

private theorem readValue_object {t : Text} (hOpen : (skipGap t).head? ≠ some '\x7d') {fields : List (Text × Json)}
    (hFields : readFields fuel t = some (fields, rest)) :
    readValue (fuel + 1) ('\x7b' :: t) = some (.object fields, rest) := by
  have hSkip : skipGap ('\x7b' :: t) = '\x7b' :: t := skipGap_cons rfl t
  have hDigit : '\x7b'.isDigit = false := rfl
  rw [readValue, hSkip]
  simp [hDigit, hOpen, hFields]

/-- An item, read up to the white space and the mark behind it. -/
private theorem readItems_succ {t behind : Text} {item : Json} (hItem : readValue fuel t = some (item, behind)) :
    readItems (fuel + 1) t = match skipGap behind with
      | ',' :: rest => (readItems fuel rest).map fun (items, rest) => (item :: items, rest)
      | ']' :: rest => some ([item], rest)
      | _ => none := by
  rw [readItems, hItem]
  rfl

private theorem readFields_succ {t behind : Text} {name : Text} {value : Json}
    (hValue : readValue fuel t = some (value, behind)) :
    readFields (fuel + 1) (quoted name ++ ':' :: t) = match skipGap behind with
      | ',' :: rest => (readFields fuel rest).map fun (fields, rest) => ((name, value) :: fields, rest)
      | '\x7d' :: rest => some ([(name, value)], rest)
      | _ => none := by
  have hSkip : skipGap (quoted name ++ ':' :: t) = '"' :: (name.flatMap escapeChar ++ '"' :: ':' :: t) := by
    rw [quoted, List.cons_append, List.append_assoc]
    exact skipGap_cons rfl _
  have hColon : skipGap (':' :: t) = ':' :: t := skipGap_cons rfl t
  rw [readFields, hSkip]
  simp only [readString_quoted, Option.bind_eq_bind, Option.bind_some, hColon, hValue]

end

mutual

private theorem readValue_render (j : Json) {level fuel : Nat} {rest : Text}
    (hFuel : (render level j).length < fuel) (hRest : beginsWithDigit rest = false) :
    readValue fuel (render level j ++ rest) = some (j, rest) := by
  obtain ⟨fuel, rfl⟩ : ∃ n, fuel = n + 1 := ⟨fuel - 1, by omega⟩
  match j with
  | .null => rfl
  | .bool true => rfl
  | .bool false => rfl
  | .number n => exact readValue_number n hRest
  | .string t => exact readValue_string t
  | .array [] => rfl
  | .array (item :: items) =>
    have hText : render level (.array (item :: items)) ++ rest =
        '[' :: '\n' :: (renderItems (level + 1) (item :: items) ++ '\n' :: (margin level ++ ']' :: rest)) := by
      simp [render]
    have hLength : (renderItems (level + 1) (item :: items)).length < fuel := by
      simp [render] at hFuel
      omega
    have hTail : skipGap ('\n' :: (margin level ++ ']' :: rest)) = ']' :: rest := by
      rw [skipGap_feed, skipGap_margin]
      exact skipGap_cons rfl rest
    rw [hText]
    refine readValue_array ?_ (readItems_render _ (List.cons_ne_nil item items) hLength hTail rfl)
    exact head?_skipGap_renderItems (List.cons_ne_nil item items) _ _
  | .object [] => rfl
  | .object ((name, value) :: fields) =>
    have hText : render level (.object ((name, value) :: fields)) ++ rest = '\x7b' :: '\n' ::
        (renderFields (level + 1) ((name, value) :: fields) ++ '\n' :: (margin level ++ '\x7d' :: rest)) := by
      simp [render]
    have hLength : (renderFields (level + 1) ((name, value) :: fields)).length < fuel := by
      simp [render] at hFuel
      omega
    have hTail : skipGap ('\n' :: (margin level ++ '\x7d' :: rest)) = '\x7d' :: rest := by
      rw [skipGap_feed, skipGap_margin]
      exact skipGap_cons rfl rest
    rw [hText]
    refine readValue_object ?_ (readFields_render _ (List.cons_ne_nil _ fields) hLength hTail rfl)
    exact head?_skipGap_renderFields (List.cons_ne_nil _ fields) _ _

private theorem readItems_render (items : List Json) (hItems : items ≠ []) {level fuel : Nat} {tail rest : Text}
    (hFuel : (renderItems (level + 1) items).length < fuel) (hTail : skipGap tail = ']' :: rest)
    (hDigit : beginsWithDigit tail = false) :
    readItems fuel ('\n' :: (renderItems (level + 1) items ++ tail)) = some (items, rest) := by
  obtain ⟨fuel, rfl⟩ : ∃ n, fuel = n + 1 := ⟨fuel - 1, by omega⟩
  match items with
  | [item] =>
    have hLength : (render (level + 1) item).length < fuel := by
      simp [renderItems, margin] at hFuel
      omega
    have hItem : readValue fuel ('\n' :: (renderItems (level + 1) [item] ++ tail)) = some (item, tail) := by
      rw [← readValue_render item hLength hDigit]
      apply readValue_congr
      rw [renderItems, List.append_assoc, skipGap_feed, skipGap_margin]
    rw [readItems_succ hItem, hTail]
    rfl
  | item :: next :: items =>
    rw [renderItems_cons] at hFuel ⊢
    have hLength : (render (level + 1) item).length < fuel := by
      simp [margin] at hFuel
      omega
    have hMore : (renderItems (level + 1) (next :: items)).length < fuel := by
      simp at hFuel
      omega
    have hItems := readItems_render (next :: items) (List.cons_ne_nil next items) hMore hTail hDigit
    have hItem : readValue fuel ('\n' :: (margin (level + 1) ++ render (level + 1) item ++ ",\n".toList ++
        renderItems (level + 1) (next :: items) ++ tail)) =
        some (item, ',' :: '\n' :: (renderItems (level + 1) (next :: items) ++ tail)) := by
      rw [← readValue_render item hLength rfl]
      apply readValue_congr
      rw [skipGap_feed, List.append_assoc, List.append_assoc, List.append_assoc, skipGap_margin]
      rfl
    have hComma : skipGap (',' :: '\n' :: (renderItems (level + 1) (next :: items) ++ tail)) =
        ',' :: '\n' :: (renderItems (level + 1) (next :: items) ++ tail) := skipGap_cons rfl _
    rw [readItems_succ hItem, hComma]
    simp only [hItems, Option.map_some]

private theorem readFields_render (fields : List (Text × Json)) (hFields : fields ≠ []) {level fuel : Nat}
    {tail rest : Text} (hFuel : (renderFields (level + 1) fields).length < fuel)
    (hTail : skipGap tail = '\x7d' :: rest) (hDigit : beginsWithDigit tail = false) :
    readFields fuel ('\n' :: (renderFields (level + 1) fields ++ tail)) = some (fields, rest) := by
  obtain ⟨fuel, rfl⟩ : ∃ n, fuel = n + 1 := ⟨fuel - 1, by omega⟩
  match fields with
  | [(name, value)] =>
    have hLength : (render (level + 1) value).length < fuel := by
      simp [renderFields, margin] at hFuel
      omega
    have hValue : readValue fuel (' ' :: (render (level + 1) value ++ tail)) = some (value, tail) :=
      (readValue_blank fuel _).trans (readValue_render value hLength hDigit)
    have hSkip : skipGap ('\n' :: (renderFields (level + 1) [(name, value)] ++ tail)) =
        skipGap (quoted name ++ ':' :: ' ' :: (render (level + 1) value ++ tail)) := by
      rw [renderFields, skipGap_feed, List.append_assoc, List.append_assoc, List.append_assoc, skipGap_margin]
      rfl
    rw [readFields_congr hSkip, readFields_succ hValue, hTail]
    rfl
  | (name, value) :: next :: fields =>
    rw [renderFields_cons] at hFuel ⊢
    have hLength : (render (level + 1) value).length < fuel := by
      simp [margin] at hFuel
      omega
    have hMore : (renderFields (level + 1) (next :: fields)).length < fuel := by
      simp at hFuel
      omega
    have hFields := readFields_render (next :: fields) (List.cons_ne_nil next fields) hMore hTail hDigit
    have hValue : readValue fuel (' ' :: (render (level + 1) value ++ ',' :: '\n' ::
        (renderFields (level + 1) (next :: fields) ++ tail))) =
        some (value, ',' :: '\n' :: (renderFields (level + 1) (next :: fields) ++ tail)) :=
      (readValue_blank fuel _).trans (readValue_render value hLength rfl)
    have hSkip : skipGap ('\n' :: (margin (level + 1) ++ quoted name ++ ": ".toList ++ render (level + 1) value ++
        ",\n".toList ++ renderFields (level + 1) (next :: fields) ++ tail)) =
        skipGap (quoted name ++ ':' :: ' ' :: (render (level + 1) value ++ ',' :: '\n' ::
          (renderFields (level + 1) (next :: fields) ++ tail))) := by
      simp only [skipGap_feed, List.append_assoc, skipGap_margin]
      rfl
    have hComma : skipGap (',' :: '\n' :: (renderFields (level + 1) (next :: fields) ++ tail)) =
        ',' :: '\n' :: (renderFields (level + 1) (next :: fields) ++ tail) := skipGap_cons rfl _
    rw [readFields_congr hSkip, readFields_succ hValue, hComma]
    simp only [hFields, Option.map_some]

end

/-- Every value can be read back from the text in which it is written, whatever its level and the white space behind it. -/
theorem read?_render (level : Nat) (j : Json) {gap : Text} (hGap : skipGap gap = []) :
    read? (render level j ++ gap) = some j := by
  have hDigit : beginsWithDigit gap = false := by
    cases gap with
    | nil => rfl
    | cons c gap =>
      rw [Bool.eq_false_iff]
      intro hDigit
      have hStays := skipGap_cons (isGap_of_isDigit (c := c) hDigit) gap
      rw [hGap] at hStays
      cases hStays
  have hLength : (render level j).length < (render level j ++ gap).length + 1 := by
    rw [List.length_append]
    omega
  rw [read?, readValue_render j hLength hDigit]
  simp [hGap]

end TextQuery.Json
