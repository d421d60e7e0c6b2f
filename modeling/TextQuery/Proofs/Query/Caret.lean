import TextQuery.Proofs.Query.Hints

/-!
# The caret under a mistake

The offset that a mistake is reported at is carried from the scan through every way in which reading breaks off, and
becomes a column when the report is written.  It always is the size of what stands in front of a place of the query:
an unclosed quotation mark, a token, or the end (`marks_of_parse`).  So the column is a number of characters, and the
report has one form (`parse_points_at_mistake`).
-/

namespace TextQuery

open Lexer TextQuery.Parser

/-! ### From offsets to columns -/

namespace QueryError

/-- Characters can be counted up to an offset where the text can be cut. -/
theorem charsBefore_eq_map_cutAt? (t : Text) (offset : Nat) :
    charsBefore t offset = (t.cutAt? offset).map fun (before, _) => before.length := by
  induction t generalizing offset with
  | nil => cases offset <;> rfl
  | cons c rest ih =>
    cases offset with
    | zero => rfl
    | succ n =>
      rw [charsBefore, Text.cutAt?]
      split
      · rw [ih, Option.map_map, Option.map_map]
        rfl
      · rfl

theorem charsBefore_append (before behind : Text) :
    charsBefore (before ++ behind) before.utf8Size = some before.length := by
  rw [charsBefore_eq_map_cutAt?, Text.cutAt?_append]
  rfl

/-- The offset of a place is not past the end, so the column is counted at the offset itself. -/
theorem charsBefore_min (before behind : Text) :
    charsBefore (before ++ behind) (min before.utf8Size (before ++ behind).utf8Size) = some before.length := by
  rw [Text.utf8Size_append, Nat.min_eq_left (Nat.le_add_right _ _), charsBefore_append]

theorem caretLine_append (before behind : Text) :
    caretLine (before ++ behind) before.utf8Size =
      "  ".toList ++ List.replicate before.length ' ' ++ "^\n".toList := by
  rw [caretLine, column, charsBefore_min]
  rfl

/-! ### The form of a report -/

/-- The lines of a report on a query that has no place to mark. -/
def plainReport (message hint : Text) : List Text :=
  ["query syntax error: ".toList ++ message, "hint: ".toList ++ hint]

/-- The lines of a report on a query: the query is indented, and the caret stands behind as many characters as stand in
front of the mistake. -/
def markedReport (message before behind hint : Text) : List Text :=
  ["query syntax error: ".toList ++ message,
    "  ".toList ++ (before ++ behind),
    "  ".toList ++ List.replicate before.length ' ' ++ ['^'],
    "hint: ".toList ++ hint]

private theorem two_lines (a b : Text) : ['\n'].intercalate [a, b] = a ++ (['\n'] ++ b) := by
  simp [List.intercalate]

private theorem four_lines (a b c d : Text) :
    ['\n'].intercalate [a, b, c, d] = a ++ (['\n'] ++ (b ++ (['\n'] ++ (c ++ (['\n'] ++ d))))) := by
  simp [List.intercalate]

theorem display_of_isBlank {err : QueryError} {hint : Text} (hBlank : err.query.isBlank = true)
    (hHint : err.hint = some hint) : err.display = ['\n'].intercalate (plainReport err.message hint) := by
  have hLine : "\n".toList = ['\n'] := rfl
  unfold display excerpt
  rw [if_pos hBlank, hHint, plainReport, two_lines, hLine, Option.map_some, Option.getD_some, List.append_nil,
    List.append_assoc]

theorem display_of_position {err : QueryError} {before behind hint : Text} (hBlank : err.query.isBlank = false)
    (hQuery : err.query = before ++ behind) (hPosition : err.position = some before.utf8Size)
    (hHint : err.hint = some hint) :
    err.display = ['\n'].intercalate (markedReport err.message before behind hint) := by
  have hLine : "\n".toList = ['\n'] := rfl
  have hCaret : "^\n".toList = ['^'] ++ ['\n'] := rfl
  unfold display excerpt
  rw [hBlank, hQuery, hPosition, hHint, markedReport, four_lines, hLine, Option.map_some, Option.getD_some,
    Option.map_some, Option.getD_some, caretLine_append, hCaret]
  simp only [Bool.false_eq_true, if_false, List.append_assoc]

end QueryError

/-! ### The places that are marked -/

/-- The offset of a token is the size of what stands in front of it. -/
theorem Lexer.exists_split_of_mem_tokens {raw : Text} {ts : List Located} {t : Located} (h : tokens raw = .ok ts)
    (ht : t ∈ ts) : ∃ before behind, raw = before ++ behind ∧ t.offset = before.utf8Size := by
  obtain ⟨a, rfl, rfl⟩ := (tokens_eq_ok_iff.1 h).exists_arrangement
  obtain ⟨before, behind, hText, hOffset⟩ := exists_written_of_mem_locate a.final ht
  exact ⟨before, _, hText, by rw [hOffset, Nat.zero_add]⟩

namespace Parser

/-- A mistake is reported with the tokens from its place on. -/
theorem Sits.rest_suffix {before rest : List Located} {fault : SyntaxFault} (h : Sits before rest fault) :
    fault.rest <:+ before ++ rest := by
  cases h with
  | token _ => exact List.suffix_append before _
  | ending _ => exact List.nil_suffix
  | @opening outside inside t =>
    rw [List.append_nil]
    exact List.suffix_append outside (t :: inside)

theorem rest_suffix_of_formula {ts : List Located} {fault : SyntaxFault} (h : formula ts = .error fault) :
    fault.rest <:+ ts := by
  obtain ⟨before, rest, rfl, hRefuses⟩ := formula_eq_error_iff.1 h
  exact hRefuses.sits.rest_suffix

end Parser

theorem SyntaxFault.position_of_suffix {fault : SyntaxFault} {ts : List Located} (h : fault.rest <:+ ts) (size : Nat) :
    fault.position size = size ∨ ∃ t ∈ ts, t.offset = fault.position size := by
  unfold SyntaxFault.position
  cases hRest : fault.rest with
  | nil => exact .inl rfl
  | cons t rest =>
    rw [hRest] at h
    exact .inr ⟨t, h.subset List.mem_cons_self, rfl⟩

/-- The places of a query where a mistake can be: the quotation mark that is not closed, or else a token or the end. -/
def Marks (raw : Text) (offset : Nat) : Prop :=
  match tokens raw with
  | .error quote => offset = quote.position ∧ IsLastQuote raw offset
  | .ok ts => offset = raw.utf8Size ∨ ∃ t ∈ ts, t.offset = offset

theorem Marks.exists_split {raw : Text} {offset : Nat} (h : Marks raw offset) :
    ∃ before behind, raw = before ++ behind ∧ offset = before.utf8Size := by
  unfold Marks at h
  cases hTokens : tokens raw with
  | error quote =>
    rw [hTokens] at h
    obtain ⟨-, before, behind, hRaw, -, hOffset⟩ := h
    exact ⟨before, '"' :: behind, hRaw, hOffset⟩
  | ok ts =>
    rw [hTokens] at h
    rcases h with rfl | ⟨t, ht, rfl⟩
    · exact ⟨raw, [], (List.append_nil raw).symm, rfl⟩
    · exact exists_split_of_mem_tokens hTokens ht

/-- A query that is refused is blank, or is refused at one of its places. -/
theorem marks_of_parse {raw : Text} {err : QueryError} (h : parse raw = .error err) :
    err.query = raw ∧ ((raw.isBlank = true ∧ err.position = none) ∨
      (raw.isBlank = false ∧ ∃ offset, err.position = some offset ∧ Marks raw offset)) := by
  rcases parse_cases raw with ⟨hBlank, hParse⟩ | ⟨hBlank, quote, hTokens, hParse⟩ | ⟨hBlank, ts, hTokens, -⟩
  · obtain rfl := Except.error.inj (hParse.symm.trans h)
    exact ⟨rfl, .inl ⟨hBlank, rfl⟩⟩
  · obtain rfl := Except.error.inj (hParse.symm.trans h)
    refine ⟨rfl, .inr ⟨hBlank, quote.position, rfl, ?_⟩⟩
    rw [Marks, hTokens]
    exact ⟨rfl, isLastQuote_of_tokens hTokens⟩
  · obtain ⟨fault, hFormula, rfl⟩ := exists_fault_of_parse hBlank hTokens h
    refine ⟨rfl, .inr ⟨hBlank, fault.position raw.utf8Size, rfl, ?_⟩⟩
    rw [Marks, hTokens]
    exact SyntaxFault.position_of_suffix (rest_suffix_of_formula hFormula) raw.utf8Size

/-- A refused query has no place to mark if and only if it is blank.  Otherwise its mistake is at the unclosed
quotation mark, at a token or at the end, never inside a character, and the caret stands under that place. -/
theorem parse_points_at_mistake {raw : Text} {err : QueryError} (h : parse raw = .error err) :
    (err.position = none ↔ raw.isBlank = true) ∧ ∃ hint, err.hint = some hint ∧
      (err.position = none → err.display = ['\n'].intercalate (QueryError.plainReport err.message hint)) ∧
      ∀ offset, err.position = some offset → offset ≤ raw.utf8Size ∧ Marks raw offset ∧
        ∃ before behind, raw = before ++ behind ∧ offset = before.utf8Size ∧
          QueryError.charsBefore raw (min offset raw.utf8Size) = some before.length ∧
          err.display = ['\n'].intercalate (QueryError.markedReport err.message before behind hint) := by
  obtain ⟨mistake, -, hHint⟩ := exists_mistake_of_parse h
  obtain ⟨hQuery, ⟨hBlank, hNone⟩ | ⟨hBlank, offset, hSome, hMarks⟩⟩ := marks_of_parse h
  · refine ⟨iff_of_true hNone hBlank, _, hHint, fun _ => ?_, fun offset hOffset => ?_⟩
    · exact QueryError.display_of_isBlank (hQuery ▸ hBlank) hHint
    · rw [hNone] at hOffset
      cases hOffset
  · refine ⟨iff_of_false ?_ ?_, _, hHint, fun hNone => ?_, fun offset' hOffset => ?_⟩
    · rw [hSome]
      exact Option.some_ne_none offset
    · rw [hBlank]
      exact Bool.false_ne_true
    · rw [hSome] at hNone
      cases hNone
    · obtain rfl := Option.some.inj (hSome.symm.trans hOffset)
      obtain ⟨before, behind, rfl, rfl⟩ := hMarks.exists_split
      refine ⟨?_, hMarks, before, behind, rfl, rfl, QueryError.charsBefore_min before behind, ?_⟩
      · rw [Text.utf8Size_append]
        exact Nat.le_add_right _ _
      · exact QueryError.display_of_position (hQuery ▸ hBlank) hQuery hSome hHint

/-- The accented letter takes two bytes and one column: the operator is missing at offset 6, behind five characters. -/
theorem parse_points_behind_accent :
    ∃ err, parse "göod (x".toList = .error err ∧ err.position = some 6 ∧
      Marks "göod (x".toList 6 ∧ err.hint = some (Mistake.missingOperator .openParen).advice ∧
      err.display = ['\n'].intercalate (QueryError.markedReport err.message "göod ".toList "(x".toList
        (Mistake.missingOperator .openParen).advice) := by
  have hTokens : tokens "göod (x".toList =
      .ok [⟨.word "göod".toList, 0⟩, ⟨.openParen, 6⟩, ⟨.word ['x'], 7⟩] := rfl
  have hFormula : formula [⟨.word "göod".toList, 0⟩, ⟨.openParen, 6⟩, ⟨.word ['x'], 7⟩] =
      .error ⟨.missingOperator .openParen, [⟨.openParen, 6⟩, ⟨.word ['x'], 7⟩]⟩ := rfl
  obtain ⟨hParse, -⟩ := parse_eq_of_fault rfl hTokens hFormula
  have hAdvice : (QueryError.ofSyntaxFault "göod (x".toList
      ⟨.missingOperator .openParen, [⟨.openParen, 6⟩, ⟨.word ['x'], 7⟩]⟩).hint =
        some (Mistake.missingOperator .openParen).apparent.advice := hint_ofSyntaxFault rfl nofun
  obtain ⟨-, hint, hHint, -, hPlace⟩ := parse_points_at_mistake hParse
  obtain ⟨-, hMarks, before, behind, hSplit, hOffset, -, hDisplay⟩ := hPlace 6 rfl
  obtain rfl := Option.some.inj (hAdvice.symm.trans hHint)
  have hCut : Text.cutAt? "göod (x".toList 6 = some (before, behind) := Text.cutAt?_eq_some_iff.2 ⟨hSplit, hOffset⟩
  have hHere : Text.cutAt? "göod (x".toList 6 = some ("göod ".toList, "(x".toList) := rfl
  obtain ⟨rfl, rfl⟩ := Prod.mk.inj (Option.some.inj (hHere.symm.trans hCut))
  exact ⟨_, hParse, rfl, hMarks, hAdvice, hDisplay⟩

end TextQuery
