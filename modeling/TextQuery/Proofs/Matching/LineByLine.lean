import TextQuery.Command.Search
import TextQuery.Proofs.Formula.Negation
import TextQuery.Proofs.Matching.Occurrence
import TextQuery.Proofs.Matching.Preparation
import TextQuery.Proofs.Query.Canonical
import TextQuery.Proofs.Text.Lines

/-!
# Searching line by line and as a whole

Line ends belong to no word and are prepared as themselves, so a term that is found in a line is found in the text
(`Term.isIn_of_mem_lines`), and the other way round unless its pattern spans lines (`Term.exists_mem_lines`).  The
patterns of words never do.  So a query without negation has a hit in an input as a whole when it has one in a line,
and a disjunction of words has none but these (`hits_agree`).
-/

namespace TextQuery

open TextQuery.Parser

/-! ### Terms -/

private theorem isInWord_lineEnd {w : Char} (hw : w = '\n' ∨ w = '\r') : isInWord w = false := by
  rcases hw with rfl | rfl <;> rfl

namespace Term

variable {term : Term} {o : Options} {t : Text}

/-- What is found in a line is found in the text. -/
theorem isIn_of_mem_lines {line : Text} (hLine : line ∈ t.lines) (h : term.isIn (o.prepare line) = true) :
    term.isIn (o.prepare t) = true := by
  refine Text.of_mem_lines (P := fun u => term.isIn (o.prepare u) = true) ?_ ?_ hLine h
  · intro a b hEither
    rw [o.prepare_around_lineEnd (.inl rfl)]
    exact isIn_of_or (isInWord_lineEnd (.inl rfl)) hEither
  · intro a hIn
    rw [o.prepare_around_lineEnd (.inr rfl)]
    exact isIn_of_or (isInWord_lineEnd (.inr rfl)) (.inl hIn)

private theorem not_isIn_prepare_nil : ¬ term.isIn (o.prepare []) = true := by
  rw [Options.prepare_nil, isIn_iff]
  rintro ⟨hPattern, a, b, hText, -⟩
  have hEmpty := (List.append_eq_nil_iff.1 hText.symm).2
  exact hPattern (List.append_eq_nil_iff.1 hEmpty).1

/-- What is found in the text, and spans no line end, is found in a line. -/
theorem exists_mem_lines (hPattern : ∀ w, w = '\n' ∨ w = '\r' → w ∉ term.pattern)
    (h : term.isIn (o.prepare t) = true) : ∃ line ∈ t.lines, term.isIn (o.prepare line) = true := by
  refine Text.exists_mem_lines (P := fun u => term.isIn (o.prepare u) = true) ?_ ?_ not_isIn_prepare_nil h
  · intro a b hIn
    rw [o.prepare_around_lineEnd (.inl rfl)] at hIn
    exact (isIn_around_iff (isInWord_lineEnd (.inl rfl)) (hPattern _ (.inl rfl))).1 hIn
  · intro a hIn
    rw [o.prepare_around_lineEnd (.inr rfl)] at hIn
    have hEither := (isIn_around_iff (isInWord_lineEnd (.inr rfl)) (hPattern _ (.inr rfl))).1 hIn
    exact hEither.resolve_right not_isIn_prepare_nil

end Term

/-! ### Words -/

/-- Whether a piece of a query is a run of words. -/
def Leaf.IsWords : Leaf → Prop
  | words _ => True
  | phrase _ => False

private theorem mem_of_mem_intercalate {c d : Char} {words : List Text} (h : c ∈ List.intercalate [d] words) :
    c = d ∨ ∃ word ∈ words, c ∈ word := by
  induction words with
  | nil => cases h
  | cons first more ih =>
    cases more with
    | nil =>
      rw [List.intercalate_singleton] at h
      exact .inr ⟨first, List.mem_cons_self, h⟩
    | cons second more =>
      rw [List.intercalate_cons_cons, List.mem_append, List.mem_append] at h
      rcases h with (h | h) | h
      · exact .inr ⟨first, List.mem_cons_self, h⟩
      · exact .inl (List.mem_singleton.1 h)
      · exact (ih h).imp_right fun ⟨word, hWord, hc⟩ => ⟨word, List.mem_cons_of_mem first hWord, hc⟩

/-- The pattern of a run of words spans no line end. -/
theorem Leaf.WellFormed.not_mem_pattern {leaf : Leaf} (h : leaf.WellFormed) (hWords : leaf.IsWords) (o : Options)
    {w : Char} (hw : w = '\n' ∨ w = '\r') : w ∉ (Term.ofText o leaf.text).pattern := by
  cases leaf with
  | phrase t => exact hWords.elim
  | words t =>
    obtain ⟨first, more, rfl, hRun⟩ := h
    intro hMem
    have hControl : w.toNat < 32 := by rcases hw with rfl | rfl <;> decide
    have hBlank : Unicode.isBlank w = true := by rcases hw with rfl | rfl <;> rfl
    have hText := Text.mem_of_mem_trim (Options.mem_of_mem_prepare hMem hControl)
    rcases mem_of_mem_intercalate hText with rfl | ⟨word, hWord, hIn⟩
    · rcases hw with hw | hw <;> cases hw
    · have hBreaks := (hRun.isWord word hWord).2 w hIn
      rw [Lexer.breaksWord_of_isBlank hBlank] at hBreaks
      cases hBreaks

/-! ### Hits -/

namespace Search

variable {accepts : Text → Bool} {input : Input}

theorem hits_whole_ne_nil_iff : hits accepts true input ≠ [] ↔ accepts input.contents = true := by
  unfold hits
  cases accepts input.contents <;> simp

theorem hits_lines_ne_nil_iff :
    hits accepts false input ≠ [] ↔ ∃ line ∈ input.contents.lines, accepts line = true := by
  have hLines : (numberedLines input.contents).map Prod.snd = input.contents.lines := by
    rw [numberedLines, List.map_map]
    exact List.zipIdx_map_fst 0 input.contents.lines
  rw [← hLines, hits, if_neg Bool.false_ne_true, ne_eq, List.map_eq_nil_iff, List.filter_eq_nil_iff]
  constructor
  · intro h
    push Not at h
    obtain ⟨place, hPlace, hAccepts⟩ := h
    exact ⟨place.2, List.mem_map_of_mem hPlace, hAccepts⟩
  · rintro ⟨line, hLine, hAccepts⟩ h
    obtain ⟨place, hPlace, rfl⟩ := List.mem_map.1 hLine
    exact h place hPlace hAccepts

end Search

/-- A query without negation that has a hit in a line of an input has one in the input as a whole.  For a disjunction of
words the converse holds too. -/
theorem hits_agree {raw : Text} {o : Options} {q : Query} (h : Query.ofText raw o = .ok q) (input : Search.Input) :
    (q.expr.NegationFree → Search.hits q.accepts false input ≠ [] → Search.hits q.accepts true input ≠ []) ∧
      (q.expr.IsDisjunctionOf Leaf.IsWords →
        (Search.hits q.accepts true input ≠ [] ↔ Search.hits q.accepts false input ≠ [])) := by
  obtain ⟨e, hParse, rfl⟩ := Query.ofText_eq_ok_iff.1 h
  simp only [Search.hits_whole_ne_nil_iff, Search.hits_lines_ne_nil_iff, Query.accepts_eq]
  constructor
  · rintro hFree ⟨line, hLine, hHolds⟩
    exact Formula.holds_mono hFree (fun leaf _ hIn => Term.isIn_of_mem_lines hLine hIn) hHolds
  · intro hWords
    simp only [Formula.holds_iff_of_isDisjunctionOf hWords]
    constructor
    · rintro ⟨leaf, hLeaf, hIn⟩
      have hWellFormed := wellFormed_of_parse hParse leaf hLeaf
      obtain ⟨line, hLine, hIn⟩ := Term.exists_mem_lines
        (fun w hw => hWellFormed.not_mem_pattern (hWords.of_mem_leaves hLeaf) o hw) hIn
      exact ⟨line, hLine, leaf, hLeaf, hIn⟩
    · rintro ⟨line, hLine, leaf, hLeaf, hIn⟩
      exact ⟨leaf, hLeaf, Term.isIn_of_mem_lines hLine hIn⟩

/-- A word without its accent, in a line that is ended by a carriage return and a line feed. -/
theorem hits_agree_at_line_end :
    ∃ q, Query.ofText "x OR göod".toList {} = .ok q ∧
      Search.hits q.accepts false ⟨['f'], "a\r\nGood\r\n".toList⟩ = [⟨['f'], some (2, "Good".toList)⟩] ∧
      Search.hits q.accepts true ⟨['f'], "a\r\nGood\r\n".toList⟩ ≠ [] := by
  have hTokens : Lexer.tokens "x OR göod".toList =
      .ok [⟨.word ['x'], 0⟩, ⟨.word "OR".toList, 2⟩, ⟨.word "göod".toList, 5⟩] := rfl
  have hParse := parse_eq_of_formula hTokens (e := .or (.leaf (.words ['x'])) (.leaf (.words "göod".toList))) rfl
  have hQuery := Query.ofText_of_parse hParse {}
  have hAgree := hits_agree hQuery ⟨['f'], "a\r\nGood\r\n".toList⟩
  refine ⟨_, hQuery, by decide, ?_⟩
  exact (hAgree.2 ⟨trivial, trivial⟩).2 (by decide)

end TextQuery
