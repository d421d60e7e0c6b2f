import TextQuery.Command.Run
import TextQuery.Proofs.Query.Acceptance
import TextQuery.Proofs.Query.Arrangement
import TextQuery.Proofs.Query.Nesting

/-!
# Counting, scanning and reading agree

A query is looked at in three ways: delimiters are counted, characters are scanned for tokens, tokens are read as a
formula.  As far as quotation marks go, a scan only changes between inside and outside (`scan_eq_error_iff`), so it
fails where their number is odd.  Parentheses outside of phrases are tokens of their own (`count_written`), so what
counting says about a query that can be read is a matter of its phrases.
-/

namespace TextQuery

open Lexer Grammar TextQuery.Parser

/-! ### Quotation marks in a scan -/

namespace Lexer

/-- The offset of the quotation mark that is open in a mode. -/
def Mode.openQuote : Mode → Option Nat
  | .inPhrase start _ => some start
  | _ => none

/-- What a quotation mark at an offset does: it closes the open one, or is open itself. -/
def toggle (offset : Nat) : Option Nat → Option Nat
  | none => some offset
  | some _ => none

/-- The offset of the quotation mark that is open behind a text. -/
def openQuote (opened : Option Nat) (offset : Nat) : Text → Option Nat
  | [] => opened
  | c :: t => openQuote (if c = '"' then toggle offset opened else opened) (offset + c.utf8Size) t

private theorem openQuote_begin (offset : Nat) (c : Char) :
    (begin offset c).2.openQuote = if c = '"' then some offset else none := by
  unfold begin
  by_cases hQuote : c = '"'
  · subst hQuote
    rfl
  · rw [if_neg hQuote, if_neg hQuote]
    split
    · rfl
    · split
      · rfl
      · split <;> rfl

/-- One step of the scan, as far as quotation marks go. -/
private theorem openQuote_step (mode : Mode) (offset : Nat) (c : Char) :
    (step mode offset c).2.openQuote = if c = '"' then toggle offset mode.openQuote else mode.openQuote := by
  cases mode with
  | between => exact openQuote_begin offset c
  | inWord start done =>
    by_cases hBreak : breaksWord c = true
    · simp only [step, if_pos hBreak]
      exact openQuote_begin offset c
    · have hQuote : c ≠ '"' := by
        rintro rfl
        exact hBreak rfl
      simp only [step, if_neg hBreak, if_neg hQuote]
      rfl
  | inPhrase start done =>
    by_cases hQuote : c = '"'
    · simp only [step, if_pos hQuote]
      rfl
    · simp only [step, if_neg hQuote]
      rfl

/-- A scan fails when it leaves a quotation mark open, and at that one. -/
theorem scan_eq_error_iff {mode : Mode} {offset : Nat} {t : Text} {quote : UnclosedQuote} :
    scan mode offset t = .error quote ↔ openQuote mode.openQuote offset t = some quote.position := by
  induction t generalizing mode offset with
  | nil =>
    cases mode with
    | between => simp [scan, finish, openQuote, Mode.openQuote]
    | inWord start done => simp [scan, finish, openQuote, Mode.openQuote]
    | inPhrase start done =>
      obtain ⟨position⟩ := quote
      simp [scan, finish, openQuote, Mode.openQuote]
  | cons c t ih =>
    rw [openQuote, ← openQuote_step, ← ih, scan]
    cases hScan : scan (step mode offset c).2 (offset + c.utf8Size) t with
    | error quote' => simp [hScan, bind, Except.bind]
    | ok more => simp [hScan, bind, Except.bind, pure, Except.pure]

theorem isSome_openQuote (opened : Option Nat) (offset : Nat) (t : Text) :
    (openQuote opened offset t).isSome = (opened.isSome ^^ t.count '"' % 2 == 1) := by
  induction t generalizing opened offset with
  | nil => simp [openQuote]
  | cons c t ih =>
    rw [openQuote, ih]
    by_cases hQuote : c = '"'
    · subst hQuote
      have hParity : (t.count '"' % 2 = 0 ∧ (t.count '"' + 1) % 2 = 1) ∨
          (t.count '"' % 2 = 1 ∧ (t.count '"' + 1) % 2 = 0) := by omega
      rw [if_pos rfl, List.count_cons_self]
      rcases hParity with ⟨h, hSucc⟩ | ⟨h, hSucc⟩ <;> cases opened <;> simp [toggle, h, hSucc]
    · rw [if_neg hQuote, List.count_cons_of_ne hQuote]

/-- Whether the last quotation mark of a text stands at an offset. -/
def IsLastQuote (t : Text) (offset : Nat) : Prop :=
  ∃ before behind : Text, t = before ++ '"' :: behind ∧ '"' ∉ behind ∧ offset = before.utf8Size

private theorem openQuote_eq_some {opened : Option Nat} {offset n : Nat} {t : Text}
    (h : openQuote opened offset t = some n) :
    (opened = some n ∧ '"' ∉ t) ∨ ∃ k, IsLastQuote t k ∧ n = offset + k := by
  induction t generalizing opened offset with
  | nil => exact .inl ⟨h, List.not_mem_nil⟩
  | cons c t ih =>
    rcases ih h with ⟨hOpened, hNone⟩ | ⟨k, ⟨before, behind, rfl, hNone, rfl⟩, rfl⟩
    · by_cases hQuote : c = '"'
      · subst hQuote
        rw [if_pos rfl] at hOpened
        cases opened with
        | none =>
          obtain rfl := Option.some.inj hOpened
          exact .inr ⟨0, ⟨[], t, rfl, hNone, rfl⟩, rfl⟩
        | some start => cases hOpened
      · rw [if_neg hQuote] at hOpened
        refine .inl ⟨hOpened, ?_⟩
        simp [hNone, Ne.symm hQuote]
    · refine .inr ⟨_, ⟨c :: before, behind, rfl, hNone, rfl⟩, ?_⟩
      rw [Text.utf8Size_cons, Nat.add_assoc]

/-- A query has an odd number of quotation marks when it does not divide into tokens. -/
theorem exists_tokens_eq_error_iff {raw : Text} :
    (∃ quote, tokens raw = .error quote) ↔ raw.count '"' % 2 = 1 := by
  have hParity : (openQuote none 0 raw).isSome = (raw.count '"' % 2 == 1) := by
    rw [isSome_openQuote]
    simp
  rw [← beq_iff_eq, ← hParity, Option.isSome_iff_exists]
  constructor
  · rintro ⟨quote, h⟩
    exact ⟨quote.position, scan_eq_error_iff.1 h⟩
  · rintro ⟨position, h⟩
    exact ⟨⟨position⟩, scan_eq_error_iff.2 h⟩

/-- The quotation mark that is left open is the last one. -/
theorem isLastQuote_of_tokens {raw : Text} {quote : UnclosedQuote} (h : tokens raw = .error quote) :
    IsLastQuote raw quote.position := by
  rcases openQuote_eq_some (scan_eq_error_iff.1 h) with ⟨hNone, -⟩ | ⟨k, hLast, hPosition⟩
  · cases hNone
  · rw [hPosition, Nat.zero_add]
    exact hLast

end Lexer

/-! ### Parentheses in phrases -/

/-- The characters that a token hides from the reader of a query. -/
def Token.phraseText : Token → Text
  | .phrase p => p
  | _ => []

/-- The texts of all phrases, one behind the other. -/
def phraseText (ts : List Located) : Text := ts.flatMap fun t => t.token.phraseText

/-- The parentheses, as characters and as tokens. -/
inductive IsParen : Char → Token → Prop where
  | opening : IsParen '(' .openParen
  | closing : IsParen ')' .closeParen

private theorem count_eq_zero_of_isBlank {c : Char} {t : Text} (hc : Unicode.isBlank c = false)
    (h : t.isBlank = true) : t.count c = 0 := by
  rw [Text.isBlank, List.all_eq_true] at h
  rw [List.count_eq_zero]
  intro hMem
  rw [h c hMem] at hc
  cases hc

/-- A character that is not white space is counted in the tokens. -/
theorem count_textOf {final : Text} {placed : List (Text × Token)} (hFinal : final.isBlank = true)
    (hGaps : ∀ p ∈ placed, p.1.isBlank = true) {c : Char} (hc : Unicode.isBlank c = false) (offset : Nat) :
    (textOf final placed).count c = ((locate offset placed).flatMap fun t => t.token.written).count c := by
  induction placed generalizing offset with
  | nil => exact count_eq_zero_of_isBlank hc hFinal
  | cons p rest ih =>
    obtain ⟨gap, token⟩ := p
    obtain ⟨hGap, hGapsRest⟩ := List.forall_mem_cons.1 hGaps
    rw [textOf, locate, List.flatMap_cons, List.count_append, List.count_append, List.count_append,
      count_eq_zero_of_isBlank hc hGap, ih hGapsRest, Nat.zero_add]

/-- A parenthesis in a token is the token itself or stands in a phrase. -/
theorem count_written {c : Char} {paren token : Token} (h : IsParen c paren) (hStand : CanStand token) :
    token.written.count c = [token].count paren + token.phraseText.count c := by
  cases token with
  | word w =>
    have hWord : w.count c = 0 := by
      rw [List.count_eq_zero]
      intro hMem
      have hLetter := hStand.2 c hMem
      cases h <;> cases hLetter
    cases h <;> simp [Token.written, Token.phraseText, hWord]
  | phrase p => cases h <;> simp [Token.written, Token.phraseText]
  | openParen => cases h <;> rfl
  | closeParen => cases h <;> rfl

/-- The parentheses of a text are those that are tokens and those in phrases. -/
theorem Lexer.Lays.count_paren {raw : Text} {ts : List Located} (hLays : Lays 0 raw ts) {c : Char} {paren : Token}
    (h : IsParen c paren) : raw.count c = (ts.map Located.token).count paren + (phraseText ts).count c := by
  have hBlank : Unicode.isBlank c = false := by cases h <;> rfl
  have hStand := hLays.canStand
  obtain ⟨a, rfl, rfl⟩ := hLays.exists_arrangement
  rw [Arrangement.text, count_textOf a.final_blank a.gaps_blank hBlank 0]
  generalize locate 0 a.placed = ts at hStand ⊢
  unfold phraseText
  induction ts with
  | nil => rfl
  | cons t ts ih =>
    have hToken := count_written h (hStand t.token List.mem_cons_self)
    have hRest := ih fun token hMem => hStand token (List.mem_cons_of_mem _ hMem)
    rw [List.flatMap_cons, List.flatMap_cons, List.map_cons, List.count_append, List.count_append,
      ← List.singleton_append, List.count_append, hToken, hRest]
    omega

/-! ### What reading a query gives -/

/-- A query is blank, or leaves a quotation mark open, or its tokens are read. -/
theorem parse_cases (raw : Text) :
    (raw.isBlank = true ∧ parse raw = .error ⟨.empty, raw⟩) ∨
      (raw.isBlank = false ∧ ∃ quote, tokens raw = .error quote ∧ parse raw = .error (.ofUnclosedQuote raw quote)) ∨
      (raw.isBlank = false ∧ ∃ ts, tokens raw = .ok ts ∧ parse raw = (formula ts).mapError (.ofSyntaxFault raw)) := by
  unfold parse
  cases hBlank : raw.isBlank with
  | true => exact .inl ⟨rfl, rfl⟩
  | false =>
    cases hTokens : tokens raw with
    | error quote => exact .inr (.inl ⟨rfl, quote, rfl, rfl⟩)
    | ok ts => exact .inr (.inr ⟨rfl, ts, rfl, rfl⟩)

private theorem eq_ofSyntaxFault {raw : Text} {ts : List Located} {err : QueryError}
    (h : (formula ts).mapError (.ofSyntaxFault raw) = .error err) : ∃ fault, err = .ofSyntaxFault raw fault := by
  cases hRead : formula ts with
  | ok e =>
    rw [hRead] at h
    cases h
  | error fault =>
    rw [hRead] at h
    exact ⟨fault, (Except.error.inj h).symm⟩

theorem isBlank_of_lays_nil {offset : Nat} {t : Text} (h : Lays offset t []) : t.isBlank = true := by
  generalize hTokens : ([] : List Located) = ts at h
  induction h with
  | done => rfl
  | blank hc _ ih => exact isBlank_cons.2 ⟨hc, ih hTokens⟩
  | _ => cases hTokens

/-- Blank texts are those without tokens. -/
theorem tokens_eq_nil_iff {raw : Text} : tokens raw = .ok [] ↔ raw.isBlank = true := by
  rw [tokens_eq_ok_iff]
  constructor
  · exact isBlank_of_lays_nil
  · intro hBlank
    have h : Lays 0 (raw ++ []) [] := .behind_blanks hBlank .done
    rw [List.append_nil] at h
    exact h

theorem parse_empty_iff {raw : Text} : (∃ err, parse raw = .error err ∧ err.kind = .empty) ↔ raw.isBlank = true := by
  constructor
  · rintro ⟨err, hParse, hKind⟩
    rcases parse_cases raw with ⟨hBlank, -⟩ | ⟨-, quote, -, hQuote⟩ | ⟨-, ts, -, hFormula⟩
    · exact hBlank
    · obtain rfl := Except.error.inj (hQuote.symm.trans hParse)
      cases hKind
    · obtain ⟨fault, rfl⟩ := eq_ofSyntaxFault (hFormula.symm.trans hParse)
      cases hKind
  · intro hBlank
    rw [parse, if_pos hBlank]
    exact ⟨_, rfl, rfl⟩

theorem parse_lexical_iff {raw : Text} :
    (∃ err message position, parse raw = .error err ∧ err.kind = .lexical message position) ↔
      ∃ quote, tokens raw = .error quote := by
  rcases parse_cases raw with ⟨hBlank, hParse⟩ | ⟨-, quote, hTokens, hParse⟩ | ⟨-, ts, hTokens, hParse⟩
  · rw [hParse, tokens_eq_nil_iff.2 hBlank]
    constructor
    · rintro ⟨_, _, _, h, hKind⟩
      obtain rfl := Except.error.inj h
      cases hKind
    · rintro ⟨_, h⟩
      cases h
  · exact ⟨fun _ => ⟨quote, hTokens⟩, fun _ => ⟨_, _, _, hParse, rfl⟩⟩
  · rw [hParse, hTokens]
    constructor
    · rintro ⟨_, _, _, h, hKind⟩
      obtain ⟨fault, rfl⟩ := eq_ofSyntaxFault h
      cases hKind
    · rintro ⟨_, h⟩
      cases h

/-! ### What counting tells -/

namespace Balance

theorem issues_eq_noQuery_iff {raw : Text} : issues raw = [.noQuery] ↔ raw.isBlank = true := by
  unfold issues
  split
  · simp [*]
  · split <;> split <;> simp_all

theorem quotes_mem_issues_iff {raw : Text} : .quotes ∈ issues raw ↔ raw.count '"' % 2 = 1 := by
  unfold issues
  split
  · rename_i hBlank
    rw [count_eq_zero_of_isBlank rfl hBlank]
    simp
  · have hParity : raw.count '"' % 2 = 0 ∨ raw.count '"' % 2 = 1 := by omega
    rcases hParity with h | h <;> split <;> simp [h]

end Balance

/-- A query that can be read has its parentheses nested, and whether its parentheses are equal in number is a matter
of its phrases. -/
theorem issues_of_parse {raw : Text} {e : Expr} (h : parse raw = .ok e) :
    ∃ ts, tokens raw = .ok ts ∧ Nested (ts.map Located.token) ∧
      Balance.issues raw = if (phraseText ts).count '(' = (phraseText ts).count ')' then [] else [.parentheses] := by
  obtain ⟨_, hCarries, hYields⟩ := parse_eq_ok_iff.1 h
  obtain ⟨ts, hLays, rfl⟩ := hCarries 0
  have hTokens := tokens_eq_ok_iff.2 hLays
  have hNested : Nested (ts.map Located.token) := hYields.nested
  refine ⟨ts, hTokens, hNested, ?_⟩
  have hBlank : raw.isBlank = false := by
    rw [Bool.eq_false_iff, ne_eq, ← tokens_eq_nil_iff, hTokens]
    intro hNil
    obtain rfl := Except.ok.inj hNil
    exact hYields.ne_nil rfl
  have hQuotes : raw.count '"' % 2 = 0 := by
    have hEven : ¬ raw.count '"' % 2 = 1 := by
      rw [← exists_tokens_eq_error_iff, hTokens]
      rintro ⟨_, hError⟩
      cases hError
    omega
  have hOpening := hLays.count_paren .opening
  have hClosing := hLays.count_paren .closing
  have hTotal := hNested.total
  have hParens : raw.count '(' = raw.count ')' ↔ (phraseText ts).count '(' = (phraseText ts).count ')' := by omega
  simp only [Balance.issues, hBlank, hQuotes, Bool.false_eq_true, if_false, ne_eq, not_true_eq_false, List.append_nil,
    ite_not, hParens]

/-- A check passes when counting finds no issue and the query can be read. -/
theorem status_check_eq_zero_iff {raw : Text} {json : Bool} :
    (Check.run raw json).status = 0 ↔ Balance.issues raw = [] ∧ ∃ e, parse raw = .ok e := by
  unfold Check.run Balance.report Check.fault?
  cases hParse : parse raw with
  | ok e => simp
  | error err => simp

/-! ### The agreement -/

/-- Counting, scanning and reading agree on what is wrong with a query.  A query is blank when one of them says so, and
has an odd number of quotation marks when one of them says so.  When it can be read, its parentheses are nested, and
counting complains about those in phrases only.  So a query passes a check when it can be read and the parentheses in
its phrases are equal in number. -/
theorem checks_agree (raw : Text) :
    ((Balance.issues raw = [.noQuery] ↔ ∃ err, parse raw = .error err ∧ err.kind = .empty) ∧
      ((∃ err, parse raw = .error err ∧ err.kind = .empty) ↔ tokens raw = .ok [])) ∧
    ((raw.count '"' % 2 = 1 ↔ ∃ quote, tokens raw = .error quote) ∧
      (∀ quote, tokens raw = .error quote → IsLastQuote raw quote.position) ∧
      ((∃ quote, tokens raw = .error quote) ↔ .quotes ∈ Balance.issues raw) ∧
      ((∃ quote, tokens raw = .error quote) ↔
        ∃ err message position, parse raw = .error err ∧ err.kind = .lexical message position)) ∧
    (∀ e, parse raw = .ok e → ∃ ts, tokens raw = .ok ts ∧ Nested (ts.map Located.token) ∧
      Balance.issues raw = if (phraseText ts).count '(' = (phraseText ts).count ')' then [] else [.parentheses]) ∧
    ∀ (env : Environment) (directory : Path) (stdin : Contents) (json : Bool),
      (Command.run env directory stdin (.check raw json)).1.status = 0 ↔
        ∃ e ts, parse raw = .ok e ∧ tokens raw = .ok ts ∧ (phraseText ts).count '(' = (phraseText ts).count ')' := by
  refine ⟨⟨?_, ?_⟩, ⟨exists_tokens_eq_error_iff.symm, fun _ h => isLastQuote_of_tokens h, ?_, parse_lexical_iff.symm⟩,
    fun _ h => issues_of_parse h, ?_⟩
  · rw [Balance.issues_eq_noQuery_iff, parse_empty_iff]
  · rw [parse_empty_iff, tokens_eq_nil_iff]
  · rw [Balance.quotes_mem_issues_iff, exists_tokens_eq_error_iff]
  · intro env directory stdin json
    show (Check.run raw json).status = 0 ↔ _
    rw [status_check_eq_zero_iff]
    constructor
    · rintro ⟨hIssues, e, hParse⟩
      obtain ⟨ts, hTokens, -, hCount⟩ := issues_of_parse hParse
      refine ⟨e, ts, hParse, hTokens, ?_⟩
      by_cases hEqual : (phraseText ts).count '(' = (phraseText ts).count ')'
      · exact hEqual
      · rw [hIssues, if_neg hEqual] at hCount
        cases hCount
    · rintro ⟨e, ts, hParse, hTokens, hEqual⟩
      obtain ⟨ts', hTokens', -, hCount⟩ := issues_of_parse hParse
      obtain rfl := Except.ok.inj (hTokens.symm.trans hTokens')
      rw [if_pos hEqual] at hCount
      exact ⟨hCount, e, hParse⟩

/-- A parenthesis in a phrase is counted, but not read. -/
theorem checks_agree_on_phrase :
    parse "(a OR \"b)\")".toList = .ok (.or (.leaf (.words ['a'])) (.leaf (.phrase "b)".toList))) ∧
      Balance.issues "(a OR \"b)\")".toList = [.parentheses] ∧
      tokens "\"a\" (\"b".toList = .error ⟨5⟩ ∧ IsLastQuote "\"a\" (\"b".toList 5 := by
  have hTokens : tokens "(a OR \"b)\")".toList = .ok [⟨.openParen, 0⟩, ⟨.word ['a'], 1⟩, ⟨.word "OR".toList, 3⟩,
      ⟨.phrase "b)".toList, 6⟩, ⟨.closeParen, 10⟩] := rfl
  have hParse := parse_eq_of_formula hTokens
    (e := .or (.leaf (.words ['a'])) (.leaf (.phrase "b)".toList))) rfl
  have hUnclosed : tokens "\"a\" (\"b".toList = .error ⟨5⟩ := rfl
  obtain ⟨ts, hTokens', -, hIssues⟩ := (checks_agree "(a OR \"b)\")".toList).2.2.1 _ hParse
  obtain rfl := Except.ok.inj (hTokens.symm.trans hTokens')
  exact ⟨hParse, hIssues, hUnclosed, (checks_agree "\"a\" (\"b".toList).2.1.2.1 _ hUnclosed⟩

end TextQuery
