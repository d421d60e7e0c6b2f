import TextQuery.Settings.File

/-!
# Comments in documents

A line that is empty, or a comment, leaves only its line end behind (`outline_behind_comments`).  So a settings file says
the same with such lines in front of it (`ofText_behind_comments`), and nothing when it has no others
(`ofText_of_isSilent`).

The lexer and the reader of lines are given fuel by the length of a text.  More fuel changes nothing that has been read
(`cutTokens_mono`, `readLines_mono`), so the fuel for a part of a text does not matter.
-/

namespace TextQuery.Toml

/-- Whether a character may stand in a comment. -/
def isInComment (c : Char) : Bool := !isControl c || c == '\t'

/-- Whether a line is empty, or a comment. -/
def isSilent : Text → Bool
  | [] => true
  | c :: body => c == '#' && body.all isInComment

/-- Lines, each with its line feed. -/
def ended (lines : List Text) : Text := lines.flatMap (· ++ ['\n'])

theorem ended_cons (line : Text) (lines : List Text) : ended (line :: lines) = line ++ '\n' :: ended lines := by
  simp [ended]

/-! ### Tokens -/

/-- Whether a character ends no line. -/
def isInLine (c : Char) : Bool := c != '\n' && c != '\r'

private theorem takeWhile_isInLine {body : Text} (h : body.all isInLine = true) (rest : Text) :
    (body ++ '\n' :: rest).takeWhile isInLine = body := by
  rw [List.takeWhile_append_of_pos (List.all_eq_true.1 h), List.takeWhile_cons_of_neg (by decide), List.append_nil]

private theorem isInLine_of_isInComment {c : Char} (h : isInComment c = true) : isInLine c = true := by
  by_cases hFeed : c = '\n'
  · subst hFeed
    cases h
  · by_cases hReturn : c = '\r'
    · subst hReturn
      cases h
    · simp [isInLine, hFeed, hReturn]

/-- A comment is passed over, or spoils the text when it has a forbidden character. -/
private theorem cutToken_hash {body : Text} (h : body.all isInLine = true) (rest : Text) :
    cutToken '#' (body ++ '\n' :: rest) = if body.any isForbidden then none else some ([], '\n' :: rest) := by
  have hComment : (body ++ '\n' :: rest).takeWhile (fun d => d != '\n' && d != '\r') = body := takeWhile_isInLine h rest
  simp [cutToken, symbol?, opening?, hComment]

private theorem cutToken_comment {body : Text} (h : body.all isInComment = true) (rest : Text) :
    cutToken '#' (body ++ '\n' :: rest) = some ([], '\n' :: rest) := by
  have hChar : ∀ c ∈ body, isInComment c = true := List.all_eq_true.1 h
  have hInside : body.all isInLine = true := List.all_eq_true.2 fun c hc => isInLine_of_isInComment (hChar c hc)
  have hAllowed : body.any isForbidden = false := by
    rw [List.any_eq_false]
    intro c hc hForbidden
    have hComment := hChar c hc
    unfold isForbidden at hForbidden
    unfold isInComment at hComment
    cases hControl : isControl c with
    | false => simp [hControl] at hForbidden
    | true => simp_all
  rw [cutToken_hash hInside, hAllowed, if_neg Bool.false_ne_true]

private theorem cutTokens_lineEnd (fuel : Nat) (rest : Text) :
    cutTokens (fuel + 1) ('\n' :: rest) = (cutTokens fuel rest).map (.lineEnd :: ·) := by
  have hCut : cutToken '\n' rest = some ([.lineEnd], rest) := rfl
  rw [cutTokens, hCut]
  simp only [Option.bind_eq_bind, Option.bind_some]
  cases cutTokens fuel rest <;> rfl

private theorem cutTokens_comment {body : Text} (h : body.all isInComment = true) (fuel : Nat) (rest : Text) :
    cutTokens (fuel + 1) ('#' :: (body ++ '\n' :: rest)) = cutTokens fuel ('\n' :: rest) := by
  rw [cutTokens, cutToken_comment h]
  cases hRest : cutTokens fuel ('\n' :: rest) <;> simp [hRest]

/-- More fuel gives the same tokens. -/
private theorem cutTokens_mono {fuel fuel' : Nat} {t : Text} {ts : List Token} (h : cutTokens fuel t = some ts)
    (hFuel : fuel ≤ fuel') : cutTokens fuel' t = some ts := by
  induction fuel generalizing fuel' t ts with
  | zero =>
    cases t with
    | nil => exact (by cases fuel' <;> exact h)
    | cons c rest => cases h
  | succ fuel ih =>
    cases t with
    | nil => exact (by cases fuel' <;> exact h)
    | cons c rest =>
      obtain ⟨fuel', rfl⟩ : ∃ n, fuel' = n + 1 := ⟨fuel' - 1, by omega⟩
      rw [cutTokens] at h ⊢
      obtain ⟨⟨cut, rest'⟩, hCut, h⟩ := Option.bind_eq_some_iff.1 h
      obtain ⟨more, hMore, h⟩ := Option.bind_eq_some_iff.1 h
      exact Option.bind_eq_some_iff.2 ⟨_, hCut, Option.bind_eq_some_iff.2 ⟨more, ih hMore (by omega), h⟩⟩

theorem cutTokens_eq_none {c : Char} {cut : List Token} {fuel : Nat} {rest rest' : Text}
    (hCut : cutToken c rest = some (cut, rest')) (hRest : cutTokens fuel rest' = none) :
    cutTokens (fuel + 1) (c :: rest) = none := by
  rw [cutTokens, hCut, Option.bind_eq_bind, Option.bind_some]
  exact congrArg (Option.bind · _) hRest

/-- A forbidden character in a comment spoils the text, whatever stands behind it. -/
theorem cutTokens_forbidden {body : Text} (h : body.all isInLine = true) (hForbidden : body.any isForbidden = true)
    (fuel : Nat) (rest : Text) : cutTokens fuel ('#' :: (body ++ '\n' :: rest)) = none := by
  cases fuel with
  | zero => rfl
  | succ fuel =>
    rw [cutTokens, cutToken_hash h, if_pos hForbidden]
    rfl

private theorem cutTokens_ended_append {lines : List Text} (h : ∀ line ∈ lines, isSilent line = true) {u : Text}
    {ts : List Token} {fuel fuel' : Nat} (hu : cutTokens fuel u = some ts)
    (hFuel : (ended lines).length + fuel ≤ fuel') :
    cutTokens fuel' (ended lines ++ u) = some (List.replicate lines.length .lineEnd ++ ts) := by
  induction lines generalizing fuel' with
  | nil => exact cutTokens_mono hu (by omega)
  | cons line lines ih =>
    have hRest : ∀ line ∈ lines, isSilent line = true := fun l hl => h l (List.mem_cons_of_mem line hl)
    have hLine := h line List.mem_cons_self
    rw [ended_cons] at hFuel ⊢
    rw [List.length_append, List.length_cons] at hFuel
    rw [List.length_cons, List.replicate_succ, List.append_assoc, List.cons_append, List.cons_append]
    cases line with
    | nil =>
      obtain ⟨fuel', rfl⟩ : ∃ n, fuel' = n + 1 := ⟨fuel' - 1, by omega⟩
      rw [List.nil_append, cutTokens_lineEnd, ih hRest (by omega), Option.map_some]
    | cons c body =>
      rw [isSilent, Bool.and_eq_true, beq_iff_eq] at hLine
      obtain ⟨rfl, hBody⟩ := hLine
      rw [List.length_cons] at hFuel
      obtain ⟨fuel', rfl⟩ : ∃ n, fuel' = n + 2 := ⟨fuel' - 2, by omega⟩
      rw [List.cons_append, cutTokens_comment hBody, cutTokens_lineEnd, ih hRest (by omega), Option.map_some]

theorem tokens_behind_comments {lines : List Text} (h : ∀ line ∈ lines, isSilent line = true) {u : Text}
    (hMark : dropByteOrderMark u = u) {ts : List Token} (hu : tokens u = some ts) :
    tokens (ended lines ++ u) = some (List.replicate lines.length .lineEnd ++ ts) := by
  have hNoMark : dropByteOrderMark (ended lines ++ u) = ended lines ++ u := by
    cases lines with
    | nil => exact hMark
    | cons line lines =>
      have hLine := h line List.mem_cons_self
      rw [ended_cons]
      cases line with
      | nil => rfl
      | cons c body =>
        rw [isSilent, Bool.and_eq_true, beq_iff_eq] at hLine
        rw [hLine.1]
        rfl
  rw [tokens, hMark] at hu
  rw [tokens, hNoMark]
  exact cutTokens_ended_append h hu (List.length_append ▸ Nat.le_refl _)

/-! ### Lines -/

/-- More fuel gives the same lines. -/
private theorem readLines_mono {fuel fuel' : Nat} {ts : List Token} {ls : List Line} (h : readLines fuel ts = some ls)
    (hFuel : fuel ≤ fuel') : readLines fuel' ts = some ls := by
  induction fuel generalizing fuel' ts ls with
  | zero =>
    rw [readLines] at h
    split at h
    · next hEmpty =>
      rw [List.isEmpty_iff] at hEmpty
      cases fuel' with
      | zero => rw [readLines, hEmpty, ← h, List.isEmpty_nil, if_pos rfl]
      | succ fuel' => rw [readLines, hEmpty, ← h]
    · cases h
  | succ fuel ih =>
    obtain ⟨fuel', rfl⟩ : ∃ n, fuel' = n + 1 := ⟨fuel' - 1, by omega⟩
    rw [readLines] at h ⊢
    split at h
    · exact h
    · obtain ⟨⟨line, rest⟩, hLine, h⟩ := Option.bind_eq_some_iff.1 h
      obtain ⟨rest', hEnd, h⟩ := Option.bind_eq_some_iff.1 h
      obtain ⟨more, hMore, h⟩ := Option.bind_eq_some_iff.1 h
      refine Option.bind_eq_some_iff.2 ⟨_, hLine, Option.bind_eq_some_iff.2 ⟨_, hEnd, ?_⟩⟩
      exact Option.bind_eq_some_iff.2 ⟨more, ih hMore (by omega), h⟩

private theorem readLines_lineEnds (fuel n : Nat) (ts : List Token) :
    readLines fuel (List.replicate n .lineEnd ++ ts) = readLines fuel ts := by
  have hSkip : skipGap (List.replicate n .lineEnd ++ ts) = skipGap ts := by
    induction n with
    | zero => rfl
    | succ n ih => exact ih
  cases fuel with
  | zero => rw [readLines, readLines, hSkip]
  | succ fuel => rw [readLines, readLines, hSkip]

theorem outline_behind_comments {lines : List Text} (h : ∀ line ∈ lines, isSilent line = true) {u : Text}
    (hMark : dropByteOrderMark u = u) {ls : List Line} (hu : outline u = some ls) : outline (ended lines ++ u) = some ls := by
  obtain ⟨ts, hTokens, hLines⟩ := Option.bind_eq_some_iff.1 hu
  rw [outline, tokens_behind_comments h hMark hTokens]
  refine (readLines_lineEnds _ _ _).trans (readLines_mono hLines ?_)
  simp

theorem document_congr {t u : Text} (h : outline t = outline u) : document t = document u := by
  rw [document, document, h]

end TextQuery.Toml

namespace TextQuery.SettingsFile

open Toml (isSilent ended)

variable {lines : List Text}

/-- A settings file says the same behind comments.  It may not begin with a byte order mark, which only counts at the very
beginning. -/
theorem ofText_behind_comments (h : ∀ line ∈ lines, isSilent line = true) {u : Text}
    (hMark : Toml.dropByteOrderMark u = u) {f : SettingsFile} (hu : ofText u = .ok f) : ofText (ended lines ++ u) = .ok f := by
  cases hOutline : Toml.outline u with
  | none =>
    rw [ofText, Toml.document, hOutline] at hu
    cases hu
  | some ls =>
    have hSame := (Toml.outline_behind_comments h hMark hOutline).trans hOutline.symm
    rw [ofText, Toml.document_congr hSame]
    exact hu

/-- A settings file of comments says nothing. -/
theorem ofText_of_isSilent (h : ∀ line ∈ lines, isSilent line = true) : ofText (ended lines) = .ok {} := by
  have hNothing : ofText [] = .ok {} := rfl
  rw [← List.append_nil (ended lines)]
  exact ofText_behind_comments h rfl hNothing

end TextQuery.SettingsFile
