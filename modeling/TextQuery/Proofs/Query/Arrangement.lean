import Mathlib.Data.List.Chain
import TextQuery.Proofs.Query.Carrying

/-!
# Tokens arranged in a text

An arrangement is a list of tokens with the white space around them.  Scanning its text gives the tokens back, each
at the offset of its first character (`Arrangement.lays`), and every text that can be scanned is the text of an
arrangement (`Lays.exists_arrangement`).  The places of the tokens follow from the arrangement alone: they do not
overlap, each holds the characters of its token, and only white space lies outside of them.
-/

namespace TextQuery

/-- A token as it stands in a text. -/
def Token.written : Token → Text
  | .word w => w
  | .phrase p => '"' :: (p ++ ['"'])
  | .openParen => ['(']
  | .closeParen => [')']

/-- Whether a token is a word. -/
def Token.isWord : Token → Bool
  | .word _ => true
  | _ => false

/-- The offset behind the last character of a token. -/
def Located.stop (t : Located) : Nat := t.offset + t.token.written.utf8Size

/-- Whether a token covers the character that begins at an offset. -/
def Located.Covers (t : Located) (offset : Nat) : Prop := t.offset ≤ offset ∧ offset < t.stop

namespace Lexer

/-- Tokens that can stand in a text, each with the white space in front of it, and the white space at the end. -/
structure Arrangement where
  placed : List (Text × Token)
  final : Text
  gaps_blank : ∀ p ∈ placed, p.1.isBlank = true
  final_blank : final.isBlank = true
  tokens_stand : ∀ p ∈ placed, CanStand p.2
  /-- Without white space between them, two words would be one. -/
  words_apart : placed.IsChain fun p q => p.2.isWord = true → q.2.isWord = true → q.1 ≠ []

/-- The characters of placed tokens. -/
def textOf (final : Text) : List (Text × Token) → Text
  | [] => final
  | (gap, token) :: rest => gap ++ (token.written ++ textOf final rest)

/-- The places of tokens, when the white space in front of the first begins at an offset. -/
def locate (offset : Nat) : List (Text × Token) → List Located
  | [] => []
  | (gap, token) :: rest =>
    ⟨token, offset + gap.utf8Size⟩ :: locate (offset + gap.utf8Size + token.written.utf8Size) rest

namespace Arrangement

/-- The text of an arrangement. -/
def text (a : Arrangement) : Text := textOf a.final a.placed

/-- The tokens of an arrangement with the offsets of their first characters. -/
def located (a : Arrangement) : List Located := locate 0 a.placed

end Arrangement

/-! ### The text of an arrangement is a layout -/

theorem isBlank_cons {c : Char} {t : Text} :
    Text.isBlank (c :: t) = true ↔ Unicode.isBlank c = true ∧ t.isBlank = true := by
  simp [Text.isBlank]

theorem Lays.behind_blanks {gap t : Text} {ts : List Located} (hGap : gap.isBlank = true) {offset : Nat}
    (h : Lays (offset + gap.utf8Size) t ts) : Lays offset (gap ++ t) ts := by
  induction gap generalizing offset with
  | nil => exact h
  | cons c gap ih =>
    rw [isBlank_cons] at hGap
    rw [Text.utf8Size_cons, ← Nat.add_assoc] at h
    exact .blank hGap.1 (ih hGap.2 h)

private theorem endsWord_of_isBlank {t : Text} (h : t.isBlank = true) : EndsWord t := by
  cases t with
  | nil => exact endsWord_nil
  | cons c t => exact endsWord_cons.2 (breaksWord_of_isBlank (isBlank_cons.1 h).1)

private theorem endsWord_written {token : Token} (h : token.isWord = false) (t : Text) :
    EndsWord (token.written ++ t) := by
  cases token with
  | word w => cases h
  | phrase p => exact endsWord_cons.2 (by decide)
  | openParen => exact endsWord_cons.2 (by decide)
  | closeParen => exact endsWord_cons.2 (by decide)

/-- A word ends in front of what may follow it. -/
private theorem endsWord_textOf {final : Text} {rest : List (Text × Token)} (hFinal : final.isBlank = true)
    (hGaps : ∀ p ∈ rest, p.1.isBlank = true) (hApart : ∀ q ∈ rest.head?, q.2.isWord = true → q.1 ≠ []) :
    EndsWord (textOf final rest) := by
  cases rest with
  | nil => exact endsWord_of_isBlank hFinal
  | cons q rest =>
    obtain ⟨gap, token⟩ := q
    have hBlank : gap.isBlank = true := hGaps (gap, token) List.mem_cons_self
    have hGap : token.isWord = true → gap ≠ [] := hApart (gap, token) rfl
    cases gap with
    | cons c gap => exact endsWord_cons.2 (breaksWord_of_isBlank (isBlank_cons.1 hBlank).1)
    | nil =>
      have hToken : token.isWord = false := by
        rw [Bool.eq_false_iff]
        exact fun h => hGap h rfl
      exact endsWord_written hToken _

private theorem utf8Size_written_phrase (p : Text) :
    (Token.written (.phrase p)).utf8Size = 1 + p.utf8Size + 1 := by
  have hQuote : Char.utf8Size '"' = 1 := rfl
  simp only [Token.written, Text.utf8Size_cons, Text.utf8Size_append, Text.utf8Size_nil, hQuote]
  omega

private theorem lays_textOf {final : Text} {placed : List (Text × Token)} (hFinal : final.isBlank = true)
    (hGaps : ∀ p ∈ placed, p.1.isBlank = true) (hStand : ∀ p ∈ placed, CanStand p.2)
    (hApart : placed.IsChain fun p q => p.2.isWord = true → q.2.isWord = true → q.1 ≠ []) (offset : Nat) :
    Lays offset (textOf final placed) (locate offset placed) := by
  induction placed generalizing offset with
  | nil =>
    have h : Lays offset (final ++ []) [] := .behind_blanks hFinal .done
    rw [List.append_nil] at h
    exact h
  | cons p rest ih =>
    obtain ⟨gap, token⟩ := p
    obtain ⟨hGap, hGapsRest⟩ := List.forall_mem_cons.1 hGaps
    obtain ⟨hToken, hStandRest⟩ := List.forall_mem_cons.1 hStand
    obtain ⟨hNext, hApartRest⟩ := List.isChain_cons.1 hApart
    have hRest := ih hGapsRest hStandRest hApartRest (offset + gap.utf8Size + token.written.utf8Size)
    refine .behind_blanks hGap ?_
    cases token with
    | word w =>
      have hEnd : EndsWord (textOf final rest) :=
        endsWord_textOf hFinal hGapsRest fun q hq hWord => hNext q hq rfl hWord
      exact .word hToken hEnd hRest
    | phrase p =>
      have hText : Token.written (.phrase p) ++ textOf final rest = '"' :: (p ++ '"' :: textOf final rest) := by
        simp [Token.written]
      rw [utf8Size_written_phrase, ← Nat.add_assoc, ← Nat.add_assoc] at hRest
      rw [hText, locate, utf8Size_written_phrase, ← Nat.add_assoc, ← Nat.add_assoc]
      exact .phrase hToken hRest
    | openParen => exact .openParen hRest
    | closeParen => exact .closeParen hRest

/-- The text of an arrangement is a layout of its tokens. -/
theorem Arrangement.lays (a : Arrangement) : Lays 0 a.text a.located :=
  lays_textOf a.final_blank a.gaps_blank a.tokens_stand a.words_apart 0

/-! ### Every layout is the text of an arrangement -/

/-- White space in front of placed tokens goes into the first gap. -/
private theorem exists_textOf_cons_blank {c : Char} (hc : Unicode.isBlank c = true) (a : Arrangement) (offset : Nat) :
    ∃ b : Arrangement, b.text = c :: a.text ∧ locate offset b.placed = locate (offset + c.utf8Size) a.placed := by
  obtain ⟨placed, final, hGaps, hFinal, hStand, hApart⟩ := a
  cases placed with
  | nil =>
    refine ⟨⟨[], c :: final, hGaps, isBlank_cons.2 ⟨hc, hFinal⟩, hStand, hApart⟩, rfl, rfl⟩
  | cons p rest =>
    obtain ⟨gap, token⟩ := p
    obtain ⟨hGap, hGapsRest⟩ := List.forall_mem_cons.1 hGaps
    obtain ⟨hToken, hStandRest⟩ := List.forall_mem_cons.1 hStand
    refine ⟨⟨(c :: gap, token) :: rest, final, ?_, hFinal, ?_, ?_⟩, rfl, ?_⟩
    · exact List.forall_mem_cons.2 ⟨isBlank_cons.2 ⟨hc, hGap⟩, hGapsRest⟩
    · exact List.forall_mem_cons.2 ⟨hToken, hStandRest⟩
    · rw [List.isChain_cons] at hApart ⊢
      exact hApart
    · simp only [locate, Text.utf8Size_cons, Nat.add_assoc]

private theorem not_endsWord_of_isWord {w t : Text} (hw : IsWord w) : ¬ EndsWord (w ++ t) := by
  obtain ⟨c, w, rfl⟩ := List.exists_cons_of_ne_nil hw.1
  intro h
  have hBreak := endsWord_cons.1 h
  rw [hw.2 c List.mem_cons_self] at hBreak
  cases hBreak

/-- A token can be put in front of an arrangement, when it is no word or ends there. -/
private theorem exists_textOf_cons_token (token : Token) (hToken : CanStand token) (a : Arrangement)
    (hEnd : token.isWord = true → EndsWord a.text) (offset : Nat) :
    ∃ b : Arrangement, b.text = token.written ++ a.text ∧
      locate offset b.placed = ⟨token, offset⟩ :: locate (offset + token.written.utf8Size) a.placed := by
  obtain ⟨placed, final, hGaps, hFinal, hStand, hApart⟩ := a
  refine ⟨⟨([], token) :: placed, final, ?_, hFinal, ?_, ?_⟩, rfl, rfl⟩
  · exact List.forall_mem_cons.2 ⟨rfl, hGaps⟩
  · exact List.forall_mem_cons.2 ⟨hToken, hStand⟩
  · refine List.isChain_cons.2 ⟨?_, hApart⟩
    -- otherwise the token would not end in front of the word behind it
    rintro ⟨gap, next⟩ hq hWord hNext rfl
    cases placed with
    | nil => cases hq
    | cons q rest =>
      obtain rfl : q = ([], next) := by simpa using hq
      cases next with
      | word w => exact not_endsWord_of_isWord (hStand _ List.mem_cons_self) (hEnd hWord)
      | _ => cases hNext

/-- A layout is the text of an arrangement. -/
theorem Lays.exists_arrangement {offset : Nat} {t : Text} {ts : List Located} (h : Lays offset t ts) :
    ∃ a : Arrangement, a.text = t ∧ locate offset a.placed = ts := by
  induction h with
  | done => exact ⟨⟨[], [], by simp, rfl, by simp, .nil⟩, rfl, rfl⟩
  | blank hc _ ih =>
    obtain ⟨a, rfl, rfl⟩ := ih
    exact exists_textOf_cons_blank hc a _
  | openParen _ ih =>
    obtain ⟨a, rfl, rfl⟩ := ih
    exact exists_textOf_cons_token .openParen trivial a (fun h => by cases h) _
  | closeParen _ ih =>
    obtain ⟨a, rfl, rfl⟩ := ih
    exact exists_textOf_cons_token .closeParen trivial a (fun h => by cases h) _
  | @phrase offset p t ts hp _ ih =>
    obtain ⟨a, rfl, rfl⟩ := ih
    have h := exists_textOf_cons_token (.phrase p) hp a (fun h => by cases h) offset
    rw [utf8Size_written_phrase, ← Nat.add_assoc, ← Nat.add_assoc] at h
    simpa [Token.written] using h
  | @word offset w t ts hw hEnd _ ih =>
    obtain ⟨a, rfl, rfl⟩ := ih
    exact exists_textOf_cons_token (.word w) hw a (fun _ => hEnd) offset

/-! ### The places of tokens -/

theorem offset_le_of_mem_locate {placed : List (Text × Token)} {offset : Nat} {u : Located}
    (hu : u ∈ locate offset placed) : offset ≤ u.offset := by
  induction placed generalizing offset with
  | nil => cases hu
  | cons p rest ih =>
    obtain ⟨gap, token⟩ := p
    rcases List.mem_cons.1 hu with rfl | hu
    · exact Nat.le_add_right _ _
    · have := ih hu
      omega

/-- Every token ends before the next begins. -/
theorem pairwise_locate (placed : List (Text × Token)) (offset : Nat) :
    (locate offset placed).Pairwise fun t u => t.stop ≤ u.offset := by
  induction placed generalizing offset with
  | nil => exact .nil
  | cons p rest ih =>
    obtain ⟨gap, token⟩ := p
    refine List.pairwise_cons.2 ⟨?_, ih _⟩
    intro u hu
    exact offset_le_of_mem_locate hu

/-- A token is found at its offset, character for character. -/
theorem exists_written_of_mem_locate (final : Text) {placed : List (Text × Token)} {offset : Nat} {u : Located}
    (hu : u ∈ locate offset placed) :
    ∃ before behind, textOf final placed = before ++ (u.token.written ++ behind) ∧
      u.offset = offset + before.utf8Size := by
  induction placed generalizing offset with
  | nil => cases hu
  | cons p rest ih =>
    obtain ⟨gap, token⟩ := p
    rcases List.mem_cons.1 hu with rfl | hu
    · exact ⟨gap, textOf final rest, rfl, rfl⟩
    · obtain ⟨before, behind, hText, hOffset⟩ := ih hu
      refine ⟨gap ++ (token.written ++ before), behind, ?_, ?_⟩
      · rw [textOf, hText]
        simp only [List.append_assoc]
      · rw [Text.utf8Size_append, Text.utf8Size_append]
        omega

/-- A character of two texts one behind the other stands in the first or in the second. -/
private theorem mem_first_or_second {u v before behind : Text} {c : Char} (h : u ++ v = before ++ c :: behind) :
    (∃ more, u = before ++ c :: more) ∨ ∃ between, before = u ++ between ∧ v = between ++ c :: behind := by
  rcases List.append_eq_append_iff.1 h with ⟨between, hBefore, hv⟩ | ⟨more, hu, hMore⟩
  · exact .inr ⟨between, hBefore, hv⟩
  · cases more with
    | nil => exact .inr ⟨[], by simpa using hu.symm, hMore.symm⟩
    | cons d more =>
      obtain ⟨rfl, -⟩ := List.cons.inj hMore
      exact .inl ⟨more, hu⟩

private theorem isBlank_of_isBlank_append {before more : Text} {c : Char}
    (h : Text.isBlank (before ++ c :: more) = true) : Unicode.isBlank c = true := by
  rw [Text.isBlank, List.all_eq_true] at h
  exact h c (by simp)

/-- Only white space lies outside of the tokens. -/
theorem exists_covers {final : Text} {placed : List (Text × Token)} (hFinal : final.isBlank = true)
    (hGaps : ∀ p ∈ placed, p.1.isBlank = true) {before behind : Text} {c : Char}
    (hText : textOf final placed = before ++ c :: behind) (hc : Unicode.isBlank c = false) (offset : Nat) :
    ∃ u ∈ locate offset placed, u.Covers (offset + before.utf8Size) := by
  induction placed generalizing before offset with
  | nil =>
    rw [textOf] at hText
    rw [hText] at hFinal
    rw [isBlank_of_isBlank_append hFinal] at hc
    cases hc
  | cons p rest ih =>
    obtain ⟨gap, token⟩ := p
    obtain ⟨hGap, hGapsRest⟩ := List.forall_mem_cons.1 hGaps
    rcases mem_first_or_second hText with ⟨more, rfl⟩ | ⟨between, rfl, hBehindGap⟩
    · rw [isBlank_of_isBlank_append hGap] at hc
      cases hc
    · rcases mem_first_or_second hBehindGap with ⟨more, hWritten⟩ | ⟨between, rfl, hBehindToken⟩
      · refine ⟨_, List.mem_cons_self, ?_, ?_⟩
        · show offset + gap.utf8Size ≤ _
          rw [Text.utf8Size_append]
          omega
        · show _ < offset + gap.utf8Size + token.written.utf8Size
          have := c.utf8Size_pos
          rw [hWritten, Text.utf8Size_append, Text.utf8Size_append, Text.utf8Size_cons]
          omega
      · obtain ⟨u, hu, hCovers⟩ :=
          ih hGapsRest hBehindToken (offset + gap.utf8Size + token.written.utf8Size)
        refine ⟨u, List.mem_cons_of_mem _ hu, ?_⟩
        rw [Text.utf8Size_append, Text.utf8Size_append, ← Nat.add_assoc, ← Nat.add_assoc]
        exact hCovers

/-- No character belongs to two tokens. -/
theorem covers_unique {ts : List Located} (h : ts.Pairwise fun t u => t.stop ≤ u.offset) {t u : Located} {n : Nat}
    (ht : t ∈ ts) (hu : u ∈ ts) (htn : t.Covers n) (hun : u.Covers n) : t = u := by
  induction ts with
  | nil => cases ht
  | cons first ts ih =>
    obtain ⟨hFirst, hRest⟩ := List.pairwise_cons.1 h
    rcases List.mem_cons.1 ht with rfl | htRest <;> rcases List.mem_cons.1 hu with rfl | huRest
    · rfl
    · have := hFirst u huRest
      have := htn.2
      have := hun.1
      omega
    · have := hFirst t htRest
      have := htn.1
      have := hun.2
      omega
    · exact ih hRest htRest huRest

/-- A token has a character. -/
theorem utf8Size_written_pos {token : Token} (h : CanStand token) : 0 < token.written.utf8Size := by
  cases token with
  | word w =>
    obtain ⟨c, w, rfl⟩ := List.exists_cons_of_ne_nil h.1
    have := c.utf8Size_pos
    rw [Token.written, Text.utf8Size_cons]
    omega
  | phrase p =>
    rw [utf8Size_written_phrase]
    omega
  | openParen => decide
  | closeParen => decide

/-! ### The scan inverts arrangement -/

/-- The scan gives back the tokens of every arrangement, and reads arrangements only.  So the tokens follow one
another, each is found at its offset, and every character but white space belongs to exactly one of them. -/
theorem tokens_inverts_arrangement :
    (∀ a : Arrangement, tokens a.text = .ok a.located) ∧
    ∀ (raw : Text) (ts : List Located), tokens raw = .ok ts →
      (∃ a : Arrangement, a.text = raw ∧ a.located = ts) ∧
      ts.Pairwise (fun t u => t.offset < u.offset ∧ t.stop ≤ u.offset) ∧
      (∀ t ∈ ts, ∃ before behind : Text, raw = before ++ (t.token.written ++ behind) ∧ t.offset = before.utf8Size) ∧
      ∀ (before : Text) (c : Char) (behind : Text), raw = before ++ c :: behind → Unicode.isBlank c = false →
        ∃ t ∈ ts, t.Covers before.utf8Size ∧ ∀ u ∈ ts, u.Covers before.utf8Size → u = t := by
  refine ⟨fun a => tokens_eq_ok_iff.2 a.lays, ?_⟩
  intro raw ts hTokens
  have hLays := tokens_eq_ok_iff.1 hTokens
  obtain ⟨a, rfl, rfl⟩ := hLays.exists_arrangement
  have hPairwise := pairwise_locate a.placed 0
  refine ⟨⟨a, rfl, rfl⟩, ?_, ?_, ?_⟩
  · refine hPairwise.imp_of_mem fun {t u} ht _ hStop => ⟨?_, hStop⟩
    have hSize := utf8Size_written_pos (hLays.canStand t.token (List.mem_map_of_mem ht))
    unfold Located.stop at hStop
    omega
  · intro t ht
    obtain ⟨before, behind, hText, hOffset⟩ := exists_written_of_mem_locate a.final ht
    exact ⟨before, behind, hText, by omega⟩
  · intro before c behind hText hc
    obtain ⟨t, ht, hCovers⟩ := exists_covers a.final_blank a.gaps_blank hText hc 0
    rw [Nat.zero_add] at hCovers
    exact ⟨t, ht, hCovers, fun u hu hu' => covers_unique hPairwise hu ht hu' hCovers⟩

/-- A phrase between two words, with no white space around it and a letter of two bytes in front of it. -/
theorem tokens_inverts_arrangement_at_phrase :
    tokens " göod\"a (\"x".toList = .ok [⟨.word "göod".toList, 1⟩, ⟨.phrase "a (".toList, 6⟩, ⟨.word ['x'], 11⟩] ∧
      (∃ a : Arrangement, a.text = " göod\"a (\"x".toList ∧
        a.located = [⟨.word "göod".toList, 1⟩, ⟨.phrase "a (".toList, 6⟩, ⟨.word ['x'], 11⟩]) ∧
      ∃ t ∈ [⟨.word "göod".toList, 1⟩, ⟨.phrase "a (".toList, 6⟩, ⟨.word ['x'], 11⟩], Located.Covers t 9 := by
  have hTokens : tokens " göod\"a (\"x".toList =
      .ok [⟨.word "göod".toList, 1⟩, ⟨.phrase "a (".toList, 6⟩, ⟨.word ['x'], 11⟩] := rfl
  obtain ⟨hArrangement, -, -, hCovered⟩ := tokens_inverts_arrangement.2 _ _ hTokens
  obtain ⟨t, ht, hCovers, -⟩ := hCovered " göod\"a ".toList '(' "\"x".toList rfl (by decide)
  exact ⟨hTokens, hArrangement, t, ht, hCovers⟩

end Lexer

end TextQuery
