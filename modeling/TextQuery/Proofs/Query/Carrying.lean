import TextQuery.Proofs.Query.Layout

/-!
# The tokens that a text carries

Layouts can be put one behind the other where no word of the first runs into the second (`Lays.append`), and they do
not depend on where the text begins (`Lays.moved`).  A text carries tokens when it lays them out wherever it begins:
so the tokens of a text are put together from those of its parts.
-/

namespace TextQuery.Lexer

/-! ### Layouts one behind the other -/

/-- A text can be put behind a layout when no word runs into it. -/
theorem Lays.append {offset : Nat} {t u : Text} {ts us : List Located} (ht : Lays offset t ts) (hEnd : EndsWord u)
    (hu : Lays (offset + t.utf8Size) u us) : Lays offset (t ++ u) (ts ++ us) := by
  induction ht with
  | done => exact hu
  | blank hc _ ih =>
    rw [Text.utf8Size_cons, ← Nat.add_assoc] at hu
    exact .blank hc (ih hu)
  | openParen _ ih =>
    rw [Text.utf8Size_cons, ← Nat.add_assoc] at hu
    exact .openParen (ih hu)
  | closeParen _ ih =>
    rw [Text.utf8Size_cons, ← Nat.add_assoc] at hu
    exact .closeParen (ih hu)
  | @phrase offset p t ts hp _ ih =>
    simp only [Text.utf8Size_cons, Text.utf8Size_append, ← Nat.add_assoc] at hu
    rw [List.cons_append, List.append_assoc]
    exact .phrase hp (ih hu)
  | @word offset w t ts hw hEndW _ ih =>
    rw [Text.utf8Size_append, ← Nat.add_assoc] at hu
    rw [List.append_assoc]
    -- where the word is all that is left of the first text, it ends in front of the second
    exact .word hw (hEndW.append hEnd) (ih hu)

/-- Beginning elsewhere, a text lays out the same tokens. -/
theorem Lays.moved {offset : Nat} {t : Text} {ts : List Located} (h : Lays offset t ts) (offset' : Nat) :
    ∃ ts', Lays offset' t ts' ∧ ts'.map Located.token = ts.map Located.token := by
  induction h generalizing offset' with
  | done => exact ⟨[], .done, rfl⟩
  | blank hc _ ih =>
    obtain ⟨ts', h', hSame⟩ := ih _
    exact ⟨ts', .blank hc h', hSame⟩
  | openParen _ ih =>
    obtain ⟨ts', h', hSame⟩ := ih _
    exact ⟨_, .openParen h', congrArg (Token.openParen :: ·) hSame⟩
  | closeParen _ ih =>
    obtain ⟨ts', h', hSame⟩ := ih _
    exact ⟨_, .closeParen h', congrArg (Token.closeParen :: ·) hSame⟩
  | @phrase _ p _ _ hp _ ih =>
    obtain ⟨ts', h', hSame⟩ := ih _
    exact ⟨_, .phrase hp h', congrArg (Token.phrase p :: ·) hSame⟩
  | @word _ w _ _ hw hEnd _ ih =>
    obtain ⟨ts', h', hSame⟩ := ih _
    exact ⟨_, .word hw hEnd h', congrArg (Token.word w :: ·) hSame⟩

/-! ### The tokens of a layout -/

/-- The tokens that a text can lay out. -/
def CanStand : Token → Prop
  | .word w => IsWord w
  | .phrase p => '"' ∉ p
  | _ => True

theorem Lays.canStand {offset : Nat} {t : Text} {ts : List Located} (h : Lays offset t ts) :
    ∀ token ∈ ts.map Located.token, CanStand token := by
  induction h with
  | done =>
    intro token hMem
    cases hMem
  | blank _ _ ih => exact ih
  | openParen _ ih => exact List.forall_mem_cons.2 ⟨trivial, ih⟩
  | closeParen _ ih => exact List.forall_mem_cons.2 ⟨trivial, ih⟩
  | phrase hp _ ih => exact List.forall_mem_cons.2 ⟨hp, ih⟩
  | word hw _ _ ih => exact List.forall_mem_cons.2 ⟨hw, ih⟩

/-- A blank text lays out nothing. -/
theorem Lays.eq_nil_of_isBlank {offset : Nat} {t : Text} {ts : List Located} (h : Lays offset t ts)
    (hBlank : t.isBlank = true) : ts = [] := by
  induction h with
  | done => rfl
  | blank _ _ ih =>
    rw [Text.isBlank, List.all_cons, Bool.and_eq_true] at hBlank
    exact ih hBlank.2
  | @word _ w t _ hw =>
    obtain ⟨c, w, rfl⟩ := List.exists_cons_of_ne_nil hw.1
    rw [Text.isBlank, List.cons_append, List.all_cons, Bool.and_eq_true] at hBlank
    have hLetter := hw.2 c List.mem_cons_self
    rw [breaksWord_of_isBlank hBlank.1] at hLetter
    cases hLetter
  | _ => cases hBlank

/-! ### Texts and the tokens they carry -/

/-- Whether a text is a layout of the tokens, wherever it begins. -/
def Carries (t : Text) (ts : List Token) : Prop :=
  ∀ offset, ∃ laid, Lays offset t laid ∧ laid.map Located.token = ts

theorem Lays.carries {offset : Nat} {t : Text} {ts : List Located} (h : Lays offset t ts) :
    Carries t (ts.map Located.token) := h.moved

theorem Carries.blank {c : Char} {t : Text} {ts : List Token} (hc : Unicode.isBlank c = true) (h : Carries t ts) :
    Carries (c :: t) ts := by
  intro offset
  obtain ⟨laid, hLaid, hSame⟩ := h (offset + c.utf8Size)
  exact ⟨laid, .blank hc hLaid, hSame⟩

theorem carries_closeParen : Carries [')'] [.closeParen] := fun _ => ⟨_, .closeParen .done, rfl⟩

theorem carries_phrase {p : Text} (hp : '"' ∉ p) : Carries ('"' :: (p ++ ['"'])) [.phrase p] :=
  fun _ => ⟨_, .phrase hp .done, rfl⟩

theorem carries_word {w : Text} (hw : IsWord w) : Carries w [.word w] := by
  intro offset
  have h : Lays offset (w ++ []) [⟨.word w, offset⟩] := .word hw endsWord_nil .done
  rw [List.append_nil] at h
  exact ⟨_, h, rfl⟩

/-- The tokens of two texts one behind the other, when no word of the first runs into the second. -/
theorem Carries.append {t u : Text} {ts us : List Token} (ht : Carries t ts) (hEnd : EndsWord u)
    (hu : Carries u us) : Carries (t ++ u) (ts ++ us) := by
  intro offset
  obtain ⟨laid, hLaid, rfl⟩ := ht offset
  obtain ⟨laid', hLaid', rfl⟩ := hu (offset + t.utf8Size)
  exact ⟨laid ++ laid', hLaid.append hEnd hLaid', List.map_append⟩

/-- A text in parentheses. -/
theorem Carries.enclosed {t : Text} {ts : List Token} (h : Carries t ts) :
    Carries ('(' :: (t ++ [')'])) (.openParen :: (ts ++ [.closeParen])) := by
  intro offset
  have hClose : EndsWord [')'] := endsWord_cons.2 (by decide)
  obtain ⟨laid, hLaid, hSame⟩ := h.append hClose carries_closeParen (offset + 1)
  exact ⟨_, .openParen hLaid, congrArg (Token.openParen :: ·) hSame⟩

/-! ### Operators in front of texts and between them -/

/-- The characters that end words are the same in small letters. -/
private theorem toLower_of_breaksWord {c : Char} (hc : breaksWord c = true) : c.toLower = c := by
  have hCode : ¬(65 ≤ c.toNat ∧ c.toNat ≤ 90) := by
    intro hCapital
    simp only [breaksWord, Bool.or_eq_true, beq_iff_eq] at hc
    rcases hc with ((hBlank | rfl) | rfl) | rfl
    · obtain ⟨r, hr, hFirst, hLast⟩ := Unicode.exists_mem_of_inRanges hBlank
      have hOutside : ∀ r ∈ Unicode.blankRanges, r.2 < 65 ∨ 90 < r.1 := by decide
      have hr := hOutside r hr
      omega
    all_goals exact absurd hCapital (by decide)
  unfold Char.toLower
  rw [dif_neg]
  simpa [UInt32.le_iff_toNat_le] using hCode

/-- A keyword is a word, in whatever letters it is spelled. -/
theorem isWord_of_spells {k : Keyword} {w : Text} (h : k.spells w = true) : IsWord w := by
  have hSame : k.spelling.map Char.toLower = w.map Char.toLower := beq_iff_eq.1 h
  refine ⟨?_, ?_⟩
  · rintro rfl
    cases k <;> cases hSame
  · intro c hc
    have hMem : c.toLower ∈ k.spelling.map Char.toLower := hSame ▸ List.mem_map_of_mem hc
    have hLetters : (k.spelling.map Char.toLower).any breaksWord = false := by cases k <;> rfl
    rw [Bool.eq_false_iff]
    intro hBreaks
    rw [toLower_of_breaksWord hBreaks] at hMem
    exact List.any_eq_false.1 hLetters c hMem hBreaks

/-- A word, with a space between it and the text behind it. -/
theorem Carries.behind {w : Text} (hw : IsWord w) {t : Text} {ts : List Token} (h : Carries t ts) :
    Carries (w ++ ' ' :: t) (.word w :: ts) :=
  (carries_word hw).append (endsWord_cons.2 (by decide)) (h.blank (by decide))

/-- Two texts with a word between them. -/
theorem Carries.joined {w : Text} (hw : IsWord w) {t u : Text} {ts us : List Token} (ht : Carries t ts)
    (hu : Carries u us) : Carries (t ++ ' ' :: (w ++ ' ' :: u)) (ts ++ .word w :: us) :=
  ht.append (endsWord_cons.2 (by decide)) ((hu.behind hw).blank (by decide))

end TextQuery.Lexer
