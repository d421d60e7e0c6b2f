import TextQuery.Proofs.Unicode.Tables
import TextQuery.Text.SmallLetters

/-!
# Small letters of a part of a text

The small letters of a text are put together from those of its parts (`smallPart_append`), where a part is seen with
what is known of the letters before it and with the text behind it.  Both matter for the capital sigma alone.  They do
not matter across a character that is neither cased nor passed over (`smallPart_around`), and not for a part that
settles its sigmas (`smallPart_of_settlesSigmas`).  Other parts have other small letters in some text
(`settlesSigmas_of_infix`).
-/

namespace TextQuery.Text

/-- The small letters of a part of a text.  `before` tells of the letters in front of it, `behind` is the text that
follows. -/
def smallPart (before : Bool) (behind : Text) : Text → Text
  | [] => []
  | c :: t => smallForm before c (t ++ behind) ++ smallPart (casedAfter before c) behind t

/-! ### The whole text is a part -/

private theorem smallLettersFrom_eq (before : Bool) (done t : Text) :
    smallLettersFrom before done t = done.reverse ++ smallPart before [] t := by
  induction t generalizing before done with
  | nil => simp [smallLettersFrom, smallPart]
  | cons c t ih =>
    rw [smallLettersFrom, ih, smallPart]
    simp

private theorem toNat_sigma : 'Σ'.toNat = 931 := rfl

private theorem isCased_sigma : Unicode.isCased 'Σ' = true := rfl

private theorem isCaseIgnorable_sigma : Unicode.isCaseIgnorable 'Σ' = false := rfl

theorem smallForm_of_ne_sigma {c : Char} (hc : c ≠ 'Σ') (before : Bool) (rest : Text) :
    smallForm before c rest = Unicode.toLower c := by
  rw [smallForm, if_neg hc]

private theorem smallPart_of_ascii {t : Text} (hAscii : t.isAscii = true) (hCapital : t.any isAsciiCapital = false)
    (before : Bool) : smallPart before [] t = t := by
  rw [isAscii, List.all_eq_true] at hAscii
  rw [List.any_eq_false] at hCapital
  induction t generalizing before with
  | nil => rfl
  | cons c t ih =>
    have hc : Nat.blt c.toNat 128 = true := hAscii c List.mem_cons_self
    rw [Nat.blt_eq] at hc
    have hSmall : ¬ (65 ≤ c.toNat ∧ c.toNat ≤ 90) := by
      have h := hCapital c List.mem_cons_self
      simpa [isAsciiCapital] using h
    have hSigma : c ≠ 'Σ' := by
      rintro rfl
      rw [toNat_sigma] at hc
      omega
    have hLower : Unicode.toLower c = [c] := (Unicode.ascii_properties hc).2.2.resolve_left hSmall
    have hRest := ih (fun d hd => hAscii d (List.mem_cons_of_mem c hd))
      (fun d hd => hCapital d (List.mem_cons_of_mem c hd)) (casedAfter before c)
    rw [smallPart, smallForm_of_ne_sigma hSigma, hLower, hRest]
    rfl

/-- The small letters of a whole text, by the short way for ASCII texts too. -/
theorem withoutCase_eq (t : Text) : t.withoutCase = smallPart false [] t := by
  unfold withoutCase smallLetters?
  split
  · rename_i hShort
    rw [Bool.and_eq_true, Bool.not_eq_true'] at hShort
    exact (smallPart_of_ascii hShort.1 hShort.2 false).symm
  · rw [smallLetters, smallLettersFrom_eq]
    rfl

/-! ### Parts one behind the other -/

theorem smallPart_append (before : Bool) (behind t u : Text) :
    smallPart before behind (t ++ u) =
      smallPart before (u ++ behind) t ++ smallPart (t.foldl casedAfter before) behind u := by
  induction t generalizing before with
  | nil => rfl
  | cons c t ih => simp [smallPart, ih]

private theorem beginsCased_append_congr {behind behind' : Text} (h : beginsCased behind = beginsCased behind')
    (t : Text) : beginsCased (t ++ behind) = beginsCased (t ++ behind') := by
  induction t with
  | nil => exact h
  | cons c t ih => simp only [List.cons_append, beginsCased, ih]

private theorem smallForm_congr {rest rest' : Text} (h : beginsCased rest = beginsCased rest') (before : Bool)
    (c : Char) : smallForm before c rest = smallForm before c rest' := by
  unfold smallForm
  rw [h]

/-- Of the text behind a part, nothing matters but whether it begins like a word. -/
theorem smallPart_congr {behind behind' : Text} (h : beginsCased behind = beginsCased behind') (before : Bool)
    (t : Text) : smallPart before behind t = smallPart before behind' t := by
  induction t generalizing before with
  | nil => rfl
  | cons c t ih =>
    rw [smallPart, smallPart, ih, smallForm_congr (beginsCased_append_congr h t)]

/-- A character that is neither cased nor passed over keeps what is in front of it from what is behind it. -/
theorem smallPart_around {w : Char} (hCased : Unicode.isCased w = false)
    (hIgnorable : Unicode.isCaseIgnorable w = false) (a b : Text) : smallPart false [] (a ++ w :: b) =
      smallPart false [] a ++ (Unicode.toLower w ++ smallPart false [] b) := by
  have hSigma : w ≠ 'Σ' := by
    rintro rfl
    rw [isCased_sigma] at hCased
    cases hCased
  have hBehind : beginsCased (w :: (b ++ [])) = beginsCased [] := by
    simp [beginsCased, hCased, hIgnorable]
  have hBefore : casedAfter (a.foldl casedAfter false) w = false := by
    simp [casedAfter, hCased, hIgnorable]
  rw [smallPart_append, List.cons_append, smallPart_congr hBehind, smallPart, smallForm_of_ne_sigma hSigma, hBefore]

/-! ### Characters of small letters -/

/-- Small letters come from the characters one by one, but for the final sigma. -/
theorem exists_of_mem_smallPart {before : Bool} {behind t : Text} {d : Char} (h : d ∈ smallPart before behind t) :
    ∃ c ∈ t, d ∈ Unicode.toLower c ∨ (c = 'Σ' ∧ d = 'ς') := by
  induction t generalizing before with
  | nil => cases h
  | cons c t ih =>
    rw [smallPart, List.mem_append] at h
    rcases h with h | h
    · refine ⟨c, List.mem_cons_self, ?_⟩
      by_cases hSigma : c = 'Σ'
      · subst hSigma
        rw [smallForm, if_pos rfl, List.mem_singleton] at h
        split at h
        · exact .inr ⟨rfl, h⟩
        · subst h
          exact .inl (by decide)
      · rw [smallForm_of_ne_sigma hSigma] at h
        exact .inl h
    · obtain ⟨c', hc', hFrom⟩ := ih h
      exact ⟨c', List.mem_cons_of_mem c hc', hFrom⟩

/-- A control character comes only from itself. -/
theorem mem_of_mem_smallPart {before : Bool} {behind t : Text} {d : Char} (h : d ∈ smallPart before behind t)
    (hd : d.toNat < 32) : d ∈ t := by
  obtain ⟨c, hc, hLower | ⟨-, rfl⟩⟩ := exists_of_mem_smallPart h
  · exact Unicode.eq_of_mem_toLower hLower hd ▸ hc
  · exact absurd hd (by decide)

/-- A character that is no letter and no number stays as it is. -/
theorem smallForm_of_not_alphanumeric {c : Char} (hc : Unicode.isAlphanumeric c = false) (before : Bool) (rest : Text) :
    smallForm before c rest = [c] := by
  have hSigma : c ≠ 'Σ' := by
    rintro rfl
    have hLetter : Unicode.isAlphanumeric 'Σ' = true := rfl
    rw [hLetter] at hc
    cases hc
  rw [smallForm_of_ne_sigma hSigma, Unicode.toLower_of_not_alphanumeric hc]

theorem smallForm_ne_nil (before : Bool) (c : Char) (rest : Text) : smallForm before c rest ≠ [] := by
  unfold smallForm Unicode.toLower
  split
  · exact List.cons_ne_nil _ _
  · split <;> exact List.cons_ne_nil _ _

theorem smallPart_ne_nil {t : Text} (ht : t ≠ []) (before : Bool) (behind : Text) : smallPart before behind t ≠ [] := by
  obtain ⟨c, t, rfl⟩ := List.exists_cons_of_ne_nil ht
  rw [smallPart]
  exact List.append_ne_nil_of_left_ne_nil (smallForm_ne_nil _ _ _) _

/-! ### Settled sigmas -/

/-- Whether the nearest character at the end of a text that is not passed over is cased, if there is one. -/
def casedAtEnd (t : Text) : Option Bool :=
  (t.reverse.find? fun c => !Unicode.isCaseIgnorable c).map Unicode.isCased

/-- Whether the nearest character at the beginning of a text that is not passed over is cased, if there is one. -/
def casedAtStart (t : Text) : Option Bool := (t.find? fun c => !Unicode.isCaseIgnorable c).map Unicode.isCased

/-- Whether a capital sigma between two texts is a final one, or none, whatever is around these.  It is none when a
cased letter follows, or an uncased character precedes; it is one between a cased letter and an uncased character. -/
def SettlesSigma (l r : Text) : Prop :=
  casedAtStart r = some true ∨ casedAtEnd l = some false ∨ (casedAtEnd l = some true ∧ casedAtStart r = some false)

instance (l r : Text) : Decidable (SettlesSigma l r) := inferInstanceAs (Decidable (_ ∨ _ ∨ _))

/-- Whether a text settles its capital sigmas by itself. -/
def SettlesSigmas (t : Text) : Prop := ∀ l r, t = l ++ 'Σ' :: r → SettlesSigma l r

instance (t : Text) : Decidable (SettlesSigmas t) :=
  decidable_of_iff (∀ i < t.length, t[i]? = some 'Σ' → SettlesSigma (t.take i) (t.drop (i + 1))) (by
    constructor
    · rintro h l r rfl
      have hPlace := h l.length (by simp) (by simp)
      simpa using hPlace
    · intro h i hi hSigma
      refine h (t.take i) (t.drop (i + 1)) ?_
      obtain ⟨hi, hSigma⟩ := List.getElem?_eq_some_iff.1 hSigma
      rw [← hSigma, List.getElem_cons_drop, List.take_append_drop])

theorem settlesSigmas_of_not_mem {t : Text} (h : 'Σ' ∉ t) : SettlesSigmas t := by
  rintro l r rfl
  exact absurd (List.mem_append_right l List.mem_cons_self) h

theorem beginsCased_append (t behind : Text) :
    beginsCased (t ++ behind) = (casedAtStart t).getD (beginsCased behind) := by
  induction t with
  | nil => rfl
  | cons c t ih =>
    unfold casedAtStart at ih ⊢
    by_cases hIgnorable : Unicode.isCaseIgnorable c = true
    · simp [beginsCased, hIgnorable, ih]
    · simp [beginsCased, hIgnorable]

theorem foldl_casedAfter (before : Bool) (t : Text) :
    t.foldl casedAfter before = (casedAtEnd t).getD before := by
  unfold casedAtEnd
  rw [List.foldl_eq_foldr_reverse]
  induction t.reverse with
  | nil => rfl
  | cons c m ih =>
    rw [List.foldr_cons, ih]
    by_cases hIgnorable : Unicode.isCaseIgnorable c = true
    · simp [casedAfter, hIgnorable]
    · simp [casedAfter, hIgnorable]

private theorem SettlesSigma.smallForm_eq {l r : Text} (h : SettlesSigma l r) (before : Bool) (behind : Text) :
    smallForm (l.foldl casedAfter before) 'Σ' (r ++ behind) = smallForm (l.foldl casedAfter false) 'Σ' (r ++ []) := by
  unfold smallForm
  rw [beginsCased_append, beginsCased_append, foldl_casedAfter, foldl_casedAfter]
  rcases h with h | h | ⟨hl, hr⟩
  · simp [h]
  · simp [h]
  · simp [hl, hr]

/-- A part that settles its sigmas has the same small letters in every text. -/
theorem smallPart_of_settlesSigmas {t : Text} (h : SettlesSigmas t) (before : Bool) (behind : Text) :
    smallPart before behind t = smallPart false [] t := by
  -- the part is read from left to right, `l` of it being done
  suffices hRest : ∀ l r, t = l ++ r →
      smallPart (l.foldl casedAfter before) behind r = smallPart (l.foldl casedAfter false) [] r from hRest [] t rfl
  intro l r
  induction r generalizing l with
  | nil =>
    intro _
    rfl
  | cons c r ih =>
    intro ht
    have hRest := ih (l ++ [c]) (by rw [ht, List.append_assoc, List.singleton_append])
    rw [List.foldl_concat, List.foldl_concat] at hRest
    have hForm : smallForm (l.foldl casedAfter before) c (r ++ behind) =
        smallForm (l.foldl casedAfter false) c (r ++ []) := by
      by_cases hSigma : c = 'Σ'
      · subst hSigma
        exact (h l r ht).smallForm_eq before behind
      · rw [smallForm_of_ne_sigma hSigma, smallForm_of_ne_sigma hSigma]
    rw [smallPart, smallPart, hForm, hRest]

/-- Such a part is found in the small letters of a text, between what comes of the other parts. -/
theorem withoutCase_around_settled {t : Text} (h : SettlesSigmas t) (a b : Text) :
    ∃ before behind, withoutCase (a ++ (t ++ b)) =
      smallPart false behind a ++ (withoutCase t ++ smallPart before [] b) := by
  refine ⟨t.foldl casedAfter (a.foldl casedAfter false), (t ++ b) ++ [], ?_⟩
  rw [withoutCase_eq, withoutCase_eq, smallPart_append, smallPart_append, smallPart_of_settlesSigmas h]

/-! ### Sigmas that are not settled -/

private theorem not_mem_of_casedAtStart {t : Text} (h : casedAtStart t = none) : 'Σ' ∉ t := by
  unfold casedAtStart at h
  rw [Option.map_eq_none_iff, List.find?_eq_none] at h
  intro hMem
  exact h 'Σ' hMem (by rw [isCaseIgnorable_sigma]; rfl)

private theorem not_mem_of_casedAtEnd {t : Text} (h : casedAtEnd t = none) : 'Σ' ∉ t := by
  rw [← List.mem_reverse]
  exact not_mem_of_casedAtStart h

private def sigmaForm (final : Bool) : Char := if final then 'ς' else 'σ'

/-- What is on the two sides of a capital sigma does not see each other, since the sigma is cased itself. -/
private theorem smallPart_around_sigma (before : Bool) (behind l r : Text) :
    smallPart before behind (l ++ 'Σ' :: r) =
      smallPart before ['Σ'] l ++
        sigmaForm ((casedAtEnd l).getD before && !(casedAtStart r).getD (beginsCased behind)) ::
          smallPart true behind r := by
  have hBehind : beginsCased ('Σ' :: r ++ behind) = beginsCased ['Σ'] := by
    simp [beginsCased, isCaseIgnorable_sigma]
  have hBefore : casedAfter (l.foldl casedAfter before) 'Σ' = true := by
    simp [casedAfter, isCaseIgnorable_sigma, isCased_sigma]
  rw [smallPart_append, smallPart_congr hBehind, smallPart, hBefore, smallForm, if_pos rfl, foldl_casedAfter,
    beginsCased_append]
  rfl

/-- A letter in front makes a final sigma of one that was none, so the text has fewer of these than the part alone. -/
private theorem not_infix_behind_letter {l r : Text} (hl : casedAtEnd l = none) (hr : casedAtStart r ≠ some true) :
    ¬ smallPart false [] (l ++ 'Σ' :: r) <:+: smallPart false [] (['a', '.'] ++ (l ++ 'Σ' :: r)) := by
  intro hInfix
  have hLeft : ∀ before, smallPart before ['Σ'] l = smallPart false [] l := fun before =>
    smallPart_of_settlesSigmas (settlesSigmas_of_not_mem (not_mem_of_casedAtEnd hl)) before ['Σ']
  have hNone : (casedAtStart r).getD (beginsCased []) = false := by
    cases h : casedAtStart r with
    | none => rfl
    | some cased =>
      cases cased with
      | false => rfl
      | true => exact absurd h hr
  have hFront : smallPart false [] (['a', '.'] ++ (l ++ 'Σ' :: r)) = 'a' :: '.' :: smallPart true [] (l ++ 'Σ' :: r) :=
    smallPart_append _ _ _ _
  have hCount := hInfix.sublist.count_le 'σ'
  rw [hFront, smallPart_around_sigma, smallPart_around_sigma, hLeft, hLeft, hl, hNone] at hCount
  change (smallPart false [] l ++ 'σ' :: smallPart true [] r).count 'σ' ≤
    ('a' :: '.' :: (smallPart false [] l ++ 'ς' :: smallPart true [] r)).count 'σ' at hCount
  simp only [List.count_append, List.count_cons_self, List.count_cons_of_ne, ne_eq, Char.reduceEq,
    not_false_eq_true] at hCount
  omega

/-- A letter behind a final sigma makes it one that is none, so the text has fewer final ones than the part alone. -/
private theorem not_infix_before_letter {l r : Text} (hl : casedAtEnd l = some true) (hr : casedAtStart r = none) :
    ¬ smallPart false [] (l ++ 'Σ' :: r) <:+: smallPart false [] ((l ++ 'Σ' :: r) ++ ['.', 'a']) := by
  intro hInfix
  have hRight : ∀ behind, smallPart true behind r = smallPart false [] r :=
    smallPart_of_settlesSigmas (settlesSigmas_of_not_mem (not_mem_of_casedAtStart hr)) true
  have hBegins : beginsCased ['.', 'a'] = true := rfl
  have hLetter : ∀ before, smallPart before [] ['.', 'a'] = ['.', 'a'] := fun before => by cases before <;> rfl
  have hBack : smallPart false [] ((l ++ 'Σ' :: r) ++ ['.', 'a']) =
      smallPart false ['.', 'a'] (l ++ 'Σ' :: r) ++ ['.', 'a'] := by
    rw [smallPart_append, hLetter, List.append_nil]
  have hCount := hInfix.sublist.count_le 'ς'
  rw [hBack, smallPart_around_sigma, smallPart_around_sigma, hRight, hRight, hl, hr, Option.getD_none,
    Option.getD_none, hBegins] at hCount
  change (smallPart false ['Σ'] l ++ 'ς' :: smallPart false [] r).count 'ς' ≤
    ((smallPart false ['Σ'] l ++ 'σ' :: smallPart false [] r) ++ ['.', 'a']).count 'ς' at hCount
  simp only [List.count_append, List.count_cons_self, List.count_cons_of_ne, List.count_nil, ne_eq, Char.reduceEq,
    not_false_eq_true] at hCount
  omega

/-- A text settles its sigmas when its small letters are found in those of every longer text.  A letter behind a full
stop is enough to tell, in front of the text or behind it. -/
theorem settlesSigmas_of_infix {t : Text}
    (hFront : smallPart false [] t <:+: smallPart false [] (['a', '.'] ++ t))
    (hBack : smallPart false [] t <:+: smallPart false [] (t ++ ['.', 'a'])) : SettlesSigmas t := by
  rintro l r rfl
  by_cases hr : casedAtStart r = some true
  · exact .inl hr
  · cases hl : casedAtEnd l with
    | none => exact absurd hFront (not_infix_behind_letter hl hr)
    | some cased =>
      cases cased with
      | false => exact .inr (.inl hl)
      | true =>
        cases hStart : casedAtStart r with
        | none => exact absurd hBack (not_infix_before_letter hl hStart)
        | some cased =>
          cases cased with
          | false => exact .inr (.inr ⟨hl, hStart⟩)
          | true => exact absurd hStart hr

end TextQuery.Text
