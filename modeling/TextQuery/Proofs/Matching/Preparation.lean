import TextQuery.Matching.Options
import TextQuery.Proofs.Text.Accents
import TextQuery.Proofs.Text.SmallLetters

/-!
# Preparing texts

Letter case is ignored behind everything else (`prepare_ignoringCase`).  White space keeps what is in front of it from
what is behind it, whatever the options are (`prepare_around`, `prepare_apart`), and line feeds and carriage returns
come only from themselves.
-/

namespace TextQuery

namespace Options

/-- The options with letter case told apart. -/
def heedingCase (o : Options) : Options := { o with ignoreCase := false }

/-- The options with letter case ignored. -/
def ignoringCase (o : Options) : Options := { o with ignoreCase := true }

/-- Letter case is ignored by taking the small letters of what is compared otherwise. -/
theorem prepare_ignoringCase (o : Options) (t : Text) :
    o.ignoringCase.prepare t = Text.withoutCase (o.heedingCase.prepare t) := rfl

theorem heeds_or_ignores_case (o : Options) : o = o.heedingCase ∨ o = o.ignoringCase := by
  obtain ⟨ignoreCase, ignoreAccents, wholeWords⟩ := o
  cases ignoreCase with
  | false => exact .inl rfl
  | true => exact .inr rfl

@[simp] theorem prepare_nil (o : Options) : o.prepare [] = [] := by
  obtain ⟨ignoreCase, ignoreAccents, wholeWords⟩ := o
  cases ignoreCase <;> cases ignoreAccents <;> rfl

/-- Apart from letter case, a text is prepared character by character. -/
theorem heedingCase_prepare_append (o : Options) (t u : Text) :
    o.heedingCase.prepare (t ++ u) = o.heedingCase.prepare t ++ o.heedingCase.prepare u := by
  unfold heedingCase prepare
  cases o.ignoreAccents with
  | false => rfl
  | true =>
    show Text.withoutAccents (t ++ u) = Text.withoutAccents t ++ Text.withoutAccents u
    rw [Text.withoutAccents_eq, Text.withoutAccents_eq, Text.withoutAccents_eq, List.flatMap_append]

private theorem heedingCase_prepare_blank (o : Options) {w : Char} (hw : Unicode.isBlank w = true) :
    ∃ d, Unicode.isBlank d = true ∧ o.heedingCase.prepare [w] = [d] := by
  unfold heedingCase prepare
  cases o.ignoreAccents with
  | false => exact ⟨w, hw, rfl⟩
  | true =>
    obtain ⟨d, hBase, hd⟩ := Text.base_of_isBlank hw
    refine ⟨d, hd, ?_⟩
    show Text.withoutAccents [w] = [d]
    rw [Text.withoutAccents_eq, List.flatMap_singleton, hBase]

/-- White space becomes white space, and the texts around it are prepared as if they stood alone. -/
theorem prepare_around (o : Options) {w : Char} (hw : Unicode.isBlank w = true) :
    ∃ d, Unicode.isBlank d = true ∧ ∀ a b, o.prepare (a ++ w :: b) = o.prepare a ++ d :: o.prepare b := by
  obtain ⟨d, hd, hAlone⟩ := o.heedingCase_prepare_blank hw
  have hAround : ∀ a b, o.heedingCase.prepare (a ++ w :: b) =
      o.heedingCase.prepare a ++ d :: o.heedingCase.prepare b := by
    intro a b
    rw [heedingCase_prepare_append, ← List.singleton_append, heedingCase_prepare_append, hAlone]
    rfl
  refine ⟨d, hd, fun a b => ?_⟩
  rcases o.heeds_or_ignores_case with hCase | hCase
  · rw [hCase]
    exact hAround a b
  · obtain ⟨-, -, hLetter, hCased, hIgnorable⟩ := Unicode.blank_properties hd
    rw [hCase]
    simp only [prepare_ignoringCase, Text.withoutCase_eq]
    rw [hAround, Text.smallPart_around hCased hIgnorable, Unicode.toLower_of_not_alphanumeric hLetter]
    rfl

/-- A control character comes only from itself. -/
theorem mem_of_mem_prepare {o : Options} {t : Text} {d : Char} (h : d ∈ o.prepare t) (hd : d.toNat < 32) : d ∈ t := by
  have hHeeding : ∀ u, d ∈ o.heedingCase.prepare u → d ∈ u := by
    intro u hu
    unfold heedingCase prepare at hu
    cases hAccents : o.ignoreAccents with
    | false => simpa [hAccents] using hu
    | true =>
      have hBare : d ∈ u.flatMap Text.base := by simpa [hAccents, Text.withoutAccents_eq] using hu
      obtain ⟨c, hc, hBase⟩ := List.mem_flatMap.1 hBare
      exact Text.eq_of_mem_base hBase hd ▸ hc
  rcases o.heeds_or_ignores_case with hCase | hCase
  · rw [hCase] at h
    exact hHeeding t h
  · rw [hCase, prepare_ignoringCase, Text.withoutCase_eq] at h
    exact hHeeding t (Text.mem_of_mem_smallPart h hd)

/-- A line feed or a carriage return stays what it is, and the texts around it are prepared as if they stood alone. -/
theorem prepare_around_lineEnd (o : Options) {w : Char} (hw : w = '\n' ∨ w = '\r') (a b : Text) :
    o.prepare (a ++ w :: b) = o.prepare a ++ w :: o.prepare b := by
  have hBlank : Unicode.isBlank w = true := by rcases hw with rfl | rfl <;> rfl
  have hAlone : o.prepare [w] = [w] := by
    obtain ⟨ignoreCase, ignoreAccents, wholeWords⟩ := o
    rcases hw with rfl | rfl <;> cases ignoreCase <;> cases ignoreAccents <;> rfl
  obtain ⟨d, -, hAround⟩ := o.prepare_around hBlank
  have hSame := hAround [] []
  rw [List.nil_append, hAlone, prepare_nil] at hSame
  obtain rfl := (List.cons.inj hSame).1
  exact hAround a b

/-- White space is prepared for itself, to one character that is white space again.  So are the text in front of it and
the text behind it, whatever they are. -/
theorem prepare_apart (o : Options) {w : Char} (hw : Unicode.isBlank w = true) (a b : Text) :
    o.prepare (a ++ [w] ++ b) = o.prepare a ++ o.prepare [w] ++ o.prepare b ∧
      ∃ d, o.prepare [w] = [d] ∧ Unicode.isBlank d = true := by
  obtain ⟨d, hd, hAround⟩ := o.prepare_around hw
  have hAlone : o.prepare [w] = [d] := by
    have h := hAround [] []
    rw [prepare_nil] at h
    exact h
  refine ⟨?_, d, hAlone, hd⟩
  calc o.prepare (a ++ [w] ++ b) = o.prepare (a ++ w :: b) := by rw [List.append_assoc, List.singleton_append]
    _ = o.prepare a ++ d :: o.prepare b := hAround a b
    _ = o.prepare a ++ o.prepare [w] ++ o.prepare b := by rw [hAlone, List.append_assoc, List.singleton_append]

/-- An em quad, which is decomposed to an em space, ends the word in front of it: the sigma is a final one. -/
theorem prepare_apart_at_em_quad :
    Unicode.isBlank '\u2001' = true ∧
      prepare {} ("ΑΣ".toList ++ ['\u2001'] ++ "Ά".toList) = "ας".toList ++ ['\u2003'] ++ "α".toList ∧
      ∃ d, prepare {} ['\u2001'] = [d] ∧ Unicode.isBlank d = true := by
  have hBlank : Unicode.isBlank '\u2001' = true := rfl
  have hApart := prepare_apart {} hBlank "ΑΣ".toList "Ά".toList
  have hFront : prepare {} "ΑΣ".toList = "ας".toList := by decide
  have hQuad : prepare {} ['\u2001'] = ['\u2003'] := by decide +kernel
  have hBehind : prepare {} "Ά".toList = "α".toList := by decide
  rw [hFront, hQuad, hBehind] at hApart
  refine ⟨hBlank, hApart.1, ?_⟩
  rw [hQuad]
  exact hApart.2

end Options

end TextQuery
