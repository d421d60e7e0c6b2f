import TextQuery.Proofs.Query.Acceptance
import TextQuery.Proofs.Text.Spelling
import TextQuery.Query.Basic

/-!
# Ignoring accents

A query that ignores accents accepts two texts alike when they are equal up to accents.  Letter case and word boundaries
come into play behind that, when the accents are gone.
-/

namespace TextQuery

open TextQuery.Parser

/-- Where accents are ignored, texts that are the same without them are prepared alike. -/
theorem Options.prepare_congr {o : Options} (hAccents : o.ignoreAccents = true) {t u : Text}
    (h : t.withoutAccents = u.withoutAccents) : o.prepare t = o.prepare u := by
  unfold prepare
  rw [hAccents, if_pos rfl, if_pos rfl, h]

/-- A query that ignores accents does not tell apart texts that are equal up to accents.  Marks may be put in or taken
out anywhere, at the edges of words too, and any spelling with the same canonical decomposition will do. -/
theorem accepts_congr_of_equalUpToAccents {q : Query} (hAccents : q.options.ignoreAccents = true) {t u : Text}
    (h : t.EqualUpToAccents u) : q.accepts t = q.accepts u := by
  have hBare : t.withoutAccents = u.withoutAccents := Text.equalUpToAccents_iff.1 h
  have hPrepared : q.options.prepare t = q.options.prepare u := Options.prepare_congr hAccents hBare
  unfold Query.accepts
  rw [hPrepared]

/-- One of the texts is an ASCII text.  In the other one a mark stands between the word and its boundary, or is part of
the last letter. -/
theorem accepts_congr_at_last_letter :
    ∃ q, Query.ofText "CAFÉ AND NOT thé".toList {} = .ok q ∧
      q.accepts "Un cafe.".toList = true ∧ q.accepts "Un cafe\u0301.".toList = true ∧
      q.accepts "Un café.".toList = true := by
  have hTokens : Lexer.tokens "CAFÉ AND NOT thé".toList =
      .ok [⟨.word "CAFÉ".toList, 0⟩, ⟨.word "AND".toList, 6⟩, ⟨.word "NOT".toList, 10⟩, ⟨.word "thé".toList, 14⟩] := rfl
  have hParse := parse_eq_of_formula hTokens
    (e := .and (.leaf (.words "CAFÉ".toList)) (.not (.leaf (.words "thé".toList)))) rfl
  have hMark : Text.EqualUpToAccents "Un cafe\u0301.".toList "Un cafe.".toList :=
    .mark "Un cafe".toList ".".toList (by decide)
  have hSpelling : Text.EqualUpToAccents "Un café.".toList "Un cafe\u0301.".toList := .spelling (by decide)
  obtain ⟨q, hQuery, hAccents, hAscii⟩ : ∃ q, Query.ofText "CAFÉ AND NOT thé".toList {} = .ok q ∧
      q.options.ignoreAccents = true ∧ q.accepts "Un cafe.".toList = true :=
    ⟨_, Query.ofText_of_parse hParse {}, rfl, by decide⟩
  refine ⟨q, hQuery, hAscii, ?_, ?_⟩
  · rw [accepts_congr_of_equalUpToAccents hAccents hMark]
    exact hAscii
  · rw [accepts_congr_of_equalUpToAccents hAccents (hSpelling.trans hMark)]
    exact hAscii

end TextQuery
