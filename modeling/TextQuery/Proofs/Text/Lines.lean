import Mathlib.Data.List.Basic
import TextQuery.Text.Lines

/-!
# A text and its lines

A text can be cut at its line feeds in one way only (`cut_unique`), so the lines of a text that is put together from lines
are these lines again (`lines_ended`).  They are still known when they stand behind a margin (`indentLines_inj`).

What a property of texts says of a text and of its lines.  If it is handed on from a part of a text to the whole
across line feeds and carriage returns, then a text has it when one of its lines does (`of_mem_lines`).  If it cannot
arise there either, this is the only way (`exists_mem_lines`).
-/

namespace TextQuery.Text

/-! ### Lines put together -/

/-- Where a character stands for the first time, a text splits in one way only. -/
theorem append_cons_inj {c : Char} {a b u v : Text} (ha : c ∉ a) (hb : c ∉ b) (h : a ++ c :: u = b ++ c :: v) :
    a = b ∧ u = v := by
  induction a generalizing b with
  | nil =>
    cases b with
    | nil => exact ⟨rfl, (List.cons.inj h).2⟩
    | cons d b =>
      obtain ⟨rfl, -⟩ := List.cons.inj h
      exact absurd List.mem_cons_self hb
  | cons d a ih =>
    cases b with
    | nil =>
      obtain ⟨rfl, -⟩ := List.cons.inj h
      exact absurd List.mem_cons_self ha
    | cons e b =>
      obtain ⟨rfl, hRest⟩ := List.cons.inj h
      rw [List.mem_cons, not_or] at ha hb
      obtain ⟨rfl, rfl⟩ := ih ha.2 hb.2 hRest
      exact ⟨rfl, rfl⟩

theorem feed_mem_flatMap {x : Text} (xs : List Text) (rest : Text) :
    '\n' ∈ (x :: xs).flatMap (· ++ ['\n']) ++ rest := by
  simp

theorem cut_unique {xs ys : List Text} {u v : Text} (hxs : ∀ x ∈ xs, '\n' ∉ x) (hys : ∀ y ∈ ys, '\n' ∉ y)
    (hu : '\n' ∉ u) (hv : '\n' ∉ v) (h : xs.flatMap (· ++ ['\n']) ++ u = ys.flatMap (· ++ ['\n']) ++ v) :
    xs = ys ∧ u = v := by
  induction xs generalizing ys with
  | nil =>
    cases ys with
    | nil => exact ⟨rfl, h⟩
    | cons y ys =>
      rw [List.flatMap_nil, List.nil_append] at h
      exact absurd (h ▸ feed_mem_flatMap ys v) hu
  | cons x xs ih =>
    cases ys with
    | nil =>
      rw [List.flatMap_nil, List.nil_append] at h
      exact absurd (h ▸ feed_mem_flatMap xs u) hv
    | cons y ys =>
      rw [List.forall_mem_cons] at hxs hys
      simp only [List.flatMap_cons, List.append_assoc, List.singleton_append] at h
      obtain ⟨rfl, hRest⟩ := append_cons_inj hxs.1 hys.1 h
      obtain ⟨rfl, rfl⟩ := ih hxs.2 hys.2 (by simpa using hRest)
      exact ⟨rfl, rfl⟩

/-- Lines without line feeds and carriage returns, each of them ended, are the lines of the text that they make. -/
theorem lines_ended {xs : List Text} (hFeed : ∀ x ∈ xs, '\n' ∉ x) (hReturn : ∀ x ∈ xs, '\r' ∉ x) :
    lines (xs.flatMap (· ++ ['\n'])) = xs := by
  obtain ⟨hEnded, hRest⟩ := cutLines_feedless (xs.flatMap (· ++ ['\n']))
  have hJoined := cutLines_joined (xs.flatMap (· ++ ['\n']))
  unfold lines
  generalize cutLines (xs.flatMap (· ++ ['\n'])) = cut at hEnded hRest hJoined
  obtain ⟨ended, rest⟩ := cut
  rw [← List.append_nil (xs.flatMap _)] at hJoined
  obtain ⟨rfl, rfl⟩ := cut_unique hEnded hFeed hRest List.not_mem_nil hJoined
  have hKept : ∀ x ∈ ended, dropReturn x = id x := by
    intro x hx
    have hLast : x.getLast? ≠ some '\r' := fun hLast => hReturn x hx (List.mem_of_getLast? hLast)
    rw [dropReturn, if_neg hLast, id]
  simp [List.map_congr_left hKept]

theorem dropReturn_cases (line : Text) : line = dropReturn line ∨ line = dropReturn line ++ ['\r'] := by
  unfold dropReturn
  split
  · rename_i hLast
    obtain ⟨start, rfl⟩ := List.getLast?_eq_some_iff.1 hLast
    rw [List.dropLast_concat]
    exact .inr rfl
  · exact .inl rfl

/-- No line feed is left in a line. -/
theorem feed_not_mem_of_mem_lines {t line : Text} (hLine : line ∈ t.lines) : '\n' ∉ line := by
  obtain ⟨hEnded, hRest⟩ := cutLines_feedless t
  unfold lines at hLine
  rcases List.mem_append.1 hLine with hLine | hLine
  · obtain ⟨whole, hWhole, rfl⟩ := List.mem_map.1 hLine
    intro hFeed
    rcases dropReturn_cases whole with hSame | hSame
    · exact hEnded whole hWhole (hSame ▸ hFeed)
    · exact hEnded whole hWhole (hSame ▸ List.mem_append_left _ hFeed)
  · split at hLine
    · cases hLine
    · rw [List.mem_singleton.1 hLine]
      exact hRest

/-- Where a line of a text stands.  A carriage return at its end is not followed by a line feed, as it would belong to the
line end. -/
theorem exists_append_of_mem_lines {t line : Text} (hLine : line ∈ t.lines) :
    ∃ front back, t = front ++ line ++ back ∧ (line.getLast? = some '\r' → back.head? ≠ some '\n') := by
  have hJoined := cutLines_joined t
  unfold lines at hLine
  generalize cutLines t = cut at hLine hJoined
  obtain ⟨ended, rest⟩ := cut
  rcases List.mem_append.1 hLine with hLine | hLine
  · obtain ⟨whole, hWhole, rfl⟩ := List.mem_map.1 hLine
    obtain ⟨before, behind, rfl⟩ := List.append_of_mem hWhole
    have hText : t = before.flatMap (· ++ ['\n']) ++ whole ++ '\n' :: (behind.flatMap (· ++ ['\n']) ++ rest) := by
      simp [← hJoined]
    by_cases hReturn : whole.getLast? = some '\r'
    · obtain ⟨start, rfl⟩ := List.getLast?_eq_some_iff.1 hReturn
      rw [dropReturn, if_pos hReturn, List.dropLast_concat]
      refine ⟨before.flatMap (· ++ ['\n']), '\r' :: '\n' :: (behind.flatMap (· ++ ['\n']) ++ rest), ?_, fun _ => nofun⟩
      simp [hText]
    · rw [dropReturn, if_neg hReturn]
      exact ⟨_, _, hText, fun hLast => absurd hLast hReturn⟩
  · split at hLine
    · cases hLine
    · rw [List.mem_singleton.1 hLine]
      exact ⟨ended.flatMap (· ++ ['\n']), [], by simp [← hJoined], fun _ => nofun⟩

theorem intercalate_concat {xs : List Text} (h : xs ≠ []) :
    List.intercalate ['\n'] xs ++ ['\n'] = xs.flatMap (· ++ ['\n']) := by
  induction xs with
  | nil => exact absurd rfl h
  | cons x xs ih =>
    cases xs with
    | nil => simp
    | cons y xs =>
      rw [List.intercalate_cons_cons, List.append_assoc, ih (List.cons_ne_nil y xs)]
      simp

theorem indentLines_inj {t u margin : Text} (hMargin : '\n' ∉ margin) (ht : t.lines ≠ []) (hu : u.lines ≠ [])
    (h : t.indentLines margin = u.indentLines margin) : t.lines = u.lines := by
  have hFeedless (v : Text) : ∀ line ∈ v.lines.map (margin ++ ·), '\n' ∉ line := by
    rw [List.forall_mem_map]
    intro line hLine hFeed
    rcases List.mem_append.1 hFeed with hFeed | hFeed
    · exact hMargin hFeed
    · exact feed_not_mem_of_mem_lines hLine hFeed
  have hEnded : (t.lines.map (margin ++ ·)).flatMap (· ++ ['\n']) ++ [] =
      (u.lines.map (margin ++ ·)).flatMap (· ++ ['\n']) ++ [] := by
    rw [← intercalate_concat (by simpa using ht), ← intercalate_concat (by simpa using hu)]
    exact congrArg (· ++ ['\n'] ++ []) h
  obtain ⟨hMap, -⟩ := cut_unique (hFeedless t) (hFeedless u) List.not_mem_nil List.not_mem_nil hEnded
  exact List.map_injective_iff.2 (fun _ _ => List.append_cancel_left) hMap

/-! ### Properties of a text and of its lines -/

variable {P : Text → Prop}

/-- A property that line ends hand on holds of a text when it holds of one of its lines. -/
theorem of_mem_lines (hFeed : ∀ a b, P a ∨ P b → P (a ++ '\n' :: b)) (hReturn : ∀ a, P a → P (a ++ ['\r']))
    {t line : Text} (hLine : line ∈ t.lines) (h : P line) : P t := by
  rw [← cutLines_joined t]
  unfold lines at hLine
  generalize cutLines t = cut at hLine
  obtain ⟨ended, rest⟩ := cut
  induction ended with
  | nil =>
    cases rest with
    | nil => cases hLine
    | cons c rest =>
      obtain rfl := List.mem_singleton.1 hLine
      exact h
  | cons first more ih =>
    rw [List.flatMap_cons, List.append_assoc, List.append_assoc]
    rcases List.mem_cons.1 hLine with rfl | hLine
    · have hFirst : P first := by
        rcases dropReturn_cases first with hSame | hSame
        · exact hSame ▸ h
        · exact hSame ▸ hReturn _ h
      exact hFeed first _ (.inl hFirst)
    · exact hFeed first _ (.inr (ih hLine))

/-- A property that does not arise at line ends holds of a text only when it holds of one of its lines. -/
theorem exists_mem_lines (hFeed : ∀ a b, P (a ++ '\n' :: b) → P a ∨ P b) (hReturn : ∀ a, P (a ++ ['\r']) → P a)
    (hNil : ¬ P []) {t : Text} (h : P t) : ∃ line ∈ t.lines, P line := by
  rw [← cutLines_joined t] at h
  unfold lines
  generalize cutLines t = cut at h
  obtain ⟨ended, rest⟩ := cut
  induction ended with
  | nil =>
    cases rest with
    | nil => exact absurd h hNil
    | cons c rest => exact ⟨c :: rest, List.mem_singleton_self _, h⟩
  | cons first more ih =>
    rw [List.flatMap_cons, List.append_assoc, List.append_assoc] at h
    rcases hFeed first _ h with hFirst | hMore
    · refine ⟨dropReturn first, List.mem_cons_self, ?_⟩
      rcases dropReturn_cases first with hSame | hSame
      · exact hSame ▸ hFirst
      · exact hReturn _ (hSame ▸ hFirst)
    · obtain ⟨line, hLine, hMore⟩ := ih hMore
      exact ⟨line, List.mem_cons_of_mem _ hLine, hMore⟩

end TextQuery.Text
