import TextQuery.Text.Basic

/-!
# Lines

A line ends before a line feed.  A carriage return in front of the line feed belongs to the line end, one elsewhere to
the line.  What follows the last line feed is a line too, unless it is empty.
-/

namespace TextQuery.Text

/-- Puts one character in front of lines that are already cut: a line feed ends a new, empty first line; any other
character goes to the first line that is ended, or to the rest when none is. -/
private def pushFront (c : Char) : List Text × Text → List Text × Text
  | (ended, rest) =>
    if c = '\n' then ([] :: ended, rest)
    else match ended with
      | [] => ([], c :: rest)
      | line :: more => ((c :: line) :: more, rest)

/-- The lines of a text that are ended by a line feed, without it, and what follows the last of them. -/
def cutLines (t : Text) : List Text × Text := t.foldr pushFront ([], [])

private theorem pushFront_joined (c : Char) (ended : List Text) (rest : Text) :
    (pushFront c (ended, rest)).1.flatMap (· ++ ['\n']) ++ (pushFront c (ended, rest)).2 =
      c :: (ended.flatMap (· ++ ['\n']) ++ rest) := by
  by_cases hc : c = '\n'
  · simp [pushFront, hc]
  · cases ended <;> simp [pushFront, hc]

/-- Nothing is lost where a text is cut. -/
theorem cutLines_joined (t : Text) : (cutLines t).1.flatMap (· ++ ['\n']) ++ (cutLines t).2 = t := by
  induction t with
  | nil => rfl
  | cons c t ih =>
    have hStep : cutLines (c :: t) = pushFront c (cutLines t) := rfl
    rw [hStep, pushFront_joined, ih]

private theorem pushFront_feedless {c : Char} {ended : List Text} {rest : Text} (hEnded : ∀ line ∈ ended, '\n' ∉ line)
    (hRest : '\n' ∉ rest) :
    (∀ line ∈ (pushFront c (ended, rest)).1, '\n' ∉ line) ∧ '\n' ∉ (pushFront c (ended, rest)).2 := by
  by_cases hc : c = '\n'
  · simpa [pushFront, hc, hRest] using hEnded
  · cases ended with
    | nil => simp [pushFront, hc, hRest, Ne.symm hc]
    | cons line more =>
      have hLine := hEnded line List.mem_cons_self
      have hMore : ∀ line ∈ more, '\n' ∉ line := fun l hl => hEnded l (List.mem_cons_of_mem line hl)
      simpa [pushFront, hc, hRest, Ne.symm hc, hLine] using hMore

/-- A text is cut at every line feed. -/
theorem cutLines_feedless (t : Text) : (∀ line ∈ (cutLines t).1, '\n' ∉ line) ∧ '\n' ∉ (cutLines t).2 := by
  induction t with
  | nil => exact ⟨nofun, nofun⟩
  | cons c t ih => exact pushFront_feedless ih.1 ih.2

/-- A line without the carriage return of its line end. -/
def dropReturn (line : Text) : Text := if line.getLast? = some '\r' then line.dropLast else line

/-- The lines of a text. -/
def lines (t : Text) : List Text :=
  let (ended, rest) := cutLines t
  ended.map dropReturn ++ if rest.isEmpty then [] else [rest]

/-- Every line of a text moved to the right by `margin`, without a final line feed. -/
def indentLines (t margin : Text) : Text := List.intercalate ['\n'] (t.lines.map (margin ++ ·))

end TextQuery.Text
