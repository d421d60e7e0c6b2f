import TextQuery.Text.Lines

/-!
# Styles of output

Pieces of output are set apart by terminal escape sequences, and blocks by a margin.
-/

namespace TextQuery.Style

/-- The escape sequence with the given parameter. -/
def sequence (parameter : Text) : Text := "\x1b[".toList ++ parameter ++ ['m']

/-- The sequence that ends all styles. -/
def reset : Text := sequence ['0']

/-- A piece of text in the styles with the given parameters. -/
def styled (parameters : List Text) (t : Text) : Text := parameters.flatMap sequence ++ t ++ reset

/-- A title, bold and cyan. -/
def title (t : Text) : Text := styled [['1'], ['3', '6']] t

/-- A heading below the title, bold. -/
def heading (t : Text) : Text := styled [['1']] t

/-- A side remark, dim. -/
def aside (t : Text) : Text := styled [['2']] t

/-- Good news, green. -/
def goodNews (t : Text) : Text := styled [['3', '2']] t

/-- A warning, yellow. -/
def alert (t : Text) : Text := styled [['3', '3']] t

/-- A block behind a margin of three columns, without a final line feed. -/
def block (t : Text) : Text := t.indentLines "   ".toList

/-- A line with its line feed. -/
def line (t : Text) : Text := t ++ ['\n']

end TextQuery.Style
