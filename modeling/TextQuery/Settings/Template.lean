import TextQuery.Text.Lines

/-!
# The settings template

A new settings file shows all settings with their defaults, as comments, so that it sets nothing.
-/

namespace TextQuery.Template

/-- All settings with their defaults. -/
def defaults : Text := "# sift configuration.
#
# sift reads every .sift.toml from the working directory up to the filesystem
# root, then ~/.sift.toml. Closer files win, field by field. Set `root = true`
# to stop the search at this file.

root = false

[matching]
# Compare without regard to letter case.
ignore_case = true
# Strip diacritics before comparing, so \"cafe\" finds \"café\".
ignore_accents = true
# Only accept terms that start and end on a word boundary.
whole_words = true
".toList

/-- A line as a comment.  An empty line and a comment stay as they are. -/
def commentLine (line : Text) : Text :=
  if line.isEmpty || line.head? == some '#' then line else "# ".toList ++ line

/-- A text with every line made a comment and ended by a line feed. -/
def commentOut (t : Text) : Text := t.lines.flatMap fun line => commentLine line ++ ['\n']

/-- What a new settings file holds. -/
def text : Text := commentOut defaults

end TextQuery.Template
