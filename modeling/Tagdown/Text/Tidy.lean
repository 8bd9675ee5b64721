import Tagdown.Text.Character

/-!
# The text before and after a conversion

Before: `escapeListMarkers` keeps a number with a full stop at the start of a sentence from
being read as a list marker.

After: `tidy` gives Markdown its final form. No white space ends it, no blank line has
anything in it, and no two blank lines stand next to each other.
-/

namespace Tagdown.Text

/-- Escape every full stop between a digit and a space; `afterDigit` tells whether the
character before the text is a digit. -/
def escapeMarkersFrom (afterDigit : Bool) : List Char → List Char
  | [] => []
  | c :: rest =>
    let escape := c == '.' && afterDigit && rest.head? == some ' '
    let escaped := c :: escapeMarkersFrom (isAsciiDigit c) rest
    if escape then '\\' :: escaped else escaped

/-- Put a backslash before each full stop that stands between a digit and a space. -/
def escapeListMarkers (s : List Char) : List Char :=
  escapeMarkersFrom false s

/-- Drop newlines past the second of a run; `seen` counts those right before the text. -/
def collapseNewlinesFrom (seen : Nat) : List Char → List Char
  | [] => []
  | c :: rest =>
    if c = '\n' then
      if seen < 2 then c :: collapseNewlinesFrom (seen + 1) rest
      else collapseNewlinesFrom (seen + 1) rest
    else c :: collapseNewlinesFrom 0 rest

/-- Shorten every run of three or more newlines to two. -/
def collapseNewlines (s : List Char) : List Char :=
  collapseNewlinesFrom 0 s

/-- A run of white space in which the stretch from the first newline to the last is replaced
by two newlines. A run with fewer newlines than two, or with two and nothing between them, is
left as it is. -/
def tidyRun (run : List Char) : List Char :=
  let before := run.takeWhile (· != '\n')
  let after := (run.reverse.takeWhile (· != '\n')).reverse
  let lines := run.length - before.length - after.length
  if 2 < lines then before ++ ['\n', '\n'] ++ after else run

/-- Make the white space between two newlines a plain blank line, in every run of white
space. The run before the text is `run`, last character first. -/
def collapseBlankLinesFrom (run : List Char) : List Char → List Char
  | [] => tidyRun run.reverse
  | c :: rest =>
    if isWhitespace c then collapseBlankLinesFrom (c :: run) rest
    else tidyRun run.reverse ++ c :: collapseBlankLinesFrom [] rest

/-- Make the white space between two newlines a plain blank line, in every run of white space.
What stands after the last newline of a run is the indentation of the next line, and stays. -/
def collapseBlankLines (s : List Char) : List Char :=
  collapseBlankLinesFrom [] s

/-- The final form of Markdown. Spaces at the very start are indentation and stay. -/
def tidy (s : List Char) : List Char :=
  let trimmed := trimEndWhile isWhitespace
    (trimStartWhile (fun c => c == '\t' || c == '\r' || c == '\n') s)
  collapseNewlines (collapseBlankLines trimmed)

end Tagdown.Text
