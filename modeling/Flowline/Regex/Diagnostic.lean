import Flowline.Regex.Syntax
set_option autoImplicit false

/-!
# Showing pattern errors

A refused pattern is reported as a small diagram: the heading
`regex parse error:`, the pattern line by line with carets under the
stretches concerned, and `error: ` with the description. For a one-line
pattern each line is indented by four spaces:

```
regex parse error:
    (
    ^
error: unclosed group
```

A pattern of several lines is framed by rules of 79 tildes, its lines are
numbered, and a stretch that runs over several lines is named by its line
and column bounds below the frame instead of being marked.

A stretch is marked with one caret per character, and an empty stretch
with a single caret at its place. Lines are split at line feeds, a carriage
return before a line feed belonging to neither line.
-/

namespace Flowline.Regex

namespace Diagnostic

/-- A text of `n` copies of a character. -/
def repeatChar (n : Nat) (c : Char) : String := String.ofList (List.replicate n c)

/-- The lines of a text: split at line feeds, without an empty last line,
a carriage return at a line's end dropped. -/
def textLines (s : String) : List String :=
  if s.isEmpty then []
  else
    let parts := s.splitOn "\n"
    let parts := if s.endsWith "\n" then parts.dropLast else parts
    parts.map fun p => if p.endsWith "\r" then String.ofList p.toList.dropLast else p

/-- Stretches in order of their start, then of their end. -/
def sortSpans (spans : List Span) : List Span :=
  spans.mergeSort fun a b =>
    a.start.offset < b.start.offset ||
      (a.start.offset == b.start.offset && a.stop.offset ≤ b.stop.offset)

/-- The caret line under one pattern line, for the stretches on it. -/
def caretLine (pad : Nat) (spans : List Span) : String :=
  let (text, _) := spans.foldl (fun (acc, col) (span : Span) =>
    let target := span.start.column - 1
    let gap := target - col
    let carets := max 1 (span.stop.column - span.start.column)
    (acc ++ repeatChar gap ' ' ++ repeatChar carets '^', col + gap + carets)) ("", 0)
  repeatChar pad ' ' ++ text

/-- The diagram of an error in a pattern. -/
def render (pattern : String) (e : SyntaxError) : String :=
  let lines := textLines pattern
  let lineCount := lines.length + (if pattern.endsWith "\n" then 1 else 0)
  let width := if lineCount ≤ 1 then 0 else (toString lineCount).length
  let spans := e.span :: e.aux.toList
  let oneLine := spans.filter Span.isOneLine
  let multiLine := sortSpans (spans.filter fun s => !s.isOneLine)
  let pad := if width = 0 then 4 else width + 2
  let numbered (n : Nat) : String :=
    let digits := toString n
    repeatChar (width - digits.length) ' ' ++ digits ++ ": "
  let notated := String.join ((List.range lines.length).zip lines |>.map fun (i, line) =>
    let lead := if width = 0 then "    " else numbered (i + 1)
    let here := sortSpans (oneLine.filter fun s => s.start.line == i + 1)
    let marks := if here.isEmpty then "" else caretLine pad here ++ "\n"
    lead ++ line ++ "\n" ++ marks)
  let message := "error: " ++ e.kind.message
  if pattern.contains '\n' then
    let divider := repeatChar 79 '~'
    let notes := if multiLine.isEmpty then ""
      else "\n".intercalate (multiLine.map fun s =>
        s!"on line {s.start.line} (column {s.start.column}) through line {s.stop.line} (column {s.stop.column - 1})") ++ "\n"
    "regex parse error:\n" ++ divider ++ "\n" ++ notated ++ divider ++ "\n" ++ notes ++ message
  else "regex parse error:\n" ++ notated ++ message

end Diagnostic

end Flowline.Regex
