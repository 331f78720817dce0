import ModuleCheck.Report.Plain
import ModuleCheck.Text.Wrap

namespace ModuleCheck

namespace Report

/-!
The framed report of one diagnostic: its kind, its message, the lines of the source around its
span with the span marked, and its tip.

The message and the tip are wrapped to the width of the report; the message that labels the span
among the source lines is only cut at its newlines.  The layout of the source lines is meant for
sources of printable ASCII characters and newlines, where a byte takes one column.  A span that
starts past the end of the source is not marked, and one that only ends there is marked like a
span of several lines whose last line is not shown.
-/

/-- The columns that the message and the tip may fill, what stands in front of them included. -/
def textWidth : Nat := 198

/-- Lines of text, the first behind `lead` and the others behind `hang`. -/
def hanging (lead hang : String) : List String → List String
  | [] => []
  | first :: rest => (lead ++ first) :: rest.map (hang ++ ·)

/-- A wrapped text, its first line behind `lead` and the others behind `hang`, which is as wide. -/
def paragraph (lead hang text : String) : List String :=
  hanging lead hang (Text.wrap (textWidth - lead.length) text)

/-- A line number and a column, the first from one and the second from zero. -/
structure Position where
  line : Nat
  column : Nat
deriving DecidableEq

/-- The position just past the last character of a text that is cut into lines. -/
def endPosition (lines : List (List Char)) : Position :=
  match lines.getLast? with
  | none => ⟨1, 0⟩
  | some last =>
    if last.getLast? = some '\n' then ⟨lines.length + 1, 0⟩
    else ⟨lines.length, Line.byteSize last⟩

/-- Where the byte at `offset` stands; past the end, where the text ends. -/
def positionOf (source : String) (offset : Nat) : Position :=
  match Line.at? source offset with
  | some line => ⟨line.number, line.column⟩
  | none => endPosition (Line.split source.toList)

/-- A line of the source with its number. -/
structure NumberedLine where
  number : Nat
  text : String

/-- The lines of the source, numbered from one, without their newlines. -/
def numberedLines (source : String) : List NumberedLine :=
  ((Line.split source.toList).zipIdx 1).map fun (line, number) =>
    ⟨number, String.ofList (line.filter (· ≠ '\n'))⟩

/-- What the marks around the source lines need to know about a span. -/
structure Marking where
  first : Position
  /-- The line of the last byte covered, or of the start of an empty span; `none` if that
  place lies past the end of the source. -/
  lastLine? : Option Nat
  length : Nat
  /-- Whether the span starts inside the source. -/
  visible : Bool
  /-- The number of digits of the last line number shown. -/
  width : Nat
  message : String

namespace Marking

/-- Whether the span leaves the line that it starts in. -/
def isMultiline (m : Marking) : Bool := m.visible && m.lastLine? ≠ some m.first.line

/-- Whether the span runs through the line with the given number without an end in it. -/
def passes (m : Marking) (number : Nat) : Bool :=
  m.first.line < number && m.lastLine?.all (number < ·)

/-- The start of a line that carries marks in place of source text. -/
def blankMargin (m : Marking) : String := " " ++ run ' ' m.width ++ " · "

/-- The start of a line of source text. -/
def margin (m : Marking) (number : Nat) : String :=
  " " ++ run ' ' (m.width - number.repr.length) ++ number.repr ++ " │ "

/-- The bracket that a span of several lines draws to the left of the text. -/
def bracket (m : Marking) (number : Nat) : String :=
  if m.isMultiline then
    if number = m.first.line then "╭─▶ "
    else if m.lastLine? = some number then "├─▶ "
    else if m.passes number then "│   "
    else "    "
  else ""

/-- The message as a label, hung from `single` if it has one line and otherwise from `several`,
with the others behind `hang`. -/
def label (m : Marking) (single several hang : String) : List String :=
  match Text.lines m.message with
  | [line] => [single ++ line]
  | lines => hanging several hang lines

/-- The line that underlines a span of one line, and the label that hangs from its middle. -/
def underline (m : Marking) : List String :=
  let start := m.first.column
  let stop := start + max m.length 1
  let middle := (start + stop) / 2
  let tip := if m.length = 0 then "▲" else "┬"
  (run ' ' start ++ run '─' (middle - start) ++ tip ++ run '─' (stop - middle - 1)) ::
    (m.label "╰── " "╰─┤ " "  │ ").map (run ' ' middle ++ ·)

/-- The marks below the line with the given number. -/
def marksBelow (m : Marking) (number : Nat) : List String :=
  if m.visible && m.lastLine? = some number then
    if m.isMultiline then m.label "╰──── " "╰──┤ " "   │ " else m.underline
  else []

/-- A line of source text with the marks that belong to it. -/
def drawLine (m : Marking) (line : NumberedLine) : List String :=
  (m.margin line.number ++ m.bracket line.number ++ line.text) ::
    (m.marksBelow line.number).map (m.blankMargin ++ ·)

end Marking

/-- The source lines around a span: those that it touches, one before and one after, as far as
they exist. -/
def drawSpan (message file source : String) (span : Span) : List String :=
  let first := positionOf source span.start
  let lastByte := span.start + max span.length 1 - 1
  let lastLine? := (Line.at? source lastByte).map Line.number
  let shown := (numberedLines source).filter fun line =>
    first.line ≤ line.number + 1 && lastLine?.all fun last => line.number ≤ last + 1
  let width := ((shown.getLast?.map NumberedLine.number).getD 0).repr.length
  let marking : Marking :=
    { first, lastLine?, length := span.length, visible := (Line.at? source span.start).isSome,
      width, message }
  let edge := run ' ' (width + 2)
  [edge ++ "╭─[" ++ file ++ ":" ++ first.line.repr ++ ":" ++ (first.column + 1).repr ++ "]"] ++
    shown.flatMap marking.drawLine ++ [edge ++ "╰────"]

/-- The lines that show the place of a diagnostic, or say that it lies outside the source. -/
def place (message file source : String) (span : Span) : List String :=
  if source.utf8ByteSize < span.start + span.length - 1 then
    [ "  [Failed to read contents for label `" ++ message ++ "` (offset: " ++ span.start.repr ++
        ", length: " ++ span.length.repr ++ "): OutOfBounds]" ]
  else drawSpan message file source span

def levelMark : Level → String
  | .error => "×"
  | .warn => "⚠"

/-- The lines of the framed report, without their newlines. -/
def graphicalLines (d : Diagnostic) (file source : String) : List String :=
  [d.issue.kind, ""] ++
    paragraph ("  " ++ levelMark d.level ++ " ") "  │ " d.message ++
    (d.span.map (place d.message file source)).getD [] ++
    (d.tip?.map (paragraph "  help: " "        ")).getD []

/-- The framed report, each line ended by a newline. -/
def graphical (d : Diagnostic) (file source : String) : String :=
  String.join ((graphicalLines d file source).map (· ++ "\n"))

end Report

end ModuleCheck
