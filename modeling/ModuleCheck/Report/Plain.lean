import ModuleCheck.Diagnostic
import ModuleCheck.Source.Line
import ModuleCheck.Text.Blank

namespace ModuleCheck

namespace Report

/-!
The compact report of one diagnostic, as it stands in build logs:

```
error: Unknown identifier: y
-> main
   |
20 | const a = y;
   | ----------^
```

Only the first line is written when the diagnostic has no span or when its span starts past
the end of the source.
-/

/-- The level, the message and, in parentheses, the tip if there is one. -/
def header (d : Diagnostic) : String :=
  match d.tip? with
  | none => d.level.text ++ ": " ++ d.message
  | some tip => d.level.text ++ ": " ++ d.message ++ " (" ++ tip ++ ")"

/-- A run of `count` copies of `c`. -/
def run (c : Char) (count : Nat) : String := String.ofList (List.replicate count c)

/-- The number of spaces in front of the first other character of a line. -/
def indent (line : Line) : Nat := (line.text.toList.takeWhile (· = ' ')).length

/-- The text of a line without the spaces at its start and the white space at its end. -/
def excerpt (line : Line) : String :=
  String.ofList (Text.trimEnd (line.text.toList.dropWhile (· = ' ')))

/-- The bar that sets off the excerpt, standing under the one that follows the line number. -/
def gutter (line : Line) : String := run ' ' (line.number.repr.length + 1) ++ "|"

/-- The dashes that lead to the caret.  A position inside the removed spaces is pointed at by
the caret under the first character of the excerpt. -/
def pointer (line : Line) : String := run '-' (line.column - indent line) ++ "^"

/-- The lines that show where the position of `line` lies in `file`. -/
def snippet (file : String) (line : Line) : List String :=
  [ "-> " ++ file,
    gutter line,
    line.number.repr ++ " | " ++ excerpt line,
    gutter line ++ " " ++ pointer line ]

/-- The lines of the compact report, without their newlines. -/
def plainLines (d : Diagnostic) (file source : String) : List String :=
  match d.span.bind fun span => Line.at? source span.start with
  | none => [header d]
  | some line => header d :: snippet file line

/-- The compact report, each line ended by a newline. -/
def plain (d : Diagnostic) (file source : String) : String :=
  String.join ((plainLines d file source).map (· ++ "\n"))

end Report

end ModuleCheck
