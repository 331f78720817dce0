import ModuleCheck.Text.Columns

namespace ModuleCheck

/-!
Escape sequences, which steer a terminal and are not shown on it.

A sequence starts with the escape character.  With `[` after it, it ends with the first character
from `@` to `~`; with `]` after it, it ends with the bell character or with an escape character
and a backslash; with any other character after it, it ends there.  A sequence that is not ended
runs to the end of the text.
-/

namespace Text

/-- Where a reader of a text stands with respect to escape sequences. -/
inductive Escape where
  | outside
  /-- Right after the escape character. -/
  | started
  /-- In a sequence that was opened by `[`. -/
  | control
  /-- In a sequence that was opened by `]`; `last` is the character read last. -/
  | command (last : Char)
deriving DecidableEq

namespace Escape

def escapeChar : Char := Char.ofNat 0x1B

def bellChar : Char := Char.ofNat 0x07

/-- Where the reader stands after one more character. -/
def next : Escape → Char → Escape
  | outside, c => if c = escapeChar then started else outside
  | started, c => if c = '[' then control else if c = ']' then command c else outside
  | control, c => if '@' ≤ c ∧ c ≤ '~' then outside else control
  | command last, c =>
    if c = bellChar ∨ (last = escapeChar ∧ c = '\\') then outside else command c

/-- Whether a character that is read next is shown. -/
def shows (state : Escape) (c : Char) : Bool := state = outside && c ≠ escapeChar

/-- The characters of a text that are shown. -/
def shown (state : Escape) : List Char → List Char
  | [] => []
  | c :: rest =>
    if state.shows c then c :: shown (state.next c) rest else shown (state.next c) rest

end Escape

/-- The columns that the shown characters of a text take. -/
def columns (text : List Char) : Nat :=
  (Escape.shown .outside text).foldr (fun c count => charColumns c + count) 0

end Text

end ModuleCheck
