namespace ModuleCheck

/-!
Lines of a text, found by byte offset.

A line runs up to and including its newline; the last line may lack one.  An offset inside a
character of several bytes belongs to that character's line.
-/

/-- A line of a text together with a position in it. -/
structure Line where
  /-- Counted from one. -/
  number : Nat
  /-- The whole line, its newline included. -/
  text : String
  /-- Bytes from the start of the line to the position. -/
  column : Nat
deriving DecidableEq

namespace Line

/-- The number of bytes that `cs` takes in UTF-8. -/
def byteSize (cs : List Char) : Nat := cs.foldr (fun c size => c.utf8Size + size) 0

/-- Puts a character in front of a text that is already cut into lines. -/
def consLine (c : Char) (lines : List (List Char)) : List (List Char) :=
  if c = '\n' then [c] :: lines
  else
    match lines with
    | [] => [[c]]
    | line :: rest => (c :: line) :: rest

/-- Cuts a text after each newline.  No line is empty, and the lines concatenate to the text. -/
def split (text : List Char) : List (List Char) := text.foldr consLine []

/-- The line of `lines` that holds the byte at `position`, where the first one is numbered
`number`. -/
def locate (number : Nat) : List (List Char) → Nat → Option Line
  | [], _ => none
  | line :: rest, position =>
    if position < byteSize line then some ⟨number, String.ofList line, position⟩
    else locate (number + 1) rest (position - byteSize line)

/-- The line of `content` that holds the byte at `position`, or `none` past the end. -/
def at? (content : String) (position : Nat) : Option Line :=
  locate 1 (split content.toList) position

theorem flatten_split (text : List Char) : (split text).flatten = text := by
  induction text with
  | nil => rfl
  | cons c rest ih =>
    have step : split (c :: rest) = consLine c (split rest) := rfl
    rw [step]
    unfold consLine
    split
    · simp [ih]
    · cases lines : split rest with
      | nil =>
        rw [lines] at ih
        simp [← ih]
      | cons line others =>
        rw [lines] at ih
        simp [← ih]

end Line

end ModuleCheck
