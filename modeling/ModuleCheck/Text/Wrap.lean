import ModuleCheck.Text.Alphanumeric
import ModuleCheck.Text.Escape
import ModuleCheck.Text.LineBreak

namespace ModuleCheck

/-!
Breaking a text into lines of bounded width.

A text is first cut at its newlines, and each part is then filled word by word: a word goes into
the current line if it ends within the room there is, and starts a new line otherwise.  Words end
where the rules of line breaking let a line end, hyphens apart: a compound is divided after the
hyphens that stand between letters or numbers.  What is still wider than the room is divided where
the room ends.  The spaces that follow the last word of a line are left out, all others are kept.
Escape sequences take no room and are not cut between words; a hyphen does divide them, and what
follows it then counts as text.
-/

namespace Text

/-- The parts of a text between its newlines. -/
def parts : List Char → List (List Char)
  | [] => [[]]
  | c :: rest =>
    if c = '\n' then [] :: parts rest
    else (parts rest).modifyHead (c :: ·)

/-- The parts of a text between its newlines; a text without one is its only part. -/
def lines (text : String) : List String := (parts text.toList).map String.ofList

/-- Puts a character in front of a text that is cut into pieces, as part of the first one. -/
def consFirst (c : Char) : List (List Char) → List (List Char)
  | [] => [[c]]
  | piece :: rest => (c :: piece) :: rest

/-- Clears the last mark that is set. -/
def clearLast : List Bool → List Bool
  | [] => []
  | mark :: rest => if rest.any id then mark :: clearLast rest else false :: rest

def softHyphen : Char := Char.ofNat 0xAD

/-- For each character of a text, whether a word ends behind it: where a line may be broken, but
not behind a hyphen.  The last of these places is not counted.  It is the end of the text, unless
a hyphen stands there. -/
def wordEnds (text : List Char) : List Bool :=
  clearLast (List.zipWith (fun c allowed => allowed && c ≠ '-' && c ≠ softHyphen) text
    (LineBreak.behind .start text))

/-- Cuts a text behind each shown character that is marked in `ends`, which has one mark for each
of them. -/
def cutWords (state : Escape) (ends : List Bool) : List Char → List (List Char)
  | [] => []
  | c :: rest =>
    if state.shows c then
      let pieces := cutWords (state.next c) ends.tail rest
      if ends.headD false then [c] :: pieces else consFirst c pieces
    else consFirst c (cutWords (state.next c) ends rest)

/-- Cuts a text behind each hyphen that stands between letters or numbers, where `before` is the
character in front of the text. -/
def cutHyphens (before : Option Char) : List Char → List (List Char)
  | [] => []
  | c :: rest =>
    let pieces := cutHyphens (some c) rest
    if c = '-' && before.any isAlphanumeric && rest.head?.any isAlphanumeric then [c] :: pieces
    else consFirst c pieces

/-- Cuts a text before each shown character that does not end within `room` columns, where `used`
columns are taken before the text. -/
def cutWide (room : Nat) (state : Escape) (used : Nat) : List Char → List (List Char)
  | [] => [[]]
  | c :: rest =>
    if state.shows c then
      let count := charColumns c
      if 0 < used ∧ room < used + count then
        [] :: consFirst c (cutWide room (state.next c) count rest)
      else consFirst c (cutWide room (state.next c) (used + count) rest)
    else consFirst c (cutWide room (state.next c) used rest)

/-- A word, or a piece of a compound, and the number of spaces that follow it.  The word may be
empty, which stands for spaces at the start of a text. -/
structure Word where
  text : List Char
  spaces : Nat

namespace Word

/-- The characters of the word and of its spaces. -/
def toList (word : Word) : List Char := word.text ++ List.replicate word.spaces ' '

/-- The columns that the word takes with its spaces. -/
def extent (word : Word) : Nat := columns word.text + word.spaces

/-- The pieces of a compound that is followed by `spaces` spaces. -/
def ofPieces (spaces : Nat) : List (List Char) → List Word
  | [] => [⟨[], spaces⟩]
  | [piece] => [⟨piece, spaces⟩]
  | piece :: rest => ⟨piece, 0⟩ :: ofPieces spaces rest

/-- The words of a text that is cut nowhere but after its hyphens and where the room ends. -/
def ofText (room : Nat) (text : List Char) : List Word :=
  let reversed := text.reverse
  ofPieces (reversed.takeWhile (· = ' ')).length
    ((cutHyphens none (reversed.dropWhile (· = ' ')).reverse).flatMap (cutWide room .outside 0))

/-- The words of a text, none of them wider than the room unless it is a single character. -/
def split (room : Nat) (text : List Char) : List Word :=
  (cutWords .outside (wordEnds (Escape.shown .outside text)) text).flatMap (ofText room)

end Word

/-- Fills lines of `room` columns with words, where `line` is what the first of them already
holds.  The spaces after a word may stand outside the room. -/
def fill (room : Nat) (line : List Word) : List Word → List (List Word)
  | [] => [line]
  | word :: rest =>
    if line.foldr (fun w count => w.extent + count) 0 + columns word.text ≤ room then
      fill room (line ++ [word]) rest
    else line :: fill room [word] rest

/-- The text of a line, without the spaces that follow its last word. -/
def lineText : List Word → List Char
  | [] => []
  | [word] => word.text
  | word :: rest => word.toList ++ lineText rest

/-- The lines of a text, each of at most `room` columns unless it is a single character. -/
def wrap (room : Nat) (text : String) : List String :=
  (parts text.toList).flatMap fun part =>
    (fill room [] (Word.split room part)).map fun line => String.ofList (lineText line)

end Text

end ModuleCheck
