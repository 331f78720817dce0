import Mathlib.Data.List.DropRight
import ModuleCheck.Source.Line

namespace ModuleCheck

/-!
Lines and their bytes.

A position counts bytes, so what a line is told by is the text's encoding in UTF-8: the line of
a byte runs from behind the last newline in front of the byte up to and including the first
newline from the byte on.  No byte of a character other than the newline is the newline's, so
cutting the characters of a text after each newline cuts its bytes there as well, and looking a
position up in the lines finds the line of its byte.
-/

namespace Text

/-- The bytes of a text in UTF-8. -/
def bytes (text : String) : List UInt8 := text.toByteArray.data.toList

/-- The bytes of a sequence of characters in UTF-8. -/
def encode (cs : List Char) : List UInt8 := cs.flatMap String.utf8EncodeChar

theorem bytes_ofList (cs : List Char) : bytes (String.ofList cs) = encode cs := by
  simp [bytes, encode, String.toByteArray_ofList, List.utf8Encode]

theorem bytes_eq_encode (text : String) : bytes text = encode text.toList := by
  rw [← bytes_ofList, String.ofList_toList]

theorem bytes_inj {text other : String} : bytes text = bytes other ↔ text = other := by
  rw [bytes, bytes, Array.toList_inj, ← ByteArray.ext_iff, String.toByteArray_inj]

theorem length_bytes (text : String) : (bytes text).length = text.utf8ByteSize := rfl

theorem encode_append (cs ds : List Char) : encode (cs ++ ds) = encode cs ++ encode ds :=
  List.flatMap_append

theorem length_encode_cons (c : Char) (rest : List Char) :
    (encode (c :: rest)).length = c.utf8Size + (encode rest).length := by
  rw [encode, List.flatMap_cons, List.length_append, String.length_utf8EncodeChar, encode]

/-- A byte below 128 occurs only in the encoding of the character that it stands for, since the
bytes of a character of several bytes are all 128 or more. -/
theorem toUInt8_mem_utf8EncodeChar {a : Char} (ascii : a.toNat < 128) (c : Char) :
    a.toUInt8 ∈ String.utf8EncodeChar c ↔ c = a := by
  have code : c = a ↔ c.val.toNat = a.val.toNat := by rw [← Char.val_inj, ← UInt32.toNat_inj]
  have byte : a.toUInt8.toNat = a.val.toNat % 256 := rfl
  have low : a.val.toNat < 128 := ascii
  rw [code]
  unfold String.utf8EncodeChar
  generalize c.val.toNat = v
  dsimp only
  repeat' split
  all_goals
    simp only [List.mem_cons, List.not_mem_nil, or_false, ← UInt8.toNat_inj, byte,
      UInt8.toNat_ofNat']
    omega

theorem toUInt8_mem_encode {a : Char} (ascii : a.toNat < 128) (cs : List Char) :
    a.toUInt8 ∈ encode cs ↔ a ∈ cs := by
  simp [encode, toUInt8_mem_utf8EncodeChar ascii]

/-- The byte of the newline. -/
def newline : UInt8 := '\n'.toUInt8

theorem newline_mem_encode (cs : List Char) : newline ∈ encode cs ↔ '\n' ∈ cs :=
  toUInt8_mem_encode (by decide) cs

/-! Where the line of a byte begins and ends. -/

/-- The offset behind the last newline in front of the position, or zero without one. -/
def lineStart (content : List UInt8) (position : Nat) : Nat :=
  ((content.take position).rdropWhile (· ≠ newline)).length

/-- The offset behind the first newline from the position on, or the end without one. -/
def lineStop (content : List UInt8) (position : Nat) : Nat :=
  min content.length (position + ((content.drop position).takeWhile (· ≠ newline)).length + 1)

section Offsets

variable {first rest : List UInt8} {position : Nat}

theorem all_ne_newline (plain : newline ∉ first) : ∀ b ∈ first, (b ≠ newline : Bool) = true :=
  fun _ member => decide_eq_true fun same => plain (same ▸ member)

theorem lineStart_inside (plain : newline ∉ first) (inside : position ≤ first.length) :
    lineStart (first ++ rest) position = 0 := by
  have before : ∀ b ∈ first.take position, (b ≠ newline : Bool) = true := fun b member =>
    all_ne_newline plain b (List.mem_of_mem_take member)
  rw [lineStart, List.take_append_of_le_length inside, List.rdropWhile_eq_nil_iff.mpr before,
    List.length_nil]

theorem lineStop_inside (plain : newline ∉ first) (inside : position ≤ first.length) :
    lineStop (first ++ newline :: rest) position = first.length + 1 := by
  have behind : ∀ b ∈ first.drop position, (b ≠ newline : Bool) = true := fun b member =>
    all_ne_newline plain b (List.mem_of_mem_drop member)
  have stretch : ((first ++ newline :: rest).drop position).takeWhile (· ≠ newline) =
      first.drop position := by
    rw [List.drop_append_of_le_length inside, List.takeWhile_append_of_pos behind]
    simp
  rw [lineStop, stretch, List.length_drop, List.length_append, List.length_cons]
  omega

/-- A last line without a newline ends with the text. -/
theorem lineStop_last (plain : newline ∉ first) (inside : position ≤ first.length) :
    lineStop first position = first.length := by
  have behind : ∀ b ∈ first.drop position, (b ≠ newline : Bool) = true := fun b member =>
    all_ne_newline plain b (List.mem_of_mem_drop member)
  rw [lineStop, List.takeWhile_eq_self_iff.mpr behind, List.length_drop]
  omega

/-- Going back from the end stops at the first newline that is met. -/
theorem rdropWhile_newline (first rest : List UInt8) :
    (first ++ [newline] ++ rest).rdropWhile (· ≠ newline) =
      first ++ [newline] ++ rest.rdropWhile (· ≠ newline) := by
  induction rest using List.reverseRecOn with
  | nil =>
    rw [List.append_nil, List.rdropWhile_nil, List.append_nil]
    exact List.rdropWhile_concat_neg _ _ _ (by simp)
  | append_singleton rest b ih =>
    rw [← List.append_assoc, List.rdropWhile_concat, List.rdropWhile_concat]
    split
    · exact ih
    · rw [List.append_assoc]

theorem take_behind (count : Nat) :
    (first ++ newline :: rest).take (first.length + 1 + count) =
      first ++ newline :: rest.take count := by
  have length : (first ++ [newline]).length = first.length + 1 := by simp
  rw [List.append_cons, ← length, List.take_length_add_append, ← List.append_cons]

theorem drop_behind (count : Nat) :
    (first ++ newline :: rest).drop (first.length + 1 + count) = rest.drop count := by
  have length : (first ++ [newline]).length = first.length + 1 := by simp
  rw [List.append_cons, ← length, List.drop_length_add_append]

theorem lineStart_behind :
    lineStart (first ++ newline :: rest) (first.length + 1 + position) =
      first.length + 1 + lineStart rest position := by
  rw [lineStart, take_behind, List.append_cons, rdropWhile_newline, List.length_append, lineStart,
    List.length_append, List.length_singleton]

theorem lineStop_behind :
    lineStop (first ++ newline :: rest) (first.length + 1 + position) =
      first.length + 1 + lineStop rest position := by
  rw [lineStop, drop_behind, lineStop, List.length_append, List.length_cons]
  omega

end Offsets

end Text

namespace Line

open Text

theorem byteSize_eq (cs : List Char) : byteSize cs = (encode cs).length := by
  induction cs with
  | nil => rfl
  | cons c rest ih =>
    have size : byteSize (c :: rest) = c.utf8Size + byteSize rest := rfl
    rw [size, ih, length_encode_cons]

/-! The lines of a text. -/

/-- Every line ends in its only newline, except that the last one may have none. -/
inductive Cut : List (List Char) → Prop
  | nil : Cut []
  | last {line : List Char} (plain : '\n' ∉ line) : Cut [line]
  | cons {front : List Char} {rest : List (List Char)} (plain : '\n' ∉ front) (cut : Cut rest) :
      Cut ((front ++ ['\n']) :: rest)

theorem Cut.consLine {lines : List (List Char)} (cut : Cut lines) (c : Char) :
    Cut (consLine c lines) := by
  unfold Line.consLine
  split
  · rename_i ends
    subst ends
    exact .cons List.not_mem_nil cut
  · rename_i inside
    have keeps {cs : List Char} (plain : '\n' ∉ cs) : '\n' ∉ c :: cs := by
      rw [List.mem_cons, not_or]
      exact ⟨Ne.symm inside, plain⟩
    cases cut with
    | nil => exact .last (keeps List.not_mem_nil)
    | last plain => exact .last (keeps plain)
    | cons plain cut => exact .cons (keeps plain) cut

theorem cut_split (text : List Char) : Cut (split text) := by
  induction text with
  | nil => exact .nil
  | cons c rest ih => exact ih.consLine c

/-! Looking a position up. -/

/-- The line is that of the byte at the position, and its column is where the byte stands in it.
The first line of the content has the given number. -/
structure Holds (line : Line) (number : Nat) (content : List UInt8) (position : Nat) : Prop where
  number_eq : line.number = number + (content.take position).count newline
  column_eq : lineStart content position + line.column = position
  text_eq : bytes line.text =
    (content.take (lineStop content position)).drop (lineStart content position)
  column_lt : line.column < (bytes line.text).length

/-- The byte at the position stands in the line at the column. -/
theorem Holds.getElem?_column {line : Line} {number position : Nat} {content : List UInt8}
    (holds : line.Holds number content position) :
    (bytes line.text)[line.column]? = content[position]? := by
  have inside := holds.column_lt
  rw [holds.text_eq, List.length_drop, List.length_take] at inside
  have column := holds.column_eq
  rw [holds.text_eq, List.getElem?_drop, column, List.getElem?_take_of_lt (by omega)]

/-- Only one line is that of the byte at the position. -/
theorem Holds.unique {line other : Line} {number position : Nat} {content : List UInt8}
    (holds : line.Holds number content position) (again : other.Holds number content position) :
    line = other := by
  have number := holds.number_eq.trans again.number_eq.symm
  have text := bytes_inj.mp (holds.text_eq.trans again.text_eq.symm)
  have column := Nat.add_left_cancel (holds.column_eq.trans again.column_eq.symm)
  rcases line with ⟨_, _, _⟩
  rcases other with ⟨_, _, _⟩
  exact Line.mk.injEq .. ▸ ⟨number, text, column⟩

/-- A position in the first line. -/
theorem holds_first {line : List Char} {content rest : List UInt8} {position : Nat}
    (split : content = encode line ++ rest) (within : position < (encode line).length)
    (before : newline ∉ (encode line).take position) (start : lineStart content position = 0)
    (stop : lineStop content position = (encode line).length) (number : Nat) :
    Holds ⟨number, String.ofList line, position⟩ number content position where
  number_eq := by
    rw [split, List.take_append_of_le_length within.le, List.count_eq_zero.mpr before,
      Nat.add_zero]
  column_eq := by rw [start, Nat.zero_add]
  text_eq := by rw [start, stop, bytes_ofList, split, List.take_left, List.drop_zero]
  column_lt := by rwa [bytes_ofList]

/-- A position behind the first line. -/
theorem Holds.behind {line : Line} {number position : Nat} {rest : List UInt8}
    (holds : line.Holds (number + 1) rest position) {first : List UInt8}
    (plain : newline ∉ first) :
    line.Holds number (first ++ newline :: rest) (first.length + 1 + position) where
  number_eq := by
    rw [holds.number_eq, take_behind, List.count_append, List.count_eq_zero.mpr plain,
      List.count_cons_self]
    omega
  column_eq := by rw [lineStart_behind, Nat.add_assoc, holds.column_eq]
  text_eq := by
    rw [holds.text_eq, lineStart_behind, lineStop_behind, take_behind, drop_behind]
  column_lt := holds.column_lt

/-- Every byte of the lines is found in its line. -/
theorem locate_holds {lines : List (List Char)} (cut : Cut lines) (number position : Nat)
    (inside : position < (encode lines.flatten).length) :
    ∃ line, locate number lines position = some line ∧
      line.Holds number (encode lines.flatten) position := by
  induction cut generalizing number position with
  | nil => cases inside
  | @last line plain =>
    have plainBytes : newline ∉ encode line := fun member =>
      plain ((newline_mem_encode line).mp member)
    rw [List.flatten_singleton] at inside ⊢
    have start : lineStart (encode line) position = 0 := by
      rw [← List.append_nil (encode line)]
      exact lineStart_inside plainBytes inside.le
    refine ⟨_, if_pos (by rwa [byteSize_eq]), ?_⟩
    exact holds_first (List.append_nil _).symm inside
      (fun member => plainBytes (List.mem_of_mem_take member)) start
      (lineStop_last plainBytes inside.le) number
  | @cons front rest plain cut ih =>
    have plainBytes : newline ∉ encode front := fun member =>
      plain ((newline_mem_encode front).mp member)
    have ended : encode (front ++ ['\n']) = encode front ++ [newline] := encode_append front ['\n']
    have length : (encode (front ++ ['\n'])).length = (encode front).length + 1 := by
      rw [ended, List.length_append, List.length_singleton]
    have whole : encode ((front ++ ['\n']) :: rest).flatten =
        encode front ++ newline :: encode rest.flatten := by
      rw [List.flatten_cons, encode_append, ended, ← List.append_cons]
    rw [whole] at inside ⊢
    by_cases within : position < (encode front).length + 1
    · have before : newline ∉ (encode (front ++ ['\n'])).take position := by
        rw [ended, List.take_append_of_le_length (by omega)]
        exact fun member => plainBytes (List.mem_of_mem_take member)
      have stop : lineStop (encode front ++ newline :: encode rest.flatten) position =
          (encode front).length + 1 := lineStop_inside plainBytes (Nat.le_of_lt_succ within)
      refine ⟨_, if_pos (by rwa [byteSize_eq, length]), ?_⟩
      exact holds_first (by rw [ended, ← List.append_cons]) (by rwa [length]) before
        (lineStart_inside plainBytes (Nat.le_of_lt_succ within)) (by rw [stop, length]) number
    · obtain ⟨further, rfl⟩ : ∃ further, position = (encode front).length + 1 + further :=
        ⟨position - ((encode front).length + 1), by omega⟩
      rw [List.length_append, List.length_cons] at inside
      rcases ih (number + 1) further (by omega) with ⟨line, found, holds⟩
      refine ⟨line, ?_, holds.behind plainBytes⟩
      rw [locate, byteSize_eq, length, if_neg within, Nat.add_sub_cancel_left]
      exact found

/-- No line holds a byte past the end. -/
theorem locate_eq_none {lines : List (List Char)} {position : Nat}
    (outside : (encode lines.flatten).length ≤ position) (number : Nat) :
    locate number lines position = none := by
  induction lines generalizing number position with
  | nil => rfl
  | cons line rest ih =>
    rw [List.flatten_cons, encode_append, List.length_append] at outside
    rw [locate, byteSize_eq, if_neg (by omega)]
    exact ih (by omega) (number + 1)

section Lookup

variable {content : String} {position : Nat}

theorem at?_of_outside (outside : (bytes content).length ≤ position) :
    at? content position = none := by
  refine locate_eq_none ?_ 1
  rwa [flatten_split, ← bytes_eq_encode]

/-- Every byte of a text is found in its line. -/
theorem at?_of_inside (inside : position < (bytes content).length) :
    ∃ line, at? content position = some line ∧ line.Holds 1 (bytes content) position := by
  have found := locate_holds (cut_split content.toList) 1 position
  rw [flatten_split, ← bytes_eq_encode] at found
  exact found inside

/-- The line of a byte is the one that is found. -/
theorem Holds.at?_eq {line : Line} (holds : line.Holds 1 (bytes content) position) :
    at? content position = some line := by
  have there := List.getElem?_eq_getElem holds.column_lt
  rw [holds.getElem?_column] at there
  rcases List.getElem?_eq_some_iff.mp there with ⟨inside, -⟩
  rcases at?_of_inside inside with ⟨other, found, again⟩
  rw [found, again.unique holds]

end Lookup

/-- A line is found exactly for the positions inside a text.  Its number is one more than the
number of newlines in front of the position, its text the bytes from the line's start to the
line's end, and its column, which lies inside this text, the distance from the line's start to the
position. -/
theorem at?_exact (content : String) (position : Nat) :
    (at? content position = none ↔ content.utf8ByteSize ≤ position) ∧
      ∀ line, at? content position = some line →
        line.number = 1 + ((bytes content).take position).count newline ∧
        line.column = position - lineStart (bytes content) position ∧
        bytes line.text = ((bytes content).take (lineStop (bytes content) position)).drop
          (lineStart (bytes content) position) ∧
        position = lineStart (bytes content) position + line.column ∧
        line.column < line.text.utf8ByteSize := by
  rw [← length_bytes content]
  constructor
  · constructor
    · intro missing
      by_contra inside
      rcases at?_of_inside (Nat.lt_of_not_le inside) with ⟨line, found, _⟩
      rw [missing] at found
      cases found
    · exact at?_of_outside
  · intro line found
    have inside : position < (bytes content).length := by
      by_contra outside
      rw [at?_of_outside (Nat.le_of_not_lt outside)] at found
      cases found
    rcases at?_of_inside inside with ⟨held, same, holds⟩
    obtain rfl : held = line := Option.some.inj (same.symm.trans found)
    have column := holds.column_eq
    exact ⟨holds.number_eq, by omega, holds.text_eq, column.symm, holds.column_lt⟩

/-- The second byte of a character, in a line behind another one with such a character. -/
theorem at?_exact_inside_character :
    let content := "é\nxü\nz"
    let line : Line := ⟨2, "xü\n", 2⟩
    at? content 5 = some line ∧ lineStart (bytes content) 5 = 3 ∧
      lineStop (bytes content) 5 = 7 ∧
      line.number = 1 + ((bytes content).take 5).count newline ∧
      bytes line.text = ((bytes content).take (lineStop (bytes content) 5)).drop
        (lineStart (bytes content) 5) ∧
      5 = lineStart (bytes content) 5 + line.column ∧ line.column < line.text.utf8ByteSize := by
  intro content line
  have found : at? content 5 = some line := by decide +kernel
  rcases (at?_exact content 5).2 line found with ⟨number, _, text, position, inside⟩
  exact ⟨found, by decide +kernel, by decide +kernel, number, text, position, inside⟩

end Line

end ModuleCheck
