import ModuleCheck.Proofs.Lines
import ModuleCheck.Report.Plain

namespace ModuleCheck

/-!
Where the compact report points.

The caret of a compact report stands as many bytes into its line as the reported byte stands
into the line above it.  Three widths make up for each other there: that of the line number and
its bar, which the gutter repeats, that of the spaces that the excerpt leaves out, and that of
the dashes.
-/

namespace Text

/-! Characters of one byte. -/

/-- Characters below 128 take one byte each. -/
theorem length_encode {cs : List Char} (ascii : ∀ c ∈ cs, c.toNat < 128) :
    (encode cs).length = cs.length := by
  induction cs with
  | nil => rfl
  | cons c rest ih =>
    rcases List.forall_mem_cons.mp ascii with ⟨first, others⟩
    have single : c.utf8Size = 1 := by
      rw [Char.utf8Size_eq_one_iff, UInt32.le_iff_toNat_le]
      exact Nat.le_of_lt_succ first
    rw [length_encode_cons, single, ih others, List.length_cons, Nat.add_comm]

theorem bytes_append (first second : String) :
    bytes (first ++ second) = bytes first ++ bytes second := by
  simp only [bytes_eq_encode, String.toList_append, encode_append]

/-- The digits of a number take one byte each. -/
theorem length_bytes_repr (n : Nat) : (bytes n.repr).length = n.repr.length := by
  rw [bytes_eq_encode, length_encode, String.length_toList]
  intro c member
  rw [Nat.repr, String.toList_ofList] at member
  have digit := Nat.isDigit_of_mem_toDigits (by decide) (by decide) member
  exact Nat.lt_of_le_of_lt (Char.isDigit_iff_toNat.mp digit).2 (by decide)

/-! White space at the ends of a line. -/

/-- The line consists of the spaces at its start, the excerpt and the white space at its end. -/
structure Trimmed (line spaces excerpt trail : List Char) : Prop where
  parts : line = spaces ++ (excerpt ++ trail)
  spaces_eq : ∀ c ∈ spaces, c = ' '
  first_ne : (excerpt ++ trail).head? ≠ some ' '
  trail_blank : ∀ c ∈ trail, isBlank c = true
  last_not_blank : ∀ c ∈ excerpt.getLast?, isBlank c = false

theorem trimmed (line : List Char) :
    Trimmed line (line.takeWhile (· = ' ')) (trimEnd (line.dropWhile (· = ' ')))
      ((line.dropWhile (· = ' ')).rtakeWhile isBlank) := by
  have rest : trimEnd (line.dropWhile (· = ' ')) ++ (line.dropWhile (· = ' ')).rtakeWhile isBlank =
      line.dropWhile (· = ' ') := List.rdropWhile_append_rtakeWhile
  constructor
  · rw [rest, List.takeWhile_append_dropWhile]
  · intro c member
    simpa using List.mem_takeWhile_imp member
  · intro first
    have other := List.head?_dropWhile_not (fun c : Char => decide (c = ' ')) line
    rw [← rest, first] at other
    cases other
  · exact fun c member => List.mem_rtakeWhile_imp member
  · intro c last
    rcases List.mem_getLast?_eq_getLast last with ⟨nonempty, rfl⟩
    exact eq_false_of_ne_true (List.rdropWhile_last_not isBlank _ nonempty)

namespace Trimmed

variable {line spaces excerpt trail : List Char}

/-- The spaces take one byte each. -/
theorem length_spaces (trimmed : Trimmed line spaces excerpt trail) :
    (encode spaces).length = spaces.length :=
  length_encode fun c member => by rw [trimmed.spaces_eq c member]; decide

theorem spaces_eq_takeWhile (trimmed : Trimmed line spaces excerpt trail) :
    spaces = line.takeWhile (· = ' ') ∧ excerpt ++ trail = line.dropWhile (· = ' ') := by
  have all : ∀ c ∈ spaces, decide (c = ' ') = true := fun c member =>
    decide_eq_true (trimmed.spaces_eq c member)
  have first := trimmed.first_ne
  rw [trimmed.parts, List.takeWhile_append_of_pos all, List.dropWhile_append_of_pos all]
  cases rest : excerpt ++ trail with
  | nil => simp
  | cons c others =>
    have other : c ≠ ' ' := by simpa [rest] using first
    simp [other]

theorem trimEnd_eq (trimmed : Trimmed line spaces excerpt trail) :
    trimEnd (excerpt ++ trail) = excerpt := by
  have all : ∀ c ∈ trail.reverse, isBlank c = true := fun c member =>
    trimmed.trail_blank c (List.mem_reverse.mp member)
  have kept : excerpt.rdropWhile isBlank = excerpt := by
    rw [List.rdropWhile_eq_self_iff]
    intro nonempty
    rw [trimmed.last_not_blank _ (List.getLast?_eq_getLast_of_ne_nil nonempty)]
    decide
  rw [trimEnd, List.reverse_append, List.dropWhile_append_of_pos all]
  exact kept

/-- A line is trimmed in one way only. -/
theorem unique {spaces' excerpt' trail' : List Char}
    (trimmed : Trimmed line spaces excerpt trail)
    (again : Trimmed line spaces' excerpt' trail') :
    spaces = spaces' ∧ excerpt = excerpt' ∧ trail = trail' := by
  rcases trimmed.spaces_eq_takeWhile with ⟨spaces_eq, rest⟩
  rcases again.spaces_eq_takeWhile with ⟨spaces_eq', rest'⟩
  have same : excerpt ++ trail = excerpt' ++ trail' := rest.trans rest'.symm
  have shown : excerpt = excerpt' := by
    rw [← trimmed.trimEnd_eq, same, again.trimEnd_eq]
  subst shown
  exact ⟨spaces_eq.trans spaces_eq'.symm, rfl, List.append_cancel_left same⟩

end Trimmed

end Text

namespace Report

open Text

/-- The byte of the caret. -/
def caret : UInt8 := '^'.toUInt8

/-- What stands in front of the caret. -/
def lead (line : Line) : String := gutter line ++ " " ++ run '-' (line.column - indent line)

theorem toList_lead (line : Line) :
    (lead line).toList = List.replicate (line.number.repr.length + 1) ' ' ++ ['|', ' '] ++
      List.replicate (line.column - indent line) '-' := by
  simp [lead, gutter, run]

theorem caret_not_mem_lead (line : Line) : '^' ∉ (lead line).toList := by
  simp [toList_lead]

/-- In front of the caret stand as many bytes as the line number and its bar take, and one for
each byte between the start of the excerpt and the position. -/
theorem length_bytes_lead (line : Line) :
    (bytes (lead line)).length =
      (bytes (line.number.repr ++ " | ")).length + (line.column - indent line) := by
  have ascii : ∀ c ∈ (lead line).toList, c.toNat < 128 := by
    intro c member
    simp only [toList_lead, List.mem_append, List.mem_replicate, List.mem_cons,
      List.not_mem_nil, or_false] at member
    rcases member with (⟨-, rfl⟩ | rfl | rfl) | ⟨-, rfl⟩ <;> decide
  have bar : (bytes " | ").length = 3 := rfl
  rw [bytes_append, List.length_append, length_bytes_repr, bar, bytes_eq_encode,
    length_encode ascii, toList_lead]
  simp only [List.length_append, List.length_replicate, List.length_cons, List.length_nil]

theorem idxOf_caret (line : Line) :
    (bytes (lead line ++ "^")).idxOf caret = (bytes (lead line)).length := by
  have absent : caret ∉ bytes (lead line) := by
    rw [bytes_eq_encode, caret, toUInt8_mem_encode (by decide)]
    exact caret_not_mem_lead line
  have single : bytes "^" = [caret] := by decide +kernel
  rw [bytes_append, single, List.idxOf_append_of_notMem absent, List.idxOf_cons_self, Nat.add_zero]

theorem plain_of_outside {d : Diagnostic} {source : String}
    (outside : ∀ span ∈ d.span, (bytes source).length ≤ span.start) (file : String) :
    plain d file source = header d ++ "\n" := by
  have missing : (d.span.bind fun span => Line.at? source span.start) = none := by
    cases placed : d.span with
    | none => rfl
    | some span => exact Line.at?_of_outside (outside span placed)
  simp [plain, plainLines, missing, String.join]

theorem plain_of_line {d : Diagnostic} {source : String} {span : Span} {line : Line}
    (placed : d.span = some span) (found : Line.at? source span.start = some line)
    (file : String) :
    plain d file source = header d ++ "\n" ++ ("-> " ++ file ++ "\n") ++ (gutter line ++ "\n") ++
      (line.number.repr ++ " | " ++ excerpt line ++ "\n") ++ (lead line ++ "^" ++ "\n") := by
  have present : (d.span.bind fun span => Line.at? source span.start) = some line := by
    rw [placed]
    exact found
  simp only [plain, plainLines, present, snippet, String.join, List.map_cons, List.map_nil,
    List.foldl_cons, List.foldl_nil, String.empty_append, lead, pointer, String.append_assoc]

/-- The excerpt shows the byte at the position of its line, unless this lies in the spaces or
the white space that it leaves out. -/
theorem getElem?_excerpt {line : Line} {spaces excerpt trail : List Char} {content : List UInt8}
    {position : Nat} (holds : line.Holds 1 content position)
    (trimmed : Trimmed line.text.toList spaces excerpt trail)
    (behind : spaces.length ≤ line.column)
    (within : line.column < spaces.length + (encode excerpt).length) :
    (encode excerpt)[line.column - spaces.length]? = content[position]? := by
  have width := trimmed.length_spaces
  calc (encode excerpt)[line.column - spaces.length]?
      = (encode spaces ++ (encode excerpt ++ encode trail))[line.column]? := by
        rw [List.getElem?_append_right (by omega), List.getElem?_append_left (by omega), width]
    _ = (bytes line.text)[line.column]? := by
        rw [bytes_eq_encode, trimmed.parts, encode_append, encode_append]
    _ = content[position]? := holds.getElem?_column

/-- The report shows the line of the source that holds the byte at the position, and points at
this byte: the line shown consists of the line number and the excerpt, the last line ends in its
only caret, and the byte of the line shown that stands where the caret stands in the last one is
the byte at the position.  If the position lies in the spaces in front of the excerpt, the caret
stands where the excerpt begins. -/
structure Points (report : String) (d : Diagnostic) (file source : String) (position : Nat)
    (line : Line) (spaces excerpt trail : List Char) (shown pointing : String) : Prop where
  holds : line.Holds 1 (bytes source) position
  trimmed : Trimmed line.text.toList spaces excerpt trail
  shown_eq : shown = line.number.repr ++ " | " ++ String.ofList excerpt
  report_eq : report = header d ++ "\n" ++ ("-> " ++ file ++ "\n") ++ (gutter line ++ "\n") ++
    (shown ++ "\n") ++ (pointing ++ "\n")
  caret_once : pointing.toList.count '^' = 1
  caret_last : pointing.toList.getLast? = some '^'
  under_byte : spaces.length ≤ line.column →
    line.column < spaces.length + (encode excerpt).length →
    (bytes shown)[(bytes pointing).idxOf caret]? = (bytes source)[position]?
  under_start : line.column < spaces.length →
    (bytes pointing).idxOf caret = (bytes (line.number.repr ++ " | ")).length

theorem points_of_line {d : Diagnostic} {source : String} {span : Span} {line : Line}
    (placed : d.span = some span) (found : Line.at? source span.start = some line)
    (holds : line.Holds 1 (bytes source) span.start) (file : String) :
    Points (plain d file source) d file source span.start line
      (line.text.toList.takeWhile (· = ' '))
      (trimEnd (line.text.toList.dropWhile (· = ' ')))
      ((line.text.toList.dropWhile (· = ' ')).rtakeWhile isBlank)
      (line.number.repr ++ " | " ++ excerpt line) (lead line ++ "^") where
  holds := holds
  trimmed := trimmed line.text.toList
  shown_eq := rfl
  report_eq := plain_of_line placed found file
  caret_once := by
    rw [String.toList_append, List.count_append, List.count_eq_zero.mpr (caret_not_mem_lead line)]
    decide
  caret_last := by simp
  under_byte := by
    intro behind within
    rw [idxOf_caret, length_bytes_lead, bytes_append, List.getElem?_append_right (by omega),
      excerpt, bytes_ofList, Nat.add_sub_cancel_left]
    exact getElem?_excerpt holds (trimmed line.text.toList) behind within
  under_start := by
    intro before
    have none : line.column - indent line = 0 := Nat.sub_eq_zero_of_le before.le
    rw [idxOf_caret, length_bytes_lead, none, Nat.add_zero]

/-- The compact report is the header alone if the diagnostic has no place inside the source, and
points at the first byte of the place otherwise. -/
theorem plain_points_at_byte (d : Diagnostic) (file source : String) :
    ((∀ span ∈ d.span, source.utf8ByteSize ≤ span.start) →
      plain d file source = header d ++ "\n") ∧
    ∀ span ∈ d.span, span.start < source.utf8ByteSize →
      ∃ line spaces excerpt trail shown pointing,
        Points (plain d file source) d file source span.start line spaces excerpt trail shown
          pointing := by
  constructor
  · intro outside
    exact plain_of_outside outside file
  · intro span placed inside
    rcases Line.at?_of_inside inside with ⟨line, found, holds⟩
    exact ⟨line, _, _, _, _, _, points_of_line placed found holds file⟩

/-- A byte of the tenth line, behind spaces and behind a character of two bytes. -/
theorem plain_points_at_byte_tenth_line :
    let source := "\n\n\n\n\n\n\n\n\n  é = y; \n"
    let d := Diagnostic.error (.unknownIdentifier "y") (some ⟨16, 17, "main"⟩)
    plain d "main" source =
      "error: Unknown identifier: y\n-> main\n   |\n10 | é = y;\n   | -----^\n" ∧
      16 < source.utf8ByteSize ∧
      ∃ line spaces excerpt trail shown pointing, line.number = 10 ∧ line.column = 7 ∧
        Points (plain d "main" source) d "main" source 16 line spaces excerpt trail shown
          pointing := by
  intro source d
  have inside : 16 < source.utf8ByteSize := by decide +kernel
  rcases (plain_points_at_byte d "main" source).2 ⟨16, 17, "main"⟩ rfl inside with
    ⟨line, spaces, excerpt, trail, shown, pointing, points⟩
  have number := points.holds.number_eq
  have column : lineStart (bytes source) 16 + line.column = 16 := points.holds.column_eq
  have newlines : ((bytes source).take 16).count newline = 9 := by decide +kernel
  have start : lineStart (bytes source) 16 = 9 := by decide +kernel
  refine ⟨by decide +kernel, inside, line, spaces, excerpt, trail, shown, pointing, ?_, ?_, points⟩
  · rw [number, newlines]
  · rw [start] at column
    omega

end Report

end ModuleCheck
