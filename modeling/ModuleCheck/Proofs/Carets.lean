import ModuleCheck.Proofs.Pointing

namespace ModuleCheck

/-!
Where the compact report points as it is displayed.

The dashes in front of the caret count bytes, while a display gives each character one place.  So
the caret stands to the right of the character at the reported position, by one place for each
byte beyond the first one of the characters between the start of the excerpt and the position.
It stands under the reported character exactly if these characters take one byte each.
-/

namespace Text

/-! Bytes beyond the first one of each character. -/

/-- How many bytes more than characters there are. -/
def surplus (cs : List Char) : Nat := cs.foldr (fun c extra => c.utf8Size - 1 + extra) 0

theorem surplus_cons (c : Char) (rest : List Char) :
    surplus (c :: rest) = c.utf8Size - 1 + surplus rest := rfl

theorem length_encode_eq (cs : List Char) : (encode cs).length = cs.length + surplus cs := by
  induction cs with
  | nil => rfl
  | cons c rest ih =>
    have positive := c.utf8Size_pos
    rw [length_encode_cons, ih, List.length_cons, surplus_cons]
    omega

theorem surplus_eq_zero_iff (cs : List Char) : surplus cs = 0 ↔ ∀ c ∈ cs, c.toNat < 128 := by
  constructor
  · intro none c member
    rcases List.append_of_mem member with ⟨before, behind, rfl⟩
    have size := length_encode_eq (before ++ c :: behind)
    have first := length_encode_eq before
    have last := length_encode_eq behind
    have positive := c.utf8Size_pos
    rw [none, encode_append, List.length_append, length_encode_cons, List.length_append,
      List.length_cons] at size
    have single : c.utf8Size = 1 := by omega
    rw [Char.utf8Size_eq_one_iff, UInt32.le_iff_toNat_le] at single
    exact Nat.lt_succ_of_le single
  · intro ascii
    have size := length_encode_eq cs
    rw [length_encode ascii] at size
    omega

/-! Offsets between characters. -/

/-- A sequence of characters that does not take more bytes than another beginning of the same
text is a beginning of that one. -/
theorem exists_append_of_length_le {front back first rest : List Char}
    (same : front ++ back = first ++ rest)
    (shorter : (encode front).length ≤ (encode first).length) :
    ∃ middle, first = front ++ middle ∧ back = middle ++ rest := by
  rcases List.append_eq_append_iff.mp same with inside | ⟨beyond, rfl, rfl⟩
  · exact inside
  · have size := length_encode_eq beyond
    rw [encode_append, List.length_append] at shorter
    have nothing : beyond = [] := List.eq_nil_of_length_eq_zero (by omega)
    exact ⟨[], by simp [nothing], by simp [nothing]⟩

/-- Whether an offset lies between two characters can be told from the byte there. -/
theorem isValid_iff_of_getElem? {text : String} {position : Nat} {byte : UInt8}
    (there : (bytes text)[position]? = some byte) :
    String.Pos.Raw.IsValid text ⟨position⟩ ↔ byte.IsUTF8FirstByte := by
  rcases List.getElem?_eq_some_iff.mp there with ⟨inside, read⟩
  have before : (⟨position⟩ : String.Pos.Raw) < text.rawEndPos := inside
  have same : text.getUTF8Byte ⟨position⟩ before = byte := read
  rw [String.Pos.Raw.isValid_iff_isUTF8FirstByte]
  constructor
  · rintro (atEnd | ⟨_, starts⟩)
    · rw [← atEnd] at before
      exact absurd before (Nat.lt_irrefl position)
    · exact same ▸ starts
  · intro starts
    exact Or.inr ⟨before, same.symm ▸ starts⟩

end Text

open Text

/-- A position between two characters of a text stands between two characters of its line. -/
theorem Line.Holds.isValid_column {line : Line} {number position : Nat} {source : String}
    (holds : line.Holds number (bytes source) position)
    (boundary : String.Pos.Raw.IsValid source ⟨position⟩) :
    String.Pos.Raw.IsValid line.text ⟨line.column⟩ := by
  have there := List.getElem?_eq_getElem holds.column_lt
  have read := holds.getElem?_column
  rw [there] at read
  exact (isValid_iff_of_getElem? there).mpr ((isValid_iff_of_getElem? read.symm).mp boundary)

namespace Report

/-- The number of characters in front of the caret. -/
def caretColumn (pointing : String) : Nat := pointing.toList.idxOf '^'

/-- The number of characters in front of the one that follows `before` in the line shown. -/
def shownColumn (line : Line) (before : List Char) : Nat :=
  (line.number.repr ++ " | " ++ String.ofList before).length

theorem caretColumn_lead (line : Line) :
    caretColumn (lead line ++ "^") = (lead line).toList.length := by
  have mark : "^".toList = ['^'] := by decide +kernel
  rw [caretColumn, String.toList_append, List.idxOf_append_of_notMem (caret_not_mem_lead line),
    mark, List.idxOf_cons_self, Nat.add_zero]

/-- The character at a position inside the excerpt. -/
theorem exists_pointed {line : Line} {spaces excerpt trail : List Char}
    (trimmed : Trimmed line.text.toList spaces excerpt trail)
    (boundary : String.Pos.Raw.IsValid line.text ⟨line.column⟩)
    (behind : spaces.length ≤ line.column)
    (within : line.column < spaces.length + (encode excerpt).length) :
    ∃ before pointed after, excerpt = before ++ pointed :: after ∧
      line.column = (encode (spaces ++ before)).length := by
  have width := trimmed.length_spaces
  rcases String.Pos.Raw.isValid_iff_exists_append.mp boundary with ⟨front, back, cut, offset⟩
  have column : line.column = (encode front.toList).length := by
    rw [← bytes_eq_encode]
    exact congrArg String.Pos.Raw.byteIdx offset
  have parts : spaces ++ (excerpt ++ trail) = front.toList ++ back.toList := by
    rw [← trimmed.parts, cut, String.toList_append]
  -- What stands in front of the position begins with the spaces, and what is left of it without
  -- them is a beginning of the excerpt.
  rcases exists_append_of_length_le parts (by omega) with ⟨before, front_eq, rest⟩
  rw [front_eq] at column
  have split := column
  rw [encode_append, List.length_append, width] at split
  rcases exists_append_of_length_le rest.symm (by omega) with ⟨remaining, rfl, -⟩
  rcases remaining with _ | ⟨pointed, after⟩
  · rw [List.append_nil] at within
    omega
  · exact ⟨before, pointed, after, rfl, column⟩

/-- Where the caret stands against the character `pointed`, which begins at the position of the
line: to its right, by the bytes that the characters in front of it in the excerpt take beyond
their first ones. -/
structure Strays (line : Line) (spaces excerpt : List Char) (shown pointing : String)
    (before : List Char) (pointed : Char) (after : List Char) : Prop where
  excerpt_eq : excerpt = before ++ pointed :: after
  column_eq : line.column = (encode (spaces ++ before)).length
  shown_at : shown.toList[shownColumn line before]? = some pointed
  caret_eq : caretColumn pointing = shownColumn line before + surplus before
  under_iff : caretColumn pointing = shownColumn line before ↔ ∀ c ∈ before, c.toNat < 128

/-- In front of the caret stand as many characters as the line number and its bar have, and one for
each byte between the start of the excerpt and the position. -/
theorem caretColumn_eq {line : Line} {before : List Char}
    (column : line.column = indent line + (encode before).length) :
    caretColumn (lead line ++ "^") = shownColumn line before + surplus before := by
  have bar : " | ".length = 3 := rfl
  rw [caretColumn_lead, toList_lead, column, Nat.add_sub_cancel_left, length_encode_eq,
    shownColumn]
  simp only [List.length_append, List.length_replicate, List.length_cons, List.length_nil,
    String.length_append, String.length_ofList, bar]
  omega

theorem getElem?_shownColumn (line : Line) (before after : List Char) (pointed : Char) :
    (line.number.repr ++ " | " ++
      String.ofList (before ++ pointed :: after)).toList[shownColumn line before]? =
        some pointed := by
  have front : (line.number.repr ++ " | " ++ String.ofList (before ++ pointed :: after)).toList =
      (line.number.repr ++ " | " ++ String.ofList before).toList ++ pointed :: after := by
    simp only [String.toList_append, String.toList_ofList, List.append_assoc]
  rw [front, shownColumn, ← String.length_toList, List.getElem?_append_right (Nat.le_refl _),
    Nat.sub_self, List.getElem?_cons_zero]

/-- For a position between two characters of the source that lies inside the excerpt, the caret
stands as many places to the right of the character there as the characters in front of it in
the excerpt have bytes beyond their first ones, and under it exactly if they have none. -/
theorem plain_caret_counts_bytes (d : Diagnostic) (file source : String) {span : Span}
    {line : Line} {spaces excerpt trail : List Char} (placed : d.span = some span)
    (boundary : String.Pos.Raw.IsValid source ⟨span.start⟩)
    (holds : line.Holds 1 (bytes source) span.start)
    (trimmed : Trimmed line.text.toList spaces excerpt trail)
    (behind : spaces.length ≤ line.column)
    (within : line.column < spaces.length + (encode excerpt).length) :
    ∃ shown pointing before pointed after,
      Points (plain d file source) d file source span.start line spaces excerpt trail shown
        pointing ∧
      Strays line spaces excerpt shown pointing before pointed after := by
  have points := points_of_line placed holds.at?_eq holds file
  rcases points.trimmed.unique trimmed with ⟨rfl, rfl, rfl⟩
  rcases exists_pointed trimmed (holds.isValid_column boundary) behind within with
    ⟨before, pointed, after, parts, column⟩
  have split := column
  rw [encode_append, List.length_append, trimmed.length_spaces] at split
  have caret := caretColumn_eq split
  refine ⟨_, _, before, pointed, after, points, parts, column, ?_, caret, ?_⟩
  · rw [points.shown_eq, parts]
    exact getElem?_shownColumn line before after pointed
  · rw [caret, ← surplus_eq_zero_iff]
    omega

/-- A position behind characters of two and of three bytes. -/
theorem plain_caret_counts_bytes_arrow :
    let source := "\n  é → y; \n"
    let d := Diagnostic.error (.unknownIdentifier "y") (some ⟨10, 11, "main"⟩)
    let line : Line := ⟨2, "  é → y; \n", 9⟩
    plain d "main" source =
      "error: Unknown identifier: y\n-> main\n  |\n2 | é → y;\n  | -------^\n" ∧
      ∃ shown pointing before pointed after,
        Points (plain d "main" source) d "main" source 10 line "  ".toList "é → y;".toList
          " \n".toList shown pointing ∧
        Strays line "  ".toList "é → y;".toList shown pointing before pointed after := by
  intro source d line
  have holds : line.Holds 1 (bytes source) 10 := by
    constructor <;> decide +kernel
  have last : isBlank ';' = false := by decide +kernel
  have trimmed : Trimmed line.text.toList "  ".toList "é → y;".toList " \n".toList :=
    { parts := by decide +kernel
      spaces_eq := by simp
      first_ne := by decide +kernel
      trail_blank := List.all_eq_true.mp (by decide +kernel)
      last_not_blank := by simpa using last }
  refine ⟨by decide +kernel, ?_⟩
  exact plain_caret_counts_bytes d "main" source rfl (by decide +kernel) holds trimmed
    (by decide +kernel) (by decide +kernel)

/-- Behind a character of two bytes the caret does not stand under the reported character. -/
theorem plain_caret_misses :
    let source := "const s = \"é\" + y;\n"
    let d := Diagnostic.error (.unknownIdentifier "y") (some ⟨17, 18, "main"⟩)
    let shown := "1 | const s = \"é\" + y;"
    let pointing := "  | -----------------^"
    String.Pos.Raw.IsValid source ⟨17⟩ ∧ String.Pos.Raw.get source ⟨17⟩ = 'y' ∧
      plain d "main" source = "error: Unknown identifier: y\n-> main\n  |\n" ++
        (shown ++ "\n") ++ (pointing ++ "\n") ∧
      shown.toList.idxOf 'y' = 20 ∧ pointing.toList.idxOf '^' = 21 := by
  decide +kernel

end Report

end ModuleCheck
