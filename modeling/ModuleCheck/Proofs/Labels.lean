import Mathlib.Logic.Equiv.Basic
import ModuleCheck.Proofs.Lockstep

namespace ModuleCheck

/-!
Spans and the names of values are labels.

A check hands the spans of the tree on to its reports and to the entries of its scopes, and
never looks at one; no report lacks a span.  It compares names of values with each other and
asks whether they are ignored, and nothing else, so that a renaming which keeps both is not
noticed: the kinds of the reports, their places and the types in scope stay as they are.
-/

namespace Diagnostic

/-- The diagnostic at its new place. -/
def moveSpan (move : Span → Span) (d : Diagnostic) : Diagnostic :=
  { d with span := d.span.map move }

/-- What a diagnostic says apart from the names and texts that its message quotes. -/
def headline (d : Diagnostic) : Level × String × Option Span := (d.level, d.issue.kind, d.span)

end Diagnostic

/-! Moved spans. -/

namespace Relabelling

/-- Moves spans and keeps names. -/
def ofSpans (move : Span → Span) : Relabelling := ⟨move, .refl String⟩

end Relabelling

namespace Scope

theorem entryReports_ofSpans (move : Span → Span) (options : Options) (topLevel : Bool)
    (name : String) (binding : Binding) :
    entryReports options topLevel (name, (Relabelling.ofSpans move).binding binding) =
      (entryReports options topLevel (name, binding)).map (Diagnostic.moveSpan move) := by
  unfold entryReports
  rw [apply_ite (List.map (Diagnostic.moveSpan move))]
  cases topLevel <;> rfl

theorem span_of_mem_entryReports {options : Options} {topLevel : Bool}
    {entry : String × Binding} {d : Diagnostic}
    (reported : d ∈ entryReports options topLevel entry) : d.span = entry.2.span := by
  unfold entryReports at reported
  split at reported
  · rw [List.mem_singleton.mp reported]
    cases topLevel <;> rfl
  · cases reported

end Scope

namespace Correspondence

/-- The reports on a module whose spans are moved. -/
def moved (move : Span → Span) (options : Options) :
    Correspondence (.ofSpans move) options options where
  Reports ds ds' := ds' = ds.map (Diagnostic.moveSpan move) ∧ ∀ d ∈ ds, d.span.isSome = true
  nil := ⟨rfl, fun _ member => by cases member⟩
  append := by
    rintro ds _ es _ ⟨rfl, first⟩ ⟨rfl, second⟩
    exact ⟨List.map_append.symm, List.forall_mem_append.mpr ⟨first, second⟩⟩
  error := by
    intro issue issue' span renamed
    have same : issue' = issue := renamed.eq_of_id
    rw [same]
    constructor
    · rfl
    · exact List.forall_mem_singleton.mpr rfl
  reserved := by
    intro struct field span
    cases options.isReserved field with
    | true => exact ⟨rfl, List.forall_mem_singleton.mpr rfl⟩
    | false => exact ⟨rfl, fun _ member => by cases member⟩
  unused := by
    intro topLevel name binding spanned
    constructor
    · exact Scope.entryReports_ofSpans move options topLevel name binding
    · intro d reported
      rw [Scope.span_of_mem_entryReports reported]
      exact spanned

end Correspondence

namespace Module

/-- The module with all spans of its tree moved. -/
def moveSpans (move : Span → Span) (m : Module) : Module := (Relabelling.ofSpans move).module m

/-- Spans are only carried along, and none is lost.  The reports on a module with moved spans
are the reports on the module, moved; so is its global scope; and every report has a span. -/
theorem check_moveSpans (m : Module) (options : Options) (move : Span → Span) :
    (m.moveSpans move).check options = (m.check options).map (Diagnostic.moveSpan move) ∧
      ((m.moveSpans move).checked options).environment.global =
        (m.checked options).environment.global.map
          (fun binding => { binding with span := binding.span.map move }) ∧
      ∀ d ∈ m.check options, d.span.isSome = true := by
  have paired := (Correspondence.moved move options).state_checked m
  refine ⟨paired.reports.1, Table.ext_toList ?_, paired.reports.2⟩
  rw [Table.toList_map]
  exact paired.environment.global

/-- An unknown name and an unused local, ten bytes later. -/
theorem check_moveSpans_later :
    let m : Module := ⟨[.function ⟨"f", [⟨"x", none, ⟨6, 7, "a"⟩⟩], none, true, ⟨0, 20, "a"⟩⟩
      ⟨[.print false [.identifier "y" ⟨12, 13, "a"⟩] ⟨11, 14, "a"⟩], ⟨9, 20, "a"⟩⟩]⟩
    let later (span : Span) : Span := { span with start := span.start + 10, stop := span.stop + 10 }
    (m.moveSpans later).check {} =
        [.error (.unknownIdentifier "y") (some ⟨22, 23, "a"⟩),
          .error (.unusedVariable "x") (some ⟨16, 17, "a"⟩)] ∧
      Diagnostic.error (.unusedVariable "x") (some ⟨6, 7, "a"⟩) ∈ m.check {} ∧
      (Diagnostic.error (.unusedVariable "x") (some ⟨6, 7, "a"⟩)).span.isSome = true := by
  intro m later
  have member : Diagnostic.error (.unusedVariable "x") (some ⟨6, 7, "a"⟩) ∈ m.check {} := by
    decide +kernel
  have all := check_moveSpans m {} later
  exact ⟨all.1.trans (by decide +kernel), member, all.2.2 _ member⟩

end Module

/-! Renamed values. -/

namespace Relabelling

/-- Renames values and keeps spans. -/
def ofNames (names : String ↪ String) : Relabelling := ⟨id, names⟩

theorem binding_ofNames (names : String ↪ String) (b : Binding) :
    (ofNames names).binding b = b := by
  simp [binding, ofNames]

end Relabelling

namespace Correspondence

/-- The reports on a module with renamed values. -/
def renamed {options : Options} {names : String ↪ String}
    (kept : ∀ name, options.isIgnored (names name) = options.isIgnored name) :
    Correspondence (.ofNames names) options options where
  Reports ds ds' := ds'.map Diagnostic.headline = ds.map Diagnostic.headline
  nil := rfl
  append := by
    intro ds ds' es es' first second
    rw [List.map_append, List.map_append, first, second]
  error := by
    intro issue issue' span renamed
    have same := renamed.kind_eq
    simp [Diagnostic.headline, Diagnostic.error, Relabelling.ofNames, same]
  reserved := fun _ _ _ => rfl
  unused := by
    intro topLevel name binding _
    have ignored : options.isIgnored ((Relabelling.ofNames names).names name) =
        options.isIgnored name := kept name
    rw [Relabelling.binding_ofNames]
    unfold Scope.entryReports
    rw [ignored]
    split
    · cases topLevel <;> rfl
    · rfl

end Correspondence

namespace Module

/-- The module with its values renamed: identifiers, variables, functions, parameters, imports
and what patterns bind. -/
def rename (names : String ↪ String) (m : Module) : Module := (Relabelling.ofNames names).module m

/-- A check does not notice an injective renaming of values that keeps ignored names ignored
and the others not.  The reports have the same levels, kinds and spans in the same order, and
the global scope has the same entries in the same order, under their new names. -/
theorem check_rename (m : Module) (options : Options) (names : String ↪ String)
    (kept : ∀ name, options.isIgnored (names name) = options.isIgnored name) :
    ((m.rename names).check options).length = (m.check options).length ∧
      ((m.rename names).check options).map Diagnostic.headline =
        (m.check options).map Diagnostic.headline ∧
      ((m.rename names).checked options).environment.global.toList =
        (m.checked options).environment.global.toList.map
          (fun entry => (names entry.1, entry.2)) := by
  have paired := (Correspondence.renamed kept).state_checked m
  have headlines : ((m.rename names).check options).map Diagnostic.headline =
      (m.check options).map Diagnostic.headline := paired.reports
  have length := congrArg List.length headlines
  rw [List.length_map, List.length_map] at length
  refine ⟨length, headlines, paired.environment.global.trans ?_⟩
  apply List.map_congr_left
  intro entry _
  exact Prod.ext rfl (Relabelling.binding_ofNames names entry.2)

/-- Two names that are swapped, one of which is unknown and the other one unused. -/
theorem check_rename_swap :
    let s := Span.null
    let names : String ↪ String := (Equiv.swap "x" "y").toEmbedding
    let m : Module := ⟨[.var ⟨"x", false, none, .int 1 s, false, s⟩,
      .var ⟨"z", false, none, .identifier "y" s, true, s⟩]⟩
    (∀ name, Options.isIgnored {} (names name) = Options.isIgnored {} name) ∧
      ((m.rename names).check {}).length = (m.check {}).length ∧
      ((m.rename names).check {}).map Diagnostic.headline =
        [(.error, "UnknownIdentifier", some s), (.warn, "UnusedTopLevel", some s)] ∧
      ((m.rename names).checked {}).environment.global.keys = ["y", "z"] := by
  intro s names m
  have kept : ∀ name, Options.isIgnored {} (names name) = Options.isIgnored {} name := by
    intro name
    change Options.isIgnored {} (Equiv.swap "x" "y" name) = _
    rw [Equiv.swap_apply_def]
    split
    · subst name
      decide +kernel
    · split
      · subst name
        decide +kernel
      · rfl
  rcases check_rename m {} names kept with ⟨length, headlines, global⟩
  refine ⟨kept, length, headlines.trans (by decide +kernel), ?_⟩
  unfold Table.keys
  rw [global]
  decide +kernel

end Module

end ModuleCheck
