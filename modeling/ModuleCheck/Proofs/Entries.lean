import ModuleCheck.Proofs.Bindings
import ModuleCheck.Proofs.Marks
import ModuleCheck.Proofs.NameReports

namespace ModuleCheck

/-!
What a scope knows of its names at its end, and what it reports on them.

The entry of a name carries a mark if the name was used.  A scope whose marks are those of the
occurrences that resolve to its names reports exactly on the declarations that nothing resolves
to.
-/

namespace Declaration

/-- Nothing resolves to the declaration, and it is not exported. -/
def isUnused (d : Declaration) : Bool := d.uses.isEmpty && !d.binder.exported

/-- The report on a declaration that is not used. -/
def report (d : Declaration) : Diagnostic :=
  if d.binder.topLevel then .warn (.unusedTopLevel d.binder.name) (some d.binder.span)
  else .error (.unusedVariable d.binder.name) (some d.binder.span)

end Declaration

/-- What a scope knows of a name apart from its type. -/
structure Entry where
  name : String
  used : Bool
  topLevel : Bool
  span : Option Span

namespace Entry

/-- The entry after uses of the given names. -/
def mark (names : List String) (e : Entry) : Entry :=
  if e.name ∈ names then { e with used := true } else e

theorem mark_congr {names names' : List String} {e : Entry}
    (same : e.name ∈ names ↔ e.name ∈ names') : e.mark names = e.mark names' := by
  simp only [mark, same]

theorem mark_mark (names names' : List String) (e : Entry) :
    (e.mark names).mark names' = e.mark (names ++ names') := by
  unfold mark
  by_cases first : e.name ∈ names <;> by_cases later : e.name ∈ names' <;> simp [first, later]

theorem mark_nil : mark [] = id := by
  funext e
  simp [mark]

end Entry

namespace Binder

/-- The entry of a name. -/
def entry (used : Bool) (b : Binder) : Entry := ⟨b.name, used, b.topLevel, some b.span⟩

theorem mark_entry (names : List String) (used : Bool) (b : Binder) :
    (b.entry used).mark names = b.entry (used || b.name ∈ names) := by
  by_cases named : b.name ∈ names <;> simp [Entry.mark, entry, named]

/-- The entry of a name that was just declared; an exported one counts as used. -/
def fresh (b : Binder) : Entry := b.entry b.exported

end Binder

namespace Declaration

/-- The entry of a name at the end of its scope. -/
def entry (d : Declaration) : Entry := d.binder.entry (d.binder.exported || !d.uses.isEmpty)

end Declaration

/-- The uses of a name in the stretch where it is visible leave their mark. -/
theorem Binder.entry_inRegion (region : List Occurrence) (b : Binder) :
    (b.inRegion region).entry = b.fresh.mark (region.map Occurrence.name) := by
  have marked : (!(region.filter fun o => o.name = b.name).isEmpty) =
      decide (b.name ∈ region.map Occurrence.name) := by
    rw [Bool.eq_iff_iff]
    simp [List.filter_eq_nil_iff]
  rw [fresh, mark_entry, Declaration.entry, inRegion, marked]

theorem entries_inRegion (region : List Occurrence) (binders : List Binder) :
    (binders.map (Binder.inRegion region)).map Declaration.entry =
      (binders.map Binder.fresh).map (Entry.mark (region.map Occurrence.name)) := by
  simp [Binder.entry_inRegion]

/-- The entry of a name with the given binding. -/
def Binding.entry (name : String) (b : Binding) : Entry := ⟨name, b.used, b.topLevel, b.span⟩

namespace Scope

/-- The names of a scope, in order, without their types. -/
def entries (scope : Scope) : List Entry :=
  scope.toList.map fun entry => entry.2.entry entry.1

theorem map_name_entries (scope : Scope) : (entries scope).map Entry.name = scope.keys := by
  simp [entries, Table.keys, Binding.entry, Function.comp_def]

theorem entries_markAll (names : List String) (scope : Scope) :
    entries (markAll names scope) = (entries scope).map (Entry.mark names) := by
  simp only [entries, toList_markAll, List.map_map]
  refine List.map_congr_left fun entry _ => ?_
  by_cases used : entry.1 ∈ names <;> simp [Entry.mark, Binding.entry, used, Binding.markUsed]

theorem entries_insert {scope : Scope} {name : String} (absent : scope.contains name = false)
    (binding : Binding) :
    entries (scope.insert name binding) =
      entries scope ++ [binding.entry name] := by
  simp [entries, Table.toList_insert_of_not_contains scope name binding absent]

/-- A change that keeps the mark, the level and the place of a name. -/
theorem entries_modify (scope : Scope) (name : String) {f : Binding → Binding}
    (same : ∀ name b, (f b).entry name = b.entry name) :
    entries (scope.modify name f) = entries scope := by
  simp only [entries, Table.toList_modify, List.map_map]
  refine List.map_congr_left fun entry _ => ?_
  by_cases named : entry.1 = name <;> simp [named, same]

/-- Storing a name again with the mark, the level and the place that it has. -/
theorem entries_insert_again {scope : Scope} {binding : Binding} {name : String}
    (stored : binding.entry name ∈ entries scope) :
    entries (scope.insert name binding) = entries scope := by
  rcases List.mem_map.mp stored with ⟨⟨key, old⟩, member, same⟩
  have named : key = name := congrArg Entry.name same
  subst named
  have found := (scope.get?_eq_some_iff key old).mpr member
  have held : scope.contains key = true := by rw [← Table.isSome_get?, found]; rfl
  simp only [entries, Table.toList_insert_of_contains scope key binding held, List.map_map]
  refine List.map_congr_left fun entry inside => ?_
  by_cases named : entry.1 = key
  · have again := (scope.get?_eq_some_iff entry.1 entry.2).mpr inside
    rw [named, found, Option.some.injEq] at again
    simp [named, ← again, same]
  · simp [named]

theorem any_used_of_mem {scope : Scope} {e : Entry} (stored : e ∈ entries scope) :
    (scope.get? e.name).any Binding.used = e.used := by
  rcases List.mem_map.mp stored with ⟨⟨name, binding⟩, member, rfl⟩
  simp [Binding.entry, (scope.get?_eq_some_iff name binding).mpr member]

end Scope

namespace Declaration

/-- The reports on those of the declarations that are not used and not ignored. -/
def reports (options : Options) (ds : List Declaration) : List Diagnostic :=
  (ds.filter fun d => d.isUnused && !options.isIgnored d.binder.name).map report

/-- The reports on local declarations, if they are asked for. -/
def localReports (options : Options) (ds : List Declaration) : List Diagnostic :=
  if options.reportUnusedLocals then reports options ds else []

theorem reports_append (options : Options) (first second : List Declaration) :
    reports options (first ++ second) = reports options first ++ reports options second := by
  simp [reports]

theorem localReports_append (options : Options) (first second : List Declaration) :
    localReports options (first ++ second) =
      localReports options first ++ localReports options second := by
  unfold localReports
  split
  · exact reports_append options first second
  · rfl

/-- All of the reports are on unused names, whether they are asked for or not. -/
theorem unusedNames_reports (asked : Bool) (options : Options) (ds : List Declaration) :
    Diagnostic.unusedNames (if asked then reports options ds else []) =
      if asked then reports options ds else [] := by
  refine List.filter_eq_self.mpr fun reported member => ?_
  have among : reported ∈ reports options ds := by
    cases asked with
    | true => exact member
    | false => cases member
  rcases List.mem_map.mp among with ⟨d, _, rfl⟩
  unfold report
  split <;> rfl

end Declaration

namespace Scope

open Declaration

/-- The names without a mark at the end of a scope are those that nothing resolves to. -/
theorem map_unused {scope : Scope} {ds : List Declaration} {topLevel : Bool}
    (known : entries scope = ds.map Declaration.entry)
    (level : ∀ d ∈ ds, d.binder.topLevel = topLevel) (options : Options)
    (issue : String → Option Span → Diagnostic)
    (shape : ∀ d ∈ ds, d.report = issue d.binder.name (some d.binder.span)) :
    (unused options topLevel scope).map (fun entry => issue entry.1 entry.2.span) =
      reports options ds := by
  have seen : (unused options topLevel scope).map (fun entry => issue entry.1 entry.2.span) =
      ((entries scope).filter fun e =>
        !e.used && e.topLevel == topLevel && !options.isIgnored e.name).map fun e =>
          issue e.name e.span := by
    simp [unused, entries, Binding.entry, List.filter_map, Function.comp_def]
  have kept : ∀ d ∈ ds, (!d.entry.used && d.entry.topLevel == topLevel &&
      !options.isIgnored d.entry.name) = (d.isUnused && !options.isIgnored d.binder.name) := by
    intro d member
    simp [Declaration.entry, Binder.entry, isUnused, level d member, Bool.and_comm]
  rw [seen, known, List.filter_map, List.map_map, reports, ← List.filter_congr kept]
  exact List.map_congr_left fun d member => (shape d (List.mem_of_mem_filter member)).symm

/-- A scope at its end reports on the local declarations that nothing resolves to. -/
theorem unusedLocals_of_entries {scope : Scope} {ds : List Declaration}
    (known : entries scope = ds.map Declaration.entry)
    (inner : ∀ d ∈ ds, d.binder.topLevel = false) (options : Options) :
    unusedLocals options scope = localReports options ds := by
  have seen := map_unused known inner options
    (fun name span => .error (.unusedVariable name) span) fun d member => by
      simp [report, inner d member]
  rw [unusedLocals, localReports, seen]

theorem unusedTopLevel_of_entries {scope : Scope} {ds : List Declaration}
    (known : entries scope = ds.map Declaration.entry)
    (outer : ∀ d ∈ ds, d.binder.topLevel = true) (options : Options) :
    unusedTopLevel options scope =
      if options.warnUnusedTopLevel then reports options ds else [] := by
  have seen := map_unused known outer options
    (fun name span => .warn (.unusedTopLevel name) span) fun d member => by
      simp [report, outer d member]
  rw [unusedTopLevel, seen]

/-- The names of a module are not local. -/
theorem unusedLocals_eq_nil {scope : Scope} {ds : List Declaration}
    (known : entries scope = ds.map Declaration.entry)
    (outer : ∀ d ∈ ds, d.binder.topLevel = true) (options : Options) :
    unusedLocals options scope = [] := by
  have level : ∀ e ∈ entries scope, e.topLevel = true := by
    rw [known]
    exact List.forall_mem_map.mpr outer
  have nothing : unused options false scope = [] := by
    refine List.filter_eq_nil_iff.mpr fun entry member => ?_
    have high : entry.2.topLevel = true := level _ (List.mem_map_of_mem member)
    simp [high]
  simp [unusedLocals, nothing]

end Scope

end ModuleCheck
