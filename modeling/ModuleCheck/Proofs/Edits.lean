import Mathlib.Data.Finset.Card
import ModuleCheck.Proofs.Growth

namespace ModuleCheck

/-!
Scopes as a summary of what was stored in them.

A scope keeps its entries in an array and, beside it, an index of the places where they stand.
Here the insertions and updates that lead to a scope are kept as data.  From them alone one can
tell which names the scope lists, in which order, and what it holds for each of them; what the
array lists, what the index leads to and what a look-up answers are all that.
-/

namespace Scope

/-- A change of a scope: a binding is stored, or the one that is stored is replaced. -/
inductive Edit where
  | insert (name : String) (binding : Binding)
  | update (name : String) (change : Binding → Binding)

namespace Edit

def apply (scope : Scope) : Edit → Scope
  | insert name binding => scope.insert name binding
  | update name change => scope.modify name change

/-- The name under which a binding is stored. -/
def inserted? : Edit → Option String
  | insert name _ => some name
  | update _ _ => none

/-- What becomes of a binding stored under a name, unless it is stored anew. -/
def replace (name : String) : Edit → Binding → Binding
  | insert _ _, held => held
  | update other change, held => if other = name then change held else held

end Edit

/-- The fresh scope after the edits, which are made in the order of the list. -/
def edited (edits : List Edit) : Scope := edits.foldl Edit.apply Table.empty

/-- The names that the edits insert, in order and as often as they are inserted. -/
def inserted (edits : List Edit) : List String := edits.filterMap Edit.inserted?

/-- The binding that the edits leave under a name: the one inserted last, after all that the
later updates made of it. -/
def Leaves (edits : List Edit) (name : String) (binding : Binding) : Prop :=
  ∃ past stored since, edits = past ++ Edit.insert name stored :: since ∧
    name ∉ inserted since ∧
    binding = since.foldl (fun held edit => edit.replace name held) stored

/-! What one more edit leaves. -/

theorem edited_append (edits : List Edit) (edit : Edit) :
    edited (edits ++ [edit]) = edit.apply (edited edits) := by
  simp [edited]

theorem inserted_append (edits more : List Edit) :
    inserted (edits ++ more) = inserted edits ++ inserted more := List.filterMap_append

theorem leaves_nil (name : String) (binding : Binding) : ¬ Leaves [] name binding := by
  rintro ⟨past, stored, since, parts, -⟩
  simp at parts

/-- The last edit either inserts the name, or comes after the last insertion of the name and is
perhaps an update of it. -/
theorem leaves_append (edits : List Edit) (edit : Edit) (name : String) (binding : Binding) :
    Leaves (edits ++ [edit]) name binding ↔
      edit = .insert name binding ∨
        edit.inserted? ≠ some name ∧
          ∃ held, Leaves edits name held ∧ binding = edit.replace name held := by
  constructor
  · rintro ⟨past, stored, since, parts, last, rfl⟩
    -- The added edit is the last insertion itself, or the last one of those that follow it.
    rcases List.eq_nil_or_concat' since with rfl | ⟨before, final, rfl⟩
    · exact Or.inl (List.append_singleton_inj.mp parts).2
    · rw [← List.cons_append, ← List.append_assoc, List.append_singleton_inj] at parts
      rcases parts with ⟨rfl, rfl⟩
      rw [inserted_append, List.mem_append, not_or] at last
      refine Or.inr ⟨fun same => last.2 (by simp [inserted, same]), _,
        ⟨past, stored, before, rfl, last.1, rfl⟩, ?_⟩
      rw [List.foldl_append, List.foldl_cons, List.foldl_nil]
  · rintro (rfl | ⟨other, held, ⟨past, stored, since, rfl, last, rfl⟩, rfl⟩)
    · exact ⟨edits, binding, [], rfl, List.not_mem_nil, rfl⟩
    · refine ⟨past, stored, since ++ [edit], by simp, ?_, ?_⟩
      · rw [inserted_append, List.mem_append, not_or]
        exact ⟨last, by simpa [inserted, eq_comm] using other⟩
      · rw [List.foldl_append, List.foldl_cons, List.foldl_nil]

/-! A scope and the edits that led to it. -/

/-- The scope lists the inserted names in the order of their first insertion and holds what the
edits leave under each of them. -/
structure Records (edits : List Edit) (scope : Scope) : Prop where
  keys_eq : scope.keys = (inserted edits).eraseDups
  get?_iff : ∀ name binding, scope.get? name = some binding ↔ Leaves edits name binding

namespace Records

variable {edits : List Edit} {scope : Scope}

theorem insert (records : Records edits scope) (name : String) (binding : Binding) :
    Records (edits ++ [.insert name binding]) (scope.insert name binding) where
  keys_eq := by
    have grown := (Grows.insert scope name binding).keys_eraseDups records.keys_eq
    rw [grown, inserted_append]
    rfl
  get?_iff := by
    intro other held
    rw [Table.get?_insert, leaves_append]
    by_cases same : other = name
    · subst same
      simp [Edit.inserted?]
    · simp [Edit.inserted?, Edit.replace, same, Ne.symm same, records.get?_iff]

theorem update (records : Records edits scope) (name : String) (change : Binding → Binding) :
    Records (edits ++ [.update name change]) (scope.modify name change) where
  keys_eq := by
    rw [Table.keys_modify, records.keys_eq, inserted_append]
    exact congrArg List.eraseDups (List.append_nil _).symm
  get?_iff := by
    intro other held
    rw [Table.get?_modify, leaves_append]
    by_cases same : other = name
    · subst same
      simp [Edit.inserted?, Edit.replace, records.get?_iff, eq_comm]
    · simp [Edit.inserted?, Edit.replace, same, Ne.symm same, records.get?_iff]

theorem apply (records : Records edits scope) (edit : Edit) :
    Records (edits ++ [edit]) (edit.apply scope) := by
  cases edit with
  | insert name binding => exact records.insert name binding
  | update name change => exact records.update name change

end Records

theorem records_edited (edits : List Edit) : Records edits (edited edits) := by
  induction edits using List.reverseRecOn with
  | nil =>
    constructor
    · rfl
    · intro name binding
      simp [edited, leaves_nil]
  | append_singleton edits edit ih =>
    rw [edited_append]
    exact ih.apply edit

/-- The number of names that are listed is the number of different names inserted. -/
theorem Records.size_eq {edits : List Edit} {scope : Scope} (records : Records edits scope) :
    scope.size = (inserted edits).toFinset.card := by
  have same : scope.keys.toFinset = (inserted edits).toFinset := by
    ext name
    rw [List.mem_toFinset, List.mem_toFinset, records.keys_eq, List.mem_eraseDups]
  calc scope.size = scope.keys.length := by simp [Table.size, Table.keys, Table.toList]
    _ = scope.keys.toFinset.card := (List.toFinset_card_of_nodup scope.keys_nodup).symm
    _ = (inserted edits).toFinset.card := by rw [same]

/-- The scope is a map in the order of insertion, of the bindings that the edits leave. -/
structure Ordered (edits : List Edit) (scope : Scope) : Prop where
  /-- The index leads from a name to the place of its entry. -/
  index_iff : ∀ (name : String) (i : Nat),
    scope.index[name]? = some i ↔ ∃ binding, scope.toList[i]? = some (name, binding)
  /-- The index has the inserted names and no other ones. -/
  mem_index : ∀ name, name ∈ scope.index ↔ name ∈ inserted edits
  /-- No name has two entries. -/
  once : scope.keys.Nodup
  /-- The names stand in the order of their first insertion. -/
  keys_eq : scope.keys = (inserted edits).eraseDups
  /-- Each entry holds what was last inserted or made of it. -/
  mem_iff : ∀ name binding, (name, binding) ∈ scope.toList ↔ Leaves edits name binding
  get?_eq : ∀ name, scope.get? name = scope.toList.lookup name
  contains_eq : ∀ name, scope.contains name = (scope.toList.lookup name).isSome
  /-- An update reaches the entry that is listed under the name, and no other one. -/
  modify_eq : ∀ name change, (scope.modify name change).toList =
    scope.toList.map fun entry => if entry.1 = name then (entry.1, change entry.2) else entry
  size_eq : scope.size = (inserted edits).toFinset.card

/-- Whatever is inserted and updated, a scope stays a map in the order of insertion. -/
theorem ordered_edited (edits : List Edit) : Ordered edits (edited edits) := by
  have records := records_edited edits
  constructor
  · exact (edited edits).index_eq_some_iff
  · intro name
    rw [Table.mem_index, records.keys_eq, List.mem_eraseDups]
  · exact (edited edits).keys_nodup
  · exact records.keys_eq
  · intro name binding
    rw [← Table.get?_eq_some_iff, records.get?_iff]
  · exact (edited edits).get?_eq_lookup
  · intro name
    rw [← Table.isSome_get?, Table.get?_eq_lookup]
  · exact (edited edits).toList_modify
  · exact records.size_eq

/-- A name keeps its place when it is stored anew, and an update of a name without an entry stores
nothing. -/
example :
    let int := Binding.declared .int .inner none
    let bool := Binding.declared .bool .inner none
    (edited [.insert "b" int, .insert "a" int, .update "b" Binding.markUsed, .insert "a" bool,
      .update "c" Binding.markUsed]).toList = [("b", int.markUsed), ("a", bool)] := by
  decide +kernel

end Scope

end ModuleCheck
