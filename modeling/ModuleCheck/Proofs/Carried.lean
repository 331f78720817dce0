import Mathlib.Data.List.Forall2
import ModuleCheck.Environment
import ModuleCheck.Proofs.Relabel

namespace ModuleCheck

/-!
Relabelled scopes.

When the names of a scope are renamed and the spans of its entries moved, what is found under
the new names is what was found under the old ones, and declarations and changes keep it so.
Names are only compared with each other, so it is enough that a renaming is injective.
-/

namespace Relabelling

variable {l : Relabelling}

/-! Scopes. -/

def binding (l : Relabelling) (b : Binding) : Binding := { b with span := b.span.map l.spans }

/-- An entry of a scope under its new name. -/
def entry (l : Relabelling) (e : String × Binding) : String × Binding :=
  (l.names e.1, l.binding e.2)

/-- The second scope holds the entries of the first one, relabelled and in the same order. -/
def Carries (l : Relabelling) (scope scope' : Scope) : Prop :=
  scope'.toList = scope.toList.map l.entry

namespace Carries

variable {scope scope' : Scope}

theorem empty : l.Carries Table.empty Table.empty := rfl

theorem get? (carried : l.Carries scope scope') (name : String) :
    scope'.get? (l.names name) = (scope.get? name).map l.binding := by
  apply Option.ext
  intro binding
  rw [Table.get?_eq_some_iff, carried, Option.map_eq_some_iff, List.mem_map]
  constructor
  · rintro ⟨⟨stored, held⟩, member, image⟩
    rcases Prod.mk.inj image with ⟨sameName, sameBinding⟩
    have same : stored = name := l.names.injective sameName
    subst same
    exact ⟨held, (scope.get?_eq_some_iff _ _).mpr member, sameBinding⟩
  · rintro ⟨held, found, rfl⟩
    exact ⟨(name, held), (scope.get?_eq_some_iff _ _).mp found, rfl⟩

theorem contains (carried : l.Carries scope scope') (name : String) :
    scope'.contains (l.names name) = scope.contains name := by
  rw [← Table.isSome_get?, carried.get?, Option.isSome_map, Table.isSome_get?]

theorem insert (carried : l.Carries scope scope') (name : String) (binding : Binding) :
    l.Carries (scope.insert name binding)
      (scope'.insert (l.names name) (l.binding binding)) := by
  have renamed := carried.contains name
  unfold Carries at *
  cases stored : scope.contains name with
  | false =>
    rw [stored] at renamed
    rw [Table.toList_insert_of_not_contains _ _ _ renamed,
      Table.toList_insert_of_not_contains _ _ _ stored, carried, List.map_append]
    rfl
  | true =>
    rw [stored] at renamed
    rw [Table.toList_insert_of_contains _ _ _ renamed,
      Table.toList_insert_of_contains _ _ _ stored, carried, List.map_map, List.map_map]
    apply List.map_congr_left
    intro e _
    by_cases named : e.1 = name <;> simp [entry, named]

theorem modify (carried : l.Carries scope scope') (name : String) {f : Binding → Binding}
    (moves : ∀ binding, f (l.binding binding) = l.binding (f binding)) :
    l.Carries (scope.modify name f) (scope'.modify (l.names name) f) := by
  unfold Carries at *
  rw [Table.toList_modify, Table.toList_modify, carried, List.map_map, List.map_map]
  apply List.map_congr_left
  intro e _
  by_cases named : e.1 = name <;> simp [entry, named, moves]

end Carries

/-! Environments. -/

/-- The scopes of the second environment are those of the first one, relabelled. -/
structure CarriesAll (l : Relabelling) (env env' : Environment) : Prop where
  current : l.Carries env.current env'.current
  outer : List.Forall₂ l.Carries env.outer env'.outer

namespace CarriesAll

variable {env env' : Environment}

theorem empty : l.CarriesAll Environment.empty Environment.empty := ⟨.empty, .nil⟩

theorem scopes (carried : l.CarriesAll env env') :
    List.Forall₂ l.Carries env.scopes env'.scopes :=
  .cons carried.current carried.outer

theorem global (carried : l.CarriesAll env env') : l.Carries env.global env'.global := by
  rcases env with ⟨current, outer⟩
  rcases env' with ⟨current', outer'⟩
  rcases carried with ⟨first, others⟩
  unfold Environment.global
  dsimp only at *
  induction others generalizing current current' with
  | nil => exact first
  | cons next _ ih =>
    rw [List.getLastD_cons, List.getLastD_cons]
    exact ih _ _ next

theorem lookup? (carried : l.CarriesAll env env') (name : String) :
    env'.lookup? (l.names name) = (env.lookup? name).map l.binding := by
  unfold Environment.lookup?
  have related := carried.scopes
  generalize env.scopes = scopes, env'.scopes = scopes' at related
  induction related with
  | nil => rfl
  | @cons scope scope' _ _ first _ ih =>
    rw [List.findSome?_cons, List.findSome?_cons, first.get?, ih]
    cases scope.get? name <;> rfl

theorem push (carried : l.CarriesAll env env') : l.CarriesAll env.push env'.push :=
  ⟨.empty, carried.scopes⟩

theorem declare (carried : l.CarriesAll env env') (name : String) (binding : Binding) :
    l.CarriesAll (env.declare name binding)
      (env'.declare (l.names name) (l.binding binding)) :=
  ⟨carried.current.insert name binding, carried.outer⟩

theorem modifyCurrent (carried : l.CarriesAll env env') (name : String) {f : Binding → Binding}
    (moves : ∀ binding, f (l.binding binding) = l.binding (f binding)) :
    l.CarriesAll (env.modifyCurrent name f) (env'.modifyCurrent (l.names name) f) :=
  ⟨carried.current.modify name moves, carried.outer⟩

theorem modify (carried : l.CarriesAll env env') (name : String) {f : Binding → Binding}
    (moves : ∀ binding, f (l.binding binding) = l.binding (f binding)) :
    l.CarriesAll (env.modify name f) (env'.modify (l.names name) f) := by
  unfold Environment.modify
  rw [carried.current.contains]
  split
  · exact carried.modifyCurrent name moves
  · refine ⟨carried.current, ?_⟩
    have related := carried.outer
    generalize env.outer = scopes, env'.outer = scopes' at related
    induction related with
    | nil => exact .nil
    | cons first others ih =>
      unfold Environment.modifyFirst
      rw [first.contains]
      split
      · exact .cons (first.modify name moves) others
      · exact .cons first ih

end CarriesAll

/-! The identity. -/

@[simp]
theorem binding_identity (b : Binding) : identity.binding b = b := by
  simp [binding, identity]

@[simp]
theorem entry_identity (e : String × Binding) : identity.entry e = e := by
  simp [entry]

/-- A scope that is carried along without new labels stays the same. -/
theorem Carries.eq_of_identity {scope scope' : Scope} (carried : identity.Carries scope scope') :
    scope' = scope :=
  Table.ext_toList (carried.trans (map_identity entry_identity scope.toList))

end Relabelling

end ModuleCheck
