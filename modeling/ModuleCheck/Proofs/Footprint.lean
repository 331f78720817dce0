import ModuleCheck.Proofs.Frame

namespace ModuleCheck

/-!
The footprint of a visit, entry by entry.

The frame of a visit is given by what look-ups find.  Here it is given by the entries of the
scopes in their order: which of them may be marked, which may be replaced, and which are added
at the end.
-/

open Check

namespace Table

variable {α : Type}

/-- If the names of a table stand in front of those of another one, the entries match by name. -/
theorem forall₂_toList_take {t u : Table α} {fresh : List String}
    (keys : u.keys = t.keys ++ fresh) :
    List.Forall₂ (fun before behind => behind.1 = before.1 ∧ t.get? before.1 = some before.2 ∧
        u.get? before.1 = some behind.2)
      t.toList (u.toList.take t.toList.length) := by
  have sameLength : u.toList.length = t.toList.length + fresh.length := by
    simpa [Table.keys] using congrArg List.length keys
  refine List.forall₂_iff_get.mpr ⟨by rw [List.length_take]; omega, ?_⟩
  intro i inside insideTake
  have insideNew : i < u.toList.length := by omega
  have named : u.toList[i].1 = t.toList[i].1 := by
    have atIndex : u.keys[i]? = t.keys[i]? := by
      rw [keys, List.getElem?_append_left (by simpa [Table.keys] using inside)]
    simpa [Table.keys, inside, insideNew] using atIndex
  simp only [List.get_eq_getElem, List.getElem_take]
  refine ⟨named, (t.get?_eq_some_iff _ _).mpr (List.getElem_mem inside), ?_⟩
  rw [← named]
  exact (u.get?_eq_some_iff _ _).mpr (List.getElem_mem insideNew)

end Table

namespace Scope

/-- The second scope has the entries of the first one in the same order.  Some of them may have
been marked as used since, and nothing else about them has changed. -/
def Marked (old new : Scope) : Prop :=
  List.Forall₂ (fun before behind => behind.1 = before.1 ∧ before.2.Marks behind.2)
    old.toList new.toList

/-- The second scope is the first one, perhaps with marks, after exactly the given names were
declared: those that were there may have another binding in their old place, and those that
were not stand behind all others. -/
def Declared (names : List String) (old new : Scope) : Prop :=
  ∃ kept gained, new.toList = kept ++ gained ∧
    List.Forall₂ (fun before behind => behind.1 = before.1 ∧
      (before.1 ∉ names → before.2.Marks behind.2)) old.toList kept ∧
    ∀ name, name ∈ gained.map Prod.fst ↔ name ∈ names ∧ name ∉ old.keys

namespace Grows

variable {names : List String} {old new : Scope}

theorem declared (grows : Grows names old new) : Declared names old new := by
  rcases grows.keys with ⟨fresh, keys, among⟩
  refine ⟨new.toList.take old.toList.length, new.toList.drop old.toList.length,
    (List.take_append_drop _ _).symm, ?_, ?_⟩
  · refine (Table.forall₂_toList_take keys).imp ?_
    rintro before behind ⟨named, found, foundBehind⟩
    refine ⟨named, fun undeclared => ?_⟩
    rcases grows.kept before.1 before.2 undeclared found with ⟨later, foundLater, marks⟩
    rw [foundBehind] at foundLater
    cases foundLater
    exact marks
  · intro name
    have gained : (new.toList.drop old.toList.length).map Prod.fst = fresh := by
      have behind : new.keys.drop old.keys.length = fresh := by rw [keys, List.drop_left]
      simpa [Table.keys] using behind
    rw [gained]
    constructor
    · intro member
      have distinct := new.keys_nodup
      rw [keys] at distinct
      have apart := (List.nodup_append.mp distinct).2.2
      exact ⟨among name member, fun held => apart name held name member rfl⟩
    · rintro ⟨isDeclared, missing⟩
      have held := (new.contains_iff name).mp (grows.stored name isDeclared)
      rw [keys] at held
      exact (List.mem_append.mp held).resolve_left missing

/-- Without a declaration nothing is replaced and nothing is added. -/
theorem marked (grows : Grows [] old new) : Marked old new := by
  rcases grows.declared with ⟨kept, gained, whole, matching, named⟩
  have nothing : gained = [] := by
    cases gained with
    | nil => rfl
    | cons entry rest =>
      exact absurd ((named entry.1).mp List.mem_cons_self).1 List.not_mem_nil
  unfold Marked
  rw [whole, nothing, List.append_nil]
  exact matching.imp fun _ _ both => ⟨both.1, both.2 List.not_mem_nil⟩

end Grows

end Scope

namespace Checker

/-- What may be different behind a visit.  The innermost scope has changed as `inner` says, the
others have only gained marks, the innermost function may have seen more returns, and there may
be more reports. -/
structure Footprint (inner : Scope → Scope → Prop) (c c' : Checker) : Prop where
  options : c'.options = c.options
  structs : c'.registry.structs = c.registry.structs
  enums : c'.registry.enums = c.registry.enums
  current : inner c.environment.current c'.environment.current
  outer : List.Forall₂ Scope.Marked c.environment.outer c'.environment.outer
  frames : FramesGrow c.frames c'.frames
  diagnostics : c.diagnostics <+: c'.diagnostics

theorem Extends.footprint {c c' : Checker} {declared : List String} {inner : Scope → Scope → Prop}
    (extended : c.Extends declared c')
    (current : inner c.environment.current c'.environment.current) : c.Footprint inner c' where
  options := extended.options
  structs := congrArg Registry.structs extended.registry
  enums := congrArg Registry.enums extended.registry
  current := current
  outer := extended.environment.outer.imp fun _ _ grows => grows.marked
  frames := extended.frames
  diagnostics := extended.diagnostics

end Checker

namespace Check

/-- The footprint of visits.  The visit of an expression leaves every scope as it was but for
marks, and the visit of a statement moreover declares the names of the statement in the
innermost scope. -/
theorem visit_footprint :
    (∀ (e : Expr) (c : Checker), c.Footprint Scope.Marked (after (visitExpr e) c)) ∧
      ∀ (place : Place) (s : Stmt) (c : Checker),
        c.Footprint (Scope.Declared s.declaredNames) (after (visitStmt place s) c) := by
  constructor
  · intro e c
    have extended := visitExpr_keeps e c
    exact extended.footprint extended.environment.current.marked
  · intro place s c
    have extended := visitStmt_declares place s c
    exact extended.footprint extended.environment.current.declared

end Check

end ModuleCheck
