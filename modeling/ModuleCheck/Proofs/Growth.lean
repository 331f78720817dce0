import Mathlib.Data.List.Forall2
import ModuleCheck.Proofs.Runs

namespace ModuleCheck

/-!
How the state of a check may grow.

A visit of an expression leaves every scope with the names, types and tags that it had; only
marks of use are added.  A visit of a statement may also store names in the innermost scope,
and these are known ahead of the visit.  The relations below say so for bindings, scopes,
environments and whole states.  Each is closed under composition, which is all that the
visits need.
-/

namespace Binding

/-- The second binding is the first one, perhaps marked as used since. -/
def Marks (old new : Binding) : Prop := new = old ∨ new = old.markUsed

namespace Marks

theorem refl (b : Binding) : Marks b b := Or.inl rfl

theorem markUsed (b : Binding) : Marks b b.markUsed := Or.inr rfl

theorem trans {first second third : Binding} (one : Marks first second)
    (two : Marks second third) : Marks first third := by
  rcases one with rfl | rfl
  · exact two
  · rcases two with rfl | rfl
    · exact Or.inr rfl
    · exact Or.inr rfl

theorem ty_eq {old new : Binding} (marks : Marks old new) : new.ty = old.ty := by
  rcases marks with rfl | rfl <;> rfl

end Marks

end Binding

namespace Scope

/-- The second scope is the first one after some uses and after the given names, in any
order, were declared.  Old names keep their places, new ones stand behind them, and only the
declared ones may have changed in more than their marks. -/
structure Grows (declared : List String) (old new : Scope) : Prop where
  keys : ∃ fresh, new.keys = old.keys ++ fresh ∧ ∀ name ∈ fresh, name ∈ declared
  stored : ∀ name ∈ declared, new.contains name = true
  kept : ∀ name binding, name ∉ declared → old.get? name = some binding →
    ∃ later, new.get? name = some later ∧ binding.Marks later

namespace Grows

variable {declared further : List String} {first second third : Scope}

theorem refl (s : Scope) : Grows [] s s where
  keys := ⟨[], by simp, by simp⟩
  stored := by simp
  kept := fun _ binding _ found => ⟨binding, found, .refl binding⟩

theorem contains (grows : Grows declared first second) {name : String}
    (stored : first.contains name = true) : second.contains name = true := by
  rcases grows.keys with ⟨fresh, keys, _⟩
  rw [Table.contains_iff] at stored ⊢
  rw [keys]
  exact List.mem_append_left _ stored

theorem trans (one : Grows declared first second) (two : Grows further second third) :
    Grows (declared ++ further) first third where
  keys := by
    rcases one.keys with ⟨fresh, keys, among⟩
    rcases two.keys with ⟨fresh', keys', among'⟩
    refine ⟨fresh ++ fresh', by rw [keys', keys, List.append_assoc], ?_⟩
    intro name member
    rcases List.mem_append.mp member with member | member
    · exact List.mem_append_left _ (among name member)
    · exact List.mem_append_right _ (among' name member)
  stored := by
    intro name member
    rcases List.mem_append.mp member with member | member
    · exact two.contains (one.stored name member)
    · exact two.stored name member
  kept := by
    intro name binding undeclared found
    have outside := not_or.mp (mt List.mem_append.mpr undeclared)
    rcases one.kept name binding outside.1 found with ⟨middle, foundMiddle, marks⟩
    rcases two.kept name middle outside.2 foundMiddle with ⟨later, foundLater, marks'⟩
    exact ⟨later, foundLater, marks.trans marks'⟩

/-- A name that was not stored and is not declared stays without a binding. -/
theorem missing (grows : Grows declared first second) {name : String}
    (undeclared : name ∉ declared) (absent : first.get? name = none) :
    second.get? name = none := by
  rcases grows.keys with ⟨fresh, keys, among⟩
  have notStored : name ∉ first.keys := by
    intro member
    have stored := (Table.contains_iff first name).mpr member
    rw [← Table.isSome_get?, absent] at stored
    cases stored
  have notThere : second.contains name = false := by
    apply Bool.eq_false_iff.mpr
    intro stored
    have member := (Table.contains_iff second name).mp stored
    rw [keys] at member
    rcases List.mem_append.mp member with old | new
    · exact notStored old
    · exact undeclared (among name new)
  rw [← Table.isSome_get?] at notThere
  exact Option.isNone_iff_eq_none.mp (by simpa using notThere)

theorem insert (s : Scope) (name : String) (binding : Binding) :
    Grows [name] s (s.insert name binding) where
  keys := by
    cases stored : s.contains name with
    | true => exact ⟨[], by simp [Table.keys_insert_of_contains s name binding stored], by simp⟩
    | false =>
      exact ⟨[name], Table.keys_insert_of_not_contains s name binding stored, fun _ => id⟩
  stored := by
    intro other member
    rw [← Table.isSome_get?, Table.get?_insert, if_pos (List.mem_singleton.mp member)]
    rfl
  kept := by
    intro other held undeclared found
    have differs : other ≠ name := fun same => undeclared (List.mem_singleton.mpr same)
    exact ⟨held, by rw [Table.get?_insert, if_neg differs, found], .refl held⟩

/-- Marking a name as used declares nothing. -/
theorem mark (s : Scope) (name : String) : Grows [] s (s.modify name Binding.markUsed) where
  keys := ⟨[], by simp, by simp⟩
  stored := by simp
  kept := by
    intro other held _ found
    by_cases same : other = name
    · subst same
      exact ⟨held.markUsed, by simp [Table.get?_modify, found], .markUsed held⟩
    · exact ⟨held, by simp [Table.get?_modify, same, found], .refl held⟩

/-- A declared name may be changed once more. -/
theorem modify (grows : Grows declared first second) {name : String}
    (member : name ∈ declared) (f : Binding → Binding) :
    Grows declared first (second.modify name f) where
  keys := by simpa using grows.keys
  stored := by simpa using grows.stored
  kept := by
    intro other held undeclared found
    have differs : other ≠ name := fun same => undeclared (same ▸ member)
    rcases grows.kept other held undeclared found with ⟨later, foundLater, marks⟩
    exact ⟨later, by rw [Table.get?_modify, if_neg differs, foundLater], marks⟩

/-- One more declared name stands behind the older ones, unless it is among them. -/
theorem keys_eraseDups {name : String} {names : List String} (grows : Grows [name] first second)
    (listed : first.keys = names.eraseDups) : second.keys = (names ++ [name]).eraseDups := by
  rcases grows.keys with ⟨fresh, keys, among⟩
  have distinct := second.keys_nodup
  rw [keys, List.nodup_append] at distinct
  rcases distinct with ⟨_, once, apart⟩
  have only : ∀ other ∈ fresh, other = name := fun other member =>
    List.mem_singleton.mp (among other member)
  have atMost : fresh = [] ∨ fresh = [name] := by
    rcases fresh with _ | ⟨one, _ | ⟨another, rest⟩⟩
    · exact Or.inl rfl
    · exact Or.inr (by rw [only one (by simp)])
    · rw [only one (by simp), only another (by simp)] at once
      simp at once
  rw [keys, listed, List.eraseDups_append]
  by_cases before : name ∈ names
  · have stored : name ∈ first.keys := by rw [listed]; exact List.mem_eraseDups.mpr before
    have none : fresh = [] := atMost.resolve_right fun added =>
      apart name stored name (by simp [added]) rfl
    simp [none, List.cons_removeAll, before]
  · have there : name ∈ fresh := by
      have stored := (second.contains_iff name).mp (grows.stored name (by simp))
      rw [keys, listed] at stored
      exact (List.mem_append.mp stored).resolve_left (mt List.mem_eraseDups.mp before)
    have one : fresh = [name] := atMost.resolve_left (List.ne_nil_of_mem there)
    simp [one, List.cons_removeAll, before, List.eraseDups_cons]

end Grows

end Scope

namespace Environment

/-- The second environment is the first one after some uses and after the given names were
declared in the innermost scope. -/
structure Grows (declared : List String) (old new : Environment) : Prop where
  current : Scope.Grows declared old.current new.current
  outer : List.Forall₂ (Scope.Grows []) old.outer new.outer

namespace Grows

variable {declared further : List String} {first second third : Environment}

theorem outer_refl (scopes : List Scope) : List.Forall₂ (Scope.Grows []) scopes scopes :=
  List.forall₂_same.mpr fun scope _ => Scope.Grows.refl scope

theorem outer_trans {one two three : List Scope} (early : List.Forall₂ (Scope.Grows []) one two)
    (late : List.Forall₂ (Scope.Grows []) two three) :
    List.Forall₂ (Scope.Grows []) one three := by
  induction early generalizing three with
  | nil => exact late
  | cons head _ ih =>
    cases late with
    | cons head' tail' => exact .cons (head.trans head') (ih tail')

theorem refl (env : Environment) : Grows [] env env := ⟨.refl _, outer_refl _⟩

theorem trans (one : Grows declared first second) (two : Grows further second third) :
    Grows (declared ++ further) first third :=
  ⟨one.current.trans two.current, outer_trans one.outer two.outer⟩

theorem depth_eq (grows : Grows declared first second) : second.depth = first.depth := by
  simp [depth, scopes, grows.outer.length_eq]

theorem declare (env : Environment) (name : String) (binding : Binding) :
    Grows [name] env (env.declare name binding) :=
  ⟨.insert _ _ _, outer_refl _⟩

theorem modifyCurrent (grows : Grows declared first second) {name : String}
    (member : name ∈ declared) (f : Binding → Binding) :
    Grows declared first (second.modifyCurrent name f) :=
  ⟨grows.current.modify member f, grows.outer⟩

theorem modifyFirst (name : String) (scopes : List Scope) :
    List.Forall₂ (Scope.Grows []) scopes
      (Environment.modifyFirst name Binding.markUsed scopes) := by
  induction scopes with
  | nil => exact .nil
  | cons scope rest ih =>
    unfold Environment.modifyFirst
    split
    · exact .cons (.mark scope name) (outer_refl rest)
    · exact .cons (.refl scope) ih

/-- Using a name declares nothing. -/
theorem mark (env : Environment) (name : String) :
    Grows [] env (env.modify name Binding.markUsed) := by
  unfold Environment.modify
  split
  · exact ⟨.mark _ _, outer_refl _⟩
  · exact ⟨.refl _, modifyFirst name env.outer⟩

/-- What was opened last can be closed again, and the names declared inside are forgotten. -/
theorem pop (grows : Grows declared first.push second) :
    ∃ scope rest, second.pop? = some (scope, rest) ∧ Grows [] first rest := by
  have outer := grows.outer
  change List.Forall₂ (Scope.Grows []) (first.current :: first.outer) second.outer at outer
  cases shape : second.outer with
  | nil => rw [shape] at outer; cases outer
  | cons scope rest =>
    rw [shape] at outer
    cases outer with
    | cons head tail => exact ⟨second.current, ⟨scope, rest⟩, by rw [pop?, shape], head, tail⟩

/-- A look-up through scopes that grew pairwise finds the old binding, up to its mark. -/
theorem findSome?_cons {name : String} {old new : Scope} {rest rest' : List Scope}
    (undeclared : name ∉ declared) (grows : Scope.Grows declared old new)
    (behind : Option.Rel Binding.Marks (rest.findSome? fun scope => scope.get? name)
      (rest'.findSome? fun scope => scope.get? name)) :
    Option.Rel Binding.Marks ((old :: rest).findSome? fun scope => scope.get? name)
      ((new :: rest').findSome? fun scope => scope.get? name) := by
  cases found : old.get? name with
  | none => simpa [found, grows.missing undeclared found] using behind
  | some binding =>
    rcases grows.kept name binding undeclared found with ⟨later, foundLater, marks⟩
    simpa [found, foundLater] using Option.Rel.some marks

theorem findSome?_outer {old new : List Scope} (name : String)
    (grows : List.Forall₂ (Scope.Grows []) old new) :
    Option.Rel Binding.Marks (old.findSome? fun scope => scope.get? name)
      (new.findSome? fun scope => scope.get? name) := by
  induction grows with
  | nil => exact .none
  | cons head _ ih => exact findSome?_cons List.not_mem_nil head ih

/-- A name that is not declared on the way refers to the same binding, up to its mark. -/
theorem lookup? (grows : Grows declared first second) {name : String}
    (undeclared : name ∉ declared) :
    Option.Rel Binding.Marks (first.lookup? name) (second.lookup? name) :=
  findSome?_cons undeclared grows.current (findSome?_outer name grows.outer)

end Grows

end Environment

/-- The open functions stay the same; the innermost one may have seen more returns. -/
inductive FramesGrow : List Frame → List Frame → Prop
  | outside : FramesGrow [] []
  | inside (expected : Option Ty) (returns more : List Ty) (rest : List Frame) :
      FramesGrow (⟨expected, returns⟩ :: rest) (⟨expected, returns ++ more⟩ :: rest)

namespace FramesGrow

theorem refl (frames : List Frame) : FramesGrow frames frames := by
  cases frames with
  | nil => exact .outside
  | cons frame rest =>
    have grows := FramesGrow.inside frame.expected frame.returns [] rest
    rwa [List.append_nil] at grows

theorem trans {first second third : List Frame} (one : FramesGrow first second)
    (two : FramesGrow second third) : FramesGrow first third := by
  cases one with
  | outside => exact two
  | inside expected returns more rest =>
    cases two with
    | inside _ _ further _ =>
      rw [List.append_assoc]
      exact .inside expected returns (more ++ further) rest

/-- Returns are only added, so a count of them stays in range. -/
theorem le_length {first second : List Frame} (grows : FramesGrow first second) :
    ∀ frame ∈ second.head?,
      (first.head?.map fun frame => frame.returns.length).getD 0 ≤ frame.returns.length := by
  intro frame member
  cases grows with
  | outside => cases member
  | inside expected returns more rest =>
    cases member
    simp

/-- Forgetting the returns seen since a count was taken restores the frames. -/
theorem take_eq {first second : List Frame} (grows : FramesGrow first second) :
    second.modifyHead (fun frame =>
      { frame with
        returns := frame.returns.take
          ((first.head?.map fun frame => frame.returns.length).getD 0) }) = first := by
  cases grows with
  | outside => rfl
  | inside expected returns more rest => simp

end FramesGrow

namespace Checker

/-- The state `c'` can be reached from `c` by visits that leave `declared` in the innermost
scope.  What is registered and what the options say never changes, reports are only added,
no fault is committed, and scopes and functions are closed as often as they are opened. -/
structure Extends (c : Checker) (declared : List String) (c' : Checker) : Prop where
  options : c'.options = c.options
  registry : c'.registry = c.registry
  diagnostics : c.diagnostics <+: c'.diagnostics
  fault : c'.fault = c.fault
  frames : FramesGrow c.frames c'.frames
  environment : Environment.Grows declared c.environment c'.environment

namespace Extends

variable {declared further : List String} {c c' c'' : Checker}

theorem refl (c : Checker) : c.Extends [] c where
  options := rfl
  registry := rfl
  diagnostics := List.prefix_refl _
  fault := rfl
  frames := .refl _
  environment := .refl _

theorem trans (one : c.Extends declared c') (two : c'.Extends further c'') :
    c.Extends (declared ++ further) c'' where
  options := two.options.trans one.options
  registry := two.registry.trans one.registry
  diagnostics := one.diagnostics.trans two.diagnostics
  fault := two.fault.trans one.fault
  frames := one.frames.trans two.frames
  environment := one.environment.trans two.environment

theorem keep (one : c.Extends declared c') (two : c'.Extends [] c'') :
    c.Extends declared c'' := by
  have both := one.trans two
  rwa [List.append_nil] at both

/-- More reports change nothing else. -/
theorem report (extends_ : c.Extends declared c') (diagnostics : List Diagnostic) :
    c.Extends declared { c' with diagnostics := c'.diagnostics ++ diagnostics } :=
  { extends_ with diagnostics := extends_.diagnostics.trans (List.prefix_append _ _) }

/-- A declared name may be changed once more. -/
theorem modifyCurrent (extends_ : c.Extends declared c') {name : String}
    (member : name ∈ declared) (f : Binding → Binding) :
    c.Extends declared { c' with environment := c'.environment.modifyCurrent name f } :=
  { extends_ with environment := extends_.environment.modifyCurrent member f }

/-- Closing the scope that was opened in front of some visits. -/
theorem exitScope (inside : (Check.after Check.enterScope c).Extends declared c') :
    c.Extends [] (Check.after Check.exitScope c') := by
  rcases inside.environment.pop with ⟨scope, rest, popped, grows⟩
  rw [Check.after_exitScope popped]
  exact {
    options := inside.options
    registry := inside.registry
    diagnostics := inside.diagnostics.trans (List.prefix_append _ _)
    fault := inside.fault
    frames := inside.frames
    environment := grows }

/-- Leaving the function that was entered in front of some visits. -/
theorem popFrame {expected : Option Ty}
    (inside : (Check.after (Check.pushFrame expected) c).Extends declared c') :
    c.Extends declared (Check.after Check.popFrame c') := by
  have frames : c'.frames.tail = c.frames := by
    have grows := inside.frames
    change FramesGrow (⟨expected, []⟩ :: c.frames) c'.frames at grows
    cases shape : c'.frames with
    | nil => rw [shape] at grows; cases grows
    | cons frame rest =>
      rw [shape] at grows
      cases grows
      rfl
  exact {
    options := inside.options
    registry := inside.registry
    diagnostics := inside.diagnostics
    fault := inside.fault
    frames := by rw [Check.after_popFrame, frames]; exact .refl _
    environment := inside.environment }

theorem depth_eq (extends_ : c.Extends declared c') :
    c'.environment.depth = c.environment.depth :=
  extends_.environment.depth_eq

end Extends

end Checker

end ModuleCheck
