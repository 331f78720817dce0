import ModuleCheck.Proofs.Passage

namespace ModuleCheck

/-!
A check never commits a fault.

The faults of a check are closing the global scope and reading returns behind the last one.
Neither happens, since every visit leaves as many scopes and functions open as it found and
never loses a return that was counted before.  Positions are looked up in three lists on the
way, the arguments of a call, the arms of a match and the statements of a block; they are
shown to stand in these lists.
-/

open Check

namespace FramesGrow

theorem length_eq {old new : List Frame} (grows : FramesGrow old new) :
    new.length = old.length := by
  cases grows <;> rfl

end FramesGrow

namespace Check

/-- Every argument of a call gives one operand, which stands where the argument stands. -/
theorem span_visitArgs (args : List Expr) (c : Checker) :
    (result (visitArgs args) c).map Operand.span = args.map Expr.span := by
  induction args generalizing c with
  | nil => rw [visitArgs]; rfl
  | cons e rest ih =>
    rw [visitArgs]
    simp only [result_bind, result_pure, List.map_cons]
    rw [ih]

end Check

namespace Arms

/-- A misplaced catch-all arm is found at a position in the list of arms, and it is misplaced
unless this is the last position. -/
theorem misplacedWildcard_eq (arms : List Arm) (position : Nat)
    (found : arms.findIdx? Arm.isCatchAll = some position) :
    ∃ arm, arms[position]? = some arm ∧
      misplacedWildcard arms =
        if position = arms.length - 1 then []
        else [Diagnostic.error .armsAfterWildcard (some arm.span)] := by
  induction arms generalizing position with
  | nil => cases found
  | cons arm rest ih =>
    rw [List.findIdx?_cons] at found
    by_cases catchAll : arm.isCatchAll = true
    · rw [if_pos catchAll] at found
      cases found
      refine ⟨arm, rfl, ?_⟩
      cases rest with
      | nil => simp [misplacedWildcard, catchAll]
      | cons other others => simp [misplacedWildcard, catchAll]
    · rw [if_neg catchAll] at found
      rcases Option.map_eq_some_iff.mp found with ⟨before, foundBefore, rfl⟩
      rcases ih before foundBefore with ⟨target, there, reported⟩
      have inside : before < rest.length := (List.getElem?_eq_some_iff.mp there).1
      have sameEnd : before + 1 = (arm :: rest).length - 1 ↔ before = rest.length - 1 := by
        simp only [List.length_cons]
        omega
      exact ⟨target, there, by simp only [misplacedWildcard, catchAll, sameEnd, reported]; rfl⟩

end Arms

namespace Visit

/-- The visit goes on with statements of the same block. -/
def Continues (v w : Visit) : Prop :=
  Enters v w ∧ ∃ valued progress stmts, w.task = .stmts valued progress stmts

/-- As many scopes and functions are open at the end of the visit as at its start, but for
the scope of an initializer, which is closed by the if expression around it. -/
def Balanced (v : Visit) : Prop :=
  v.finish.environment.depth = v.start.environment.depth + v.task.opensScope.toNat ∧
    v.finish.frames.length = v.start.frames.length

/-- The positions that the visit looks up stand in the lists in which it looks them up. -/
def InRange : Visit → Prop
  | ⟨.expr (.call callee args _), c⟩ =>
    (result (visitArgs args) (after (visitExpr callee) c)).map Operand.span = args.map Expr.span
  | ⟨.matching _ m, _⟩ =>
    ∀ position, m.arms.findIdx? Arm.isCatchAll = some position →
      0 < m.arms.length ∧ ∃ arm, m.arms[position]? = some arm ∧
        Arms.misplacedWildcard m.arms =
          if position = m.arms.length - 1 then []
          else [Diagnostic.error .armsAfterWildcard (some arm.span)]
  | ⟨.block valued b, c⟩ =>
    ∀ valued' progress stmt rest c',
      Relation.ReflTransGen Continues ⟨.block valued b, c⟩
        ⟨.stmts valued' progress (stmt :: rest), c'⟩ →
      0 < b.body.length ∧ ∃ position, b.body[position]? = some stmt ∧
        (valued' && rest.isEmpty) = (valued && position == b.body.length - 1)
  | _ => True

theorem balanced (v : Visit) : v.Balanced := by
  have extended := v.extends_finish
  refine ⟨?_, ?_⟩
  · rw [extended.depth_eq, opening]
    cases v.task.opensScope <;> rfl
  · rw [extended.frames.length_eq, opening]
    cases v.task.opensScope <;> rfl

/-- What is left of a block while it is visited is an end of its statements. -/
theorem stmts_of_continues {valued : Bool} {b : Block} {c : Checker} {w : Visit}
    (run : Relation.ReflTransGen Continues ⟨.block valued b, c⟩ w) :
    w = ⟨.block valued b, c⟩ ∨
      ∃ progress stmts, w.task = .stmts valued progress stmts ∧ stmts <:+ b.body := by
  induction run with
  | refl => exact Or.inl rfl
  | @tail middle last _ continues ih =>
    rcases continues with ⟨enters, valued', progress', stmts', shape⟩
    rcases ih with rfl | ⟨progress, stmts, task, ending⟩
    · cases enters
      exact Or.inr ⟨_, _, rfl, List.suffix_refl _⟩
    · rcases middle with ⟨_, start⟩
      cases task
      cases enters <;> cases shape
      all_goals exact Or.inr ⟨_, _, rfl, (List.suffix_cons _ _).trans ending⟩

theorem inRange (v : Visit) : v.InRange := by
  unfold InRange
  split
  · exact span_visitArgs _ _
  · rename_i m _
    intro position found
    rcases Arms.misplacedWildcard_eq m.arms position found with ⟨arm, there, reported⟩
    have inside : position < m.arms.length := (List.getElem?_eq_some_iff.mp there).1
    exact ⟨by omega, arm, there, reported⟩
  · rename_i valued b c
    intro valued' progress stmt rest c' run
    rcases stmts_of_continues run with same | ⟨progress', stmts, task, passed, whole⟩
    · cases same
    · cases task
      rw [← whole]
      have inside : passed.length < (passed ++ stmt :: rest).length := by
        rw [List.length_append, List.length_cons]
        omega
      refine ⟨Nat.zero_lt_of_lt inside, passed.length, by simp, ?_⟩
      cases rest with
      | nil => simp
      | cons other others => simp
  · trivial

end Visit

namespace Module

/-- The check of a module commits no fault, at its end or at any visit on its way.  It ends
with the global scope as the only open one and outside of all functions, and so does every
visit leave the scopes and functions that it found.  All positions that it looks up are in
range. -/
theorem checked_faultless (m : Module) (options : Options) :
    (m.checked options).fault = none ∧
      (m.checked options).environment.depth = 1 ∧
      (m.checked options).frames = [] ∧
      ∀ v, m.Visits options v →
        v.start.fault = none ∧ v.finish.fault = none ∧ v.Balanced ∧ v.InRange := by
  have hoisted := declares_hoist true m.body (after (register m.body) (Checker.fresh options))
  have extended := hoisted.trans (visitTopLevel_declares m.body (m.visit options).start)
  have faultless : (m.checked options).fault = none := extended.fault
  have frames : FramesGrow [] (m.checked options).frames := extended.frames
  refine ⟨faultless, extended.depth_eq, ?_, ?_⟩
  · cases shape : (m.checked options).frames with
    | nil => rfl
    | cons frame rest => rw [shape] at frames; cases frames
  · intro v visits
    have finish := (later_of_visits visits).fault faultless
    have start := v.extends_finish.fault
    refine ⟨?_, finish, v.balanced, v.inRange⟩
    rw [← finish, start, Visit.opening]
    cases v.task.opensScope <;> rfl

/-- A match whose first arm returns from the function around it. -/
theorem checked_faultless_match :
    let early : Arm := ⟨.literal (.int 0 Span.null) Span.null, none,
      .block ⟨[.returns none Span.null], Span.null⟩, Span.null⟩
    let last : Arm := ⟨.wildcard Span.null, none, .int 1 Span.null, Span.null⟩
    let choice : Match := ⟨.identifier "x" Span.null, [early, last], Span.null⟩
    let m : Module := ⟨[.function ⟨"f", [⟨"x", none, Span.null⟩], none, false, Span.null⟩
      ⟨[.expr (.matching choice) Span.null], Span.null⟩]⟩
    ∃ v, m.Visits {} v ∧ v.task = .matching true choice ∧
      v.start.fault = none ∧ v.finish.fault = none ∧ v.Balanced ∧ v.InRange := by
  intro early last choice m
  have visits : ∃ c, m.Visits {} ⟨.matching true choice, c⟩ :=
    ⟨_, .tail (.tail (.tail (.tail (.tail (.tail .refl .first) .function) .body) (.live rfl))
      (.used rfl)) .matching⟩
  rcases visits with ⟨c, visits⟩
  exact ⟨_, visits, rfl, (checked_faultless m {}).2.2.2 _ visits⟩

end Module

end ModuleCheck
