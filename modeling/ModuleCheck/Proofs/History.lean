import ModuleCheck.Proofs.Growth

namespace ModuleCheck

/-!
The scopes of a checker as a summary of what happened to it.

A checker stores bindings and overwrites them; it does not remember how they came about.  Here
the calls on its scopes are kept as data.  From such a history alone one can tell which
instances of scopes are open, what was declared in each of them and when it was used since, and
hence what a use yields and what is reported when a scope closes.  The checker agrees: each
open scope holds exactly what the history tells of it, by one equation for each kind of call.
-/

/-- The entries of a table are its names with the values that they are stored under. -/
theorem Table.toList_eq_filterMap {α : Type} (t : Table α) :
    t.toList = t.keys.filterMap fun name => (t.get? name).map fun value => (name, value) := by
  have found : ∀ entry ∈ t.toList,
      (t.get? entry.1).map (fun value => (entry.1, value)) = some entry := by
    intro entry member
    rw [(t.get?_eq_some_iff entry.1 entry.2).mpr member]
    rfl
  rw [keys, List.filterMap_map]
  exact List.filterMap_some.symm.trans (List.filterMap_congr fun entry member =>
    (found entry member).symm)

/-- The calls on the scopes of a fresh checker, the latest one outermost.  They leave `inner`
scopes open within the global one, which no history can close. -/
inductive History : Nat → Type where
  | start : History 0
  | enter {inner : Nat} (past : History inner) : History (inner + 1)
  | exit {inner : Nat} (past : History (inner + 1)) : History inner
  | declare {inner : Nat} (past : History inner) (name : String) (ty : Ty) (flags : Flags)
      (span : Option Span) : History inner
  | use {inner : Nat} (past : History inner) (name : String) (span : Option Span) :
      History inner
  | tag {inner : Nat} (past : History inner) (name enum : String) : History inner

namespace History

/-- The checker after the calls. -/
def run (options : Options) : {inner : Nat} → History inner → Checker
  | _, start => Checker.fresh options
  | _, enter past => Check.after Check.enterScope (past.run options)
  | _, exit past => Check.after Check.exitScope (past.run options)
  | _, declare past name ty flags span =>
    Check.after (Check.declare name ty flags span) (past.run options)
  | _, use past name span => Check.after (Check.useName name span) (past.run options)
  | _, tag past name enum => Check.after (Check.tagEnum name enum) (past.run options)

/-! What a history tells. -/

/-- The number of calls. -/
def length : {inner : Nat} → History inner → Nat
  | _, start => 0
  | _, enter past | _, exit past | _, declare past .. | _, use past .. | _, tag past .. =>
    past.length + 1

/-- The instances of scopes that are open, from the inside out.  Each goes by the time at which
it was opened, so an instance that is closed never comes back. -/
def opened : {inner : Nat} → History inner → List Nat
  | _, start => [0]
  | _, enter past => (past.length + 1) :: past.opened
  | _, exit past => past.opened.tail
  | _, declare past .. | _, use past .. | _, tag past .. => past.opened

/-- The innermost open instance. -/
def here {inner : Nat} (h : History inner) : Nat := h.opened.headD 0

/-- The names of the declarations in an instance, in order. -/
def declaredIn (scope : Nat) : {inner : Nat} → History inner → List String
  | _, start => []
  | _, declare past name .. =>
    if past.here = scope then past.declaredIn scope ++ [name] else past.declaredIn scope
  | _, enter past | _, exit past | _, use past .. | _, tag past .. => past.declaredIn scope

/-- The latest declaration of a name in an instance. -/
def latest? (name : String) (scope : Nat) : {inner : Nat} → History inner → Option Binding
  | _, start => none
  | _, declare past other ty flags span =>
    if name = other ∧ past.here = scope then some (Binding.declared ty flags span)
    else past.latest? name scope
  | _, enter past | _, exit past | _, use past .. | _, tag past .. => past.latest? name scope

/-- The instance that a name refers to: the innermost open one that has declared it. -/
def resolve {inner : Nat} (h : History inner) (name : String) : Option Nat :=
  h.opened.find? fun scope => (h.latest? name scope).isSome

/-- Whether a use of the name referred to the instance after the latest declaration of the name
there. -/
def usedSince (name : String) (scope : Nat) : {inner : Nat} → History inner → Bool
  | _, start => false
  | _, declare past other .. =>
    if name = other ∧ past.here = scope then false else past.usedSince name scope
  | _, use past other _ =>
    if name = other ∧ past.resolve name = some scope then true else past.usedSince name scope
  | _, enter past | _, exit past | _, tag past .. => past.usedSince name scope

/-- The latest tag of the name in the instance after its latest declaration there. -/
def taggedSince? (name : String) (scope : Nat) : {inner : Nat} → History inner → Option String
  | _, start => none
  | _, declare past other .. =>
    if name = other ∧ past.here = scope then none else past.taggedSince? name scope
  | _, tag past other enum =>
    if name = other ∧ past.here = scope then some enum else past.taggedSince? name scope
  | _, enter past | _, exit past | _, use past .. => past.taggedSince? name scope

/-- The declaration that a name refers to. -/
def declaration? {inner : Nat} (h : History inner) (name : String) : Option Binding :=
  (h.resolve name).bind fun scope => h.latest? name scope

/-- The type that a use of the name yields. -/
def typeOf {inner : Nat} (h : History inner) (name : String) : Ty :=
  ((h.declaration? name).map Binding.ty).getD .unknown

/-- The report on a name of the innermost instance in case that the instance closes now. -/
def unusedReport? {inner : Nat} (h : History inner) (options : Options) (name : String) :
    Option Diagnostic :=
  (h.latest? name h.here).bind fun declared =>
    if declared.used || h.usedSince name h.here || declared.topLevel || options.isIgnored name
    then none
    else some (Diagnostic.error (.unusedVariable name) declared.span)

/-- The reports on the innermost instance in case that it closes now: at most one for each name
that was declared in it, in the order of the first declarations. -/
def unusedReports {inner : Nat} (h : History inner) (options : Options) : List Diagnostic :=
  if options.reportUnusedLocals then
    (h.declaredIn h.here).eraseDups.filterMap (h.unusedReport? options)
  else []

/-- Everything reported during the calls. -/
def reports (options : Options) : {inner : Nat} → History inner → List Diagnostic
  | _, start => []
  | _, exit past => past.reports options ++ past.unusedReports options
  | _, use past name span =>
    past.reports options ++
      if (past.resolve name).isSome then [] else [Diagnostic.error (.unknownIdentifier name) span]
  | _, enter past | _, declare past .. | _, tag past .. => past.reports options

/-! Instances and their times. -/

variable {inner : Nat}

attribute [local simp] length opened declaredIn latest? usedSince taggedSince?

theorem length_opened (h : History inner) : h.opened.length = inner + 1 := by
  induction h with
  | start => rfl
  | enter past ih => simp [ih]
  | exit past ih => simp [ih]
  | declare past name ty flags span ih => exact ih
  | use past name span ih => exact ih
  | tag past name enum ih => exact ih

theorem opened_eq (h : History inner) : h.opened = h.here :: h.opened.tail := by
  have count := h.length_opened
  unfold here
  cases shape : h.opened with
  | nil => simp [shape] at count
  | cons scope rest => rfl

theorem here_mem (h : History inner) : h.here ∈ h.opened := by
  rw [opened_eq]
  exact List.mem_cons_self

theorem le_length_of_mem_opened (h : History inner) : ∀ scope ∈ h.opened, scope ≤ h.length := by
  induction h with
  | start => simp
  | enter past ih =>
    intro scope member
    rcases List.mem_cons.mp member with rfl | member
    · exact Nat.le_refl _
    · exact Nat.le_succ_of_le (ih scope member)
  | exit past ih =>
    exact fun scope member => Nat.le_succ_of_le (ih scope (List.mem_of_mem_tail member))
  | declare past name ty flags span ih =>
    exact fun scope member => Nat.le_succ_of_le (ih scope member)
  | use past name span ih => exact fun scope member => Nat.le_succ_of_le (ih scope member)
  | tag past name enum ih => exact fun scope member => Nat.le_succ_of_le (ih scope member)

/-- No two open scopes were opened at the same time. -/
theorem nodup_opened (h : History inner) : h.opened.Nodup := by
  induction h with
  | start => simp
  | enter past ih =>
    refine List.nodup_cons.mpr ⟨fun member => ?_, ih⟩
    have bounded := past.le_length_of_mem_opened _ member
    omega
  | exit past ih => exact ih.tail
  | declare past name ty flags span ih => exact ih
  | use past name span ih => exact ih
  | tag past name enum ih => exact ih

/-- Nothing was declared in an instance that is yet to be opened. -/
theorem undeclared_of_length_lt (h : History inner) {scope : Nat} (later : h.length < scope) :
    h.declaredIn scope = [] ∧ ∀ name, h.latest? name scope = none := by
  induction h with
  | start => exact ⟨rfl, fun _ => rfl⟩
  | enter past ih => exact ih (Nat.lt_of_succ_lt later)
  | exit past ih => exact ih (Nat.lt_of_succ_lt later)
  | declare past name ty flags span ih =>
    have elsewhere : past.here ≠ scope := by
      have bounded := past.le_length_of_mem_opened _ past.here_mem
      simp only [length] at later
      omega
    simpa [elsewhere] using ih (Nat.lt_of_succ_lt later)
  | use past name span ih => exact ih (Nat.lt_of_succ_lt later)
  | tag past name enum ih => exact ih (Nat.lt_of_succ_lt later)

theorem declared_of_resolve {h : History inner} {name : String} {scope : Nat}
    (resolved : h.resolve name = some scope) : ∃ latest, h.latest? name scope = some latest := by
  have declared := List.find?_some resolved
  exact Option.isSome_iff_exists.mp declared

/-! What a scope holds, told from the history. -/

/-- The binding that a name should have in an instance: as it was declared last, with the marks
and the tag that it got since. -/
def binding? (h : History inner) (name : String) (scope : Nat) : Option Binding :=
  (h.latest? name scope).map fun declared =>
    { declared with
      used := declared.used || h.usedSince name scope
      enumTag := h.taggedSince? name scope }

theorem isSome_binding? (h : History inner) (name : String) (scope : Nat) :
    (h.binding? name scope).isSome = (h.latest? name scope).isSome := by
  simp [binding?]

theorem binding?_declare (h : History inner) (name other : String) (ty : Ty) (flags : Flags)
    (span : Option Span) (scope : Nat) :
    (h.declare name ty flags span).binding? other scope =
      if other = name ∧ h.here = scope then some (Binding.declared ty flags span)
      else h.binding? other scope := by
  by_cases declared : other = name ∧ h.here = scope
  · simp [binding?, declared, Binding.declared]
  · simp [binding?, declared]

theorem binding?_use (h : History inner) (name other : String) (span : Option Span)
    (scope : Nat) :
    (h.use name span).binding? other scope =
      if other = name ∧ h.resolve name = some scope then
        (h.binding? other scope).map Binding.markUsed
      else h.binding? other scope := by
  by_cases used : other = name ∧ h.resolve name = some scope
  · rcases used with ⟨rfl, referred⟩
    simp [binding?, referred, Function.comp_def, Binding.markUsed]
  · have unaffected : ¬ (other = name ∧ h.resolve other = some scope) := by
      rintro ⟨rfl, referred⟩
      exact used ⟨rfl, referred⟩
    simp [binding?, used, unaffected]

theorem binding?_tag (h : History inner) (name other enum : String) (scope : Nat) :
    (h.tag name enum).binding? other scope =
      if other = name ∧ h.here = scope then
        (h.binding? other scope).map fun binding => { binding with enumTag := some enum }
      else h.binding? other scope := by
  by_cases tagged : other = name ∧ h.here = scope
  · simp [binding?, tagged, Function.comp_def]
  · simp [binding?, tagged]

/-- The scope holds what the history tells of the instance. -/
structure Records (h : History inner) (scope : Nat) (held : Scope) : Prop where
  keys : held.keys = (h.declaredIn scope).eraseDups
  stored : ∀ name, held.get? name = h.binding? name scope

namespace Records

variable {h : History inner} {scope : Nat} {held : Scope}

theorem contains (records : h.Records scope held) (name : String) :
    held.contains name = (h.latest? name scope).isSome := by
  rw [← Table.isSome_get?, records.stored, isSome_binding?]

theorem declare (records : h.Records h.here held) (name : String) (ty : Ty) (flags : Flags)
    (span : Option Span) :
    (h.declare name ty flags span).Records h.here
      (held.insert name (Binding.declared ty flags span)) where
  keys := by
    have grown := (Scope.Grows.insert held name (.declared ty flags span)).keys_eraseDups
      records.keys
    simpa using grown
  stored := by
    intro other
    rw [Table.get?_insert, binding?_declare, records.stored]
    simp

theorem declare_elsewhere (records : h.Records scope held) (elsewhere : h.here ≠ scope)
    (name : String) (ty : Ty) (flags : Flags) (span : Option Span) :
    (h.declare name ty flags span).Records scope held where
  keys := by simpa [elsewhere] using records.keys
  stored := by
    intro other
    rw [binding?_declare, records.stored]
    simp [elsewhere]

theorem use {name : String} (records : h.Records scope held)
    (referred : h.resolve name = some scope) (span : Option Span) :
    (h.use name span).Records scope (held.modify name Binding.markUsed) where
  keys := by simpa using records.keys
  stored := by
    intro other
    rw [Table.get?_modify, binding?_use, records.stored]
    simp [referred]

theorem use_elsewhere {name : String} (records : h.Records scope held)
    (elsewhere : h.resolve name ≠ some scope) (span : Option Span) :
    (h.use name span).Records scope held where
  keys := records.keys
  stored := by
    intro other
    rw [binding?_use, records.stored]
    simp [elsewhere]

theorem tag (records : h.Records h.here held) (name enum : String) :
    (h.tag name enum).Records h.here
      (held.modify name fun binding => { binding with enumTag := some enum }) where
  keys := by simpa using records.keys
  stored := by
    intro other
    rw [Table.get?_modify, binding?_tag, records.stored]
    simp

theorem tag_elsewhere (records : h.Records scope held) (elsewhere : h.here ≠ scope)
    (name enum : String) : (h.tag name enum).Records scope held where
  keys := records.keys
  stored := by
    intro other
    rw [binding?_tag, records.stored]
    simp [elsewhere]

/-- Closing the scope reports what the history tells. -/
theorem unusedLocals (records : h.Records h.here held) (options : Options) :
    Scope.unusedLocals options held = h.unusedReports options := by
  unfold Scope.unusedLocals Scope.unused unusedReports
  cases options.reportUnusedLocals with
  | false => rfl
  | true =>
    rw [if_pos rfl, if_pos rfl, Table.toList_eq_filterMap, records.keys, List.filter_filterMap,
      List.map_filterMap]
    refine List.filterMap_congr fun name _ => ?_
    rw [records.stored, binding?, unusedReport?]
    cases h.latest? name h.here with
    | none => rfl
    | some declared =>
      cases used : declared.used <;> cases since : h.usedSince name h.here <;>
        cases level : declared.topLevel <;> cases ignored : options.isIgnored name <;>
        simp [used, level, ignored, Option.filter]

end Records

/-! Whole environments. -/

variable {h : History inner} {instances : List Nat} {scopes : List Scope}

/-- Calls that leave the instances alone leave their scopes right. -/
theorem records_unaffected {inner' : Nat} {h' : History inner'}
    (held : List.Forall₂ h.Records instances scopes)
    (unaffected : ∀ scope ∈ instances, ∀ held, h.Records scope held → h'.Records scope held) :
    List.Forall₂ h'.Records instances scopes := by
  induction held with
  | nil => exact .nil
  | cons first _ ih =>
    exact .cons (unaffected _ (by simp) _ first)
      (ih fun scope member => unaffected scope (List.mem_cons_of_mem _ member))

theorem findSome?_get? (held : List.Forall₂ h.Records instances scopes) (name : String) :
    scopes.findSome? (fun scope => scope.get? name) =
      (instances.find? fun scope => (h.latest? name scope).isSome).bind (h.binding? name) := by
  induction held with
  | nil => rfl
  | @cons scope table _ _ first _ ih =>
    cases declared : h.latest? name scope with
    | none =>
      have missing : table.get? name = none := by simp [first.stored, binding?, declared]
      simp [missing, declared, ih]
    | some latest =>
      have found : table.get? name = h.binding? name scope := first.stored name
      simp [found, declared, binding?]

/-- A use marks the binding in the first scope that has one, which is the scope of the instance
that the name refers to. -/
theorem records_use {name : String} (held : List.Forall₂ h.Records instances scopes)
    (distinct : instances.Nodup)
    (referred : ∀ scope ∈ instances, h.resolve name = some scope ↔
      instances.find? (fun scope => (h.latest? name scope).isSome) = some scope)
    (span : Option Span) :
    List.Forall₂ (h.use name span).Records instances
      (Environment.modifyFirst name Binding.markUsed scopes) := by
  induction held with
  | nil => exact .nil
  | @cons scope table instances tables first rest ih =>
    rcases List.nodup_cons.mp distinct with ⟨outside, distinct⟩
    unfold Environment.modifyFirst
    rw [first.contains name]
    cases declared : (h.latest? name scope).isSome with
    | true =>
      have here : h.resolve name = some scope := by
        rw [referred scope (by simp)]
        simp [declared]
      refine .cons (first.use here span) (records_unaffected rest fun other member _ records => ?_)
      refine records.use_elsewhere ?_ span
      rw [here]
      rintro ⟨⟩
      exact outside member
    | false =>
      refine .cons (first.use_elsewhere ?_ span) (ih distinct fun other member => ?_)
      · rw [Ne, referred scope (by simp)]
        intro found
        have := List.find?_some found
        simp [declared] at this
      · rw [referred other (List.mem_cons_of_mem _ member)]
        simp [declared]

/-- Every open scope holds what the history tells of its instance. -/
def Describes (h : History inner) (env : Environment) : Prop :=
  List.Forall₂ h.Records h.opened env.scopes

namespace Describes

variable {env : Environment}

theorem iff_current : h.Describes env ↔
    h.Records h.here env.current ∧ List.Forall₂ h.Records h.opened.tail env.outer := by
  unfold Describes Environment.scopes
  rw [h.opened_eq, List.forall₂_cons]
  rfl

theorem lookup? (described : h.Describes env) (name : String) :
    env.lookup? name = (h.resolve name).bind (h.binding? name) :=
  findSome?_get? described name

theorem start : History.start.Describes Environment.empty :=
  .cons ⟨rfl, fun name => Table.get?_empty name⟩ .nil

/-- The instance that is opened now has no past. -/
theorem enter (described : h.Describes env) : h.enter.Describes env.push := by
  rcases h.undeclared_of_length_lt (Nat.lt_succ_self _) with ⟨unnamed, undeclared⟩
  refine .cons ⟨?_, fun name => ?_⟩
    (records_unaffected described fun _ _ _ records => ⟨records.keys, records.stored⟩)
  · simp only [declaredIn, unnamed]
    rfl
  · simp [Environment.push, binding?, undeclared]

theorem exit {h : History (inner + 1)} (described : h.Describes env) :
    ∃ scope rest, env.pop? = some (scope, rest) ∧ h.Records h.here scope ∧
      h.exit.Describes rest := by
  rcases env with ⟨current, outer⟩
  rcases iff_current.mp described with ⟨first, others⟩
  cases outer with
  | nil =>
    have count := others.length_eq
    simp [length_opened] at count
  | cons scope rest =>
    exact ⟨current, ⟨scope, rest⟩, rfl, first,
      records_unaffected others fun _ _ _ records => ⟨records.keys, records.stored⟩⟩

/-- A call that concerns the innermost instance only. -/
theorem change {h' : History inner} (described : h.Describes env) {current : Scope}
    (changed : h'.Records h.here current) (opened : h'.opened = h.opened)
    (unaffected : ∀ scope held, h.here ≠ scope → h.Records scope held → h'.Records scope held) :
    h'.Describes { env with current } := by
  have distinct := h.nodup_opened
  rw [h.opened_eq] at distinct
  have here : h'.here = h.here := by rw [here, opened, History.here]
  refine iff_current.mpr ⟨by rwa [here], ?_⟩
  rw [opened]
  refine records_unaffected (iff_current.mp described).2 fun scope member held => ?_
  refine unaffected scope held ?_
  rintro rfl
  exact (List.nodup_cons.mp distinct).1 member

theorem declare (described : h.Describes env) (name : String) (ty : Ty) (flags : Flags)
    (span : Option Span) :
    (h.declare name ty flags span).Describes
      (env.declare name (Binding.declared ty flags span)) :=
  described.change ((iff_current.mp described).1.declare name ty flags span) rfl
    fun _ _ elsewhere records => records.declare_elsewhere elsewhere name ty flags span

theorem tag (described : h.Describes env) (name enum : String) :
    (h.tag name enum).Describes
      (env.modifyCurrent name fun binding => { binding with enumTag := some enum }) :=
  described.change ((iff_current.mp described).1.tag name enum) rfl
    fun _ _ elsewhere records => records.tag_elsewhere elsewhere name enum

theorem use (described : h.Describes env) (name : String) (span : Option Span) :
    (h.use name span).Describes (env.modify name Binding.markUsed) := by
  unfold Describes
  rw [Environment.scopes_modify]
  exact records_use described h.nodup_opened (fun _ _ => Iff.rfl) span

theorem use_unresolved (described : h.Describes env) {name : String}
    (unresolved : h.resolve name = none) (span : Option Span) :
    (h.use name span).Describes env :=
  records_unaffected described fun _ _ _ records =>
    records.use_elsewhere (by simp [unresolved]) span

end Describes

/-! Whole runs. -/

/-- A use yields what the history tells and reports a name that the history does not resolve. -/
theorem useName_of_describes {c : Checker} (described : h.Describes c.environment)
    (name : String) (span : Option Span) :
    Check.result (Check.useName name span) c = h.typeOf name ∧
      (h.use name span).Describes (Check.after (Check.useName name span) c).environment ∧
      (Check.after (Check.useName name span) c).options = c.options ∧
      (Check.after (Check.useName name span) c).diagnostics =
        c.diagnostics ++
          if (h.resolve name).isSome then []
          else [Diagnostic.error (.unknownIdentifier name) span] := by
  have found := described.lookup? name
  cases resolved : h.resolve name with
  | none =>
    rw [resolved] at found
    rcases Check.useName_of_unbound found span with ⟨yields, leaves⟩
    rw [yields, leaves]
    exact ⟨by simp [typeOf, declaration?, resolved], described.use_unresolved resolved span, rfl,
      rfl⟩
  | some scope =>
    rcases declared_of_resolve resolved with ⟨latest, declared⟩
    rw [resolved, Option.bind_some, binding?, declared, Option.map_some] at found
    rcases Check.useName_of_bound found span with ⟨yields, leaves⟩
    rw [yields, leaves]
    exact ⟨by simp [typeOf, declaration?, resolved, declared], described.use name span, rfl,
      by simp⟩

/-- The history of a run describes the scopes that it leaves and tells what it has reported. -/
theorem describes_run (options : Options) (h : History inner) :
    h.Describes (h.run options).environment ∧ (h.run options).options = options ∧
      (h.run options).diagnostics = h.reports options := by
  induction h with
  | start => exact ⟨.start, rfl, rfl⟩
  | enter past ih => exact ⟨ih.1.enter, ih.2⟩
  | exit past ih =>
    rcases ih with ⟨described, asked, reported⟩
    rcases described.exit with ⟨scope, rest, popped, records, described⟩
    have leaves := Check.after_exitScope popped
    refine ⟨?_, ?_, ?_⟩
    · rw [run, leaves]
      exact described
    · rw [run, leaves]
      exact asked
    · rw [run, leaves, reports, asked, reported, records.unusedLocals]
  | declare past name ty flags span ih => exact ⟨ih.1.declare name ty flags span, ih.2⟩
  | use past name span ih =>
    rcases ih with ⟨described, asked, reported⟩
    rcases useName_of_describes described name span with ⟨_, described, kept, added⟩
    exact ⟨described, kept.trans asked, by rw [run, added, reported, reports]⟩
  | tag past name enum ih => exact ⟨ih.1.tag name enum, ih.2⟩

/-- After every sequence of calls that never closes the global scope, the checker has reported
what the history tells, and a use yields the type of the latest declaration in the innermost
open scope that has declared the name. -/
theorem run_agrees (options : Options) (h : History inner) :
    (h.run options).diagnostics = h.reports options ∧
      ∀ name span, Check.result (Check.useName name span) (h.run options) = h.typeOf name :=
  ⟨(h.describes_run options).2.2, fun name span =>
    (useName_of_describes (h.describes_run options).1 name span).1⟩

-- The inner name is declared again after its use, so it counts as unused; the scope that is
-- opened next knows nothing of it.
example :
    let inside := start.declare "x" .int (.atLevel true) none |>.enter
      |>.declare "x" .bool .inner none |>.use "x" none |>.declare "x" .string .inner none
    let later := inside.exit.enter.use "y" none
    inside.typeOf "x" = .string ∧ later.typeOf "x" = .int ∧
      later.reports {} =
        [.error (.unusedVariable "x") none, .error (.unknownIdentifier "y") none] := by
  decide +kernel

end History

end ModuleCheck
