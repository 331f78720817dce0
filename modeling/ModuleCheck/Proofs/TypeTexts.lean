import ModuleCheck.Proofs.Nominal

namespace ModuleCheck

/-!
Types and their texts.

The text of a function type has brackets around the parameters only, and a comma and a space
between them.  It can still be read in one way: each text shows by its first letters which kind of
type it is of, and by its own shape where it ends, as long as no struct or enum has a closing
bracket in its name.  So a text in front of any other characters determines the type and the
characters behind it.
-/

namespace Ty

mutual

/-- The structs and enums that occur in a type. -/
def names : Ty → List String
  | struct name | enum name => [name]
  | fn params result => namesList params ++ names result
  | _ => []

def namesList : List Ty → List String
  | [] => []
  | t :: rest => names t ++ namesList rest

end

/-- No struct or enum in the type has a closing bracket in its name. -/
def Legible (t : Ty) : Prop := ∀ name ∈ t.names, ')' ∉ name.toList

instance : DecidablePred Legible :=
  fun t => inferInstanceAs (Decidable (∀ name ∈ t.names, ')' ∉ name.toList))

def LegibleList (ts : List Ty) : Prop := ∀ name ∈ namesList ts, ')' ∉ name.toList

theorem legible_fn {params : List Ty} {result : Ty} :
    (fn params result).Legible ↔ LegibleList params ∧ result.Legible := by
  unfold Legible
  rw [names]
  exact List.forall_mem_append

theorem legibleList_cons {t : Ty} {rest : List Ty} :
    LegibleList (t :: rest) ↔ t.Legible ∧ LegibleList rest := by
  unfold LegibleList
  rw [namesList]
  exact List.forall_mem_append

theorem legible_struct {name : String} : (struct name).Legible ↔ ')' ∉ name.toList := by
  simp [Legible, names]

theorem legible_enum {name : String} : (enum name).Legible ↔ ')' ∉ name.toList := by
  simp [Legible, names]

theorem legibleList_of_forall {ts : List Ty} (each : ∀ t ∈ ts, t.Legible) : LegibleList ts := by
  induction ts with
  | nil => exact fun _ member => by cases member
  | cons t rest ih =>
    rcases List.forall_mem_cons.mp each with ⟨first, others⟩
    exact legibleList_cons.mpr ⟨first, ih others⟩

/-- Known types are legible if the declared names are. -/
theorem Known.legible {r : Registry}
    (plain : ∀ name, r.structs.contains name = true ∨ r.enums.contains name = true →
      ')' ∉ name.toList)
    {t : Ty} (known : t.Known r) : t.Legible := by
  induction known with
  | struct declared => exact legible_struct.mpr (plain _ (Or.inl declared))
  | enum declared => exact legible_enum.mpr (plain _ (Or.inr declared))
  | fn _ _ params_legible result_legible =>
    exact legible_fn.mpr ⟨legibleList_of_forall params_legible, result_legible⟩
  | _ => exact fun _ member => by cases member

/-- A name without a closing bracket ends where the first one stands. -/
theorem bracketed_inj {name other : String} {rest others : List Char} (plain : ')' ∉ name.toList)
    (plain' : ')' ∉ other.toList)
    (same : name.toList ++ ')' :: rest = other.toList ++ ')' :: others) :
    name = other ∧ rest = others := by
  rw [← String.toList_inj]
  generalize name.toList = first at *
  generalize other.toList = second at *
  rcases List.append_eq_append_iff.mp same with ⟨more, rfl, ends⟩ | ⟨more, rfl, ends⟩
  all_goals
    cases more with
    | nil => simpa [eq_comm] using ends
    | cons c behind =>
      rw [List.cons_append, List.cons.injEq] at ends
      simp [← ends.1] at plain plain'

mutual

/-- The text of a type shows the type and its own end. -/
theorem text_append_inj : (t u : Ty) → t.Legible → u.Legible → {x y : List Char} →
    t.text.toList ++ x = u.text.toList ++ y → t = u ∧ x = y
  | int, u, _, _, _, _, same => by cases u <;> simp_all [text]
  | bool, u, _, _, _, _, same => by cases u <;> simp_all [text]
  | string, u, _, _, _, _, same => by cases u <;> simp_all [text]
  | unit, u, _, _, _, _, same => by cases u <;> simp_all [text]
  | any, u, _, _, _, _, same => by cases u <;> simp_all [text]
  | unknown, u, _, _, _, _, same => by cases u <;> simp_all [text]
  | struct name, u, legible, legible', x, y, same => by
    cases u with
    | struct other =>
      have bracketed : name.toList ++ ')' :: x = other.toList ++ ')' :: y := by
        simpa [text] using same
      rcases bracketed_inj (legible_struct.mp legible) (legible_struct.mp legible') bracketed with
        ⟨rfl, behind⟩
      exact ⟨rfl, behind⟩
    | _ => simp [text] at same
  | enum name, u, legible, legible', x, y, same => by
    cases u with
    | enum other =>
      have bracketed : name.toList ++ ')' :: x = other.toList ++ ')' :: y := by
        simpa [text] using same
      rcases bracketed_inj (legible_enum.mp legible) (legible_enum.mp legible') bracketed with
        ⟨rfl, behind⟩
      exact ⟨rfl, behind⟩
    | _ => simp [text] at same
  | fn params result, u, legible, legible', x, y, same => by
    cases u with
    | fn params' result' =>
      rw [legible_fn] at legible legible'
      have inside : (textList params).toList ++ ')' :: '-' :: '>' :: (result.text.toList ++ x) =
          (textList params').toList ++ ')' :: '-' :: '>' :: (result'.text.toList ++ y) := by
        simpa [text] using same
      rcases textList_append_inj params params' legible.1 legible'.1 inside with ⟨rfl, arrow⟩
      rcases text_append_inj result result' legible.2 legible'.2 (by simpa using arrow) with
        ⟨rfl, behind⟩
      exact ⟨rfl, behind⟩
    | _ => simp [text] at same

theorem textList_append_inj : (ts us : List Ty) → LegibleList ts → LegibleList us →
    {x y : List Char} →
    (textList ts).toList ++ ')' :: x = (textList us).toList ++ ')' :: y → ts = us ∧ x = y
  | [], us, _, _, x, y, same => by
    cases us with
    | nil => simpa using same
    | cons u others => cases u <;> simp [textList, text] at same
  | t :: rest, [], _, _, x, y, same => by
    cases t <;> simp [textList, text] at same
  | t :: rest, u :: others, legible, legible', x, y, same => by
    rw [legibleList_cons] at legible legible'
    have parts : t.text.toList ++ ((textRest rest).toList ++ ')' :: x) =
        u.text.toList ++ ((textRest others).toList ++ ')' :: y) := by
      simpa [textList] using same
    rcases text_append_inj t u legible.1 legible'.1 parts with ⟨rfl, further⟩
    rcases textRest_append_inj rest others legible.2 legible'.2 further with ⟨rfl, behind⟩
    exact ⟨rfl, behind⟩

theorem textRest_append_inj : (ts us : List Ty) → LegibleList ts → LegibleList us →
    {x y : List Char} →
    (textRest ts).toList ++ ')' :: x = (textRest us).toList ++ ')' :: y → ts = us ∧ x = y
  | [], us, _, _, x, y, same => by
    cases us with
    | nil => simpa using same
    | cons u others => simp [textRest] at same
  | t :: rest, [], _, _, x, y, same => by simp [textRest] at same
  | t :: rest, u :: others, legible, legible', x, y, same => by
    rw [legibleList_cons] at legible legible'
    have parts : t.text.toList ++ ((textRest rest).toList ++ ')' :: x) =
        u.text.toList ++ ((textRest others).toList ++ ')' :: y) := by
      simpa [textRest] using same
    rcases text_append_inj t u legible.1 legible'.1 parts with ⟨rfl, further⟩
    rcases textRest_append_inj rest others legible.2 legible'.2 further with ⟨rfl, behind⟩
    exact ⟨rfl, behind⟩

end

theorem text_inj {t u : Ty} (legible : t.Legible) (legible' : u.Legible)
    (same : t.text = u.text) : t = u := by
  refine (text_append_inj t u legible legible' (x := []) (y := []) ?_).1
  rw [same]

/-- A closing bracket in a name may look like the end of a type. -/
example :
    (fn [struct "A), Struct(B"] unit).text = (fn [struct "A", struct "B"] unit).text := by
  decide

end Ty

end ModuleCheck
