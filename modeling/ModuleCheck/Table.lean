import Std.Data.ExtTreeMap

namespace ModuleCheck

/-!
Tables that remember the order in which names were first stored.

The entries stand in an array, and an index maps each stored name to the position of its
entry.  The index is determined by the entries, so two tables with the same entries are equal,
and a name has at most one entry.  Storing a name again replaces its value in place.
-/

/-- A finite map from names to values, listed in order of first insertion. -/
structure Table (α : Type) where
  entries : Array (String × α)
  index : Std.ExtTreeMap String Nat
  /-- The index points at an entry exactly when that entry carries the indexed name. -/
  index_iff : ∀ (name : String) (i : Nat),
    index[name]? = some i ↔ entries[i]?.map Prod.fst = some name

namespace Table

variable {α : Type}

def empty : Table α where
  entries := #[]
  index := ∅
  index_iff := by simp

def toList (t : Table α) : List (String × α) := t.entries.toList

def keys (t : Table α) : List String := t.toList.map Prod.fst

def size (t : Table α) : Nat := t.entries.size

def isEmpty (t : Table α) : Bool := t.size == 0

def contains (t : Table α) (name : String) : Bool := t.index.contains name

def get? (t : Table α) (name : String) : Option α :=
  t.index[name]?.bind fun i => t.entries[i]?.map Prod.snd

private theorem size_not_indexed (t : Table α) (name : String) :
    t.index[name]? ≠ some t.entries.size := by
  rw [ne_eq, t.index_iff]
  simp

/-- The table with `value` stored under `name`: in place if the name was stored before, at
the end otherwise. -/
def insert (t : Table α) (name : String) (value : α) : Table α :=
  match stored : t.index[name]? with
  | some i =>
    { entries := t.entries.setIfInBounds i (name, value)
      index := t.index
      index_iff := by
        intro other j
        rw [t.index_iff, Array.getElem?_setIfInBounds]
        by_cases same : i = j
        · subst same
          have named := (t.index_iff name i).mp stored
          by_cases inside : i < t.entries.size
          · simp_all
          · simp_all
        · simp [same] }
  | none =>
    { entries := t.entries.push (name, value)
      index := t.index.insert name t.entries.size
      index_iff := by
        intro other j
        rw [Std.ExtTreeMap.getElem?_insert, Array.getElem?_push]
        have fresh := t.size_not_indexed other
        have old := t.index_iff other j
        by_cases same : name = other
        · subst same
          by_cases last : j = t.entries.size
          · simp [last]
          · simp only [last, if_false]
            rw [← old]
            simp [stored, Ne.symm last]
        · have differs : compare name other ≠ .eq := by simpa using same
          by_cases last : j = t.entries.size
          · subst last
            simp [differs, fresh, same]
          · simp [differs, last, old] }

/-- The table with the value under `name`, if there is one, replaced by its image. -/
def modify (t : Table α) (name : String) (f : α → α) : Table α :=
  match t.index[name]? with
  | some i =>
    { entries := t.entries.modify i fun entry => (entry.1, f entry.2)
      index := t.index
      index_iff := by
        intro other j
        rw [t.index_iff, Array.getElem?_modify]
        by_cases same : i = j
        · subst same
          simp [Function.comp_def]
        · simp [same] }
  | none => t

/-- The table with every value replaced by its image. -/
def map {β : Type} (f : α → β) (t : Table α) : Table β where
  entries := t.entries.map fun entry => (entry.1, f entry.2)
  index := t.index
  index_iff := by
    intro name i
    rw [t.index_iff]
    simp [Function.comp_def]

end Table

end ModuleCheck
