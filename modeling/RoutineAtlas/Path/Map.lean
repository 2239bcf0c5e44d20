import RoutineAtlas.Path

/-!
# Maps over paths

A finite map whose keys are paths, told apart by their parts. A key keeps the spelling with which
it came into the map, and the place at which it came.
-/

namespace RoutineAtlas

/-- A finite map over paths, as the list of its entries. -/
abbrev PathMap (α : Type) := List (Path × α)

namespace PathMap

variable {α : Type}

/-- The value at a path. -/
def get? (m : PathMap α) (p : Path) : Option α :=
  (m.find? fun entry => entry.1.same p).map (·.2)

/-- The map with the value `a` at the path `p`. -/
def insert (m : PathMap α) (p : Path) (a : α) : PathMap α :=
  match m with
  | [] => [(p, a)]
  | entry :: rest =>
    if entry.1.same p then (entry.1, a) :: rest else entry :: PathMap.insert rest p a

/-- The map without the path `p`. -/
def erase (m : PathMap α) (p : Path) : PathMap α :=
  m.filter fun entry => !entry.1.same p

/-- The values of the map. -/
def values (m : PathMap α) : List α :=
  m.map (·.2)

/-- The map with every value changed by `f`. -/
def mapValues (m : PathMap α) (f : α → α) : PathMap α :=
  m.map fun entry => (entry.1, f entry.2)

@[simp] theorem get?_nil (p : Path) : get? ([] : PathMap α) p = none :=
  rfl

theorem get?_insert (m : PathMap α) (p q : Path) (a : α) :
    get? (PathMap.insert m p a) q = if p.same q then some a else get? m q := by
  induction m with
  | nil => cases h : p.same q <;> simp [PathMap.insert, get?, h]
  | cons entry rest ih =>
    simp only [PathMap.insert]
    cases hp : entry.1.same p with
    | true =>
      have : entry.1.same q = p.same q := by
        simp only [Path.same, beq_iff_eq] at hp ⊢
        rw [hp]
      cases hq : p.same q <;> simp [get?, this, hq]
    | false =>
      simp only [Bool.false_eq_true, if_false, get?, List.find?_cons] at ih ⊢
      cases hq : entry.1.same q with
      | false => simpa using ih
      | true =>
        have : p.same q = false := by
          simp only [Path.same, beq_iff_eq, beq_eq_false_iff_ne, ne_eq] at hp hq ⊢
          exact fun h => hp (hq.trans h.symm)
        simp [this]

theorem get?_erase (m : PathMap α) (p q : Path) :
    get? (PathMap.erase m p) q = if p.same q then none else get? m q := by
  have skips (a : Path) : a.same p = true → a.same q = p.same q := by
    simp only [Path.same, beq_iff_eq]
    exact fun h => by rw [h]
  induction m with
  | nil => simp [PathMap.erase, get?]
  | cons entry rest ih =>
    simp only [PathMap.erase, get?, List.filter_cons, List.find?_cons] at ih ⊢
    cases hp : entry.1.same p with
    | true =>
      simp only [Bool.not_true, Bool.false_eq_true, if_false, skips _ hp, ih]
      cases p.same q <;> rfl
    | false =>
      cases hq : entry.1.same q with
      | false => simpa [hp, hq] using ih
      | true =>
        have : p.same q = false := by
          simp only [Path.same, beq_iff_eq, beq_eq_false_iff_ne, ne_eq] at hp hq ⊢
          exact fun h => hp (hq.trans h.symm)
        simp [hq, this]

end PathMap

end RoutineAtlas
