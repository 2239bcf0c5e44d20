import RoutineAtlas.Path.Map

/-!
# Laws of maps over paths

Two spellings of one path are the same key. `Path.same` is an equivalence, a map cannot tell
equivalent paths apart, and each operation on maps has one equation through `get?`.
-/

namespace RoutineAtlas

namespace Path

@[simp] theorem same_self (p : Path) : p.same p = true := by
  simp [same]

theorem same_comm (p q : Path) : p.same q = q.same p := by
  simp [same, Bool.beq_comm]

/-- Equivalent paths are equivalent to the same paths. -/
theorem same_left {p q : Path} (h : p.same q = true) (r : Path) : p.same r = q.same r := by
  rw [same_iff] at h
  simp [same, h]

theorem same_right {p q : Path} (h : p.same q = true) (r : Path) : r.same p = r.same q := by
  rw [same_comm r p, same_comm r q, same_left h]

theorem same_trans {p q r : Path} (hpq : p.same q = true) (hqr : q.same r = true) :
    p.same r = true := by
  rw [same_left hpq, hqr]

end Path

namespace PathMap

variable {α : Type}

/-- A map cannot tell two spellings of a path apart. -/
theorem get?_congr (m : PathMap α) {p q : Path} (h : p.same q = true) : m.get? p = m.get? q := by
  simp only [get?, Path.same_right h]

theorem get?_mapValues (m : PathMap α) (f : α → α) (p : Path) :
    (m.mapValues f).get? p = (m.get? p).map f := by
  induction m with
  | nil => rfl
  | cons entry rest ih =>
    simp only [mapValues, get?, List.map_cons, List.find?_cons] at ih ⊢
    cases entry.1.same p with
    | true => rfl
    | false => exact ih

end PathMap

end RoutineAtlas
