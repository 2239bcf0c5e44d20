import RoutineAtlas.Analysis.Check
import RoutineAtlas.Proofs.PathMap

/-!
# Routines belong to the file that is read

Statements are read one after the other into an outline, and the file's path is passed along. What
`Outline.add` keeps in one step, reading keeps for the whole file: every signature of a record
carries the path that the file was read under.
-/

namespace RoutineAtlas

theorem Header.file_of_read {file : Path} {word : Token} {after : List Token} {s : Signature}
    (h : (Header.read file word after).signature = some s) : s.file = file := by
  cases after with
  | nil => simp [Header.read] at h
  | cons name rest =>
    simp only [Header.read] at h
    split at h
    · rw [← Option.some.inj h]
    · cases h

/-- What a change of one element keeps holds of all elements. -/
theorem forall_mem_modify {α : Type} {good : α → Prop} {l : List α} (h : ∀ x ∈ l, good x) (i : Nat)
    {f : α → α} (hf : ∀ x, good x → good (f x)) : ∀ x ∈ l.modify i f, good x := by
  intro x hx
  obtain ⟨j, hj, rfl⟩ := List.mem_iff_getElem.1 hx
  have hlt : j < l.length := by simpa using hj
  rw [List.getElem_modify]
  split
  · exact hf _ (h _ (List.getElem_mem hlt))
  · exact h _ (List.getElem_mem hlt)

/-- Changing one element and mapping all of them can be done in either order. -/
theorem modify_map {α β : Type} {f : α → β} {g : α → α} {g' : β → β} (h : ∀ a, g' (f a) = f (g a))
    (l : List α) (i : Nat) : (l.map f).modify i g' = (l.modify i g).map f := by
  refine List.ext_getElem? fun j => ?_
  simp only [List.getElem?_modify, List.getElem?_map]
  cases l[j]? with
  | none => rfl
  | some a => by_cases hj : i = j <;> simp [hj, h]

/-- A change of one element does not show in what it keeps of all of them. -/
theorem map_modify_of_eq {α β : Type} {f : α → β} {g : α → α} (h : ∀ a, f (g a) = f a)
    (l : List α) (i : Nat) : (l.modify i g).map f = l.map f := by
  have hmap := @modify_map α β f g id (fun a => (h a).symm) l i
  rwa [List.modify_id, eq_comm] at hmap

theorem modify_last {α : Type} (xs : List α) (x : α) (f : α → α) :
    (xs ++ [x]).modify xs.length f = xs ++ [f x] := by
  simp [List.modify_eq_take_drop]

/-- A view that does not notice `f` is the same of lists that `f` makes the same. -/
theorem map_view_eq_of_map_eq {α β : Type} {f : α → α} {view : α → β}
    (hview : ∀ x, view (f x) = view x) {l l' : List α} (h : l.map f = l'.map f) :
    l.map view = l'.map view := by
  have hmap (l : List α) : (l.map f).map view = l.map view := by
    rw [List.map_map]
    exact List.map_congr_left fun x _ => hview x
  rw [← hmap, h, hmap]

namespace Outline

variable {file : Path} {o : Outline}

/-- All routines so far are of the file. -/
def Within (file : Path) (o : Outline) : Prop :=
  ∀ r ∈ o.routines, r.signature.file = file

@[simp] theorem routines_abandon (o : Outline) : o.abandon.routines = o.routines := by
  unfold abandon; split <;> rfl

theorem Within.addHeader (h : o.Within file) (word : Token) (after : List Token) :
    (o.addHeader file word after).Within file := by
  simp only [Outline.addHeader]
  split
  · rename_i s hs
    intro r hr
    rcases List.mem_append.1 hr with hr | hr
    · exact h r hr
    · rw [List.mem_singleton.1 hr]
      exact Header.file_of_read hs
  · exact h

theorem Within.addToRoutine (h : o.Within file) (r : OpenRoutine) (s : Statement) :
    (o.addToRoutine r s).Within file := by
  unfold Outline.addToRoutine
  split
  · -- ending a routine only marks it as closed
    exact forall_mem_modify h _ fun _ hr => hr
  · exact h

theorem Within.addToMain (h : o.Within file) (first : Token) (s : Statement) :
    (o.addToMain first s).Within file := by
  unfold Outline.addToMain
  split
  · exact h
  · have hmain : (o.withMain first.start).2.routines = o.routines := by
      unfold withMain; split <;> rfl
    intro r hr
    exact h r (hmain ▸ hr)

/-- One statement keeps the routines within the file. -/
theorem Within.add (h : o.Within file) (s : Statement) : (o.add file s).Within file := by
  cases s with
  | nil => exact h
  | cons first after =>
    have habandon : o.abandon.Within file := by
      intro r hr
      exact h r (routines_abandon o ▸ hr)
    simp only [Outline.add]
    split
    · exact habandon.addHeader first after
    · split
      · exact h.addToRoutine _ _
      · exact h.addToMain _ _

theorem within_ofStatements (file : Path) (statements : List Statement) :
    (ofStatements file statements).Within file := by
  have hfold : ∀ o : Outline, o.Within file →
      (statements.foldl (Outline.add file) o).Within file := by
    induction statements with
    | nil => exact fun o h => h
    | cons s rest ih => exact fun o h => ih _ (h.add s)
  intro r hr
  rw [ofStatements, routines_abandon] at hr
  exact hfold empty (by simp [Within, empty]) r hr

end Outline

/-- All routines of the analysis are of the given file. -/
def Analysis.IsOf (a : Analysis) (path : Path) : Prop :=
  ∀ s ∈ a.record.signatures, s.file.same path = true

theorem Analysis.isOf_read (path : Path) (text : Text) : (Analysis.read path text).IsOf path := by
  intro s hs
  obtain ⟨r, hr, rfl⟩ := List.mem_map.1 hs
  rw [Outline.within_ofStatements path _ r hr, Path.same_self]

theorem Analysis.isOf_run (path : Path) (text : Text) (withChecks : Bool) (l : RoutineLookup) :
    (Analysis.run path text withChecks l).IsOf path := by
  cases withChecks <;> exact isOf_read path text

end RoutineAtlas
