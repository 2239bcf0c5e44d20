import Mathlib.Data.List.Nodup
import RoutineAtlas.Proofs.Record

/-!
# What becomes of each statement

Reading a file allots every statement: it is the header of a routine, or it is put into one scope,
or it ends a routine or the main program and is kept nowhere. So a signature is told by the
statement it was read from, and a statement that is kept is kept in one scope only.

`Outline.holds_add` and `Outline.routine_of_add` say what one statement does, and
`Outline.allotted_ofStatements` what all of them have done.

## Main definitions

* `Outline.Holds` — a scope holds a statement.
* `Outline.Allotted` — the routines and the scopes come of different statements.
-/

namespace RoutineAtlas

/-- The statement begins with a word that begins a routine. -/
def Statement.isHeader (s : Statement) : Bool :=
  s.head?.any Token.startsRoutine

namespace Outline

variable {file : Path} {o : Outline} {i j scope : Nat} {s s' : Statement}

/-- Scope number `i` holds the statement. -/
def Holds (o : Outline) (i : Nat) (s : Statement) : Prop :=
  ∃ d, o.scopes[i]? = some d ∧ s ∈ d.statements

/-! ## One statement -/

theorem holds_abandon (h : o.abandon.Holds i s) : o.Holds i s := by
  unfold abandon at h
  split at h <;> exact h

/-- A new scope holds nothing. -/
theorem holds_of_append {o' : Outline} {d : ScopeDraft} (hscopes : o'.scopes = o.scopes ++ [d])
    (hd : d.statements = []) (h : o'.Holds i s) : o.Holds i s := by
  obtain ⟨d', hi, hs⟩ := h
  rw [hscopes, List.getElem?_append] at hi
  split at hi
  · exact ⟨d', hi, hs⟩
  · obtain rfl := List.mem_singleton.1 (List.mem_of_getElem? hi)
    rw [hd] at hs
    cases hs

theorem holds_addHeader {word : Token} {after : List Token}
    (h : (o.addHeader file word after).Holds i s) : o.Holds i s := by
  simp only [addHeader] at h
  split at h
  · exact holds_of_append rfl rfl h
  · exact h

/-- A changed scope holds what it held, or what the change has put into it. -/
theorem holds_of_modify {o' : Outline} {f : ScopeDraft → ScopeDraft}
    (hscopes : o'.scopes = o.scopes.modify scope f) (h : o'.Holds i s) :
    o.Holds i s ∨ ∃ d, i = scope ∧ o.scopes[i]? = some d ∧ s ∈ (f d).statements := by
  obtain ⟨d', hi, hs⟩ := h
  rw [hscopes, List.getElem?_modify, Option.map_eq_map, Option.map_eq_some_iff] at hi
  obtain ⟨d, hd, rfl⟩ := hi
  split at hs
  · rename_i hscope
    exact .inr ⟨d, hscope.symm, hd, hs⟩
  · exact .inl ⟨d, hd, hs⟩

theorem holds_put (h : (o.put scope s).Holds i s') : o.Holds i s' ∨ (i = scope ∧ s' = s) := by
  rcases holds_of_modify rfl h with h | ⟨d, hscope, hd, hs'⟩
  · exact .inl h
  · rcases List.mem_append.1 hs' with hs' | hs'
    · exact .inl ⟨d, hd, hs'⟩
    · exact .inr ⟨hscope, List.mem_singleton.1 hs'⟩

theorem holds_close {r : OpenRoutine} (h : (o.close r s).Holds i s') : o.Holds i s' := by
  rcases holds_of_modify rfl h with h | ⟨d, -, hd, hs'⟩
  · exact h
  · exact ⟨d, hd, hs'⟩

theorem holds_withMain {start : Span} (h : (o.withMain start).2.Holds i s) : o.Holds i s := by
  unfold withMain at h
  split at h
  · exact h
  · exact holds_of_append rfl rfl h

/-- A statement is put into one scope at most, and only if it is no header. -/
theorem holds_add (file : Path) (o : Outline) (s : Statement) :
    ∃ scope, ∀ i s', (o.add file s).Holds i s' →
      o.Holds i s' ∨ (i = scope ∧ s' = s ∧ s.isHeader = false) := by
  cases s with
  | nil => exact ⟨0, fun i s' h => .inl h⟩
  | cons first after =>
    cases hheader : first.startsRoutine with
    | true =>
      simp only [add, hheader, if_true]
      exact ⟨0, fun i s' h => .inl (holds_abandon (holds_addHeader h))⟩
    | false =>
      have hstatement : Statement.isHeader (first :: after) = false := hheader
      simp only [add, hheader, Bool.false_eq_true, if_false, hstatement, and_true]
      split
      · rename_i r hr
        refine ⟨r.scope, fun i s' h => ?_⟩
        unfold addToRoutine at h
        split at h
        · exact .inl (holds_close h)
        · exact holds_put h
      · refine ⟨(o.withMain first.start).1, fun i s' h => ?_⟩
        unfold addToMain at h
        split at h
        · exact .inl h
        · exact (holds_put h).imp_left fun h => holds_withMain h

/-- A routine was there before, perhaps with its `end` still to come, or the statement is its
header. -/
theorem routine_of_add {r : Routine} (h : r ∈ (o.add file s).routines) :
    (∃ old ∈ o.routines, old.signature = r.signature) ∨
      ∃ word after, s = word :: after ∧ word.startsRoutine = true ∧
        (Header.read file word after).signature = some r.signature := by
  cases s with
  | nil => exact .inl ⟨r, h, rfl⟩
  | cons first after =>
    simp only [add] at h
    split at h
    · rename_i hheader
      simp only [addHeader] at h
      split at h
      · rename_i signature hread
        rcases List.mem_append.1 h with h | h
        · exact .inl ⟨r, routines_abandon o ▸ h, rfl⟩
        · rw [List.mem_singleton.1 h]
          exact .inr ⟨first, after, rfl, hheader, hread⟩
      · exact .inl ⟨r, routines_abandon o ▸ h, rfl⟩
    · split at h
      · rename_i opened _
        unfold addToRoutine at h
        split at h
        · -- ending a routine only marks it as closed
          have hold : ∀ r ∈ o.routines, ∃ old ∈ o.routines, old.signature = r.signature :=
            fun r hr => ⟨r, hr, rfl⟩
          refine .inl (forall_mem_modify hold opened.routine ?_ r h)
          exact fun _ hr => hr
        · exact .inl ⟨r, h, rfl⟩
      · have hmain : (o.addToMain first (first :: after)).routines = o.routines := by
          unfold addToMain withMain
          split
          · rfl
          · dsimp only
            split <;> rfl
        exact .inl ⟨r, hmain ▸ h, rfl⟩

/-! ## All statements -/

/-- The routines and the scopes come of the given statements: routines of headers, and scopes of the
others, each of which is in one scope only. -/
structure Allotted (file : Path) (statements : List Statement) (o : Outline) : Prop where
  header : ∀ r ∈ o.routines, ∃ word after, word :: after ∈ statements ∧
    word.startsRoutine = true ∧ (Header.read file word after).signature = some r.signature
  held : ∀ i s, o.Holds i s → s ∈ statements ∧ s.isHeader = false
  once : ∀ i j s, o.Holds i s → o.Holds j s → i = j

variable {statements rest : List Statement}

theorem allotted_empty (file : Path) : Allotted file [] empty := by
  constructor <;> simp [empty, Holds]

theorem Allotted.add (h : o.Allotted file statements) (hnew : s ∉ statements) :
    (o.add file s).Allotted file (statements ++ [s]) := by
  obtain ⟨scope, hholds⟩ := holds_add file o s
  refine ⟨?_, ?_, ?_⟩
  · intro r hr
    rcases routine_of_add hr with ⟨old, hold, heq⟩ | ⟨word, after, rfl, hstarts, hread⟩
    · obtain ⟨word, after, hmem, hstarts, hread⟩ := h.header old hold
      exact ⟨word, after, List.mem_append_left _ hmem, hstarts, heq ▸ hread⟩
    · exact ⟨word, after, by simp, hstarts, hread⟩
  · intro i s' hs'
    rcases hholds i s' hs' with hold | ⟨-, rfl, hheader⟩
    · exact (h.held i s' hold).imp_left (List.mem_append_left _)
    · exact ⟨by simp, hheader⟩
  · intro i j s' hi hj
    -- the new statement was held nowhere before
    rcases hholds i s' hi with hi | ⟨hiscope, rfl, -⟩
    · rcases hholds j s' hj with hj | ⟨-, heq, -⟩
      · exact h.once i j s' hi hj
      · exact absurd (heq ▸ (h.held i s' hi).1) hnew
    · rcases hholds j s' hj with hj | ⟨hjscope, -, -⟩
      · exact absurd (h.held j s' hj).1 hnew
      · rw [hiscope, hjscope]

theorem Allotted.addAll (h : o.Allotted file statements) (hnodup : (statements ++ rest).Nodup) :
    (rest.foldl (Outline.add file) o).Allotted file (statements ++ rest) := by
  induction rest generalizing o statements with
  | nil => simpa using h
  | cons s rest ih =>
    have hnew : s ∉ statements := by
      have hmiddle := (List.nodup_cons.1 (List.nodup_middle.1 hnodup)).1
      exact fun hs => hmiddle (List.mem_append_left _ hs)
    have hrest := ih (h.add hnew) (by rwa [List.append_assoc])
    rwa [List.append_assoc] at hrest

theorem allotted_ofStatements (file : Path) (hnodup : statements.Nodup) :
    (ofStatements file statements).Allotted file statements := by
  have h : (statements.foldl (Outline.add file) empty).Allotted file ([] ++ statements) :=
    (allotted_empty file).addAll hnodup
  refine ⟨?_, fun i s hs => h.held i s (holds_abandon hs), ?_⟩
  · intro r hr
    rw [ofStatements, routines_abandon] at hr
    exact h.header r hr
  · exact fun i j s hi hj => h.once i j s (holds_abandon hi) (holds_abandon hj)

end Outline

end RoutineAtlas
