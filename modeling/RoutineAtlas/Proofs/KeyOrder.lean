import RoutineAtlas.Proofs.SymbolTable

/-!
# The order of keys

Keys are ordered by name and then by kind, and names by their characters. The order is total and no
two keys are equivalent in it, so the sorted list of some keys depends on nothing but which keys
they are.

## Main definitions

* `RoutineKey.mergeSort_eq_of_perm` — the keys in any order, sorted.
* `SymbolTable.keysWhere_congr` — tables that define the same keys list them alike.
-/

namespace RoutineAtlas

namespace Text

theorem le_cons {c d : Char} {cs ds : Text} : le (c :: cs) (d :: ds) = true ↔
    c.toNat < d.toNat ∨ (c = d ∧ le cs ds = true) := by
  by_cases hcd : c = d <;> simp [le, hcd]

theorem le_total (a b : Text) : le a b = true ∨ le b a = true := by
  induction a generalizing b with
  | nil => exact .inl (by simp [le])
  | cons c cs ih =>
    cases b with
    | nil => exact .inr (by simp [le])
    | cons d ds =>
      rw [le_cons, le_cons]
      rcases Nat.lt_trichotomy c.toNat d.toNat with hlt | heq | hgt
      · exact .inl (.inl hlt)
      · obtain rfl := Char.toNat_inj.1 heq
        exact (ih ds).imp (fun h => .inr ⟨rfl, h⟩) (fun h => .inr ⟨rfl, h⟩)
      · exact .inr (.inl hgt)

theorem le_trans {a b c : Text} (hab : le a b = true) (hbc : le b c = true) : le a c = true := by
  induction a generalizing b c with
  | nil => simp [le]
  | cons x xs ih =>
    cases b with
    | nil => simp [le] at hab
    | cons y ys =>
      cases c with
      | nil => simp [le] at hbc
      | cons z zs =>
        rw [le_cons] at hab hbc ⊢
        rcases hab with hxy | ⟨rfl, hxs⟩
        · rcases hbc with hyz | ⟨rfl, -⟩
          · exact .inl (Nat.lt_trans hxy hyz)
          · exact .inl hxy
        · rcases hbc with hyz | ⟨rfl, hys⟩
          · exact .inl hyz
          · exact .inr ⟨rfl, ih hxs hys⟩

theorem le_antisymm {a b : Text} (hab : le a b = true) (hba : le b a = true) : a = b := by
  induction a generalizing b with
  | nil =>
    cases b with
    | nil => rfl
    | cons d ds => simp [le] at hba
  | cons c cs ih =>
    cases b with
    | nil => simp [le] at hab
    | cons d ds =>
      rw [le_cons] at hab hba
      rcases hab with hcd | ⟨rfl, hcs⟩
      · rcases hba with hdc | ⟨rfl, -⟩ <;> omega
      · rcases hba with hdc | ⟨-, hds⟩
        · omega
        · rw [ih hcs hds]

end Text

theorem RoutineKind.eq_of_rank_eq {k k' : RoutineKind} (h : k.rank = k'.rank) : k = k' := by
  revert h
  cases k <;> cases k' <;> decide

namespace RoutineKey

variable {a b c : RoutineKey}

theorem le_iff : a.le b = true ↔ (a.name ≠ b.name ∧ Text.le a.name b.name = true) ∨
    (a.name = b.name ∧ a.kind.rank ≤ b.kind.rank) := by
  by_cases hname : a.name = b.name <;> simp [le, hname]

theorem le_total (a b : RoutineKey) : a.le b = true ∨ b.le a = true := by
  rw [le_iff, le_iff]
  by_cases hname : a.name = b.name
  · exact (Nat.le_total a.kind.rank b.kind.rank).imp (fun h => .inr ⟨hname, h⟩)
      (fun h => .inr ⟨hname.symm, h⟩)
  · exact (Text.le_total a.name b.name).imp (fun h => .inl ⟨hname, h⟩)
      (fun h => .inl ⟨Ne.symm hname, h⟩)

theorem le_trans (hab : a.le b = true) (hbc : b.le c = true) : a.le c = true := by
  rw [le_iff] at hab hbc ⊢
  rcases hab with ⟨hne, hab⟩ | ⟨hname, hrank⟩
  · rcases hbc with ⟨-, hbc⟩ | ⟨hname', -⟩
    · refine .inl ⟨?_, Text.le_trans hab hbc⟩
      intro hac
      rw [← hac] at hbc
      exact hne (Text.le_antisymm hab hbc)
    · rw [← hname']
      exact .inl ⟨hne, hab⟩
  · rw [hname]
    rcases hbc with hbc | ⟨hname', hrank'⟩
    · exact .inl hbc
    · exact .inr ⟨hname', Nat.le_trans hrank hrank'⟩

theorem le_antisymm (hab : a.le b = true) (hba : b.le a = true) : a = b := by
  rw [le_iff] at hab hba
  obtain ⟨name, kind⟩ := a
  rcases hab with ⟨hne, hab⟩ | ⟨hname, hrank⟩
  · rcases hba with ⟨-, hba⟩ | ⟨hname', -⟩
    · exact absurd (Text.le_antisymm hab hba) hne
    · exact absurd hname'.symm hne
  · rcases hba with ⟨hne, -⟩ | ⟨-, hrank'⟩
    · exact absurd hname.symm hne
    · obtain rfl : name = b.name := hname
      obtain rfl : kind = b.kind := RoutineKind.eq_of_rank_eq (Nat.le_antisymm hrank hrank')
      rfl

theorem pairwise_mergeSort (ks : List RoutineKey) :
    (ks.mergeSort RoutineKey.le).Pairwise fun a b => a.le b = true := by
  apply List.pairwise_mergeSort
  · exact fun a b c hab hbc => le_trans hab hbc
  · intro a b
    rw [Bool.or_eq_true]
    exact le_total a b

/-- The sorted list of some keys does not depend on the order they come in. -/
theorem mergeSort_eq_of_perm {ks ks' : List RoutineKey} (h : ks.Perm ks') :
    ks.mergeSort RoutineKey.le = ks'.mergeSort RoutineKey.le := by
  have hperm : (ks.mergeSort RoutineKey.le).Perm (ks'.mergeSort RoutineKey.le) :=
    ((List.mergeSort_perm _ _).trans h).trans (List.mergeSort_perm _ _).symm
  refine hperm.eq_of_pairwise ?_ (pairwise_mergeSort ks) (pairwise_mergeSort ks')
  exact fun a b _ _ hab hba => le_antisymm hab hba

end RoutineKey

namespace SymbolTable

variable {t t' : SymbolTable} {key : RoutineKey}

/-- The keys of the table are those with a definition. -/
theorem WellFormed.mem_keys_iff (h : t.WellFormed) :
    key ∈ t.entries.map (·.1) ↔ t.definitions key ≠ [] := by
  refine ⟨?_, mem_keys_of_definitions⟩
  intro hkey
  obtain ⟨entry, hentry, rfl⟩ := List.mem_map.1 hkey
  unfold definitions
  cases hl : t.entries.lookup entry.1 with
  | none => exact absurd (List.lookup_eq_none_iff.1 hl entry hentry) (by simp)
  | some defs =>
    obtain ⟨before, after, hentries, -⟩ := List.lookup_eq_some_iff.1 hl
    exact h.nonempty (entry.1, defs) (by simp [hentries])

/-- Tables that define the same keys list them alike. -/
theorem keysWhere_congr (h : t.WellFormed) (h' : t'.WellFormed)
    (hkeys : ∀ key, t.definitions key ≠ [] ↔ t'.definitions key ≠ []) (p : RoutineKey → Bool) :
    t.keysWhere p = t'.keysWhere p := by
  apply RoutineKey.mergeSort_eq_of_perm
  apply List.Perm.filter
  refine (List.perm_ext_iff_of_nodup h.nodup h'.nodup).2 fun key => ?_
  rw [h.mem_keys_iff, h'.mem_keys_iff, hkeys]

end SymbolTable

end RoutineAtlas
