import RoutineAtlas.Proofs.Accounting

/-!
# A name is a variable or a function

What `name(…)` means cannot be told from its statement: it is an element of a variable if the scope
gives `name` a value anywhere, even further down, and a call of a function otherwise. So the
statements of a scope are read twice, first with no variable known, for the names that get a value,
and then with these names for everything.

The two readings must agree on what gets a value. They do, because a name that is known decides
between an element and a call only: `Place.plainRole_eq_definition_iff` does not mention the names.

## Main definitions

* `Binding.IsDefined` — the variable gets a value.
* `DefinedIn` — all variables that get a value are among some names.
* `Record.Disambiguated` — no function that a scope calls has the name of a variable with a value.
-/

namespace RoutineAtlas

/-! ## Both readings find the same definitions -/

namespace Place

variable {p : Place} {known known' : List Text} {before ts : List Token}
  {brackets : List TokenKind}

/-- Whether a variable gets a value at a place is told by what stands around it. -/
theorem plainRole_eq_definition_iff : p.plainRole known = .definition ↔
    (p.startsStatement = true ∧ p.nextIs (·.isOperator "=") = true) ∨
      p.prevIs (·.isReserved "foreach") = true ∨ p.isForeachKey = true := by
  unfold plainRole
  dsimp only
  by_cases hassigned : (p.startsStatement && p.nextIs (·.isOperator "=")) = true
  · simp_all
  · by_cases heach : p.prevIs (·.isReserved "foreach") = true
    · simp_all
    · by_cases hkey : p.isForeachKey = true
      · simp_all
      · rw [if_neg hassigned, if_neg heach, if_neg hkey]
        rw [Bool.and_eq_true] at hassigned
        simp only [hassigned, heach, hkey, or_self]
        split
        · simp
        · split
          · simp
          · split
            · simp
            · split <;> simp

theorem role_eq_definition {enclosing : Option TokenKind}
    (h : p.role enclosing known = .definition) : p.role enclosing known' = .definition := by
  unfold role at h ⊢
  split
  · simp_all
  · split
    · simp_all
    · split
      · simp_all
      · simp only [*, if_false, Bool.false_eq_true] at h
        exact plainRole_eq_definition_iff.2 (plainRole_eq_definition_iff.1 h)

/-- A definition is one whatever names are known. -/
theorem definition_mem_rolesFrom (h : (p, .definition) ∈ rolesFrom known before brackets ts) :
    (p, .definition) ∈ rolesFrom known' before brackets ts := by
  induction ts generalizing before brackets with
  | nil => cases h
  | cons t ts ih =>
    simp only [rolesFrom] at h ⊢
    split at h
    · rename_i hrole
      rw [if_pos hrole]
      rcases List.mem_cons.1 h with heq | h
      · obtain ⟨rfl, hdefinition⟩ := Prod.mk.inj heq
        rw [role_eq_definition hdefinition.symm]
        exact List.mem_cons_self
      · exact List.mem_cons_of_mem _ (ih h)
    · rename_i hrole
      rw [if_neg hrole]
      exact ih h

/-- The name of a function that is called is not known. -/
theorem notMem_known_of_role_eq_call {enclosing : Option TokenKind}
    (h : p.role enclosing known = .call .function) : p.token.key ∉ known := by
  unfold role at h
  split at h
  · cases h
  · split at h
    · -- what follows an arrow is a method
      cases hparens : p.methodHasParens <;> simp [hparens, RoutineKind.of] at h
    · split at h
      · cases h
      · simp only [plainRole] at h
        iterate 6
          split at h
          · cases h
        split at h
        · rename_i hcall
          simpa using (Bool.and_eq_true_iff.1 hcall).2
        · cases h

end Place

/-- What a statement finds to get a value is among the names that it gives a value to. -/
theorem Statement.mem_defined_of_findings {s : Statement} {scope : Nat} {known : List Text}
    {name : Text} {kind : BindingKind} {span : Span}
    (h : .occurrence name kind ⟨span, .definition⟩ ∈ s.findings scope known) :
    name.lower ∈ s.defined := by
  unfold findings at h
  split at h
  · cases h
  · split at h
    · rename_i hcommon
      obtain ⟨t, ht, heq⟩ := List.mem_map.1 h
      obtain ⟨rfl, -, -⟩ := Finding.occurrence.inj heq
      rw [defined, if_pos hcommon]
      exact List.mem_append_right _ (List.mem_map_of_mem (f := Token.key) ht)
    · rename_i hcommon
      split at h
      · cases h
      · obtain ⟨⟨p, role⟩, hp, hfound⟩ := List.mem_filterMap.1 h
        cases role with
        | definition =>
          obtain ⟨rfl, -, -⟩ := Finding.occurrence.inj (Option.some.inj hfound)
          rw [defined, if_neg hcommon]
          exact List.mem_filterMap.2
            ⟨(p, .definition), Place.definition_mem_rolesFrom hp, by simp [Token.key]⟩
        | reference => simp [Finding.ofRole?, Finding.ofToken] at hfound
        | call kind => cases hfound
        | aside => cases hfound

/-! ## Variables with a value -/

/-- The variable gets a value. -/
def Binding.IsDefined (b : Binding) : Prop :=
  ∃ o ∈ b.occurrences, o.role = .definition

/-- All variables that get a value are among the names. -/
def DefinedIn (names : List Text) (bindings : List Binding) : Prop :=
  ∀ b ∈ bindings, b.IsDefined → b.name ∈ names

variable {names : List Text} {bindings : List Binding}

theorem DefinedIn.occur (h : DefinedIn names bindings) {name : Text} {o : Occurrence}
    (ho : o.role = .definition → name.lower ∈ names) (kind : BindingKind) :
    DefinedIn names (occur bindings name kind o) := by
  induction bindings with
  | nil =>
    intro b hb hdefined
    obtain rfl := List.mem_singleton.1 hb
    obtain ⟨o', ho', hrole⟩ := hdefined
    rw [List.mem_singleton.1 ho'] at hrole
    exact ho hrole
  | cons first rest ih =>
    obtain ⟨hfirst, hrest⟩ := List.forall_mem_cons.1 h
    rw [RoutineAtlas.occur]
    split
    · rename_i hname
      refine List.forall_mem_cons.2 ⟨?_, hrest⟩
      rintro ⟨o', ho', hrole⟩
      rcases List.mem_append.1 ho' with ho' | ho'
      · exact hfirst ⟨o', ho', hrole⟩
      · rw [List.mem_singleton.1 ho'] at hrole
        rw [eq_of_beq hname]
        exact ho hrole
    · exact List.forall_mem_cons.2 ⟨hfirst, ih hrest⟩

/-- Findings keep it so, as long as what they find to get a value is among the names. -/
theorem DefinedIn.foldl_bind (h : DefinedIn names bindings) {findings : List Finding}
    (hfindings : ∀ name kind span, .occurrence name kind ⟨span, .definition⟩ ∈ findings →
      name.lower ∈ names) :
    DefinedIn names (findings.foldl Finding.bind bindings) := by
  induction findings generalizing bindings with
  | nil => exact h
  | cons f rest ih =>
    have hrest : ∀ name kind span, .occurrence name kind ⟨span, .definition⟩ ∈ rest →
        name.lower ∈ names :=
      fun name kind span hmem => hfindings name kind span (List.mem_cons_of_mem _ hmem)
    cases f with
    | call site => exact ih h hrest
    | occurrence name kind o =>
      refine ih (h.occur ?_ kind) hrest
      obtain ⟨span, role⟩ := o
      rintro rfl
      exact hfindings name kind span List.mem_cons_self

/-- Whatever gets a value in a scope was known before its statements were read for calls. -/
theorem ScopeDraft.definedIn_known (d : ScopeDraft) (index : Nat) :
    DefinedIn d.known (d.scope index).bindings := by
  refine DefinedIn.foldl_bind ?_ ?_
  · intro b hb _
    exact List.mem_append_left _ (List.mem_map_of_mem hb)
  · intro name kind span hmem
    obtain ⟨s, hs, hmem⟩ := List.mem_flatMap.1 hmem
    exact List.mem_append_right _
      (List.mem_flatMap.2 ⟨s, hs, Statement.mem_defined_of_findings hmem⟩)

/-! ## Records -/

/-- No function that is called in a scope has the name of a variable which gets a value there. -/
def Record.Disambiguated (r : Record) : Prop :=
  ∀ (n : Nat) (s : Scope), r.scopes[n]? = some s → ∀ b ∈ s.bindings, b.IsDefined →
    ∀ c ∈ r.calls, c.scope = n → c.kind = .function → c.name.sameName b.name = false

theorem Outline.disambiguated_record (file : Path) (ss : List Statement) :
    (ofStatements file ss).record.Disambiguated := by
  intro n scope hscope b hb hdefined c hc hn hkind
  have hsmall := (namedApart_scopes file ss scope (List.mem_of_getElem? hscope)).small b hb
  obtain ⟨d, hd, rfl⟩ := getElem?_scopes_record.1 hscope
  obtain ⟨d', s, p, kind, hat⟩ := writtenAt_of_mem_calls hc
  obtain rfl : d = d' := by
    have hdraft := hat.draft
    rw [hn, hd] at hdraft
    exact Option.some.inj hdraft
  obtain ⟨-, -, enclosing, hrole⟩ := hat.place
  obtain rfl : kind = .function := by
    rw [hat.call] at hkind
    exact hkind
  have hname : c.name.lower = p.token.key := by
    rw [hat.call]
    rfl
  have hunknown : p.token.key ∉ d.known := Place.notMem_known_of_role_eq_call hrole
  have hknown : b.name ∈ d.known := d.definedIn_known n b hb hdefined
  rw [Text.sameName, hname, hsmall, beq_eq_false_iff_ne]
  intro heq
  exact hunknown (heq ▸ hknown)

/-- A name is not both a variable with a value and a function in one scope: no function that is
called in a scope has the name of a variable which gets a value there, before the call or after
it. -/
theorem Analysis.not_both_variable_and_function (path : Path) (text : Text) {n : Nat} {s : Scope}
    (hs : (Analysis.read path text).record.scopes[n]? = some s) {b : Binding}
    (hb : b ∈ s.bindings) (hdefined : b.IsDefined) {c : CallSite}
    (hc : c ∈ (Analysis.read path text).record.calls) (hscope : c.scope = n)
    (hkind : c.kind = .function) : c.name.sameName b.name = false :=
  Outline.disambiguated_record path _ n s hs b hb hdefined c hc hscope hkind

/-- A variable that is read like a function before it gets its value, beside a function. -/
theorem Analysis.not_both_variable_and_function_read_first :
    let r := (Analysis.read (.ofString "a.pro") "y = f(1)\nf = [1, 2]\nz = g(f(0))\n".toList).record
    let b : Binding := ⟨['f'], .localVariable,
      [⟨⟨0, 4, 1⟩, .reference⟩, ⟨⟨1, 0, 1⟩, .definition⟩, ⟨⟨2, 6, 1⟩, .reference⟩]⟩
    let c : CallSite := ⟨['g'], .function, ⟨2, 4, 1⟩, [], 1, 0, ⟨2, 10, 1⟩⟩
    ∃ s, r.scopes[0]? = some s ∧ b ∈ s.bindings ∧ b.IsDefined ∧ c ∈ r.calls ∧ c.scope = 0 ∧
      c.kind = .function ∧ c.name.sameName b.name = false := by
  intro r b c
  have hscope : (r.scopes[0]?.any fun s => b ∈ s.bindings) = true := by decide +kernel
  obtain ⟨s, hs, hb⟩ := (Option.any_eq_true _ _).1 hscope
  have hdefined : b.IsDefined := ⟨⟨⟨1, 0, 1⟩, .definition⟩, by simp [b], rfl⟩
  have hc : c ∈ r.calls := by decide +kernel
  exact ⟨s, hs, of_decide_eq_true hb, hdefined, hc, rfl, rfl,
    not_both_variable_and_function _ _ hs (of_decide_eq_true hb) hdefined hc rfl rfl⟩

end RoutineAtlas
