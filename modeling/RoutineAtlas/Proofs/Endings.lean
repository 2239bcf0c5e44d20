import Mathlib.Data.List.Induction
import RoutineAtlas.Proofs.Allotment

/-!
# Missing ends and routines defined twice

At any time one routine at most is open. It is closed by its `end`; if a header or the end of the
file comes first, it is reported as missing its end and stays as it is. So the reports name the
routines that are not closed, each once and in their order, and every routine but the last is closed
unless the next header came too soon. A header without a name ends the routine before it as well,
although it opens none. A routine that is defined again is reported at its second and at each later
definition.

`Outline.Turn` says what one statement does to the routines and the reports, and `Outline.Tallied`
is what all statements so far leave true.

## Main definitions

* `Problem.withCode` — the reports of one kind.
* `Signature.redefinitions` — the routines that an earlier one has the key of.
* `UnderWay`, `Interrupted` — no header has come since that of a routine, or one has.
* `Record.missing_ends_exact` — the reports are those that the routines call for.
-/

namespace RoutineAtlas

/-! ## Reports of one kind -/

namespace Problem

variable {code : ProblemCode} {ps qs : List Problem}

/-- The problems of the given kind. -/
def withCode (code : ProblemCode) (ps : List Problem) : List Problem :=
  ps.filter fun p => p.code == code.number

@[simp] theorem withCode_append :
    withCode code (ps ++ qs) = withCode code ps ++ withCode code qs :=
  List.filter_append ..

theorem withCode_eq_nil (h : ∀ p ∈ ps, p.code ≠ code.number) : withCode code ps = [] := by
  rw [withCode, List.filter_eq_nil_iff]
  intro p hp
  simpa using h p hp

end Problem

open Problem (withCode)

theorem ParameterList.code_of_mem_problems {seen : Seen} {ts : List Token} {p : Problem}
    (h : p ∈ (read seen ts).problems) : p.code = ProblemCode.invalidRoutineHeader.number ∨
      p.code = ProblemCode.duplicateParameter.number := by
  have hfaulty {fault : HeaderFault} {span : Span} (hp : p ∈ (faulty fault span).problems) :
      p.code = ProblemCode.invalidRoutineHeader.number := by
    rw [List.mem_singleton.1 hp]
    rfl
  have hrepeated {isRepeated : Bool} {t : Token} (hp : p ∈ repetition isRepeated t) :
      p.code = ProblemCode.duplicateParameter.number := by
    unfold repetition at hp
    split at hp
    · rw [List.mem_singleton.1 hp]
      rfl
    · cases hp
  fun_induction read seen ts with
  | case1 seen => cases h
  | case2 seen separator rest hcomma => exact .inl (hfaulty h)
  | case3 seen separator hcomma => exact .inl (hfaulty h)
  | case4 seen separator hcomma t rest hword => exact .inl (hfaulty h)
  | case5 seen separator hcomma t hword isRepeated seen' hseen =>
    rcases List.mem_append.1 h with h | h
    · exact .inr (hrepeated h)
    · cases h
  | case6 seen separator hcomma t hword sign hsign => exact .inl (hfaulty h)
  | case7 seen separator hcomma t hword sign hsign target rest htarget isRepeated seen' hseen ih =>
    rcases List.mem_append.1 h with h | h
    · exact .inr (hrepeated h)
    · exact ih h
  | case8 seen separator hcomma t hword sign hsign target rest htarget => exact .inl (hfaulty h)
  | case9 seen separator hcomma t hword sign afterSign hsign isRepeated seen' hseen ih =>
    rcases List.mem_append.1 h with h | h
    · exact .inr (hrepeated h)
    · exact ih h

/-- All that a header is reported for is that it is not valid or that a parameter is repeated. -/
theorem Header.code_of_mem_problems {file : Path} {word : Token} {after : List Token}
    {p : Problem} (h : p ∈ (Header.read file word after).problems) :
    p.code = ProblemCode.invalidRoutineHeader.number ∨
      p.code = ProblemCode.duplicateParameter.number := by
  have hfault {fault : HeaderFault} {span : Span} (hp : p ∈ [fault.problem span]) :
      p.code = ProblemCode.invalidRoutineHeader.number := by
    rw [List.mem_singleton.1 hp]
    rfl
  cases after with
  | nil => exact .inl (hfault h)
  | cons name rest =>
    simp only [Header.read] at h
    split at h
    · unfold HeaderName.read at h
      dsimp only at h
      split at h
      · cases h
      · split at h
        · split at h
          · exact .inl (hfault h)
          · split at h
            · exact ParameterList.code_of_mem_problems h
            · exact .inl (hfault h)
        · exact ParameterList.code_of_mem_problems h
    · exact .inl (hfault h)

theorem ProblemCode.number_injective : Function.Injective number := by
  intro code code' h
  simpa using congrArg ofNumber? h

theorem Header.withCode_problems {code : ProblemCode} (hinvalid : code ≠ .invalidRoutineHeader)
    (hrepeated : code ≠ .duplicateParameter) (file : Path) (word : Token) (after : List Token) :
    withCode code (Header.read file word after).problems = [] := by
  refine Problem.withCode_eq_nil fun p hp hcode => ?_
  rcases Header.code_of_mem_problems hp with heq | heq
  · exact hinvalid (ProblemCode.number_injective (hcode.symm.trans heq))
  · exact hrepeated (ProblemCode.number_injective (hcode.symm.trans heq))

/-! ## One statement -/

/-- What tells an open routine from others, whatever its depth. -/
def OpenRoutine.identity (r : OpenRoutine) : Nat × Span :=
  (r.routine, r.start)

namespace Outline

variable {file : Path} {o o' : Outline} {s : Statement} {statements : List Statement}

/-- What a statement does to the routines, to the reports and to the open routine. -/
inductive Turn (file : Path) (o : Outline) : Statement → Outline → Prop
  /-- A header begins a routine. -/
  | begins {word : Token} {after : List Token} {sig : Signature} {o' : Outline}
      (hword : word.startsRoutine = true)
      (hread : (Header.read file word after).signature = some sig)
      (hroutines : o'.routines = o.routines ++ [⟨sig, o.scopes.length, false⟩])
      (hproblems : o'.problems =
        o.abandon.problems ++ (Header.read file word after).problems ++ o.redefinition sig)
      (hopen : o'.openRoutine = some ⟨o.routines.length, o.scopes.length, 0, sig.start⟩) :
      Turn file o (word :: after) o'
  /-- A header without a name begins none. -/
  | nameless {word : Token} {after : List Token} {o' : Outline}
      (hword : word.startsRoutine = true) (hroutines : o'.routines = o.routines)
      (hproblems : o'.problems =
        o.abandon.problems ++ (Header.read file word after).problems)
      (hopen : o'.openRoutine = none) : Turn file o (word :: after) o'
  /-- An `end` closes the open routine. -/
  | closes {s : Statement} {r : OpenRoutine} {o' : Outline} (hs : s.isHeader = false)
      (hr : o.openRoutine = some r)
      (hroutines : o'.routines =
        o.routines.modify r.routine fun routine => { routine with closed := true })
      (hproblems : o'.problems = o.problems) (hopen : o'.openRoutine = none) : Turn file o s o'
  /-- Any other statement leaves all of them as they are. -/
  | keeps {s : Statement} {o' : Outline} (hs : s.isHeader = false)
      (hroutines : o'.routines = o.routines) (hproblems : o'.problems = o.problems)
      (hopen : o'.openRoutine.map (·.identity) = o.openRoutine.map (·.identity)) :
      Turn file o s o'

@[simp] theorem openRoutine_abandon (o : Outline) : o.abandon.openRoutine = none := by
  unfold abandon
  split
  · rfl
  · assumption

@[simp] theorem scopes_abandon (o : Outline) : o.abandon.scopes = o.scopes := by
  unfold abandon
  split <;> rfl

/-- Giving up a routine only reports that its end is missing. -/
theorem withCode_abandon {code : ProblemCode} (hcode : code ≠ .missingEnd) (o : Outline) :
    withCode code o.abandon.problems = withCode code o.problems := by
  unfold abandon
  split
  · have hnone {span : Span} : withCode code [.plain .missingEnd span] = [] := by
      refine Problem.withCode_eq_nil fun p hp heq => ?_
      rw [List.mem_singleton.1 hp] at heq
      exact hcode (ProblemCode.number_injective heq.symm)
    rw [Problem.withCode_append, hnone, List.append_nil]
  · rfl

theorem turn_addHeader (o : Outline) {word : Token} (hword : word.startsRoutine = true)
    (after : List Token) : Turn file o (word :: after) (o.abandon.addHeader file word after) := by
  simp only [addHeader]
  split
  · rename_i sig hread
    refine .begins hword hread ?_ ?_ ?_ <;> simp [begin, redefinition]
  · exact .nameless hword (routines_abandon o) rfl (openRoutine_abandon o)

theorem turn_add (file : Path) (o : Outline) (s : Statement) : Turn file o s (o.add file s) := by
  cases s with
  | nil => exact .keeps rfl rfl rfl rfl
  | cons first after =>
    cases hheader : first.startsRoutine with
    | true =>
      simp only [add, hheader, if_true]
      exact turn_addHeader o hheader after
    | false =>
      have hs : Statement.isHeader (first :: after) = false := hheader
      simp only [add, hheader, Bool.false_eq_true, if_false]
      split
      · rename_i r hr
        unfold addToRoutine
        split
        · exact .closes hs hr rfl rfl rfl
        · exact .keeps hs rfl rfl (by simp [put, hr, OpenRoutine.identity])
      · unfold addToMain withMain
        split
        · exact .keeps hs rfl rfl rfl
        · dsimp only
          split <;> exact .keeps hs rfl rfl rfl

end Outline

/-! ## Routines that are left open, and routines defined again -/

/-- The routine of this signature has its header among the statements, and none has come since. -/
def UnderWay (file : Path) (statements : List Statement) (sig : Signature) : Prop :=
  ∃ (before : List Statement) (word : Token) (after : List Token) (body : List Statement),
    statements = before ++ (word :: after) :: body ∧ word.startsRoutine = true ∧
      (Header.read file word after).signature = some sig ∧ ∀ s ∈ body, s.isHeader = false

/-- A header has come after that of the routine of this signature. -/
def Interrupted (file : Path) (statements : List Statement) (sig : Signature) : Prop :=
  ∃ (before : List Statement) (next : Statement) (after : List Statement),
    statements = before ++ next :: after ∧ UnderWay file before sig ∧ next.isHeader = true

section

variable {file : Path} {statements : List Statement} {sig : Signature} {s : Statement}

theorem UnderWay.keep (h : UnderWay file statements sig) (hs : s.isHeader = false) :
    UnderWay file (statements ++ [s]) sig := by
  obtain ⟨before, word, after, body, rfl, hword, hread, hbody⟩ := h
  refine ⟨before, word, after, body ++ [s], by simp, hword, hread, ?_⟩
  exact List.forall_mem_append.2 ⟨hbody, by simpa using hs⟩

theorem UnderWay.interrupt (h : UnderWay file statements sig) (hs : s.isHeader = true) :
    Interrupted file (statements ++ [s]) sig :=
  ⟨statements, s, [], rfl, h, hs⟩

theorem Interrupted.keep (h : Interrupted file statements sig) (s : Statement) :
    Interrupted file (statements ++ [s]) sig := by
  obtain ⟨before, next, after, rfl, hunder, hnext⟩ := h
  exact ⟨before, next, after ++ [s], by simp, hunder, hnext⟩

end

namespace Signature

/-- The signatures whose key an earlier one has. -/
def redefinitions (sigs : List Signature) : List Signature :=
  (List.range sigs.length).filterMap fun i =>
    sigs[i]?.filter fun s => (sigs.take i).any fun earlier => earlier.key == s.key

theorem redefinitions_concat (sigs : List Signature) (s : Signature) :
    redefinitions (sigs ++ [s]) =
      redefinitions sigs ++ if sigs.any (fun earlier => earlier.key == s.key) then [s] else [] := by
  have hearlier : ∀ i ∈ List.range sigs.length,
      (((sigs ++ [s])[i]?.filter fun x =>
        ((sigs ++ [s]).take i).any fun earlier => earlier.key == x.key) =
      sigs[i]?.filter fun x => (sigs.take i).any fun earlier => earlier.key == x.key) := by
    intro i hi
    have hlt := List.mem_range.1 hi
    rw [List.getElem?_append_left hlt, List.take_append_of_le_length (Nat.le_of_lt hlt)]
  rw [redefinitions, List.length_append, List.length_singleton, List.range_succ,
    List.filterMap_append, List.filterMap_congr hearlier]
  congr 1
  rw [List.filterMap_cons, List.filterMap_nil, List.getElem?_concat_length, List.take_left]
  cases hs : sigs.any fun earlier => earlier.key == s.key <;> simp only [Option.filter_some, hs] <;>
    rfl

end Signature

namespace Routine

/-- What is reported for routines that are not closed. -/
def missingEnds (rs : List Routine) : List Problem :=
  (rs.filter fun r => !r.closed).map fun r => .plain .missingEnd r.signature.start

/-- What is reported for routines that are defined again. -/
def repetitions (rs : List Routine) : List Problem :=
  (Signature.redefinitions (rs.map (·.signature))).map fun s =>
    .about .duplicateRoutine s.name s.nameSpan

theorem missingEnds_append (rs rs' : List Routine) :
    missingEnds (rs ++ rs') = missingEnds rs ++ missingEnds rs' := by
  simp [missingEnds]

end Routine

open Routine (missingEnds repetitions)

namespace Outline

variable {file : Path} {o o' : Outline} {s : Statement} {statements : List Statement}

/-- The routines about which nothing is left to decide: all but the open one. -/
def settled (o : Outline) : List Routine :=
  match o.openRoutine with
  | some r => o.routines.take r.routine
  | none => o.routines

theorem settled_of_none (h : o.openRoutine = none) : o.settled = o.routines := by
  rw [settled, h]

theorem settled_of_some {r : OpenRoutine} (h : o.openRoutine = some r) :
    o.settled = o.routines.take r.routine := by
  rw [settled, h]

/-- A routine that begins is reported if it is defined already. -/
theorem repetitions_concat (o : Outline) (sig : Signature) (scope : Nat) :
    repetitions (o.routines ++ [⟨sig, scope, false⟩]) =
      repetitions o.routines ++ o.redefinition sig := by
  have hany : (o.routines.map (·.signature)).any (fun earlier => earlier.key == sig.key) =
      o.routines.any fun r => r.signature.key == sig.key := List.any_map
  rw [repetitions, List.map_append, List.map_singleton, Signature.redefinitions_concat, hany,
    List.map_append, redefinition]
  congr 1
  split <;> rfl

theorem withCode_redefinition (code : ProblemCode) (o : Outline) (sig : Signature) :
    withCode code (o.redefinition sig) =
      if code = .duplicateRoutine then o.redefinition sig else [] := by
  unfold redefinition
  by_cases hcode : code = .duplicateRoutine
  · subst hcode
    split <;> rfl
  · rw [if_neg hcode]
    refine Problem.withCode_eq_nil fun p hp heq => ?_
    split at hp
    · rw [List.mem_singleton.1 hp] at heq
      exact hcode (ProblemCode.number_injective heq.symm)
    · cases hp

/-- The reports so far are those that the routines so far call for. The open routine is the last
one, and no header has come since its own; every other one is closed or has been interrupted. -/
structure Tallied (file : Path) (statements : List Statement) (o : Outline) : Prop where
  opened : ∀ r ∈ o.openRoutine, ∃ earlier last, o.routines = earlier ++ [last] ∧
    r.identity = (earlier.length, last.signature.start) ∧ last.closed = false ∧
    UnderWay file statements last.signature
  missing : withCode .missingEnd o.problems = missingEnds o.settled
  interrupted : ∀ r ∈ o.settled, r.closed = false → Interrupted file statements r.signature
  repeated : withCode .duplicateRoutine o.problems = repetitions o.routines

theorem tallied_empty (file : Path) : Tallied file [] empty := by
  constructor <;> simp [empty, settled] <;> rfl

namespace Tallied

variable (h : Tallied file statements o)
include h

theorem split_routines {r : OpenRoutine} (hr : o.openRoutine = some r) : ∃ last,
    o.routines = o.settled ++ [last] ∧ r.identity = (o.settled.length, last.signature.start) ∧
      last.closed = false ∧ UnderWay file statements last.signature := by
  obtain ⟨earlier, last, hroutines, hidentity, hclosed, hunder⟩ := h.opened r hr
  have hindex : r.routine = earlier.length := congrArg Prod.fst hidentity
  have hsettled : o.settled = earlier := by
    rw [settled_of_some hr, hroutines, hindex, List.take_left]
  exact ⟨last, hsettled.symm ▸ hroutines, hsettled.symm ▸ hidentity, hclosed, hunder⟩

/-- All routines but the last are settled. -/
theorem mem_settled {i : Nat} {r : Routine} (hr : o.routines[i]? = some r)
    (hi : i + 1 < o.routines.length) : r ∈ o.settled := by
  cases hopen : o.openRoutine with
  | none =>
    rw [settled_of_none hopen]
    exact List.mem_of_getElem? hr
  | some opened =>
    obtain ⟨last, hroutines, -⟩ := h.split_routines hopen
    rw [hroutines, List.length_append, List.length_singleton, Nat.add_lt_add_iff_right] at hi
    rw [hroutines, List.getElem?_append_left hi] at hr
    exact List.mem_of_getElem? hr

/-- A routine that is given up is reported as all routines are that are not closed. -/
theorem missing_abandon : withCode .missingEnd o.abandon.problems = missingEnds o.routines := by
  cases hopen : o.openRoutine with
  | none =>
    rw [abandon, hopen, ← settled_of_none hopen]
    exact h.missing
  | some r =>
    obtain ⟨last, hroutines, hidentity, hclosed, -⟩ := h.split_routines hopen
    have hstart : r.start = last.signature.start := congrArg Prod.snd hidentity
    have hlast : missingEnds [last] = [.plain .missingEnd r.start] := by
      simp [missingEnds, hclosed, hstart]
    rw [abandon, hopen, hroutines, Routine.missingEnds_append, hlast, Problem.withCode_append,
      h.missing]
    rfl

theorem repeated_abandon :
    withCode .duplicateRoutine o.abandon.problems = repetitions o.routines := by
  rw [withCode_abandon (by decide), h.repeated]

/-- A header interrupts the open routine, if there is one. -/
theorem interrupted_of_header (hs : s.isHeader = true) :
    ∀ r ∈ o.routines, r.closed = false → Interrupted file (statements ++ [s]) r.signature := by
  intro r hr hclosed
  cases hopen : o.openRoutine with
  | none =>
    rw [← settled_of_none hopen] at hr
    exact (h.interrupted r hr hclosed).keep s
  | some opened =>
    obtain ⟨last, hroutines, -, -, hunder⟩ := h.split_routines hopen
    rw [hroutines, List.mem_append, List.mem_singleton] at hr
    rcases hr with hr | rfl
    · exact (h.interrupted r hr hclosed).keep s
    · exact hunder.interrupt hs

/-- One statement keeps the tally. -/
theorem turn (hturn : Turn file o s o') : Tallied file (statements ++ [s]) o' := by
  cases hturn with
  | @begins word after sig _ hword hread hroutines hproblems hopen =>
    have hsettled : o'.settled = o.routines := by
      rw [settled_of_some hopen, hroutines, List.take_left]
    refine ⟨?_, ?_, ?_, ?_⟩
    · intro r hr
      rw [hopen, Option.mem_some_iff] at hr
      subst hr
      exact ⟨o.routines, _, hroutines, rfl, rfl, statements, word, after, [], rfl, hword, hread,
        by simp⟩
    · rw [hproblems, hsettled, Problem.withCode_append, Problem.withCode_append, h.missing_abandon,
        Header.withCode_problems (by decide) (by decide), withCode_redefinition]
      simp
    · rw [hsettled]
      exact h.interrupted_of_header hword
    · rw [hproblems, hroutines, repetitions_concat, Problem.withCode_append,
        Problem.withCode_append, h.repeated_abandon,
        Header.withCode_problems (by decide) (by decide), withCode_redefinition]
      simp
  | @nameless word after _ hword hroutines hproblems hopen =>
    refine ⟨by simp [hopen], ?_, ?_, ?_⟩
    · rw [hproblems, settled_of_none hopen, hroutines, Problem.withCode_append, h.missing_abandon,
        Header.withCode_problems (by decide) (by decide), List.append_nil]
    · rw [settled_of_none hopen, hroutines]
      exact h.interrupted_of_header hword
    · rw [hproblems, hroutines, Problem.withCode_append, h.repeated_abandon,
        Header.withCode_problems (by decide) (by decide), List.append_nil]
  | @closes _ r _ hs hr hroutines hproblems hopen =>
    obtain ⟨last, hlast, hidentity, -, -⟩ := h.split_routines hr
    have hindex : r.routine = o.settled.length := congrArg Prod.fst hidentity
    have hclosed : o'.routines = o.settled ++ [{ last with closed := true }] := by
      rw [hroutines, hindex]
      exact (congrArg (List.modify · _ _) hlast).trans (modify_last ..)
    have hsignatures : o'.routines.map (·.signature) = o.routines.map (·.signature) := by
      rw [hroutines]
      exact map_modify_of_eq (fun _ => by rfl) _ _
    refine ⟨by simp [hopen], ?_, ?_, ?_⟩
    · rw [hproblems, settled_of_none hopen, hclosed, Routine.missingEnds_append, h.missing]
      exact (List.append_nil _).symm
    · rw [settled_of_none hopen, hclosed, List.forall_mem_append]
      exact ⟨fun r hr hc => (h.interrupted r hr hc).keep s, by simp⟩
    · rw [hproblems, h.repeated, repetitions, repetitions, hsignatures]
  | keeps hs hroutines hproblems hopen =>
    have hsettled : o'.settled = o.settled := by
      cases hold : o.openRoutine with
      | none =>
        have hnone : o'.openRoutine = none := by simpa [hold] using hopen
        rw [settled_of_none hnone, settled_of_none hold, hroutines]
      | some r =>
        rw [hold, Option.map_some, Option.map_eq_some_iff] at hopen
        obtain ⟨r', hr', hidentity⟩ := hopen
        have hindex : r'.routine = r.routine := congrArg Prod.fst hidentity
        rw [settled_of_some hr', settled_of_some hold, hroutines, hindex]
    refine ⟨?_, ?_, ?_, ?_⟩
    · intro r hr
      have hidentity : some r.identity = o.openRoutine.map (·.identity) := by
        rw [← hopen, hr]
        rfl
      obtain ⟨old, hold, heq⟩ := Option.map_eq_some_iff.1 hidentity.symm
      obtain ⟨earlier, last, hlast, hold, hclosed, hunder⟩ := h.opened old hold
      exact ⟨earlier, last, hroutines.trans hlast, heq ▸ hold, hclosed, hunder.keep hs⟩
    · rw [hproblems, hsettled]
      exact h.missing
    · rw [hsettled]
      exact fun r hr hc => (h.interrupted r hr hc).keep s
    · rw [hproblems, hroutines]
      exact h.repeated

end Tallied

/-- Reading statement after statement keeps the tally. -/
theorem tallied_foldl (file : Path) (statements : List Statement) :
    Tallied file statements (statements.foldl (add file) empty) := by
  induction statements using List.reverseRecOn with
  | nil => exact tallied_empty file
  | append_singleton statements s ih =>
    rw [List.foldl_concat]
    exact ih.turn (turn_add file _ s)

end Outline

namespace Record

/-- The reports of missing ends and of routines defined again are exactly those that the routines of
the record call for: one for each routine that is not closed, where it starts, and one for each that
has the key of an earlier one. A routine that is not closed and not the last one was interrupted by
a later header. -/
theorem missing_ends_exact (file : Path) (tokens : List Token) :
    let (record, problems) := Record.ofTokens file tokens
    withCode .missingEnd problems = missingEnds record.routines ∧
      (∀ i r, record.routines[i]? = some r → r.closed = false → i + 1 < record.routines.length →
        Interrupted file (Statement.split tokens) r.signature) ∧
      withCode .duplicateRoutine problems = repetitions record.routines := by
  have h := Outline.tallied_foldl file (Statement.split tokens)
  refine ⟨?_, ?_, ?_⟩
  · change withCode .missingEnd (Outline.abandon _).problems =
      missingEnds (Outline.abandon _).routines
    rw [h.missing_abandon, Outline.routines_abandon]
  · change ∀ i r, (Outline.abandon _).routines[i]? = some r → _ →
      i + 1 < (Outline.abandon _).routines.length → _
    rw [Outline.routines_abandon]
    intro i r hr hclosed hi
    exact h.interrupted r (h.mem_settled hr hi) hclosed
  · change withCode .duplicateRoutine (Outline.abandon _).problems =
      repetitions (Outline.abandon _).routines
    rw [h.repeated_abandon, Outline.routines_abandon]

/-- A routine cut short by the next header, one cut short within a block at the end of the file,
which is also defined for the second time, and a header without a name between them. -/
theorem missing_ends_exact_cut_short :
    let text : Text := "pro a\nx = 1\npro b\nend\npro\nPRO A, z\nif z then begin\nend".toList
    let tokens := (TokenStream.ofLines text.sourceLines).tokens
    let file := Path.ofText ['f']
    let (record, problems) := Record.ofTokens file tokens
    record.routines.map (fun r => (r.signature.name, r.closed)) =
        [(['a'], false), (['b'], true), (['A'], false)] ∧
      problems.length = 4 ∧ withCode .missingEnd problems = missingEnds record.routines ∧
      (∃ r ∈ record.routines.head?, Interrupted file (Statement.split tokens) r.signature) ∧
      withCode .duplicateRoutine problems = repetitions record.routines := by
  intro text tokens file
  obtain ⟨hmissing, hinterrupted, hrepeated⟩ := missing_ends_exact file tokens
  refine ⟨by decide +kernel, by decide +kernel, hmissing, ?_, hrepeated⟩
  have hfirst : ((Record.ofTokens file tokens).1.routines.head?.any fun r => !r.closed) = true := by
    decide +kernel
  obtain ⟨r, hr, hclosed⟩ := (Option.any_eq_true _ _).1 hfirst
  refine ⟨r, hr, hinterrupted 0 r ?_ (by simpa using hclosed) (by decide +kernel)⟩
  rw [← List.head?_eq_getElem?]
  exact hr

end Record

end RoutineAtlas
