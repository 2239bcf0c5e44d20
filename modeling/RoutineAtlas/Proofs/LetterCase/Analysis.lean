import RoutineAtlas.Proofs.LetterCase.Doc
import RoutineAtlas.Proofs.LetterCase.Record
import RoutineAtlas.Proofs.Respelling

/-!
# Analyses do not depend on letter case

Two texts that differ in the case of letters have one small form. Each is analysed like that form,
up to case: the same tokens at the same places, the same structure, the same documentation and the
same problems. The checks go further, as they name everything in small letters: given lookups that
do not depend on case either, the two texts are told the very same.

## Main definitions

* `Analysis.LowersTo` — an analysis and that of the small text.
* `RoutineLookup.AgreeUpToCase` — two lookups that differ in the case of names.
* `Analysis.SameUpToCase` — all that two analyses have in common.
-/

namespace RoutineAtlas

/-! ## Signatures and calls -/

theorem Signature.interface_lower (s : Signature) : s.lower.interface = s.interface := by
  rw [interface, key_lower, interface]
  simp [Signature.lower, Argument.lower, Keyword.lower, Function.comp_def]

namespace CallSite

variable (c : CallSite)

theorem key_lower : c.lower.key = c.key :=
  congrArg (RoutineKey.mk · c.kind) (Text.lower_lower c.name)

theorem isUnqualifiedMethod_lower : c.lower.isUnqualifiedMethod = c.isUnqualifiedMethod := by
  rw [isUnqualifiedMethod, isUnqualifiedMethod, lower, Text.afterColons?_lower, Option.isNone_map]

theorem unknownKeywords_lower (s : Signature) :
    c.lower.unknownKeywords s = c.unknownKeywords s := by
  have hfound (passed : Text) :
      (s.resolveKeyword? passed.lower).isNone = (s.resolveKeyword? passed).isNone := by
    rw [← Option.not_isSome, ← Option.not_isSome, s.isSome_resolveKeyword?,
      s.isSome_resolveKeyword?, Interface.takesKeyword, Text.lower_lower, Interface.takesKeyword]
  simp only [unknownKeywords, lower, List.filter_map, List.map_map, Function.comp_def,
    PassedKeyword.lower, isExtraKeyword_lower, hfound, Text.lower_lower]

/-- A call is checked alike in either case. -/
theorem check_lower (s : Signature) : c.lower.check s = c.check s := by
  rw [check, unknownKeywords_lower, check]
  rfl

end CallSite

/-! ## Documentation -/

namespace Docs

variable (s : Signature) (b : DocBlock)

theorem section?_lower (tag : DocTag) (htag : ∀ t : DocTag, (t.lower == tag) = (t == tag)) :
    b.lower.section? tag = (b.section? tag).map DocSection.lower := by
  rw [DocBlock.section?, DocBlock.lower, List.find?_map, DocBlock.section?]
  exact congrArg (fun f => (b.sections.find? f).map DocSection.lower)
    (funext fun sec => htag sec.tag)

theorem undeclared_lower (sec : DocSection) (declared : List Text) :
    undeclared sec.lower declared = undeclared sec declared := by
  simp only [undeclared, DocSection.lower, List.filter_map, List.map_map, Function.comp_def,
    DocEntry.key_lower]
  rfl

theorem undocumented_lower (sec : DocSection) (code : ProblemCode)
    (parameters : List (Text × Span)) :
    undocumented sec.lower code parameters = undocumented sec code parameters := by
  simp only [undocumented, DocSection.lower, List.map_map, Function.comp_def, DocEntry.key_lower]

theorem pointless_lower (sec : DocSection) (code : ProblemCode) (declared : List Text) :
    pointless b.lower sec.lower code declared = pointless b sec code declared := by
  simp only [pointless, DocSection.lower, List.isEmpty_map]
  rfl

theorem checkArgs_lower (sec : DocSection) :
    checkArgs s.lower b.lower sec.lower = checkArgs s b sec := by
  simp only [checkArgs, pointless_lower, undeclared_lower, undocumented_lower]
  simp only [Signature.lower, List.map_map, Function.comp_def, Argument.lower, Text.lower_lower]

theorem checkKeywords_lower (sec : DocSection) :
    checkKeywords s.lower b.lower sec.lower = checkKeywords s b sec := by
  simp only [checkKeywords, pointless_lower, undeclared_lower, undocumented_lower,
    Signature.namedKeywords]
  simp only [Signature.lower, List.filter_map, List.map_map, Function.comp_def, Keyword.lower,
    Text.lower_lower, isExtraKeyword_lower]

/-- A routine's documentation is checked alike in either case. -/
theorem check_lower : check s.lower b.lower = check s b := by
  have hkind : s.lower.kind = s.kind := rfl
  have hparams := section?_lower b .params fun t => by cases t <;> rfl
  have hkeywords := section?_lower b .keywords fun t => by cases t <;> rfl
  have hreturns := section?_lower b .returns fun t => by cases t <;> rfl
  rw [check, check, hparams, hkeywords, hreturns, hkind]
  simp only [Option.map_map, Function.comp_def, checkArgs_lower, checkKeywords_lower]
  rfl

end Docs

theorem Record.unusedVariables_lower (r : Record) :
    r.lower.unusedVariables = r.unusedVariables := by
  simp only [unusedVariables, Record.lower, List.flatMap_map, Scope.lower, ← List.map_flatMap,
    List.filter_map, List.map_map, Function.comp_def, Binding.isUsed_lower]
  rfl

/-! ## Lookups -/

/-- On arguments that are equal up to case, the two lookups give answers that are equal up to the
case of names. -/
structure RoutineLookup.AgreeUpToCase (l l' : RoutineLookup) : Prop where
  routine : ∀ k k' : RoutineKey, k.name.lower = k'.name.lower → k.kind = k'.kind →
    (l.routine k).map Signature.lower = (l'.routine k').map Signature.lower
  method : ∀ (name name' : Text) (isFunction : Bool), name.lower = name'.lower →
    (l.method name isFunction).map Signature.lower =
      (l'.method name' isFunction).map Signature.lower

namespace RoutineLookup.AgreeUpToCase

variable {l l' : RoutineLookup} (h : l.AgreeUpToCase l')
include h

/-- A lookup that agrees with another one does not depend on case. -/
theorem right : l'.AgreeUpToCase l' where
  routine k k' hname hkind := (h.routine k k rfl rfl).symm.trans (h.routine k k' hname hkind)
  method name name' isFunction hname :=
    (h.method name name isFunction rfl).symm.trans (h.method name name' isFunction hname)

theorem map_interface_answer (c : CallSite) :
    (l'.answer c.lower).map Signature.interface = (l.answer c).map Signature.interface := by
  have hanswer : (l.answer c).map Signature.lower = (l'.answer c.lower).map Signature.lower := by
    rw [answer, answer, c.isUnqualifiedMethod_lower]
    split
    · exact h.method _ _ _ (Text.lower_lower c.name).symm
    · rw [c.key_lower]
      exact h.routine _ _ rfl rfl
  have hinterface (o : Option Signature) :
      (o.map Signature.lower).map Signature.interface = o.map Signature.interface := by
    rw [Option.map_map]
    exact congrArg (fun f => o.map f) (funext Signature.interface_lower)
  rw [← hinterface, ← hanswer, hinterface]

end RoutineLookup.AgreeUpToCase

/-! ## Analyses -/

namespace Analysis

/-- The second analysis is the first in small letters, with the problems of its text up to case. -/
structure LowersTo (a a' : Analysis) : Prop where
  tokens : a'.tokens = a.tokens.map Token.lower
  blocks : a'.blocks = a.blocks.map DocBlock.lower
  record : a'.record = a.record.lower
  parseProblems : a'.parseProblems.map Problem.lower = a.parseProblems.map Problem.lower

theorem lowersTo_read (path : Path) (text : Text) :
    (Analysis.read path text).LowersTo (Analysis.read path text.lower) := by
  have hlines := text.sourceLines_lower
  have htokens := TokenStream.tokens_ofLines_lower text.sourceLines
  have hdocs := DocBlocks.ofTokens_lower (TokenStream.ofLines text.sourceLines).tokens
    text.sourceLines
  obtain ⟨hrecord, hstructure⟩ :=
    Record.ofTokens_lower path (TokenStream.ofLines text.sourceLines).tokens
  constructor
  case tokens => simp only [Analysis.read, hlines, htokens]
  case blocks => simp only [Analysis.read, hlines, htokens, hdocs]
  case record => simp only [Analysis.read, hlines, htokens, hrecord]
  case parseProblems =>
    simp only [Analysis.read, hlines, htokens, hdocs, ← Problem.sort_map_lower, List.map_append,
      TokenStream.problems_ofLines_lower, hstructure]

section

variable {a a' : Analysis} (h : a.LowersTo a')
include h

theorem LowersTo.signatures : a'.record.signatures = a.record.signatures.map Signature.lower := by
  rw [h.record, Record.signatures, Record.lower, List.map_map, Record.signatures, List.map_map]
  rfl

theorem LowersTo.docsFor? (s : Signature) :
    a'.docsFor? s.lower = (a.docsFor? s).map DocBlock.lower := by
  rw [Analysis.docsFor?, h.blocks, List.find?_map]
  rfl

theorem LowersTo.checkDocs : a'.checkDocs = a.checkDocs := by
  rw [Analysis.checkDocs, h.signatures, List.flatMap_map]
  refine List.flatMap_congr fun s _ => ?_
  rw [h.docsFor?, Option.map_map]
  exact congrArg (fun f => ((a.docsFor? s).map f).getD []) (funext (Docs.check_lower s))

theorem LowersTo.checked (l : RoutineLookup) : (a.checked l).LowersTo a' :=
  ⟨h.tokens, h.blocks, h.record, h.parseProblems⟩

/-- The small text is told what the text is told. -/
theorem LowersTo.check {l l' : RoutineLookup} (hl : l.AgreeUpToCase l') :
    a'.check l' = a.check l := by
  have hcalls : a'.checkCalls l' = a.checkCalls l := by
    have hrecord : a'.record.calls = a.record.calls.map CallSite.lower :=
      congrArg Record.calls h.record
    rw [checkCalls, hrecord, List.flatMap_map]
    refine List.flatMap_congr fun c _ => ?_
    rw [show c.lower.check = c.check from funext c.check_lower]
    exact c.map_check_congr (resolveCall_congr h.signatures Signature.interface_lower c.key_lower
      c.isUnqualifiedMethod_lower (hl.map_interface_answer c))
  rw [Analysis.check, h.checkDocs, h.record, Record.unusedVariables_lower, hcalls, Analysis.check]

end

/-! ## The same up to case -/

/-- What two analyses have in common if only the case of letters sets their texts apart. -/
structure SameUpToCase (a b : Analysis) : Prop where
  tokens : a.tokens.map (fun t => (t.kind, t.start, t.stop)) =
    b.tokens.map fun t => (t.kind, t.start, t.stop)
  routines : a.record.routines.map (fun r => (r.signature.key, r.signature.args.length,
      r.signature.keywords.length, r.signature.acceptsExtra, r.closed, r.scope)) =
    b.record.routines.map fun r => (r.signature.key, r.signature.args.length,
      r.signature.keywords.length, r.signature.acceptsExtra, r.closed, r.scope)
  scopes : a.record.scopes.map (fun s => (s.kind, s.start, s.stop,
      s.bindings.map fun v => (v.name, v.occurrences))) =
    b.record.scopes.map fun s => (s.kind, s.start, s.stop,
      s.bindings.map fun v => (v.name, v.occurrences))
  calls : a.record.calls.map (fun c => (c.key, c.span, c.positional, c.keywords.map (·.span))) =
    b.record.calls.map fun c => (c.key, c.span, c.positional, c.keywords.map (·.span))
  blocks : a.blocks.map (fun b => (b.opening, b.closing, b.routineStart,
      b.sections.map fun s => (s.header, s.stop, s.entries.map (·.span)))) =
    b.blocks.map fun b => (b.opening, b.closing, b.routineStart,
      b.sections.map fun s => (s.header, s.stop, s.entries.map (·.span)))
  /-- Code, start and stop are equal, and so is the text up to case. -/
  parseProblems : a.parseProblems.map Problem.lower = b.parseProblems.map Problem.lower
  /-- These are equal, texts and all. -/
  checkProblems : a.checkProblems = b.checkProblems

/-- Analyses of one small form are the same up to case. -/
theorem LowersTo.sameUpToCase {a b c : Analysis} (ha : a.LowersTo c) (hb : b.LowersTo c)
    (hcheck : a.checkProblems = b.checkProblems) : a.SameUpToCase b where
  tokens := map_view_eq_of_map_eq (fun _ => by rfl) (ha.tokens.symm.trans hb.tokens)
  routines := by
    refine map_view_eq_of_map_eq (fun r => ?_)
      (congrArg Record.routines (ha.record.symm.trans hb.record))
    simp only [Routine.lower, r.signature.key_lower]
    simp only [Signature.lower, List.length_map]
  scopes := by
    refine map_view_eq_of_map_eq (fun s => ?_)
      (congrArg Record.scopes (ha.record.symm.trans hb.record))
    simp only [Scope.lower, List.map_map]
    rfl
  calls := by
    refine map_view_eq_of_map_eq (fun c => ?_)
      (congrArg Record.calls (ha.record.symm.trans hb.record))
    simp only [c.key_lower]
    simp only [CallSite.lower, List.map_map]
    rfl
  blocks := by
    refine map_view_eq_of_map_eq (fun b => ?_) (ha.blocks.symm.trans hb.blocks)
    simp only [DocBlock.lower, DocSection.lower, List.map_map, Function.comp_def]
    rfl
  parseProblems := ha.parseProblems.symm.trans hb.parseProblems
  checkProblems := hcheck

theorem SameUpToCase.movedTo {a b : Analysis} (h : a.SameUpToCase b) (path : Path) :
    a.SameUpToCase (b.movedTo path) :=
  { h with
    routines := by
      rw [h.routines, Analysis.movedTo, Record.movedTo, List.map_map]
      rfl }

theorem run_eq_movedTo (path path' : Path) (text : Text) (withChecks : Bool) (l : RoutineLookup) :
    Analysis.run path' text withChecks l =
      (Analysis.run path text withChecks l).movedTo path' := by
  rw [Analysis.run, Analysis.run, read_eq_movedTo path' path text]
  cases withChecks with
  | false => rfl
  | true =>
    simp only [if_true, checked, check_movedTo]
    rfl

/-- Letter case does not matter. Texts that differ in the case of letters only, whatever path each
is read under, are analysed to the same result up to case, with lookups that differ in the case of
names only. -/
theorem case_insensitive (path path' : Path) {t u : Text} (htext : t.lower = u.lower)
    (withChecks : Bool) {l l' : RoutineLookup} (hlookup : l.AgreeUpToCase l') :
    (Analysis.run path t withChecks l).SameUpToCase (Analysis.run path' u withChecks l') := by
  -- Neither text is compared with the other: both are compared with the small form they share.
  have ht := lowersTo_read path t
  have hu := lowersTo_read path u
  rw [← htext] at hu
  have hcheck : (Analysis.read path t).check l = (Analysis.read path u).check l' :=
    (ht.check hlookup).symm.trans (hu.check hlookup.right)
  rw [run_eq_movedTo path path']
  refine SameUpToCase.movedTo ?_ path'
  cases withChecks with
  | false => exact ht.sameUpToCase hu rfl
  | true => exact (ht.checked l).sameUpToCase (hu.checked l') hcheck

/-- A call with an argument too many is reported in either case. -/
theorem case_insensitive_surplus_argument :
    let t : Text := "PRO Foo, X\nBar, x, 1\nEnd".toList
    let u : Text := "pro foo, x\nBAR, X, 1\nend".toList
    let bar (name : String) : Signature :=
      ⟨name.toList, .procedure, [], [], false, .ofText ['b'], ⟨0, 4, 3⟩, ⟨0, 0, 3⟩, ⟨0, 4, 3⟩⟩
    let l : RoutineLookup := ⟨fun _ => some (bar "Bar"), fun _ _ => none⟩
    let l' : RoutineLookup := ⟨fun _ => some (bar "BAR"), fun _ _ => none⟩
    t ≠ u ∧ t.lower = u.lower ∧ l.AgreeUpToCase l' ∧
      (∃ p ∈ (Analysis.run (.ofText ['a']) t true l).checkProblems,
        p.kind? = some .tooManyArguments) ∧
      (Analysis.run (.ofText ['a']) t true l).SameUpToCase
        (Analysis.run (.ofText ['c']) u true l') := by
  intro t u bar l l'
  have htext : t.lower = u.lower := by decide
  have hbar : (bar "Bar").lower = (bar "BAR").lower := by decide
  have hlookup : l.AgreeUpToCase l' := ⟨fun _ _ _ _ => congrArg some hbar, fun _ _ _ _ => rfl⟩
  have hcall : ∃ p ∈ (Analysis.read (.ofText ['a']) t).checkCalls l,
      p.kind? = some .tooManyArguments := by
    decide +kernel
  obtain ⟨p, hp, hkind⟩ := hcall
  have hmem : p ∈ (Analysis.run (.ofText ['a']) t true l).checkProblems :=
    (List.mergeSort_perm _ _).mem_iff.2 (List.mem_append_right _ hp)
  exact ⟨by decide, htext, hlookup, ⟨p, hmem, hkind⟩, case_insensitive _ _ htext true hlookup⟩

end Analysis

end RoutineAtlas
