import Mathlib.Data.List.Basic
import RoutineAtlas.Analysis.Check

/-!
# Checks see interfaces only

`Interface` is what a caller can see of a routine, and `sameInterface` compares just that. The
check of a call is a function of the interface of the routine that it means, so a file's checks
depend on other files only through the interfaces that a lookup answers its calls with.

## Main definitions

* `Signature.interface` — the routine without its spelling and its place.
* `RoutineLookup.answer` — what a lookup says about a call.
* `Analysis.check_congr` — equal interfaces give equal checks.
-/

namespace RoutineAtlas

/-- How a routine can be called. -/
structure Interface where
  key : RoutineKey
  acceptsExtra : Bool
  args : List Text
  keywords : List Text
deriving DecidableEq, Repr

namespace Interface

/-- The keywords that a caller can name. -/
def namedKeywords (i : Interface) : List Text :=
  i.keywords.filter fun name => !extraKeywords.contains name

/-- A caller can pass a keyword by that text: it is one in full, or begins exactly one. -/
def takesKeyword (i : Interface) (passed : Text) : Bool :=
  i.namedKeywords.contains passed.lower ||
    (i.namedKeywords.filter fun name => passed.lower.isPrefixOf name).length == 1

end Interface

namespace Signature

/-- The interface of a routine. -/
def interface (s : Signature) : Interface :=
  ⟨s.key, s.acceptsExtra, s.args.map (·.name.lower), s.keywords.map (·.name.lower)⟩

theorem sameInterface_iff {s t : Signature} :
    s.sameInterface t = true ↔ s.interface = t.interface := by
  simp [sameInterface, interface, and_assoc]

theorem namedKeywords_interface (s : Signature) :
    s.interface.namedKeywords = s.namedKeywords.map (·.name.lower) := by
  rw [Interface.namedKeywords, interface, List.filter_map]
  rfl

/-- Whether a keyword is found depends on the interface alone; which one it is does not. -/
theorem isSome_resolveKeyword? (s : Signature) (passed : Text) :
    (s.resolveKeyword? passed).isSome = s.interface.takesKeyword passed := by
  have hfull : s.interface.namedKeywords.contains passed.lower =
      s.namedKeywords.any fun k => k.name.sameName passed := by
    rw [namedKeywords_interface, Bool.eq_iff_iff]
    simp [Text.sameName]
  have hcut : (s.interface.namedKeywords.filter fun name => passed.lower.isPrefixOf name).length =
      (s.namedKeywords.filter fun k => passed.lower.isPrefixOf k.name.lower).length := by
    rw [namedKeywords_interface, List.filter_map, List.length_map]
    rfl
  rw [Interface.takesKeyword, hfull, hcut, resolveKeyword?]
  cases hfind : s.namedKeywords.find? fun k => k.name.sameName passed with
  | some k =>
    have hany : (s.namedKeywords.any fun k => k.name.sameName passed) = true :=
      List.any_eq_true.2 ⟨k, List.mem_of_find?_eq_some hfind, by simpa using List.find?_some hfind⟩
    simp [hany]
  | none =>
    have hany : (s.namedKeywords.any fun k => k.name.sameName passed) = false := by
      simpa using hfind
    rw [hany, Bool.false_or]
    cases s.namedKeywords.filter fun k => passed.lower.isPrefixOf k.name.lower with
    | nil => rfl
    | cons k rest =>
      cases rest with
      | nil => rfl
      | cons k' rest => simp

end Signature

namespace CallSite

variable {s t : Signature}

theorem unknownKeywords_congr (c : CallSite) (h : s.interface = t.interface) :
    c.unknownKeywords s = c.unknownKeywords t := by
  have hextra : s.acceptsExtra = t.acceptsExtra := congrArg Interface.acceptsExtra h
  have hnone (passed : Text) :
      (s.resolveKeyword? passed).isNone = (t.resolveKeyword? passed).isNone := by
    rw [← Option.not_isSome, ← Option.not_isSome, Signature.isSome_resolveKeyword?,
      Signature.isSome_resolveKeyword?, h]
  simp only [unknownKeywords, hextra, hnone]

theorem surplus_congr (c : CallSite) (h : s.interface = t.interface) :
    c.surplus s = c.surplus t := by
  have hname : s.name.lower = t.name.lower := congrArg (fun i => i.key.name) h
  have hargs : s.args.length = t.args.length := by
    simpa [Signature.interface] using congrArg (fun i => i.args.length) h
  simp only [surplus, hname, hargs]

theorem check_congr (c : CallSite) (h : s.interface = t.interface) : c.check s = c.check t := by
  rw [check, check, unknownKeywords_congr c h, surplus_congr c h]

/-- A call to one of two routines, or to none, is checked by the interface alone. -/
theorem map_check_congr (c : CallSite) {s t : Option Signature}
    (h : s.map Signature.interface = t.map Signature.interface) :
    (s.map c.check).getD [] = (t.map c.check).getD [] := by
  cases s <;> cases t <;>
    simp only [Option.map_some, Option.map_none, Option.some.injEq, reduceCtorEq] at h
  · rfl
  · exact check_congr c h

/-- The call may mean the routine of the given key. -/
def names (c : CallSite) (key : RoutineKey) : Bool :=
  c.kind == key.kind &&
    if c.isUnqualifiedMethod then key.methodName.sameName c.name else c.name.sameName key.name

end CallSite

theorem Record.callsTo_eq (r : Record) (key : RoutineKey) :
    r.callsTo key = r.calls.filter (·.names key) :=
  rfl

/-- What a lookup says about a call: about its key, or about the bare name of a method. -/
def RoutineLookup.answer (lookup : RoutineLookup) (c : CallSite) : Option Signature :=
  if c.isUnqualifiedMethod then lookup.method c.name c.kind.isFunction else lookup.routine c.key

namespace Analysis

variable {l l' : RoutineLookup}

/-- A call means routines of one interface in two files whose own routines differ in what an
interface does not show, with lookups that answer it alike. The file's own routines come first,
whatever the lookup says. -/
theorem resolveCall_congr {a a' : Analysis} {c c' : CallSite} {f : Signature → Signature}
    (hsignatures : a'.record.signatures = a.record.signatures.map f)
    (hf : ∀ s, (f s).interface = s.interface) (hkey : c'.key = c.key)
    (hunqualified : c'.isUnqualifiedMethod = c.isUnqualifiedMethod)
    (hanswer : (l'.answer c').map Signature.interface = (l.answer c).map Signature.interface) :
    (a'.resolveCall l' c').map Signature.interface =
      (a.resolveCall l c).map Signature.interface := by
  have hfkey (s : Signature) : (f s).key = s.key := congrArg Interface.key (hf s)
  have hmethods : a'.ownMethods c' = (a.ownMethods c).map f := by
    have hown (s : Signature) : ((f s).kind == c'.kind && (f s).key.methodName.sameName c'.name) =
        (s.kind == c.kind && s.key.methodName.sameName c.name) := by
      have hkind : (f s).kind = s.kind := congrArg RoutineKey.kind (hfkey s)
      have hcall : c'.kind = c.kind := congrArg RoutineKey.kind hkey
      have hname : c'.name.lower = c.name.lower := congrArg RoutineKey.name hkey
      rw [hkind, hcall, hfkey, Text.sameName, hname, Text.sameName]
    rw [ownMethods, hsignatures, List.filter_map, ownMethods]
    simp only [Function.comp_def, hown]
  have hroutines : (a'.record.signatures.filter fun s => s.key == c'.key) =
      (a.record.signatures.filter fun s => s.key == c.key).map f := by
    rw [hsignatures, List.filter_map, hkey]
    simp only [Function.comp_def, hfkey]
  unfold RoutineLookup.answer at hanswer
  unfold resolveCall
  rw [hunqualified] at hanswer ⊢
  rw [hmethods, hroutines, List.getLast?_map]
  by_cases hmethod : c.isUnqualifiedMethod = true
  · rw [if_pos hmethod, if_pos hmethod] at hanswer ⊢
    cases a.ownMethods c with
    | nil => exact hanswer
    | cons s rest =>
      cases rest with
      | nil => exact congrArg some (hf s)
      | cons s' rest => rfl
  · rw [if_neg hmethod, if_neg hmethod] at hanswer ⊢
    cases (a.record.signatures.filter fun s => s.key == c.key).getLast? with
    | none => exact hanswer
    | some s => exact congrArg some (hf s)

theorem check_congr (a : Analysis) (h : ∀ c ∈ a.record.calls,
    (l.answer c).map Signature.interface = (l'.answer c).map Signature.interface) :
    a.check l = a.check l' := by
  have hcalls : a.checkCalls l = a.checkCalls l' :=
    List.flatMap_congr fun c hc => c.map_check_congr
      (resolveCall_congr (List.map_id _).symm (fun _ => rfl) rfl rfl (h c hc))
  rw [check, check, hcalls]

@[simp] theorem record_checked (a : Analysis) (l : RoutineLookup) :
    (a.checked l).record = a.record :=
  rfl

@[simp] theorem checkProblems_checked (a : Analysis) (l : RoutineLookup) :
    (a.checked l).checkProblems = a.check l :=
  rfl

/-- A check reads nothing of an earlier check. -/
@[simp] theorem check_checked (a : Analysis) (l l' : RoutineLookup) :
    (a.checked l).check l' = a.check l' :=
  rfl

@[simp] theorem checked_checked (a : Analysis) (l l' : RoutineLookup) :
    (a.checked l).checked l' = a.checked l' :=
  rfl

theorem checked_congr (a : Analysis) (h : a.check l = a.check l') : a.checked l = a.checked l' := by
  rw [checked, checked, h]

end Analysis

end RoutineAtlas
