import Mathlib.Data.Nat.Find
import RoutineAtlas.Proofs.Changes

/-!
# Definitions stand by seniority

Of several files that define a key, calls mean the one that came last. What counts is when a file
began to define the key without a break since then: a file that is registered again and still has
the key keeps its place, and one that has dropped the key in between goes to the end.

`TableHistory.began` says when that was, from the edits alone. A table has no record of them: it
replaces definitions where they stand, takes some away and adds others. `SymbolTable.Placed` says so
once for every edit of a file, and that the definitions of a key are in the order of `began` follows
by induction on the history.

## Main definitions

* `TableHistory.contribution` — what a file has for a key after some edits.
* `TableHistory.began` — when the file began to have it.
* `SymbolTable.Placed` — what an edit of one file does to the definitions of a key.
* `SymbolTable.BySeniority` — the answers of a table, told from its history.
-/

namespace RoutineAtlas

/-! ## Histories -/

/-- A change to a table. A file is replaced by signatures of its own. -/
inductive TableEdit where
  | replace (path : Path) (sigs : List Signature) (own : ∀ s ∈ sigs, s.file.same path = true)
  | remove (path : Path)
  | clear

/-- The signatures of every file after an edit, where `contents` were those before. -/
def TableEdit.apply (contents : Path → List Signature) : TableEdit → Path → List Signature
  | replace path sigs _ => fun q => if path.same q then sigs else contents q
  | remove path => fun q => if path.same q then [] else contents q
  | clear => fun _ => []

/-- Edits of a table that was empty at first, the oldest first. -/
abbrev TableHistory := List TableEdit

namespace TableHistory

variable {h : TableHistory} {e : TableEdit} {path q : Path} {key : RoutineKey}

/-- The signatures of every file at the end. -/
def registered (h : TableHistory) : Path → List Signature :=
  h.foldl TableEdit.apply fun _ => []

/-- The definition of a key that a file has at the end: the last of its signatures of that key. -/
def contribution (h : TableHistory) (path : Path) (key : RoutineKey) : Option Signature :=
  lastOf (h.registered path) key

/-- The last moment at which the file had no definition of the key, counted in edits. If it has one
at the end, then it began with the next edit to have it without a break. -/
def began (h : TableHistory) (key : RoutineKey) (path : Path) : Nat :=
  Nat.findGreatest (fun n => contribution (h.take n) path key = none) h.length

theorem registered_concat (h : TableHistory) (e : TableEdit) :
    registered (h ++ [e]) = e.apply h.registered := by
  simp [registered]

theorem registered_congr (h : TableHistory) (hsame : path.same q = true) :
    h.registered path = h.registered q := by
  induction h using List.reverseRecOn with
  | nil => rfl
  | append_singleton h e ih =>
    rw [registered_concat]
    cases e <;> simp only [TableEdit.apply, Path.same_right hsame, ih]

theorem contribution_congr (h : TableHistory) (hsame : path.same q = true) :
    h.contribution path key = h.contribution q key := by
  rw [contribution, contribution, registered_congr h hsame]

theorem began_congr (h : TableHistory) (hsame : path.same q = true) :
    h.began key path = h.began key q := by
  simp only [began, contribution_congr _ hsame]

theorem began_eq_iff {n : Nat} : h.began key path = n ↔
    n ≤ h.length ∧ contribution (h.take n) path key = none ∧
      ∀ m, n < m → m ≤ h.length → contribution (h.take m) path key ≠ none := by
  have hzero : contribution (h.take 0) path key = none := rfl
  rw [began, Nat.findGreatest_eq_iff]
  refine and_congr_right fun _ => and_congr_left fun _ => ⟨fun hn => ?_, fun hn _ => hn⟩
  by_cases h0 : n = 0
  · rwa [h0]
  · exact hn h0

/-- A file that lacks the key at the end has yet to begin. -/
theorem began_eq_length (hnone : h.contribution path key = none) :
    h.began key path = h.length := by
  rw [began_eq_iff]
  exact ⟨Nat.le_refl _, by rwa [List.take_length], fun m hm hle => by omega⟩

theorem began_lt_length (hnow : h.contribution path key ≠ none) : h.began key path < h.length := by
  obtain ⟨hle, hnone, -⟩ := began_eq_iff.1 (rfl : h.began key path = _)
  refine Nat.lt_of_le_of_ne hle fun heq => hnow ?_
  rwa [heq, List.take_length] at hnone

/-- For a file that has the key after one more edit, the beginning stays what it was: if the file
lacked the key before, it was yet to begin, and it began with that edit. -/
theorem began_concat (hafter : contribution (h ++ [e]) path key ≠ none) :
    began (h ++ [e]) key path = h.began key path := by
  obtain ⟨hle, hnone, hsince⟩ := began_eq_iff.1 (rfl : h.began key path = _)
  rw [began_eq_iff]
  refine ⟨by simp; omega, by rwa [List.take_append_of_le_length hle], ?_⟩
  intro m hm hmle
  by_cases hlast : m ≤ h.length
  · rw [List.take_append_of_le_length hlast]
    exact hsince m hm hlast
  · rw [List.take_of_length_le (by simp; omega)]
    exact hafter

end TableHistory

namespace SymbolTable

variable {t : SymbolTable} {path q : Path} {key : RoutineKey} {sigs defs defs' : List Signature}
  {contents : Path → List Signature} {h : TableHistory}

/-- The table after an edit. -/
def edit (t : SymbolTable) : TableEdit → SymbolTable
  | .replace path sigs _ => (t.replaceFile path sigs).2
  | .remove path => (t.removeFile path).2
  | .clear => .empty

/-- The table that some edits make of the empty one. -/
def after (h : TableHistory) : SymbolTable :=
  h.foldl edit empty

theorem after_concat (h : TableHistory) (e : TableEdit) : after (h ++ [e]) = (after h).edit e := by
  simp [after]

theorem Lists.edit (hlists : t.Lists contents) (e : TableEdit) :
    (t.edit e).Lists (e.apply contents) := by
  cases e with
  | replace path sigs own => exact hlists.replaceFile own fun _ => rfl
  | remove path => exact hlists.removeFile fun _ => rfl
  | clear => exact lists_empty

theorem lists_after (h : TableHistory) : (after h).Lists h.registered := by
  induction h using List.reverseRecOn with
  | nil => exact lists_empty
  | append_singleton h e ih =>
    rw [after_concat, TableHistory.registered_concat]
    exact ih.edit e

/-! ## The place of a file among the definitions of a key -/

/-- What an edit of one file can do to the definitions of a key. -/
inductive Placed (path : Path) : List Signature → List Signature → Prop
  /-- The file has no definition any more. -/
  | dropped (defs : List Signature) : Placed path defs (withoutFile path defs)
  /-- The file has another definition, which stands where its first one was. -/
  | kept (before after : List Signature) (hbefore : ofFile path before = []) {d d' : Signature}
      (hd : d.file.same path = true) (hd' : d'.file.same path = true) :
      Placed path (before ++ d :: after) (before ++ d' :: after)
  /-- The file had no definition, and its new one comes last. -/
  | added (defs : List Signature) {d : Signature} (habsent : ofFile path defs = [])
      (hd : d.file.same path = true) : Placed path defs (defs ++ [d])

theorem Placed.cons (hplaced : Placed path defs defs') {d : Signature}
    (hd : d.file.same path = false) : Placed path (d :: defs) (d :: defs') := by
  cases hplaced with
  | dropped =>
    have hkeeps : d :: withoutFile path defs = withoutFile path (d :: defs) := by
      simp [withoutFile, hd]
    rw [hkeeps]
    exact .dropped _
  | kept before after hbefore hold hnew =>
    exact .kept (d :: before) after (by simpa [ofFile, hd] using hbefore) hold hnew
  | added _ habsent hnew => exact .added (d :: defs) (by simpa [ofFile, hd] using habsent) hnew

theorem file_foldl_replacedBy {d : Signature} (hd : d.file.same path = true)
    (hsigs : ∀ s ∈ sigs, s.file.same path = true) :
    (sigs.foldl Signature.replacedBy d).file.same path = true := by
  induction sigs generalizing d with
  | nil => exact hd
  | cons s rest ih =>
    obtain ⟨hs, hrest⟩ := List.forall_mem_cons.1 hsigs
    exact ih (Signature.file_replacedBy hd hs) hrest

/-- Several signatures of one key take one place together. -/
theorem placed_foldl_withDefinition (hsigs : ∀ s ∈ sigs, s.file.same path = true)
    (hne : sigs ≠ []) (defs : List Signature) :
    Placed path defs (sigs.foldl (fun defs s => withDefinition path s defs) defs) := by
  induction defs with
  | nil =>
    cases sigs with
    | nil => exact absurd rfl hne
    | cons s rest =>
      obtain ⟨hs, hrest⟩ := List.forall_mem_cons.1 hsigs
      rw [List.foldl_cons, withDefinition, foldl_withDefinition_self hs hrest]
      exact .added [] rfl (file_foldl_replacedBy hs hrest)
  | cons d ds ih =>
    cases hd : d.file.same path with
    | true =>
      rw [foldl_withDefinition_self hd hsigs]
      exact .kept [] ds rfl hd (file_foldl_replacedBy hd hsigs)
    | false =>
      rw [foldl_withDefinition_other hd]
      exact ih.cons hd

theorem Lists.placed_removeFile (hlists : t.Lists contents) (path : Path) (key : RoutineKey) :
    Placed path (t.definitions key) ((t.removeFile path).2.definitions key) := by
  rw [hlists.definitions_removeFile]
  exact .dropped _

theorem Lists.placed_replaceFile (hlists : t.Lists contents)
    (hsigs : ∀ s ∈ sigs, s.file.same path = true) (key : RoutineKey) :
    Placed path (t.definitions key) ((t.replaceFile path sigs).2.definitions key) := by
  by_cases hkey : key ∈ sigs.map (·.key)
  · rw [definitions_replaceFile hlists.wellFormed,
      if_neg fun hdropped => (mem_droppedKeys.1 hdropped).2 hkey]
    refine placed_foldl_withDefinition (fun s hs => hsigs s (List.mem_of_mem_filter hs)) ?_ _
    simpa using hkey
  · rw [hlists.definitions_replaceFile_of_notMem hkey]
    exact .dropped _

/-! ## The order of definitions -/

theorem Lists.contribution_eq_none_iff (hlists : t.Lists h.registered) :
    h.contribution path key = none ↔ ofFile path (t.definitions key) = [] := by
  rw [TableHistory.contribution, lastOf_eq_none_iff, ← not_iff_not, not_not,
    ← hlists.ofFile_ne_nil_iff]

theorem Lists.contribution_ne_none (hlists : t.Lists h.registered) {d : Signature}
    (hd : d ∈ t.definitions key) : h.contribution d.file key ≠ none := by
  rw [ne_eq, hlists.contribution_eq_none_iff]
  exact List.ne_nil_of_mem (List.mem_filter.2 ⟨hd, Path.same_self _⟩)

/-- The moments at which the files of some definitions began. -/
def beginnings (h : TableHistory) (key : RoutineKey) (defs : List Signature) : List Nat :=
  defs.map fun d => h.began key d.file

/-- An edit of a file keeps the order of beginnings: a definition that is replaced has the same
beginning, and one that is new is yet to begin. -/
theorem Placed.pairwise_beginnings (hplaced : Placed path defs defs')
    (hpresent : ∀ d ∈ defs, h.contribution d.file key ≠ none)
    (habsent : ofFile path defs = [] → h.contribution path key = none)
    (horder : (beginnings h key defs).Pairwise (· < ·)) :
    (beginnings h key defs').Pairwise (· < ·) := by
  cases hplaced with
  | dropped => exact horder.sublist (List.filter_sublist.map _)
  | @kept before after _ d d' hd hd' =>
    have hsame : h.began key d'.file = h.began key d.file :=
      (h.began_congr hd').trans (h.began_congr hd).symm
    simpa [beginnings, hsame] using horder
  | @added _ d hnone hd =>
    have hnew : h.began key d.file = h.length :=
      (h.began_congr hd).trans (TableHistory.began_eq_length (habsent hnone))
    have hlast : beginnings h key (defs ++ [d]) = beginnings h key defs ++ [h.length] := by
      simp [beginnings, hnew]
    rw [hlast, List.pairwise_append]
    refine ⟨horder, List.pairwise_singleton _ _, ?_⟩
    simpa [beginnings] using fun d hd => TableHistory.began_lt_length (hpresent d hd)

theorem pairwise_beginnings_after (h : TableHistory) (key : RoutineKey) :
    (beginnings h key ((after h).definitions key)).Pairwise (· < ·) := by
  induction h using List.reverseRecOn with
  | nil => exact .nil
  | append_singleton h e ih =>
    have hbefore : (after h).Lists (TableHistory.registered h) := lists_after h
    have hafter := lists_after (h ++ [e])
    have hsame : beginnings (h ++ [e]) key ((after (h ++ [e])).definitions key) =
        beginnings h key ((after (h ++ [e])).definitions key) :=
      List.map_congr_left fun d hd => TableHistory.began_concat (hafter.contribution_ne_none hd)
    have hstep (path : Path) (hplaced : Placed path ((after h).definitions key)
        ((after (h ++ [e])).definitions key)) :
        (beginnings h key ((after (h ++ [e])).definitions key)).Pairwise (· < ·) :=
      hplaced.pairwise_beginnings (fun d hd => hbefore.contribution_ne_none hd)
        hbefore.contribution_eq_none_iff.2 ih
    -- who has the key now has the same beginning, so only the order before the edit is at issue
    rw [hsame]
    rw [after_concat] at hstep ⊢
    cases e with
    | replace path sigs own => exact hstep path (hbefore.placed_replaceFile own key)
    | remove path => exact hstep path (hbefore.placed_removeFile path key)
    | clear => exact .nil

/-! ## The answers of a table -/

/-- The signature is that of the file which began last to define the key, among those allowed; none
if no such file defines it. -/
def Newest (h : TableHistory) (key : RoutineKey) (allowed : Path → Bool) : Option Signature → Prop
  | some d => allowed d.file = true ∧ (∃ s, h.contribution d.file key = some s ∧ d.same s = true) ∧
      ∀ path, allowed path = true → h.contribution path key ≠ none → path.same d.file = false →
        h.began key path < h.began key d.file
  | none => ∀ path, allowed path = true → h.contribution path key = none

/-- Some file other than `q` has a method of that name and style under the key. -/
def IsCandidate (h : TableHistory) (q : Path) (name : Text) (isFunction : Bool)
    (key : RoutineKey) : Prop :=
  key.kind.isMethod = true ∧ key.kind.isFunction = isFunction ∧
    key.methodName.sameName name = true ∧
    ∃ path, path.same q = false ∧ h.contribution path key ≠ none

/-- The table answers as its history tells. -/
structure BySeniority (t : SymbolTable) (h : TableHistory) : Prop where
  /-- A key has one definition from every file that contributes to it, and no other. -/
  contributed : ∀ key path,
    Represent (ofFile path (t.definitions key)) (h.contribution path key)
  /-- The definitions stand in the order in which their files began to contribute. -/
  ordered : ∀ key, (t.definitions key).Pairwise fun d e => h.began key d.file < h.began key e.file
  /-- A key means what the newest file has. -/
  resolve : ∀ key, Newest h key (fun _ => true) (t.resolve? key)
  /-- For a file, it means what the newest of the others has. -/
  routine : ∀ q key, Newest h key (fun path => !path.same q) ((t.excluding q).routine key)
  /-- A method without its class means the one key of that name that other files have. -/
  method : ∀ q name isFunction key, IsCandidate h q name isFunction key →
    (∀ k, IsCandidate h q name isFunction k → k = key) →
    (t.excluding q).method name isFunction = (t.excluding q).routine key
  /-- It means nothing if there are none or several. -/
  no_method : ∀ q name isFunction, (¬∃! key, IsCandidate h q name isFunction key) →
    (t.excluding q).method name isFunction = none

/-- A file that contributes to a key is that of one of its definitions. -/
theorem Lists.exists_definition (hlists : t.Lists h.registered)
    (hnow : h.contribution path key ≠ none) :
    ∃ d ∈ t.definitions key, d.file.same path = true := by
  rw [ne_eq, hlists.contribution_eq_none_iff] at hnow
  obtain ⟨d, hd⟩ := List.exists_mem_of_ne_nil _ hnow
  exact ⟨d, (List.mem_filter.1 hd).1, (List.mem_filter.1 hd).2⟩

theorem Lists.contribution_of_mem (hlists : t.Lists h.registered) {d : Signature}
    (hd : d ∈ t.definitions key) : ∃ s, h.contribution d.file key = some s ∧ d.same s = true := by
  have hdefs := hlists.defs d.file key
  have hmem : d ∈ ofFile d.file (t.definitions key) := List.mem_filter.2 ⟨hd, Path.same_self _⟩
  obtain ⟨s, hs⟩ := Option.ne_none_iff_exists'.1 (hlists.contribution_ne_none hd)
  have hlast : lastOf (TableHistory.registered h d.file) key = some s := hs
  rw [hlast] at hdefs
  obtain ⟨d', hd', hsame⟩ := hdefs
  rw [hd', List.mem_singleton] at hmem
  exact ⟨s, hs, hmem ▸ hsame⟩

/-- The last of the definitions from allowed files is the newest. -/
theorem Lists.newest_getLast? (hlists : t.Lists h.registered)
    (horder : (beginnings h key (t.definitions key)).Pairwise (· < ·)) {allowed : Path → Bool}
    (hallowed : ∀ path q, path.same q = true → allowed path = allowed q) :
    Newest h key allowed ((t.definitions key).filter fun d => allowed d.file).getLast? := by
  cases hlast : ((t.definitions key).filter fun d => allowed d.file).getLast? with
  | none =>
    intro path hpath
    by_contra hnow
    obtain ⟨d, hd, hsame⟩ := hlists.exists_definition hnow
    have hmem : d ∈ (t.definitions key).filter fun d => allowed d.file :=
      List.mem_filter.2 ⟨hd, by rwa [hallowed _ _ hsame]⟩
    rw [List.getLast?_eq_none_iff.1 hlast] at hmem
    cases hmem
  | some d =>
    obtain ⟨earlier, hsplit⟩ := List.getLast?_eq_some_iff.1 hlast
    have hd := List.mem_filter.1 (List.mem_of_getLast? hlast)
    refine ⟨hd.2, hlists.contribution_of_mem hd.1, ?_⟩
    intro path hpath hnow hother
    obtain ⟨e, he, hsame⟩ := hlists.exists_definition hnow
    have hmem : e ∈ (t.definitions key).filter fun d => allowed d.file :=
      List.mem_filter.2 ⟨he, by rwa [hallowed _ _ hsame]⟩
    have hne : e ≠ d := by
      rintro rfl
      rw [Path.same_comm, hsame] at hother
      cases hother
    rw [beginnings, List.pairwise_map] at horder
    have hfilter := horder.filter fun d => allowed d.file
    rw [hsplit] at hmem hfilter
    have hearlier : e ∈ earlier := by simpa [hne] using hmem
    rw [← h.began_congr hsame]
    exact (List.pairwise_append.1 hfilter).2.2 e hearlier d (List.mem_singleton.2 rfl)

/-- A method without its class means the only key of its name. -/
theorem WellFormed.methodOutside?_of_only (ht : t.WellFormed) {name : Text} {isFunction : Bool}
    (hkey : key ∈ t.methodsOutside q name isFunction)
    (honly : ∀ k ∈ t.methodsOutside q name isFunction, k = key) :
    t.methodOutside? q name isFunction = t.routineOutside? q key := by
  have hsingle : t.methodsOutside q name isFunction = [key] := by
    by_contra hne
    have hnodup := ht.nodup_methodsOutside q name isFunction
    rcases (hnodup.ne_singleton_iff key).1 hne with hnil | ⟨k, hk, hother⟩
    · rw [hnil] at hkey
      cases hkey
    · exact hother (honly k hk)
  rw [methodOutside?_eq, hsingle]

theorem methodOutside?_eq_none {name : Text} {isFunction : Bool}
    (hnot : ¬∃! key, key ∈ t.methodsOutside q name isFunction) :
    t.methodOutside? q name isFunction = none := by
  rw [methodOutside?_eq]
  split
  · rename_i key hsingle
    exact absurd ⟨key, by simp [hsingle], fun k hk => by simpa [hsingle] using hk⟩ hnot
  · rfl

/-- The keys that a method without its class may mean are those that another file contributes. -/
theorem mem_methodsOutside_iff_isCandidate {name : Text} {isFunction : Bool}
    (hroutine : Newest h key (fun path => !path.same q) (t.routineOutside? q key)) :
    key ∈ t.methodsOutside q name isFunction ↔ IsCandidate h q name isFunction key := by
  have houtside : (t.routineOutside? q key).isSome = true ↔
      ∃ path, path.same q = false ∧ h.contribution path key ≠ none := by
    cases hsome : t.routineOutside? q key with
    | none =>
      rw [hsome] at hroutine
      simpa [Newest] using hroutine
    | some d =>
      rw [hsome] at hroutine
      obtain ⟨hother, ⟨s, hs, -⟩, -⟩ := hroutine
      exact iff_of_true rfl ⟨d.file, by simpa using hother, by simp [hs]⟩
  rw [mem_methodsOutside, houtside, IsCandidate]
  simp only [Bool.and_eq_true, beq_iff_eq, and_assoc]

/-- After every sequence of edits, a table answers as its history tells: the definitions of a key
are those of the files that contribute to it at the end, in the order in which they began to do so
without a break since, and a call means the newest of them. -/
theorem bySeniority_after (h : TableHistory) : (after h).BySeniority h := by
  have hlists : (after h).Lists h.registered := lists_after h
  have horder := pairwise_beginnings_after h
  have hroutine (q : Path) (key : RoutineKey) :
      Newest h key (fun path => !path.same q) ((after h).routineOutside? q key) := by
    refine hlists.newest_getLast? (horder key) ?_
    intro path path' hsame
    rw [Path.same_left hsame]
  have hcandidates (q : Path) (name : Text) (isFunction : Bool) (key : RoutineKey) :
      key ∈ (after h).methodsOutside q name isFunction ↔ IsCandidate h q name isFunction key :=
    mem_methodsOutside_iff_isCandidate (hroutine q key)
  refine
    { contributed := fun key path => hlists.defs path key
      ordered := fun key => List.pairwise_map.1 (horder key)
      resolve := ?_
      routine := hroutine
      method := ?_
      no_method := ?_ }
  · intro key
    have hall : Newest h key (fun _ => true)
        (((after h).definitions key).filter fun _ => true).getLast? :=
      hlists.newest_getLast? (horder key) fun _ _ _ => rfl
    rwa [List.filter_true] at hall
  · intro q name isFunction key hkey honly
    simp only [← hcandidates] at hkey honly
    exact hlists.wellFormed.methodOutside?_of_only hkey honly
  · intro q name isFunction hnot
    simp only [← hcandidates] at hnot
    exact methodOutside?_eq_none hnot

-- Of three files with one routine, the first drops it, defines it again and comes last. The second
-- has it all the time, with another parameter in between, and comes first.
example :
    let a := Path.ofString "a.pro"
    let b := Path.ofString "b.pro"
    let c := Path.ofString "c.pro"
    let read (p : Path) (text : String) : TableEdit :=
      .replace p _ (Analysis.isOf_read p text.toList)
    let h : TableHistory := [read a "pro foo\nend\n", read b "pro foo\nend\n",
      read c "pro foo\nend\n", read b "\npro foo, x\nend\n", read a "", read a "pro foo\nend\n"]
    ((after h).definitions ⟨"foo".toList, .procedure⟩).map (·.file) = [b, c, a] := by
  decide +kernel

end SymbolTable

end RoutineAtlas
