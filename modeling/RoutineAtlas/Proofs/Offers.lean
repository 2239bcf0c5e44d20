import Mathlib.Data.List.Destutter
import RoutineAtlas.Proofs.KeyOrder
import RoutineAtlas.Query.Completion

/-!
# Which labels are offered twice

Completions are ranked by how well they fit and then by their labels in small letters, and of
neighbours with one label the first is kept. Completions of one label fit equally well and have the
same small letters, so what is ranked between them has these letters too. If all these labels are
spelled alike, then only one of them is left. But where a label comes in two spellings, the ranking
does not sort them by spelling, and a label can come back after another spelling of it.

## Main definitions

* `CompletionList.dedup_eq_destutter` — neighbours of one label are merged.
* `CompletionItem.RespelledBetween` — a label comes back only after another spelling of it.
* `Workspace.labels_offered_once` — labels of one spelling are offered once.
-/

namespace RoutineAtlas

/-- Between two items of one label there are only spellings of this label, and at least one other
spelling. -/
def CompletionItem.RespelledBetween (items : List CompletionItem) : Prop :=
  ∀ before a between b after, items = before ++ a :: (between ++ b :: after) → a.label = b.label →
    (∀ x ∈ between, x.label.lower = a.label.lower) ∧ ∃ x ∈ between, x.label ≠ a.label

namespace CompletionList

variable {x y z : Nat × CompletionItem}

/-! ## Ranking -/

theorem ranksBefore_iff : ranksBefore x y = true ↔
    x.1 < y.1 ∨ (x.1 = y.1 ∧ Text.le x.2.label.lower y.2.label.lower = true) := by
  by_cases hrank : x.1 = y.1
  · simp [ranksBefore, hrank]
  · simp [ranksBefore, hrank]
    omega

theorem pairwise_mergeSort (items : List (Nat × CompletionItem)) :
    (items.mergeSort ranksBefore).Pairwise fun x y => ranksBefore x y = true := by
  apply List.pairwise_mergeSort
  · intro x y z hxy hyz
    rw [ranksBefore_iff] at hxy hyz ⊢
    rcases hxy with hxy | ⟨hxy, hle⟩
    · left
      omega
    · rw [hxy]
      exact hyz.imp_right fun hyz => ⟨hyz.1, Text.le_trans hle hyz.2⟩
  · intro x y
    rw [Bool.or_eq_true, ranksBefore_iff, ranksBefore_iff]
    rcases Nat.lt_trichotomy x.1 y.1 with hlt | heq | hgt
    · exact .inl (.inl hlt)
    · exact (Text.le_total x.2.label.lower y.2.label.lower).imp (fun h => .inr ⟨heq, h⟩)
        fun h => .inr ⟨heq.symm, h⟩
    · exact .inr (.inl hgt)

/-- What is ranked between two completions of one rank and the same letters is like them. -/
theorem lower_eq_of_between (hxy : ranksBefore x y = true) (hyz : ranksBefore y z = true)
    (hrank : x.1 = z.1) (hlabel : x.2.label = z.2.label) :
    y.2.label.lower = x.2.label.lower := by
  rw [ranksBefore_iff] at hxy hyz
  rw [← hlabel] at hyz
  refine Text.le_antisymm ?_ ?_
  · exact (hyz.resolve_left (by omega)).2
  · exact (hxy.resolve_left (by omega)).2

/-! ## Merging neighbours -/

theorem dedup_eq_destutter (items : List (Nat × CompletionItem)) :
    dedup items = items.destutter fun x y => x.2.label ≠ y.2.label := by
  have hgo (x : Nat × CompletionItem) (rest : List (Nat × CompletionItem)) :
      x :: dedup.go x.2.label rest = rest.destutter' (fun x y => x.2.label ≠ y.2.label) x := by
    induction rest generalizing x with
    | nil => rfl
    | cons y rest ih =>
      rw [dedup.go]
      by_cases hlabel : x.2.label = y.2.label
      · rw [if_pos (by simp [hlabel]), List.destutter'_cons_neg _ (by simp [hlabel]), ih]
      · rw [if_neg (by simp [Ne.symm hlabel]), List.destutter'_cons_pos _ hlabel, ih]
  cases items with
  | nil => rfl
  | cons x rest => exact hgo x rest

/-- Of ranked completions without equal neighbours, a label comes back only after another spelling
of it. -/
theorem respelledBetween_map {ranked : List (Nat × CompletionItem)} {typed : Text}
    (hfits : ∀ x ∈ ranked, tier? typed x.2.label = some x.1)
    (hranked : ranked.Pairwise fun x y => ranksBefore x y = true)
    (hchain : ranked.IsChain fun x y => x.2.label ≠ y.2.label) :
    CompletionItem.RespelledBetween (ranked.map (·.2)) := by
  intro before a between b after hitems hlabel
  obtain ⟨left, fromFirst, rfl, -, hfirst⟩ := List.map_eq_append_iff.1 hitems
  obtain ⟨x, later, rfl, rfl, hlater⟩ := List.map_eq_cons_iff.1 hfirst
  obtain ⟨inner, fromSecond, rfl, rfl, hsecond⟩ := List.map_eq_append_iff.1 hlater
  obtain ⟨y, right, rfl, rfl, -⟩ := List.map_eq_cons_iff.1 hsecond
  have hrank : x.1 = y.1 := by
    have hx := hfits x (by simp)
    have hy := hfits y (by simp)
    rw [hlabel, hy] at hx
    exact (Option.some.inj hx).symm
  have hfrom := (List.pairwise_append.1 hranked).2.1
  obtain ⟨hx, hrest⟩ := List.pairwise_cons.1 hfrom
  constructor
  · simp only [List.forall_mem_map]
    intro z hz
    have hy := (List.pairwise_append.1 hrest).2.2 z hz y List.mem_cons_self
    exact lower_eq_of_between (hx z (by simp [hz])) hy hrank hlabel
  · -- the neighbour of the first one has another label, so it is not the second one
    have hnext := (List.isChain_append.1 hchain).2.1
    cases inner with
    | nil => exact absurd hlabel (List.isChain_cons_cons.1 hnext).1
    | cons z inner => exact ⟨z.2, by simp, Ne.symm (List.isChain_cons_cons.1 hnext).1⟩

/-- What is in order already need not be sorted. -/
theorem of_sorted {typed : Text} {candidates : List CompletionItem}
    {fitting : List (Nat × CompletionItem)}
    (hfitting : candidates.filterMap (fun x => (tier? typed x.label).map fun n => (n, x)) = fitting)
    (h : fitting.Pairwise fun x y => ranksBefore x y = true) (limit : Nat) :
    (of typed limit candidates).items = ((dedup fitting).take limit).map (·.2) := by
  rw [of]
  dsimp only
  rw [hfitting, List.mergeSort_of_pairwise h]

theorem respelledBetween_of (typed : Text) (limit : Nat) (candidates : List CompletionItem) :
    CompletionItem.RespelledBetween (of typed limit candidates).items := by
  rw [of]
  dsimp only
  rw [dedup_eq_destutter]
  generalize hfitting : candidates.filterMap _ = fitting
  have hfits : ∀ x ∈ fitting, tier? typed x.2.label = some x.1 := by
    intro x hx
    rw [← hfitting, List.mem_filterMap] at hx
    obtain ⟨item, -, hx⟩ := hx
    obtain ⟨n, hn, rfl⟩ := Option.map_eq_some_iff.1 hx
    exact hn
  have hkept := List.destutter_sublist (fun x y => x.2.label ≠ y.2.label)
    (fitting.mergeSort ranksBefore)
  have hchain := List.isChain_destutter (fun x y => x.2.label ≠ y.2.label)
    (fitting.mergeSort ranksBefore)
  have hsublist := (List.take_sublist limit _).trans hkept
  exact respelledBetween_map
    (fun x hx => hfits x ((List.mergeSort_perm _ _).mem_iff.1 (hsublist.subset hx)))
    ((pairwise_mergeSort fitting).sublist hsublist) (hchain.take limit)

end CompletionList

/-- Where no label is spelled in two ways, none comes back. -/
theorem CompletionItem.RespelledBetween.nodup {items : List CompletionItem}
    (h : RespelledBetween items)
    (hspelling : ∀ a ∈ items, ∀ b ∈ items, a.label.lower = b.label.lower → a.label = b.label) :
    (items.map (·.label)).Nodup := by
  rw [List.Nodup, List.pairwise_map, List.pairwise_iff_forall_sublist]
  intro a b hab hlabel
  obtain ⟨left, right, rfl, ha, hb⟩ := List.cons_sublist_iff.1 hab
  obtain ⟨before, inner, rfl⟩ := List.append_of_mem ha
  obtain ⟨inner', after, rfl⟩ := List.append_of_mem (List.singleton_sublist.1 hb)
  obtain ⟨hletters, x, hx, hother⟩ := h before a (inner ++ inner') b after (by simp) hlabel
  refine hother (hspelling x ?_ a ?_ (hletters x hx))
  · rcases List.mem_append.1 hx with hx | hx <;> simp [hx]
  · simp

namespace Workspace

/-- Whatever the workspace, the cursor and the settings: a label is offered twice only with another
spelling of it in between, and if no label is offered in two spellings, each is offered once. -/
theorem labels_offered_once (w : Workspace) (settings : Settings) (p : Path) (here : Cursor)
    (list : CompletionList) (h : w.complete? settings p here = some list) :
    CompletionItem.RespelledBetween list.items ∧
      ((∀ a ∈ list.items, ∀ b ∈ list.items, a.label.lower = b.label.lower → a.label = b.label) →
        (list.items.map (·.label)).Nodup) := by
  have hrespelled : CompletionItem.RespelledBetween list.items := by
    simp only [complete?, Option.bind_eq_bind, Option.bind_eq_some_iff] at h
    obtain ⟨entry, -, candidates, -, hlist⟩ := h
    rw [← Option.some.inj hlist]
    exact CompletionList.respelledBetween_of _ _ _
  exact ⟨hrespelled, hrespelled.nodup⟩

/-- After an arrow, the methods of the table are offered. -/
theorem complete?_of_arrow {w : Workspace} {p : Path} {e : FileEntry} {here : Cursor} {t : Typing}
    (he : w.file? p = some e) (ht : Typing.ofCursor e.analysis.tokens here = t)
    (hliteral : t.inLiteral = false) (hafter : t.isAfter .arrow = true) {keys : List RoutineKey}
    (hkeys : w.table.entries.map (·.1) = keys)
    (hsorted : keys.Pairwise fun a b => a.le b = true) {items : List CompletionItem}
    (hitems : ((keys.filterMap w.table.resolve?).filter (·.kind.isMethod)).map .ofMethod = items)
    (settings : Settings) :
    w.complete? settings p here = some (.of t.typed settings.completionLimit items) := by
  have hroutines : w.table.routines = keys.filterMap w.table.resolve? := by
    rw [SymbolTable.routines, SymbolTable.keysWhere, hkeys, List.filter_true,
      List.mergeSort_of_pairwise hsorted]
  have hcandidates : w.methodCandidates? t = some items := by
    rw [methodCandidates?, hliteral, hafter, hroutines, hitems]
    rfl
  rw [complete?, he, Option.bind_eq_bind, Option.bind_some]
  dsimp only
  rw [ht, hcandidates]
  rfl

/-- A method of two classes is offered once. -/
theorem labels_offered_once_methods :
    let p := Path.ofString "/a.pro"
    let text := "pro a::draw\nend\npro b::draw\nend\npro m, o\n  o->\nend\n".toList
    let w := ((empty []).indexFile p text false).2
    ∃ list, w.complete? .default p ⟨5, 5⟩ = some list ∧
      list.items.map (·.label) = ["draw".toList] ∧ (list.items.map (·.label)).Nodup := by
  intro p text w
  let a : CompletionItem :=
    ⟨"draw".toList, .method, "pro a::draw", some "a::draw".toList, none, none⟩
  let b : CompletionItem :=
    ⟨"draw".toList, .method, "pro b::draw", some "b::draw".toList, none, none⟩
  let keys : List RoutineKey := [.of "a::draw".toList .procedureMethod,
    .of "b::draw".toList .procedureMethod, .of ['m'] .procedure]
  obtain ⟨hfile, htyping, hkeys, hmethods⟩ :
      w.file? p = some ⟨p, 1, .read p text⟩ ∧
        Typing.ofCursor (Analysis.read p text).tokens ⟨5, 5⟩ =
          ⟨5, [], 5, some (.single .arrow ['-', '>'] ⟨5, 3, 2⟩), false⟩ ∧
        w.table.entries.map (·.1) = keys ∧
        ((keys.filterMap w.table.resolve?).filter (·.kind.isMethod)).map .ofMethod = [a, b] := by
    decide +kernel
  have hlist : w.complete? .default p ⟨5, 5⟩ = some (.of [] 50 [a, b]) :=
    complete?_of_arrow hfile htyping rfl rfl hkeys (by decide) hmethods _
  have hitems : (CompletionList.of [] 50 [a, b]).items = [a] :=
    CompletionList.of_sorted rfl (by decide) 50
  refine ⟨_, hlist, by rw [hitems]; rfl, (labels_offered_once _ _ _ _ _ hlist).2 ?_⟩
  rw [hitems]
  decide

/-- Where one class spells the name in another way, the spelling of the others is offered twice. -/
theorem label_offered_twice :
    let p := Path.ofString "/a.pro"
    let text :=
      "pro a::Draw\nend\npro b::draw\nend\npro c::Draw\nend\npro m, o\n  o->\nend\n".toList
    let w := ((empty []).indexFile p text false).2
    ∃ list, w.complete? .default p ⟨7, 5⟩ = some list ∧
      list.items.map (·.label) = ["Draw".toList, "draw".toList, "Draw".toList] ∧
      ¬(list.items.map (·.label)).Nodup := by
  intro p text w
  let a : CompletionItem :=
    ⟨"Draw".toList, .method, "pro a::Draw", some "a::Draw".toList, none, none⟩
  let b : CompletionItem :=
    ⟨"draw".toList, .method, "pro b::draw", some "b::draw".toList, none, none⟩
  let c : CompletionItem :=
    ⟨"Draw".toList, .method, "pro c::Draw", some "c::Draw".toList, none, none⟩
  let keys : List RoutineKey := [.of "a::draw".toList .procedureMethod,
    .of "b::draw".toList .procedureMethod, .of "c::draw".toList .procedureMethod,
    .of ['m'] .procedure]
  obtain ⟨hfile, htyping, hkeys, hmethods⟩ :
      w.file? p = some ⟨p, 1, .read p text⟩ ∧
        Typing.ofCursor (Analysis.read p text).tokens ⟨7, 5⟩ =
          ⟨7, [], 5, some (.single .arrow ['-', '>'] ⟨7, 3, 2⟩), false⟩ ∧
        w.table.entries.map (·.1) = keys ∧
        ((keys.filterMap w.table.resolve?).filter (·.kind.isMethod)).map .ofMethod = [a, b, c] := by
    decide +kernel
  have hlist : w.complete? .default p ⟨7, 5⟩ = some (.of [] 50 [a, b, c]) :=
    complete?_of_arrow hfile htyping rfl rfl hkeys (by decide) hmethods _
  have hitems : (CompletionList.of [] 50 [a, b, c]).items = [a, b, c] :=
    CompletionList.of_sorted rfl (by decide) 50
  refine ⟨_, hlist, ?_⟩
  rw [hitems]
  decide

end Workspace

end RoutineAtlas
