import RoutineAtlas.Proofs.Selection
import RoutineAtlas.Proofs.Sequence

/-!
# Scopes lie apart

A file is read into scopes one statement at a time, and a scope keeps no more of its extent than
where its head starts and where its last statement ends. The statements of the main level have one
scope for all of them, wherever they stand among the routines. Still a place in the text says which
scope it belongs to: the routines lie one after the other, nothing of another scope lies within
one of them, and what is recorded for a scope is found again by looking up the place of it.

Whatever is read next stands after all that was read before, without touching it. So a scope can
only grow at its end, and only the one that the last statement has gone to (`SetApart.update`).

## Main definitions

* `ScopeDraft.marks` — the places that a scope answers for.
* `SetApart` — no routine encloses a place of another scope.
* `Numbering` — the numbers that routines and scopes have of each other.
* `Outline.Surveyed` — both of them, for what has been read so far.
* `Record.WellScoped` — the scopes of a record are those of its routines and can be told from a
  place.
-/

namespace RoutineAtlas

/-! ## Scopes that lie apart -/

namespace ScopeDraft

/-- The places that a scope answers for: its ends, where the variables of its head occur, and where
the tokens of its statements start. -/
def marks (d : ScopeDraft) : List Cursor :=
  d.start.startCursor :: d.stop.endCursor ::
    (d.bindings.flatMap (·.occurrences.map (·.span.startCursor)) ++
      d.statements.flatMap (·.map (·.start.startCursor)))

theorem mem_marks_iff {d : ScopeDraft} {x : Cursor} : x ∈ d.marks ↔
    x = d.start.startCursor ∨ x = d.stop.endCursor ∨
      (∃ b ∈ d.bindings, ∃ o ∈ b.occurrences, o.span.startCursor = x) ∨
      ∃ s ∈ d.statements, ∃ t ∈ s, t.start.startCursor = x := by
  simp [marks]

theorem start_mem_marks (d : ScopeDraft) : d.start.startCursor ∈ d.marks := by
  simp [marks]

theorem stop_mem_marks (d : ScopeDraft) : d.stop.endCursor ∈ d.marks := by
  simp [marks]

end ScopeDraft

/-- The routines among the scopes enclose their own places and none of another scope. All places so
far stand before the statements ahead, and those outside of the open routine before that routine. -/
structure SetApart (scopes : List ScopeDraft) (opened : Option Nat) (ahead : List Statement) :
    Prop where
  inside : ∀ (n : Nat) (d : ScopeDraft), scopes[n]? = some d → d.kind ≠ .main →
    ∀ x ∈ d.marks, d.start.startCursor ≤ x ∧ x ≤ d.stop.endCursor
  outside : ∀ (n : Nat) (d : ScopeDraft), scopes[n]? = some d → d.kind ≠ .main →
    ∀ (m : Nat) (e : ScopeDraft), scopes[m]? = some e → m ≠ n →
      ∀ x ∈ e.marks, x < d.start.startCursor ∨ d.stop.endCursor < x
  ahead : ∀ (n : Nat) (d : ScopeDraft), scopes[n]? = some d →
    ∀ x ∈ d.marks, ∀ s ∈ ahead, ∀ t ∈ s, x < t.start.startCursor
  opened : ∀ n ∈ opened, ∀ d : ScopeDraft, scopes[n]? = some d →
    ∀ (m : Nat) (e : ScopeDraft), scopes[m]? = some e → m ≠ n →
      ∀ x ∈ e.marks, x < d.start.startCursor

namespace SetApart

variable {scopes scopes' : List ScopeDraft} {opened opened' : Option Nat} {s : Statement}
  {ahead : List Statement}

theorem mono (h : SetApart scopes opened (s :: ahead)) (hopened : ∀ n ∈ opened', n ∈ opened) :
    SetApart scopes opened' ahead where
  inside := h.inside
  outside := h.outside
  ahead := fun n d hd x hx u hu => h.ahead n d hd x hx u (by simp [hu])
  opened := fun n hn => h.opened n (hopened n hn)

/-- A statement changes one scope, which is new or has the same kind and start as before, and gains
places of the statement only. If it is that of a routine, the places of all other scopes stand
before it. -/
theorem update (h : SetApart scopes opened (s :: ahead)) {k : Nat} {d' : ScopeDraft}
    (hnext : ∀ u ∈ ahead, ∀ t ∈ u, s.stop.endCursor < t.start.startCursor)
    (hk : scopes'[k]? = some d') (hothers : ∀ n, n ≠ k → scopes'[n]? = scopes[n]?)
    (hmarks : ∀ x ∈ d'.marks, s.Spans x ∨ ∃ d : ScopeDraft, scopes[k]? = some d ∧ x ∈ d.marks)
    (hinside : d'.kind ≠ .main →
      ∀ x ∈ d'.marks, d'.start.startCursor ≤ x ∧ x ≤ d'.stop.endCursor)
    (hbefore : d'.kind ≠ .main → ∀ (m : Nat) (e : ScopeDraft), scopes[m]? = some e → m ≠ k →
      ∀ x ∈ e.marks, x < d'.start.startCursor)
    (hopened : ∀ n ∈ opened', n = k ∧ d'.kind ≠ .main) : SetApart scopes' opened' ahead := by
  have hcases {n : Nat} {d : ScopeDraft} (hd : scopes'[n]? = some d) :
      (n = k ∧ d = d') ∨ (n ≠ k ∧ scopes[n]? = some d) := by
    by_cases hn : n = k
    · rw [hn, hk] at hd
      exact .inl ⟨hn, (Option.some.inj hd).symm⟩
    · exact .inr ⟨hn, hothers n hn ▸ hd⟩
  constructor
  case inside =>
    intro n d hd
    rcases hcases hd with ⟨-, rfl⟩ | ⟨-, hd⟩
    · exact hinside
    · exact h.inside n d hd
  case outside =>
    intro n d hd hkind m e he hmn x hx
    rcases hcases hd with ⟨rfl, rfl⟩ | ⟨-, hd⟩
    · exact .inl (hbefore hkind m e (hothers m hmn ▸ he) hmn x hx)
    · rcases hcases he with ⟨rfl, rfl⟩ | ⟨-, he⟩
      · rcases hmarks x hx with hspans | ⟨e, he, hx⟩
        · -- what the statement adds stands after the routine as it is
          obtain ⟨t, ht, htx⟩ := hspans.exists_le
          have hstop := h.ahead n d hd _ d.stop_mem_marks s (by simp) t ht
          exact .inr (by order)
        · exact h.outside n d hd hkind m e he hmn x hx
      · exact h.outside n d hd hkind m e he hmn x hx
  case ahead =>
    intro n d hd x hx u hu t ht
    rcases hcases hd with ⟨rfl, rfl⟩ | ⟨-, hd⟩
    · rcases hmarks x hx with hspans | ⟨d, hd, hx⟩
      · have hlater := hnext u hu t ht
        have hstop := hspans.le
        order
      · exact h.ahead n d hd x hx u (by simp [hu]) t ht
    · exact h.ahead n d hd x hx u (by simp [hu]) t ht
  case opened =>
    intro n hn d hd m e he hmn
    obtain ⟨rfl, hkind⟩ := hopened n hn
    rcases hcases hd with ⟨-, rfl⟩ | ⟨hne, -⟩
    · exact hbefore hkind m e (hothers m hmn ▸ he) hmn
    · exact absurd rfl hne

/-- A statement that begins a scope, with its places for all that the scope has. -/
theorem append (h : SetApart scopes opened (s :: ahead)) {d : ScopeDraft}
    (hnext : ∀ u ∈ ahead, ∀ t ∈ u, s.stop.endCursor < t.start.startCursor)
    (hmarks : ∀ x ∈ d.marks, s.Spans x)
    (hstart : ∀ first ∈ s.head?, d.start = first.start) (hstop : d.stop = s.stop)
    (hopened : ∀ n ∈ opened', n = scopes.length ∧ d.kind ≠ .main) :
    SetApart (scopes ++ [d]) opened' ahead := by
  obtain ⟨first, hfirst, -⟩ := hmarks _ d.start_mem_marks
  refine h.update hnext (List.getElem?_concat_length) ?_ (fun x hx => .inl (hmarks x hx)) ?_ ?_
    hopened
  · intro n hn
    rcases Nat.lt_or_gt_of_ne hn with hlt | hgt
    · exact List.getElem?_append_left hlt
    · rw [List.getElem?_eq_none (by simp; omega), List.getElem?_eq_none (by omega)]
  · intro _ x hx
    obtain ⟨first', hfirst', hle, hstop'⟩ := hmarks x hx
    rw [hstart first' hfirst', hstop]
    exact ⟨hle, hstop'⟩
  · intro _ m e he _ x hx
    rw [hstart first hfirst]
    exact h.ahead m e he x hx s (by simp) first (List.mem_of_head? hfirst)

/-- A statement that goes to a scope which is there: that of the open routine, or that of the main
level while no routine is open. -/
theorem grow (h : SetApart scopes opened (s :: ahead)) {k : Nat} {d : ScopeDraft}
    {f : ScopeDraft → ScopeDraft}
    (hnext : ∀ u ∈ ahead, ∀ t ∈ u, s.stop.endCursor < t.start.startCursor)
    (hd : scopes[k]? = some d) (hkind : (f d).kind = d.kind) (hstart : (f d).start = d.start)
    (hstop : (f d).stop = s.stop) (hmarks : ∀ x ∈ (f d).marks, s.Spans x ∨ x ∈ d.marks)
    (hend : s.Spans s.stop.endCursor) (hk : d.kind ≠ .main → opened = some k)
    (hopened : ∀ n ∈ opened', n = k ∧ d.kind ≠ .main) :
    SetApart (scopes.modify k f) opened' ahead := by
  have hnew : (scopes.modify k f)[k]? = some (f d) := by simp [hd]
  refine h.update hnext hnew ?_ ?_ ?_ ?_ (fun n hn => hkind ▸ hopened n hn)
  · intro n hn
    simp [Ne.symm hn]
  · intro x hx
    exact (hmarks x hx).imp_right fun hx => ⟨d, hd, hx⟩
  · rw [hkind, hstart, hstop]
    intro hmain x hx
    rcases hmarks x hx with hspans | hx
    · obtain ⟨t, ht, htx⟩ := hspans.exists_le
      have hbegun := h.ahead k d hd _ d.start_mem_marks s (by simp) t ht
      exact ⟨by order, hspans.le⟩
    · obtain ⟨t, ht, hle⟩ := hend.exists_le
      have hlater := h.ahead k d hd x hx s (by simp) t ht
      exact ⟨(h.inside k d hd hmain x hx).1, by order⟩
  · rw [hkind, hstart]
    intro hmain m e he hm x hx
    exact h.opened k (hk hmain) d hd m e he hm x hx

/-- No place lies in two routines. -/
theorem eq_of_enclosed (h : SetApart scopes opened ahead) {m n : Nat} {d e : ScopeDraft}
    (hd : scopes[m]? = some d) (he : scopes[n]? = some e) (hdkind : d.kind ≠ .main)
    (hekind : e.kind ≠ .main) {x : Cursor} (hxd : d.start.encloses d.stop x = true)
    (hxe : e.start.encloses e.stop x = true) : m = n := by
  rw [Span.encloses_iff] at hxd hxe
  by_contra hmn
  have hstart := h.outside m d hd hdkind n e he (Ne.symm hmn) _ e.start_mem_marks
  have hstart' := h.outside n e he hekind m d hd hmn _ d.start_mem_marks
  rcases hstart with hstart | hstart
  · rcases hstart' with hstart' | hstart' <;> order
  · order

/-- A place of a scope lies in no routine but its own. -/
theorem encloses_iff_of_mem_marks (h : SetApart scopes opened ahead) {m n : Nat}
    {d e : ScopeDraft} (hd : scopes[m]? = some d) (he : scopes[n]? = some e)
    (hdkind : d.kind ≠ .main) {x : Cursor} (hx : x ∈ e.marks) :
    d.start.encloses d.stop x = true ↔ m = n := by
  rw [Span.encloses_iff]
  constructor
  · intro hxd
    by_contra hmn
    rcases h.outside m d hd hdkind n e he (Ne.symm hmn) x hx with hbefore | hafter <;> order
  · rintro rfl
    obtain rfl := Option.some.inj (hd.symm.trans he)
    exact h.inside m d hd hdkind x hx

end SetApart

/-! ## Numbers of routines and scopes -/

/-- Of the kinds of the scopes, the scopes of the routines and the scope of the main level, each
says what the others do. -/
structure Numbering (kinds : List ScopeKind) (homes : List Nat) (main : Option Nat) : Prop where
  home : ∀ i n : Nat, homes[i]? = some n ↔ kinds[n]? = some (.routine i)
  main : ∀ n : Nat, main = some n ↔ kinds[n]? = some .main

namespace Numbering

variable {kinds : List ScopeKind} {homes : List Nat} {main : Option Nat}

theorem addRoutine (h : Numbering kinds homes main) :
    Numbering (kinds ++ [.routine homes.length]) (homes ++ [kinds.length]) main where
  home := by
    intro i n
    have hhome := h.home i n
    grind
  main := by
    intro n
    have hmain := h.main n
    grind

theorem addMain (h : Numbering kinds homes none) :
    Numbering (kinds ++ [.main]) homes (some kinds.length) where
  home := by
    intro i n
    have hhome := h.home i n
    grind
  main := by
    intro n
    have hmain := h.main n
    grind

end Numbering

/-! ## Reading a file -/

/-- A routine starts with the first token of its head, which ends with the last one. -/
theorem Header.ends_of_read {file : Path} {word : Token} {after : List Token} {sig : Signature}
    (h : (Header.read file word after).signature = some sig) :
    sig.start = word.start ∧ sig.stop = Statement.stop (word :: after) := by
  cases after with
  | nil => simp [Header.read] at h
  | cons name rest =>
    simp only [Header.read] at h
    split at h
    · obtain rfl := Option.some.inj h
      exact ⟨rfl, rfl⟩
    · cases h

namespace Outline

variable {o : Outline} {file : Path} {s : Statement} {ahead : List Statement}

/-- The scopes so far are numbered and lie apart, and the open routine has one of them. -/
structure Surveyed (o : Outline) (ahead : List Statement) : Prop where
  numbering : Numbering (o.scopes.map (·.kind)) (o.routines.map (·.scope)) o.mainScope
  apart : SetApart o.scopes (o.openRoutine.map (·.scope)) ahead
  opened : ∀ r ∈ o.openRoutine, ∃ d, o.scopes[r.scope]? = some d ∧ d.kind ≠ .main

theorem surveyed_empty (ahead : List Statement) : empty.Surveyed ahead where
  numbering := ⟨by simp [empty], by simp [empty]⟩
  apart := by constructor <;> simp [empty]
  opened := by simp [empty]

theorem Surveyed.abandon (h : o.Surveyed ahead) : o.abandon.Surveyed ahead := by
  unfold Outline.abandon
  split
  · refine ⟨h.numbering, ⟨h.apart.inside, h.apart.outside, h.apart.ahead, ?_⟩, ?_⟩ <;> simp
  · exact h

/-- A header begins a scope, or changes none if it has no name. -/
theorem Surveyed.addHeader {first : Token} {after : List Token}
    (h : o.Surveyed ((first :: after) :: ahead))
    (hlaid : Statement.Laid ((first :: after) :: ahead)) :
    (o.addHeader file first after).Surveyed ahead := by
  simp only [Outline.addHeader]
  split
  · rename_i sig hsig
    obtain ⟨hstart, hstop⟩ := Header.ends_of_read hsig
    have hwritten := writtenIn_headerBindings (Header.writtenIn_of_read hsig)
    have hspans := hlaid.spans (first :: after) (by simp)
    refine ⟨?_, ?_, ?_⟩
    · simpa [begin] using h.numbering.addRoutine
    · refine h.apart.append hlaid.next ?_ ?_ hstop ?_
      · intro x hx
        rw [ScopeDraft.mem_marks_iff] at hx
        rcases hx with rfl | rfl | ⟨b, hb, occurrence, ho, rfl⟩ | ⟨u, hu, -⟩
        · rw [hstart]
          exact hspans first (by simp)
        · rw [hstop]
          exact hlaid.spans_stop
        · obtain ⟨t, ht, -, hspan⟩ := (hwritten b hb).named occurrence ho
          rw [hspan]
          exact hspans t ht
        · cases hu
      · rintro _ ⟨rfl⟩
        exact hstart
      · simp [begin]
    · simp [begin]
  · exact ⟨h.numbering, h.apart.mono (by simp), h.opened⟩

/-- A scope that a statement goes to answers for places of the statement as well. -/
theorem spans_or_mem_marks {first : Token} {after : List Token}
    (hlaid : Statement.Laid ((first :: after) :: ahead)) {d : ScopeDraft}
    {statements : List Statement}
    (hstatements : ∀ u ∈ statements, u ∈ d.statements ∨ u = first :: after) :
    ∀ x ∈ { d with stop := Statement.stop (first :: after), statements := statements }.marks,
      Statement.Spans (first :: after) x ∨ x ∈ d.marks := by
  intro x hx
  rw [ScopeDraft.mem_marks_iff] at hx ⊢
  rcases hx with rfl | rfl | hx | ⟨u, hu, t, ht, rfl⟩
  · exact .inr (.inl rfl)
  · exact .inl hlaid.spans_stop
  · exact .inr (.inr (.inr (.inl hx)))
  · rcases hstatements u hu with hu | rfl
    · exact .inr (.inr (.inr (.inr ⟨u, hu, t, ht, rfl⟩)))
    · exact .inl (hlaid.spans _ (by simp) t ht)

/-- A statement in a routine lengthens its scope, and may end it. -/
theorem Surveyed.addToRoutine {first : Token} {after : List Token}
    (h : o.Surveyed ((first :: after) :: ahead))
    (hlaid : Statement.Laid ((first :: after) :: ahead)) {r : OpenRoutine}
    (hr : o.openRoutine = some r) : (o.addToRoutine r (first :: after)).Surveyed ahead := by
  obtain ⟨d, hd, hkind⟩ := h.opened r hr
  have hopened : o.openRoutine.map (·.scope) = some r.scope := by rw [hr]; rfl
  unfold Outline.addToRoutine
  split
  · refine ⟨?_, ?_, by simp [close]⟩
    · simp only [close, map_modify_of_eq, implies_true]
      exact h.numbering
    · exact h.apart.grow hlaid.next hd rfl rfl rfl (spans_or_mem_marks hlaid fun u hu => .inl hu)
        hlaid.spans_stop (fun _ => hopened) (by simp [close])
  · refine ⟨?_, ?_, ?_⟩
    · simp only [put, map_modify_of_eq, implies_true]
      exact h.numbering
    · refine h.apart.grow hlaid.next hd rfl rfl rfl ?_ hlaid.spans_stop (fun _ => hopened) ?_
      · exact spans_or_mem_marks hlaid fun u hu => by simpa using hu
      · simp [put, hkind]
    · simp [put, hd, hkind]

/-- The scope of the main level begins with its first statement. -/
theorem Surveyed.addToMain {first : Token} {after : List Token}
    (h : o.Surveyed ((first :: after) :: ahead))
    (hlaid : Statement.Laid ((first :: after) :: ahead)) (hclosed : o.openRoutine = none) :
    (o.addToMain first (first :: after)).Surveyed ahead := by
  have hspans := hlaid.spans (first :: after) (by simp)
  unfold Outline.addToMain
  split
  · exact ⟨h.numbering, h.apart.mono (by simp), h.opened⟩
  · cases hmain : o.mainScope with
    | some k =>
      have hkind := (h.numbering.main k).1 hmain
      rw [List.getElem?_map] at hkind
      obtain ⟨d, hd, hkind⟩ := Option.map_eq_some_iff.1 hkind
      simp only [withMain, hmain]
      refine ⟨?_, ?_, by simp [put, hclosed]⟩
      · simp only [put, map_modify_of_eq, implies_true]
        exact hmain ▸ h.numbering
      · refine h.apart.grow hlaid.next hd rfl rfl rfl ?_ hlaid.spans_stop ?_ ?_
        · exact spans_or_mem_marks hlaid fun u hu => by simpa using hu
        · exact fun hne => absurd hkind hne
        · simp [put, hclosed]
    | none =>
      have hnumbering := h.numbering
      rw [hmain] at hnumbering
      simp only [withMain, hmain, put, modify_last]
      refine ⟨?_, ?_, by simp [hclosed]⟩
      · simpa using hnumbering.addMain
      · refine h.apart.append hlaid.next ?_ ?_ rfl (by simp [hclosed])
        · intro x hx
          rw [ScopeDraft.mem_marks_iff] at hx
          rcases hx with rfl | rfl | ⟨b, hb, -⟩ | ⟨u, hu, t, ht, rfl⟩
          · exact hspans first (by simp)
          · exact hlaid.spans_stop
          · cases hb
          · obtain rfl : u = first :: after := by simpa using hu
            exact hspans t ht
        · rintro _ ⟨rfl⟩
          rfl

/-- One statement keeps the scopes apart. -/
theorem Surveyed.add (h : o.Surveyed (s :: ahead)) (hlaid : Statement.Laid (s :: ahead)) :
    (o.add file s).Surveyed ahead := by
  cases s with
  | nil => exact ⟨h.numbering, h.apart.mono (by simp [Outline.add]), h.opened⟩
  | cons first after =>
    simp only [Outline.add]
    split
    · exact h.abandon.addHeader hlaid
    · split
      · rename_i r hr
        exact h.addToRoutine hlaid hr
      · rename_i hnone
        exact h.addToMain hlaid hnone

theorem Surveyed.addAll {statements : List Statement} (h : o.Surveyed statements)
    (hlaid : Statement.Laid statements) : (statements.foldl (Outline.add file) o).Surveyed [] := by
  induction statements generalizing o with
  | nil => exact h
  | cons s rest ih => exact ih (h.add hlaid) hlaid.tail

theorem surveyed_ofStatements {statements : List Statement} (hlaid : Statement.Laid statements) :
    (ofStatements file statements).Surveyed [] :=
  ((surveyed_empty statements).addAll hlaid).abandon

end Outline

/-! ## Looking up a place -/

/-- A scope is written with those tokens that start at one of its places. -/
theorem ScopeDraft.WrittenIn.own {tokens : List Token} {d : ScopeDraft} (h : d.WrittenIn tokens) :
    d.WrittenIn (tokens.filter fun t => t.start.startCursor ∈ d.marks) where
  bindings := by
    intro b hb
    refine ⟨(h.bindings b hb).occurs, ?_⟩
    intro o ho
    obtain ⟨t, ht, hname, hspan⟩ := (h.bindings b hb).named o ho
    have hmark : o.span.startCursor ∈ d.marks :=
      mem_marks_iff.2 (.inr (.inr (.inl ⟨b, hb, o, ho, rfl⟩)))
    exact ⟨t, List.mem_filter.2 ⟨ht, by simpa [hspan] using hmark⟩, hname, hspan⟩
  statements := by
    intro s hs
    have hmarks : ∀ t ∈ s, decide (t.start.startCursor ∈ d.marks) = true := by
      intro t ht
      exact decide_eq_true (mem_marks_iff.2 (.inr (.inr (.inr ⟨s, hs, t, ht, rfl⟩))))
    rw [← List.filter_eq_self.2 hmarks]
    exact (h.statements s hs).filter _

/-- The one element with a property is found. -/
theorem findIdx?_eq_some_of_unique {α : Type} {p : α → Bool} {l : List α} {n : Nat} {a : α}
    (hn : l[n]? = some a) (hp : p a = true)
    (hunique : ∀ (m : Nat) (b : α), l[m]? = some b → p b = true → m = n) :
    l.findIdx? p = some n := by
  obtain ⟨hlt, rfl⟩ := List.getElem?_eq_some_iff.1 hn
  refine List.findIdx?_eq_some_iff_getElem.2 ⟨hlt, hp, ?_⟩
  intro m hm hpm
  exact absurd (hunique m _ (List.getElem?_eq_getElem (hm.trans hlt)) hpm) hm.ne

namespace Outline

variable {o : Outline}

theorem getElem?_scopes_record {n : Nat} {scope : Scope} :
    o.record.scopes[n]? = some scope ↔ ∃ d, o.scopes[n]? = some d ∧ d.scope n = scope := by
  simp [record]

theorem map_kind_record (o : Outline) (n : Nat) :
    o.record.scopes[n]?.map (·.kind) = (o.scopes.map (·.kind))[n]? := by
  cases hd : o.scopes[n]? <;> simp [record, ScopeDraft.scope, hd]

theorem isRoutine_scope {d : ScopeDraft} {n : Nat} :
    (d.scope n).isRoutine = true ↔ d.kind ≠ .main := by
  simp only [ScopeDraft.scope, Scope.isRoutine]
  cases d.kind <;> simp

/-- The scope of each of its places is found there. -/
theorem Surveyed.scopeAt?_eq {ahead : List Statement} (h : o.Surveyed ahead) {n : Nat}
    {d : ScopeDraft} (hd : o.scopes[n]? = some d) {x : Cursor} (hx : x ∈ d.marks) :
    o.record.scopeAt? x = some n := by
  have hown : o.record.scopes[n]? = some (d.scope n) := getElem?_scopes_record.2 ⟨d, hd, rfl⟩
  have hencloses (m : Nat) (scope : Scope) (hm : o.record.scopes[m]? = some scope)
      (hp : (scope.isRoutine && scope.contains x) = true) : m = n := by
    obtain ⟨e, he, rfl⟩ := getElem?_scopes_record.1 hm
    obtain ⟨hroutine, hcontains⟩ := Bool.and_eq_true_iff.1 hp
    exact (h.apart.encloses_iff_of_mem_marks he hd (isRoutine_scope.1 hroutine) hx).1 hcontains
  unfold Record.scopeAt?
  by_cases hkind : d.kind = .main
  · have hnone : o.record.scopes.findIdx? (fun s => s.isRoutine && s.contains x) = none := by
      rw [List.findIdx?_eq_none_iff]
      intro scope hscope
      obtain ⟨m, hm⟩ := List.getElem?_of_mem hscope
      by_contra hp
      obtain rfl := hencloses m scope hm (by simpa using hp)
      obtain rfl := Option.some.inj (hown.symm.trans hm)
      simp [ScopeDraft.scope, Scope.isRoutine, hkind] at hp
    rw [hnone]
    refine findIdx?_eq_some_of_unique hown (by simp [ScopeDraft.scope, hkind]) ?_
    intro m scope hm hmain
    obtain ⟨e, he, rfl⟩ := getElem?_scopes_record.1 hm
    have hmain : e.kind = .main := by simpa [ScopeDraft.scope] using hmain
    have hn := (h.numbering.main n).2 (by simp [hd, hkind])
    have hm := (h.numbering.main m).2 (by simp [he, hmain])
    exact Option.some.inj (hm.symm.trans hn)
  · have hcontains : (d.scope n).contains x = true :=
      (h.apart.encloses_iff_of_mem_marks hd hd hkind hx).2 rfl
    have hfound : o.record.scopes.findIdx? (fun s => s.isRoutine && s.contains x) = some n :=
      findIdx?_eq_some_of_unique hown (by simp [isRoutine_scope.2 hkind, hcontains]) hencloses
    rw [hfound]

end Outline

/-- Routines and their scopes name each other, at most one scope is that of the main level, no place
is in two routines, and at the start of everything that is recorded for a scope, this scope is
found. -/
structure Record.WellScoped (r : Record) : Prop where
  numbered : ∀ i n : Nat, r.routines[i]?.map (·.scope) = some n ↔
    r.scopes[n]?.map (·.kind) = some (.routine i)
  main : ∀ m n : Nat, r.scopes[m]?.map (·.kind) = some .main →
    r.scopes[n]?.map (·.kind) = some .main → m = n
  apart : ∀ (m n : Nat) (s s' : Scope), r.scopes[m]? = some s → r.scopes[n]? = some s' →
    s.isRoutine = true → s'.isRoutine = true →
    ∀ here, s.contains here = true → s'.contains here = true → m = n
  occurrences : ∀ (n : Nat) (s : Scope), r.scopes[n]? = some s → ∀ b ∈ s.bindings,
    ∀ o ∈ b.occurrences, r.scopeAt? o.span.startCursor = some n
  calls : ∀ c ∈ r.calls, r.scopeAt? c.span.startCursor = some c.scope

theorem Outline.Surveyed.wellScoped {o : Outline} {tokens : List Token} (h : o.Surveyed [])
    (hwritten : o.WrittenIn tokens) : o.record.WellScoped where
  numbered := by
    intro i n
    have hhome := h.numbering.home i n
    rwa [List.getElem?_map, ← map_kind_record] at hhome
  main := by
    intro m n hm hn
    rw [map_kind_record, ← h.numbering.main] at hm hn
    exact Option.some.inj (hm.symm.trans hn)
  apart := by
    intro m n s s' hm hn hs hs' here hin hin'
    obtain ⟨d, hd, rfl⟩ := getElem?_scopes_record.1 hm
    obtain ⟨e, he, rfl⟩ := getElem?_scopes_record.1 hn
    exact h.apart.eq_of_enclosed hd he (isRoutine_scope.1 hs) (isRoutine_scope.1 hs') hin hin'
  occurrences := by
    intro n s hs b hb occurrence ho
    obtain ⟨d, hd, rfl⟩ := getElem?_scopes_record.1 hs
    have hown := (hwritten.scopes d (List.mem_of_getElem? hd)).own
    obtain ⟨t, ht, -, hspan⟩ := (hown.scope n b hb).named occurrence ho
    rw [hspan]
    exact h.scopeAt?_eq hd (by simpa using (List.mem_filter.1 ht).2)
  calls := by
    intro c hc
    obtain ⟨d, s, p, kind, hat⟩ := writtenAt_of_mem_calls hc
    refine h.scopeAt?_eq hat.draft (ScopeDraft.mem_marks_iff.2 (.inr (.inr (.inr ?_))))
    exact ⟨s, hat.statement, p.token, hat.place.1.mem, by rw [hat.span]⟩

/-- In the record of every text, routines and scopes belong together, routines lie apart, and every
variable and call is in the scope that is found at its place. -/
theorem Analysis.wellScoped_read (path : Path) (text : Text) :
    (Analysis.read path text).record.WellScoped := by
  have hlaid : Token.Laid (TokenStream.ofLines text.sourceLines).tokens := by
    rw [tokens_ofLines]
    exact laid_tokensFrom text.sourceLines
  have hsurveyed : (Outline.ofStatements path (Statement.split _)).Surveyed [] :=
    Outline.surveyed_ofStatements (Statement.laid_split hlaid)
  exact hsurveyed.wellScoped
    (Outline.writtenIn_ofStatements path fun s hs => Statement.sublist_of_mem_split hs)

/-- A routine without an end, between a main level that starts on its line and one that goes on
after a header without a name. -/
example :
    let r := (Analysis.read (.ofString "a.pro")
      "x = 1 & pro foo & y = 2\npro & z = x\n".toList).record
    r.scopes.map (·.kind) = [.main, .routine 0] ∧
      ([⟨0, 0⟩, ⟨0, 18⟩, ⟨1, 6⟩, ⟨1, 10⟩] : List Cursor).map r.scopeAt? =
        [some 0, some 1, some 0, some 0] := by
  decide +kernel

end RoutineAtlas
