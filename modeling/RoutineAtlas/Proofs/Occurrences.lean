import RoutineAtlas.Proofs.Accounting
import RoutineAtlas.Proofs.Navigation

/-!
# A cursor at an occurrence selects the variable

A search for what the cursor points at looks through headers and calls before it comes to variables,
and it takes the first span that the cursor touches, though spans are touched at both of their ends.
None of this gets in the way of a variable. A cursor touches one word at most, and a word that is
accounted for as an occurrence is neither part of a name in a header nor the name of a call or a
keyword, nor an occurrence of another variable. So all over an occurrence, its two ends included,
the variable is selected, and from each of its occurrences one comes to the same definition and the
same references.

## Main definitions

* `Record.Occurs` — the occurrences of the variables of a record.
* `Record.OccursApart` — a cursor at an occurrence touches nothing else.
* `Selection.find?_occurrence` — what is selected there.
* `Session.variable_selected` — so it is in every file after every run.
-/

namespace RoutineAtlas

/-- `o` is an occurrence of the variable `b` of the scope of number `n`. -/
def Record.Occurs (r : Record) (n : Nat) (b : Binding) (o : Occurrence) : Prop :=
  ∃ s, r.scopes[n]? = some s ∧ b ∈ s.bindings ∧ o ∈ b.occurrences

/-- A cursor that touches an occurrence of a variable is in no header and in no call, and touches no
other occurrence. -/
structure Record.OccursApart (r : Record) : Prop where
  header : ∀ {n b o}, r.Occurs n b o → ∀ {here}, o.span.touches here = true →
    ∀ s ∈ r.signatures, Selection.inHeader? here s = none
  call : ∀ {n b o}, r.Occurs n b o → ∀ {here}, o.span.touches here = true →
    ∀ c ∈ r.calls, ∀ callee, Selection.inCall? here c callee = none
  unique : ∀ {n b o}, r.Occurs n b o → ∀ {n' b' o'}, r.Occurs n' b' o' →
    ∀ {here}, o.span.touches here = true → o'.span.touches here = true →
      n' = n ∧ b' = b ∧ o' = o

/-! ## Occurrences are words of their own -/

/-- What stands in two of the lists that are joined, and only once in all, stands in one of them. -/
theorem index_eq_of_nodup_flatMap {α β : Type} {f : α → List β} {l : List α}
    (h : (l.flatMap f).Nodup) {i j : Nat} {a b : α} (ha : l[i]? = some a) (hb : l[j]? = some b)
    {x : β} (hxa : x ∈ f a) (hxb : x ∈ f b) : i = j := by
  have hapart := List.pairwise_iff_getElem.1 (List.nodup_flatMap.1 h).2
  obtain ⟨hi, rfl⟩ := List.getElem?_eq_some_iff.1 ha
  obtain ⟨hj, rfl⟩ := List.getElem?_eq_some_iff.1 hb
  rcases Nat.lt_trichotomy i j with hlt | heq | hlt
  · exact absurd hxb (hapart i j hi hj hlt hxa)
  · exact heq
  · exact absurd hxa (hapart j i hj hi hlt hxb)

namespace Record

variable {r : Record} {n n' : Nat} {b b' : Binding} {o o' : Occurrence}

theorem Occurs.mem_occurrenceStarts (h : r.Occurs n b o) :
    o.span.startCursor ∈ r.occurrenceStarts := by
  obtain ⟨s, hs, hb, ho⟩ := h
  exact Record.mem_occurrenceStarts.2 ⟨s, List.mem_of_getElem? hs, b, hb, o, ho, rfl⟩

theorem AccountsOnce.token_of_occurs {tokens : List Token} (h : r.AccountsOnce tokens)
    (ho : r.Occurs n b o) : ∃ t ∈ tokens, t.isWord = true ∧ o.span = t.start := by
  obtain ⟨s, hs, hb, ho⟩ := ho
  obtain ⟨t, ht, hword, -, hspan⟩ := h.named s (List.mem_of_getElem? hs) b hb o ho
  exact ⟨t, ht, hword, hspan⟩

/-- Where one occurrence starts there is no other. -/
theorem Occurs.eq_of_start (hnodup : r.occurrenceStarts.Nodup) (h : r.Occurs n b o)
    (h' : r.Occurs n' b' o') (hstart : o'.span.startCursor = o.span.startCursor) :
    n' = n ∧ b' = b ∧ o' = o := by
  obtain ⟨s, hs, hb, ho⟩ := h
  obtain ⟨s', hs', hb', ho'⟩ := h'
  have hstarts {b : Binding} {o : Occurrence} (ho : o ∈ b.occurrences) :
      o.span.startCursor ∈ b.occurrences.map (·.span.startCursor) :=
    List.mem_map_of_mem ho
  have hscope : n' = n := by
    refine index_eq_of_nodup_flatMap hnodup hs' hs (x := o'.span.startCursor) ?_ ?_
    · exact List.mem_flatMap.2 ⟨b', hb', hstarts ho'⟩
    · exact List.mem_flatMap.2 ⟨b, hb, hstart ▸ hstarts ho⟩
  subst hscope
  obtain rfl := Option.some.inj (hs'.symm.trans hs)
  have hscopeNodup := (List.nodup_flatMap.1 hnodup).1 s' (List.mem_of_getElem? hs')
  have hbinding : b' = b := by
    obtain ⟨i, hi⟩ := List.mem_iff_getElem?.1 hb
    obtain ⟨j, hj⟩ := List.mem_iff_getElem?.1 hb'
    obtain rfl : j = i := index_eq_of_nodup_flatMap hscopeNodup hj hi (hstarts ho')
      (hstart ▸ hstarts ho)
    exact Option.some.inj (hj.symm.trans hi)
  subst hbinding
  have hbindingNodup := (List.nodup_flatMap.1 hscopeNodup).1 b' hb'
  exact ⟨rfl, rfl, List.inj_on_of_nodup_map hbindingNodup ho' ho hstart⟩

end Record

/-- A word that a cursor in a header touches is one that the header names. -/
theorem Selection.mem_headStarts_of_inHeader? {file : Path} {tokens : List Token}
    (h : Token.Laid tokens) {s : Signature}
    (hs : s ∈ (Outline.ofStatements file (Statement.split tokens)).record.signatures) {t : Token}
    (ht : t ∈ tokens) (hword : t.isWord = true) {here : Cursor}
    (htouches : t.start.touches here = true) (hin : inHeader? here s ≠ none) :
    t.start.startCursor ∈ headStarts file tokens := by
  have hallotted := Outline.allotted_ofStatements file (Statement.nodup_split h)
  obtain ⟨word, after, hsplit, hstarts, hread⟩ := Outline.header_of_mem_signatures hallotted hs
  refine mem_sum_map hsplit ?_
  simp only [Statement.headStarts, Statement.signature?, hstarts, if_true, hread, List.tail_cons]
  rcases named_of_inHeader? h hsplit hread ht hword htouches hin with hname | ⟨k, hk, -, hspan⟩
  · exact Multiset.mem_add.2 (.inl (mem_wordStarts.2 ⟨t, hname, hword, rfl⟩))
  · exact Multiset.mem_add.2 (.inr (List.mem_map.2 ⟨k, hk, by rw [hspan]⟩))

section Laid

variable (file : Path) {tokens : List Token} (h : Token.Laid tokens) {n : Nat} {b : Binding}
  {o : Occurrence} (ho : (Record.ofTokens file tokens).1.Occurs n b o) {here : Cursor}
  (htouches : o.span.touches here = true)
include h ho htouches

/-- No header names what is accounted for as an occurrence. -/
theorem Record.inHeader?_of_occurs {s : Signature}
    (hs : s ∈ (Record.ofTokens file tokens).1.signatures) :
    Selection.inHeader? here s = none := by
  by_contra hin
  obtain ⟨t, ht, hword, hspan⟩ := (Record.accountsOnce_ofTokens file h).token_of_occurs ho
  have hoccurs := ho.mem_occurrenceStarts
  rw [hspan] at htouches hoccurs
  have hhead := Selection.mem_headStarts_of_inHeader? h hs ht hword htouches hin
  obtain ⟨-, -, hdisjoint⟩ := Multiset.nodup_add.1
    (Multiset.nodup_of_le (Outline.starts_le file tokens) h.nodup_wordStarts)
  refine Multiset.disjoint_left.1 hdisjoint ?_ hhead
  exact Multiset.mem_add.2 (.inl (Multiset.mem_add.2 (.inl hoccurs)))

/-- Neither the name of a call nor a keyword that it passes is an occurrence. -/
theorem Record.inCall?_of_occurs {c : CallSite} (hc : c ∈ (Record.ofTokens file tokens).1.calls)
    (callee : Option Signature) : Selection.inCall? here c callee = none := by
  by_contra hin
  have haccounts := Record.accountsOnce_ofTokens file h
  obtain ⟨t, ht, hword, hspan⟩ := haccounts.token_of_occurs ho
  have hoccurs := ho.mem_occurrenceStarts
  rw [hspan] at htouches hoccurs
  have hallotted := Outline.allotted_ofStatements file (Statement.nodup_split h)
  obtain ⟨d, s, p, kind, hwritten⟩ := Outline.writtenAt_of_mem_calls hc
  rcases hwritten.named_of_inCall? h hallotted ht hword htouches hin with htoken | ⟨k, hk, hkspan⟩
  · obtain ⟨-, -, hcalls⟩ := List.nodup_append.1 haccounts.once
    refine hcalls _ hoccurs _ (List.mem_map_of_mem hc) ?_
    rw [hwritten.span, htoken]
  · refine haccounts.keywords c hc k hk (List.mem_append_left _ ?_)
    rwa [hkspan]

theorem Record.Occurs.eq_of_touches {n' : Nat} {b' : Binding} {o' : Occurrence}
    (ho' : (Record.ofTokens file tokens).1.Occurs n' b' o')
    (htouches' : o'.span.touches here = true) : n' = n ∧ b' = b ∧ o' = o := by
  have haccounts := Record.accountsOnce_ofTokens file h
  obtain ⟨t, ht, hword, hspan⟩ := haccounts.token_of_occurs ho
  obtain ⟨t', ht', hword', hspan'⟩ := haccounts.token_of_occurs ho'
  rw [hspan] at htouches
  rw [hspan'] at htouches'
  obtain rfl := h.eq_of_touches ht ht' hword hword' htouches htouches'
  exact ho.eq_of_start (List.nodup_append.1 haccounts.once).1 ho' (by rw [hspan, hspan'])

end Laid

theorem Record.occursApart_ofTokens (file : Path) {tokens : List Token} (h : Token.Laid tokens) :
    (Record.ofTokens file tokens).1.OccursApart where
  header := fun ho _ htouches _ hs => inHeader?_of_occurs file h ho htouches hs
  call := fun ho _ htouches _ hc callee => inCall?_of_occurs file h ho htouches hc callee
  unique := fun ho _ _ _ ho' _ htouches htouches' => ho.eq_of_touches file h htouches ho' htouches'

theorem Analysis.occursApart_read (path : Path) (text : Text) :
    (Analysis.read path text).record.OccursApart :=
  Record.occursApart_ofTokens path (laid_tokensFrom text.sourceLines)

/-! ## Selections at an occurrence -/

namespace Selection

variable {here : Cursor}

/-- A search through scopes finds what is found in one of them, if nothing is found before. -/
theorem inScopes?_eq {scopes : List Scope} {i : Nat} {s : Scope} (hs : scopes[i]? = some s)
    {found : Selection} {n : Nat}
    (hfound : s.bindings.findSome? (inBinding? here (n + i)) = some found)
    (hbefore : ∀ j < i, ∀ s', scopes[j]? = some s' →
      s'.bindings.findSome? (inBinding? here (n + j)) = none) :
    inScopes? here n scopes = some found := by
  induction scopes generalizing n i with
  | nil => simp at hs
  | cons first rest ih =>
    cases i with
    | zero =>
      obtain rfl := Option.some.inj hs
      rw [Nat.add_zero] at hfound
      rw [inScopes?, hfound]
    | succ i =>
      rw [inScopes?, show first.bindings.findSome? (inBinding? here n) = none from
        hbefore 0 (Nat.zero_lt_succ i) first rfl]
      refine ih hs (n := n + 1) ?_ fun j hj s' hs' => ?_
      · rwa [Nat.add_right_comm]
      · rw [Nat.add_right_comm]
        exact hbefore (j + 1) (Nat.succ_lt_succ hj) s' hs'

variable {a : Analysis} (h : a.record.OccursApart) (lookup : RoutineLookup)
include h

/-- All over an occurrence of a variable, the variable is selected. -/
theorem find?_occurrence {n : Nat} {b : Binding} {o : Occurrence} (ho : a.record.Occurs n b o)
    (htouches : o.span.touches here = true) :
    find? a lookup here = some (.binding n b o.span) := by
  have hheaders : a.record.signatures.findSome? (inHeader? here) = none :=
    List.findSome?_eq_none_iff.2 (h.header ho htouches)
  have hcalls : (a.record.calls.findSome? fun c => inCall? here c (a.resolveCall lookup c)) =
      none :=
    List.findSome?_eq_none_iff.2 fun c hc => h.call ho htouches c hc _
  -- whatever is found among the variables is this occurrence
  have hunique {n' : Nat} {s' : Scope} (hs' : a.record.scopes[n']? = some s') {b' : Binding}
      (hb' : b' ∈ s'.bindings) (hin : inBinding? here n' b' ≠ none) :
      n' = n ∧ b' = b ∧ inBinding? here n' b' = some (.binding n b o.span) := by
    obtain ⟨x, hx⟩ := Option.ne_none_iff_exists'.1 hin
    obtain ⟨o', ho', rfl⟩ := Option.map_eq_some_iff.1 hx
    have htouches' : o'.span.touches here = true := by simpa using List.find?_some ho'
    obtain ⟨rfl, rfl, rfl⟩ := h.unique ho ⟨s', hs', hb', List.mem_of_find?_eq_some ho'⟩ htouches
      htouches'
    exact ⟨rfl, rfl, hx⟩
  obtain ⟨s, hs, hb, hmem⟩ := ho
  have hbinding : inBinding? here n b = some (.binding n b o.span) := by
    refine (hunique hs hb ?_).2.2
    rw [inBinding?, ne_eq, Option.map_eq_none_iff, List.find?_eq_none]
    exact fun hnone => hnone o hmem htouches
  have hscopes : inScopes? here 0 a.record.scopes = some (.binding n b o.span) := by
    refine inScopes?_eq hs ?_ fun j hj s' hs' => ?_
    · rw [Nat.zero_add, ← hbinding]
      exact findSome?_eq_of_mem hb fun b' hb' hin => (hunique hs hb' hin).2.1
    · refine List.findSome?_eq_none_iff.2 fun b' hb' => ?_
      by_contra hin
      rw [Nat.zero_add] at hin
      exact Nat.ne_of_lt hj (hunique hs' hb' hin).1
  simp only [find?, hheaders, hcalls, hscopes]

end Selection

/-! ## Definitions and references -/

/-- A variable that occurs is defined at one of its occurrences. -/
theorem Binding.exists_definition {b : Binding} (h : b.occurrences ≠ []) :
    ∃ o ∈ b.occurrences, b.definition = o.span := by
  unfold definition
  cases hfound : b.occurrences.find? fun o => o.role == .definition with
  | some o => exact ⟨o, List.mem_of_find?_eq_some hfound, rfl⟩
  | none =>
    refine ⟨b.occurrences.head h, List.head_mem h, ?_⟩
    rw [Option.map_none, Option.getD_none, first, List.head?_eq_some_head h]
    rfl

/-- The occurrences of a variable as locations of a document. -/
def Binding.locations (b : Binding) (url : Url) : List Location :=
  b.occurrences.map fun o => ⟨url, o.span.range⟩

/-- No location is listed twice. -/
theorem Record.Occurs.nodup_locations {r : Record} (hnodup : r.occurrenceStarts.Nodup) {n : Nat}
    {b : Binding} {o : Occurrence} (h : r.Occurs n b o) (url : Url) : (b.locations url).Nodup := by
  obtain ⟨s, hs, hb, -⟩ := h
  have hscope := (List.nodup_flatMap.1 hnodup).1 s (List.mem_of_getElem? hs)
  have hstarts := (List.nodup_flatMap.1 hscope).1 b hb
  refine List.Nodup.of_map (fun l : Location => l.range.start) ?_
  rw [Binding.locations, List.map_map]
  exact hstarts

theorem FileEntry.IsReading.occursApart {e : FileEntry} (h : e.IsReading) :
    e.analysis.record.OccursApart ∧ e.analysis.record.occurrenceStarts.Nodup := by
  obtain ⟨text, problems, heq⟩ := h
  rw [heq]
  exact ⟨Analysis.occursApart_read e.path text, (List.nodup_append.1
    (Record.accountsOnce_ofTokens e.path (laid_tokensFrom text.sourceLines)).once).1⟩

namespace Workspace

variable {w : Workspace} {p : Path} {e : FileEntry} (h : w.StoresReadings)
  (he : w.file? p = some e) {n : Nat} {b : Binding} {o : Occurrence}
  (ho : e.analysis.record.Occurs n b o) {here : Cursor} (htouches : o.span.touches here = true)
include h he ho htouches

theorem select?_occurrence : w.select? p here = some (.binding n b o.span) := by
  rw [← Selection.find?_occurrence (h.readings p e he).occursApart.1 (w.lookup p) ho htouches,
    select?, he]
  rfl

theorem references?_occurrence : w.references? p here = (documentUrl? p).map b.locations := by
  rw [references?, select?_occurrence h he ho htouches]
  cases documentUrl? p <;> simp [Binding.locations]

theorem definition?_occurrence :
    w.definition? p here = (Location.of? p b.definition).map ([·]) := by
  rw [definition?, select?_occurrence h he ho htouches]
  cases hlocation : Location.of? p b.definition <;> simp [hlocation]

end Workspace

namespace Session

/-- After every run that commits only what was analysed for a submission: from the first column of
an occurrence of a variable through the column after its last one, this variable is selected there.
And where the path has a URL, from all these columns the references are the occurrences of the
variable, each of them once, and its definition is one and the same of them. -/
theorem variable_selected (patterns : List Text) (steps : List Step)
    (hsteps : (start patterns).Obeys Submission.Own steps) :
    let w := ((start patterns).run steps).workspace
    ∀ p e, w.file? p = some e → ∀ n b o, e.analysis.record.Occurs n b o →
      ∀ column, o.span.column ≤ column → column ≤ o.span.endColumn →
        w.select? p ⟨o.span.line, column⟩ = some (.binding n b o.span) ∧
        ∀ url, documentUrl? p = some url →
          w.references? p ⟨o.span.line, column⟩ = some (b.locations url) ∧
          (b.locations url).Nodup ∧
          w.definition? p ⟨o.span.line, column⟩ = some [⟨url, b.definition.range⟩] ∧
          ⟨url, b.definition.range⟩ ∈ b.locations url := by
  intro w p e he n b o ho column hleft hright
  have hstored : w.StoresReadings := storesReadings_run patterns hsteps
  have htouches : o.span.touches ⟨o.span.line, column⟩ = true :=
    Span.touches_iff.2 ⟨rfl, hleft, hright⟩
  refine ⟨Workspace.select?_occurrence hstored he ho htouches, fun url hurl => ⟨?_, ?_, ?_, ?_⟩⟩
  · rw [Workspace.references?_occurrence hstored he ho htouches, hurl]
    rfl
  · exact ho.nodup_locations (hstored.readings p e he).occursApart.2 url
  · rw [Workspace.definition?_occurrence hstored he ho htouches, Location.of?, hurl]
    rfl
  · obtain ⟨s, -, -, hmem⟩ := ho
    obtain ⟨o', ho', hdefinition⟩ := b.exists_definition (List.ne_nil_of_mem hmem)
    rw [hdefinition]
    exact List.mem_map.2 ⟨o', ho', rfl⟩

/-- A parameter of a method whose name takes two lines. A call passes it on, once to a function and
once as a keyword of the same name; the cursor stands after the latter. -/
theorem variable_selected_parameter :
    let p := Path.ofString "/a.pro"
    let text := "pro c::$\n  run, x\ng, f(x), x=x\nend\n".toList
    let w := ((start []).run [.index p text true]).workspace
    let b : Binding := ⟨['x'], .argument,
      [⟨⟨1, 7, 1⟩, .definition⟩, ⟨⟨2, 5, 1⟩, .reference⟩, ⟨⟨2, 11, 1⟩, .reference⟩]⟩
    ∃ url, documentUrl? p = some url ∧ w.select? p ⟨2, 12⟩ = some (.binding 0 b ⟨2, 11, 1⟩) ∧
      w.references? p ⟨2, 12⟩ = some [⟨url, ⟨1, 7⟩, ⟨1, 8⟩⟩, ⟨url, ⟨2, 5⟩, ⟨2, 6⟩⟩,
        ⟨url, ⟨2, 11⟩, ⟨2, 12⟩⟩] ∧
      w.definition? p ⟨2, 12⟩ = some [⟨url, ⟨1, 7⟩, ⟨1, 8⟩⟩] := by
  intro p text w b
  have hfile : w.file? p = some ⟨p, 1, w.preview p text true⟩ := by decide +kernel
  have hscopes : ∃ s, (w.preview p text true).record.scopes[0]? = some s ∧ b ∈ s.bindings := by
    decide +kernel
  obtain ⟨s, hs, hb⟩ := hscopes
  have hurl : (documentUrl? p).isSome = true := by decide +kernel
  obtain ⟨url, hurl⟩ := Option.isSome_iff_exists.1 hurl
  obtain ⟨hselect, hfrom⟩ := variable_selected [] [.index p text true] ⟨trivial, trivial⟩ p _ hfile
    0 b ⟨⟨2, 11, 1⟩, .reference⟩ ⟨s, hs, hb, by decide⟩ 12 (by decide) (by decide)
  obtain ⟨hreferences, -, hdefinition, -⟩ := hfrom url hurl
  exact ⟨url, hurl, hselect, hreferences, hdefinition⟩

end Session

end RoutineAtlas
