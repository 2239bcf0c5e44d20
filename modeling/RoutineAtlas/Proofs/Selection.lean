import RoutineAtlas.Proofs.Allotment
import RoutineAtlas.Proofs.Place
import RoutineAtlas.Proofs.Separation
import RoutineAtlas.Query.Selection

/-!
# The start of a name selects what is named

A cursor touches a span at both of its ends, the name of a method spans several tokens, and a search
takes the first match: headers before calls, and names before keywords. Still a cursor at the start
of a routine's name selects that routine, and one at the start of a call's name selects what the
call means. Of two headers or calls in question, the words at the cursor show that they come of one
statement, and within a statement a word has one place.

## Main definitions

* `Record.Unambiguous` — the start of a name touches nothing else that is looked at first.
* `Record.unambiguous_ofTokens` — every record that is read is so.
* `Selection.find?_header`, `Selection.find?_call` — what is selected at the start of a name.
-/

namespace RoutineAtlas

/-- At the start of a routine's name the cursor is in this header only, and at the start of a call's
name it is in no header, and in this call only. -/
structure Record.Unambiguous (r : Record) : Prop where
  header : ∀ s ∈ r.signatures, ∀ s' ∈ r.signatures,
    Selection.inHeader? s.nameSpan.startCursor s' ≠ none → s' = s
  outside : ∀ c ∈ r.calls, ∀ s ∈ r.signatures, Selection.inHeader? c.span.startCursor s = none
  call : ∀ c ∈ r.calls, ∀ c' ∈ r.calls, ∀ callee,
    Selection.inCall? c.span.startCursor c' callee ≠ none → c' = c

/-! ## Where headers and calls are written -/

variable {tokens : List Token}

/-- A word that a cursor in a header touches belongs to the header's name or names a keyword. -/
theorem Selection.named_of_inHeader? (h : Token.Laid tokens) {file : Path} {word : Token}
    {after : List Token} (hs : word :: after ∈ Statement.split tokens) {s : Signature}
    (hread : (Header.read file word after).signature = some s) {u : Token} (hu : u ∈ tokens)
    (huword : u.isWord = true) {here : Cursor} (htouches : u.start.touches here = true)
    (hin : inHeader? here s ≠ none) :
    u ∈ Header.nameTokens after ∨ ∃ k ∈ s.keywords, u ∈ after ∧ k.span = u.start := by
  have hsub : (word :: after).Sublist tokens := Statement.sublist_of_mem_split hs
  unfold inHeader? at hin
  split at hin
  · rename_i hname
    exact .inl (Header.mem_nameTokens_of_touches h hs hread hu huword hname htouches)
  · obtain ⟨x, hx⟩ := Option.ne_none_iff_exists'.1 hin
    obtain ⟨k, hk, -⟩ := Option.map_eq_some_iff.1 hx
    have hmem := List.mem_of_find?_eq_some hk
    obtain ⟨t, ht, htword, hspan⟩ := Header.keyword_of_read hread hmem
    have htouches' := List.find?_some hk
    rw [hspan] at htouches'
    obtain rfl : t = u := h.eq_of_touches (hsub.subset (List.mem_cons_of_mem _ ht)) hu htword
      huword htouches' htouches
    exact .inr ⟨k, hmem, ht, hspan⟩

/-- A word that the cursor is at when it is in a header is part of the header. -/
theorem Selection.mem_of_inHeader? (h : Token.Laid tokens) {file : Path} {word : Token}
    {after : List Token} (hs : word :: after ∈ Statement.split tokens) {s : Signature}
    (hread : (Header.read file word after).signature = some s) {u : Token} (hu : u ∈ tokens)
    (huword : u.isWord = true) (hin : inHeader? u.start.startCursor s ≠ none) :
    u ∈ word :: after := by
  refine List.mem_cons_of_mem _ ?_
  rcases named_of_inHeader? h hs hread hu huword u.start.touches_startCursor hin with
    hname | ⟨k, -, hmem, -⟩
  · exact Header.nameTokens_subset after hname
  · exact hmem

/-- Where a call of an outline comes from: its scope, its statement, and its place there. -/
structure CallSite.WrittenAt (o : Outline) (c : CallSite) (d : ScopeDraft) (s : Statement)
    (p : Place) (kind : RoutineKind) : Prop where
  draft : o.scopes[c.scope]? = some d
  statement : s ∈ d.statements
  role : (p, .call kind) ∈ s.roles d.known
  call : c = p.call kind c.scope

/-- A call has been found in a statement of its scope. -/
theorem ScopeDraft.finding_of_mem_calls {d : ScopeDraft} {index : Nat} {c : CallSite}
    (hc : c ∈ d.calls index) :
    c.scope = index ∧ ∃ s ∈ d.statements, .call c ∈ s.findings index d.known := by
  obtain ⟨f, hf, hcall⟩ := List.mem_filterMap.1 hc
  obtain ⟨s, hs, hf⟩ := List.mem_flatMap.1 hf
  cases f with
  | occurrence name kind occurrence => cases hcall
  | call site =>
    obtain rfl := Option.some.inj hcall
    obtain ⟨p, kind, -, hsite⟩ := Statement.call_of_findings hf
    exact ⟨by rw [hsite]; rfl, s, hs, hf⟩

theorem Outline.finding_of_mem_calls {o : Outline} {c : CallSite} (hc : c ∈ o.record.calls) :
    ∃ d s, o.scopes[c.scope]? = some d ∧ s ∈ d.statements ∧
      .call c ∈ s.findings c.scope d.known := by
  obtain ⟨calls, hcalls, hc⟩ := List.mem_flatten.1 hc
  obtain ⟨i, hi, rfl⟩ := List.mem_mapIdx.1 hcalls
  obtain ⟨rfl, s, hs, hf⟩ := ScopeDraft.finding_of_mem_calls hc
  exact ⟨_, s, List.getElem?_eq_getElem hi, hs, hf⟩

theorem Outline.writtenAt_of_mem_calls {o : Outline} {c : CallSite} (hc : c ∈ o.record.calls) :
    ∃ d s p kind, c.WrittenAt o d s p kind := by
  obtain ⟨d, s, hd, hs, hf⟩ := finding_of_mem_calls hc
  obtain ⟨p, kind, hp, hcall⟩ := Statement.call_of_findings hf
  exact ⟨d, s, p, kind, hd, hs, hp, hcall⟩

section Laid

variable {file : Path} {o : Outline} {c c' : CallSite} {d d' : ScopeDraft} {s s' : Statement}
  {p p' : Place} {kind kind' : RoutineKind} (h : Token.Laid tokens)
  (ho : o.Allotted file (Statement.split tokens))

namespace CallSite.WrittenAt

include ho in
theorem mem_split (hc : c.WrittenAt o d s p kind) :
    s ∈ Statement.split tokens ∧ s.isHeader = false :=
  ho.held c.scope s ⟨d, hc.draft, hc.statement⟩

theorem place (hc : c.WrittenAt o d s p kind) : p.In s ∧ p.token.isWord = true ∧
    ∃ enclosing, p.role enclosing d.known = .call kind := by
  obtain ⟨hplace, hrole, enclosing, heq⟩ := Place.of_mem_rolesFrom hc.role
  exact ⟨hplace, Place.isWord_of_hasRole hrole, enclosing, heq.symm⟩

theorem span (hc : c.WrittenAt o d s p kind) : c.span = p.token.start := by
  rw [hc.call]
  rfl

include ho in
theorem token_mem (hc : c.WrittenAt o d s p kind) : p.token ∈ tokens :=
  (Statement.sublist_of_mem_split (hc.mem_split ho).1).subset hc.place.1.mem

include h ho in
/-- Two calls that are named by one word are one call. -/
theorem eq_of_token (hc : c.WrittenAt o d s p kind) (hc' : c'.WrittenAt o d' s' p' kind')
    (htoken : p'.token = p.token) : c' = c := by
  obtain ⟨hs, -⟩ := hc.mem_split ho
  obtain ⟨hs', -⟩ := hc'.mem_split ho
  obtain rfl : s = s' := Statement.eq_of_mem_of_mem h hs hs' hc.place.1.mem
    (htoken ▸ hc'.place.1.mem)
  have hscope : c'.scope = c.scope :=
    ho.once _ _ s ⟨d', hc'.draft, hc'.statement⟩ ⟨d, hc.draft, hc.statement⟩
  have hdraft := hc'.draft
  rw [hscope, hc.draft] at hdraft
  obtain rfl := Option.some.inj hdraft
  have hplace := Place.eq_of_mem_roles (Statement.nodup_of_mem_split h hs) hc'.role hc.role htoken
  obtain ⟨rfl, hkind⟩ := Prod.mk.inj hplace
  obtain rfl := IdentifierRole.call.inj hkind
  rw [hc'.call, hc.call, hscope]

include h ho in
/-- The name of a call is no keyword that a call passes. -/
theorem not_touches_keyword (hc : c.WrittenAt o d s p kind) (hc' : c'.WrittenAt o d' s' p' kind')
    {k : PassedKeyword} (hk : k ∈ c'.keywords) : k.span.touches c.span.startCursor = false := by
  rw [hc.span]
  by_contra htouches
  rw [hc'.call] at hk
  obtain ⟨q, hq, hnames, rfl⟩ := Place.keyword_of_call hc'.place.1 hk
  obtain ⟨hs, -⟩ := hc.mem_split ho
  obtain ⟨hs', -⟩ := hc'.mem_split ho
  obtain ⟨hp, hpword, enclosing, hrole⟩ := hc.place
  have hqmem : q.token ∈ tokens := (Statement.sublist_of_mem_split hs').subset hq.mem
  have htoken : q.token = p.token := h.eq_of_touches hqmem (hc.token_mem ho) hnames.isWord hpword
    (Bool.not_eq_false _ ▸ htouches) p.token.start.touches_startCursor
  obtain rfl : s = s' := Statement.eq_of_mem_of_mem h hs hs' hp.mem (htoken ▸ hq.mem)
  obtain rfl := hq.eq hp (Statement.nodup_of_mem_split h hs) htoken
  rw [hnames.role_eq_aside enclosing d.known] at hrole
  cases hrole

include h ho in
/-- A word that a cursor in a call touches names the call or a keyword that it passes. -/
theorem named_of_inCall? (hc : c.WrittenAt o d s p kind) {u : Token} (hu : u ∈ tokens)
    (huword : u.isWord = true) {here : Cursor} (htouches : u.start.touches here = true)
    {callee : Option Signature} (hin : Selection.inCall? here c callee ≠ none) :
    p.token = u ∨ ∃ k ∈ c.keywords, k.span = u.start := by
  unfold Selection.inCall? at hin
  split at hin
  · rename_i hname
    rw [hc.span] at hname
    exact .inl (h.eq_of_touches (hc.token_mem ho) hu hc.place.2.1 huword hname htouches)
  · obtain ⟨x, hx⟩ := Option.ne_none_iff_exists'.1 hin
    obtain ⟨k, hk, -⟩ := Option.map_eq_some_iff.1 hx
    have hmem := List.mem_of_find?_eq_some hk
    have htouches' : k.span.touches here = true := by simpa using List.find?_some hk
    have hpassed := hmem
    rw [hc.call] at hpassed
    obtain ⟨q, hq, hnames, rfl⟩ := Place.keyword_of_call hc.place.1 hpassed
    have hqmem : q.token ∈ tokens :=
      (Statement.sublist_of_mem_split (hc.mem_split ho).1).subset hq.mem
    obtain rfl := h.eq_of_touches hqmem hu hnames.isWord huword htouches' htouches
    exact .inr ⟨_, hmem, rfl⟩

end CallSite.WrittenAt

include ho in
theorem Outline.header_of_mem_signatures {sig : Signature} (hsig : sig ∈ o.record.signatures) :
    ∃ word after, word :: after ∈ Statement.split tokens ∧ word.startsRoutine = true ∧
      (Header.read file word after).signature = some sig := by
  obtain ⟨r, hr, rfl⟩ := List.mem_map.1 hsig
  exact ho.header r hr

include h ho in
theorem Outline.Allotted.unambiguous : o.record.Unambiguous where
  header := by
    intro sig hsig sig' hsig' hin
    obtain ⟨word, after, hs, -, hread⟩ := header_of_mem_signatures ho hsig
    obtain ⟨word', after', hs', -, hread'⟩ := header_of_mem_signatures ho hsig'
    obtain ⟨name, hname, hnameword, hstart⟩ := Header.start_of_read hread
    have hmem : name ∈ word :: after := List.mem_cons_of_mem _ hname
    rw [hstart] at hin
    have hin' := Selection.mem_of_inHeader? h hs' hread'
      ((Statement.sublist_of_mem_split hs).subset hmem) hnameword hin
    obtain ⟨rfl, rfl⟩ := List.cons.inj (Statement.eq_of_mem_of_mem h hs hs' hmem hin')
    exact Option.some.inj (hread'.symm.trans hread)
  outside := by
    intro c hc sig hsig
    by_contra hin
    obtain ⟨d, s, p, kind, hc⟩ := writtenAt_of_mem_calls hc
    obtain ⟨word, after, hs, hstarts, hread⟩ := header_of_mem_signatures ho hsig
    obtain ⟨hp, hpword, -⟩ := hc.place
    obtain ⟨hstatement, hheader⟩ := hc.mem_split ho
    rw [hc.span] at hin
    have hmem := Selection.mem_of_inHeader? h hs hread (hc.token_mem ho) hpword hin
    -- the statement of the call would be a header
    rw [Statement.eq_of_mem_of_mem h hstatement hs hp.mem hmem] at hheader
    have hstarts' : Statement.isHeader (word :: after) = true := hstarts
    rw [hheader] at hstarts'
    cases hstarts'
  call := by
    intro c hc c' hc' callee hin
    obtain ⟨d, s, p, kind, hc⟩ := writtenAt_of_mem_calls hc
    obtain ⟨d', s', p', kind', hc'⟩ := writtenAt_of_mem_calls hc'
    rw [hc.span] at hin
    rcases hc'.named_of_inCall? h ho (hc.token_mem ho) hc.place.2.1
      p.token.start.touches_startCursor hin with htoken | ⟨k, hk, hspan⟩
    · exact hc.eq_of_token h ho hc' htoken
    · have hapart := hc.not_touches_keyword h ho hc' hk
      rw [hspan, hc.span, Span.touches_startCursor] at hapart
      cases hapart

end Laid

theorem Record.unambiguous_ofTokens (file : Path) (h : Token.Laid tokens) :
    (Record.ofTokens file tokens).1.Unambiguous :=
  (Outline.allotted_ofStatements file (Statement.nodup_split h)).unambiguous h

theorem Analysis.unambiguous_read (path : Path) (text : Text) :
    (Analysis.read path text).record.Unambiguous :=
  Record.unambiguous_ofTokens path (laid_tokensFrom text.sourceLines)

/-! ## Selections at the start of a name -/

/-- A search that can only find one thing finds it. -/
theorem findSome?_eq_of_mem {α β : Type} {f : α → Option β} {l : List α} {a : α} (ha : a ∈ l)
    (h : ∀ b ∈ l, f b ≠ none → b = a) : l.findSome? f = f a := by
  induction l with
  | nil => cases ha
  | cons b rest ih =>
    obtain ⟨hb, hrest⟩ := List.forall_mem_cons.1 h
    rw [List.findSome?_cons]
    cases hfb : f b with
    | some x => rw [← hb (by simp [hfb]), hfb]
    | none =>
      rcases List.mem_cons.1 ha with rfl | ha
      · -- the rest can only find `a`, which is not found
        rw [hfb]
        refine List.findSome?_eq_none_iff.2 fun x hx => ?_
        by_contra hfx
        rw [hrest x hx hfx, hfb] at hfx
        exact hfx rfl
      · exact ih ha hrest

namespace Selection

variable {a : Analysis} (h : a.record.Unambiguous) (lookup : RoutineLookup)
include h

/-- At the start of its name, a routine is selected. -/
theorem find?_header {s : Signature} (hs : s ∈ a.record.signatures) :
    find? a lookup s.nameSpan.startCursor = some (.routine s s.nameSpan true) := by
  have hin : inHeader? s.nameSpan.startCursor s = some (.routine s s.nameSpan true) :=
    if_pos (Span.touches_startCursor _)
  have hfound := findSome?_eq_of_mem hs (h.header s hs)
  rw [hin] at hfound
  simp only [find?, hfound]

/-- At the start of its name, what a call means is selected. -/
theorem find?_call {c : CallSite} (hc : c ∈ a.record.calls) :
    find? a lookup c.span.startCursor =
      (a.resolveCall lookup c).map fun s => .routine s c.span false := by
  have hheaders : a.record.signatures.findSome? (inHeader? c.span.startCursor) = none :=
    List.findSome?_eq_none_iff.2 (h.outside c hc)
  have hin : inCall? c.span.startCursor c (a.resolveCall lookup c) =
      some ((a.resolveCall lookup c).map fun s => .routine s c.span false) :=
    if_pos (Span.touches_startCursor _)
  have hfound := findSome?_eq_of_mem hc fun c' hc' => h.call c hc c' hc' (a.resolveCall lookup c')
  rw [hin] at hfound
  simp only [find?, hheaders, hfound]

end Selection

end RoutineAtlas
