import Mathlib.Data.Prod.Lex
import Mathlib.Tactic.Order
import RoutineAtlas.Proofs.Separation

/-!
# Statements one after the other

The statements of a text stand one after the other, and no two of them touch: between two statements
there is the end of a line, or an `&`. A continuation joins lines, so a statement may reach over
several of them, and it may begin and end anywhere within a line.

## Main definitions

* `Cursor.le_def`, `Cursor.lt_def` — the reading order of cursors, which is linear.
* `Statement.Spans` — a cursor stands within a statement.
* `Statement.Laid` — statements that stand one after the other without touching.
* `Statement.laid_split` — the statements of a text are so.
-/

namespace RoutineAtlas

/-! ## Cursors in reading order -/

theorem Cursor.key_injective :
    Function.Injective fun c : Cursor => toLex (c.line, c.character) := by
  rintro ⟨line, character⟩ ⟨line', character'⟩ h
  simpa using h

instance : LinearOrder Cursor :=
  LinearOrder.lift' (fun c => toLex (c.line, c.character)) Cursor.key_injective

namespace Cursor

variable {a b : Cursor}

theorem le_def : a ≤ b ↔ a.line < b.line ∨ a.line = b.line ∧ a.character ≤ b.character :=
  Prod.Lex.toLex_le_toLex

theorem lt_def : a < b ↔ a.line < b.line ∨ a.line = b.line ∧ a.character < b.character :=
  Prod.Lex.toLex_lt_toLex

theorem le_eq_true_iff : a.le b = true ↔ a ≤ b :=
  le_iff.trans le_def.symm

theorem lt_eq_true_iff : a.lt b = true ↔ a < b :=
  lt_iff.trans lt_def.symm

end Cursor

theorem Span.encloses_iff {a b : Span} {here : Cursor} :
    a.encloses b here = true ↔ a.startCursor ≤ here ∧ here ≤ b.endCursor := by
  simp [encloses, Cursor.le_eq_true_iff]

theorem Span.startCursor_le (s : Span) : s.startCursor ≤ s.endCursor :=
  Cursor.le_def.2 (.inr ⟨rfl, Nat.le_add_right _ _⟩)

theorem Span.startCursor_lt {s : Span} (h : 0 < s.length) : s.startCursor < s.endCursor :=
  Cursor.lt_def.2 (.inr ⟨rfl, Nat.lt_add_of_pos_right h⟩)

theorem Token.before_iff {t u : Token} :
    t.Before u ↔ t.start.endCursor ≤ u.start.startCursor := by
  rw [Cursor.le_def]
  rfl

theorem Token.Before.line_le {t u : Token} (h : t.Before u) : t.start.line ≤ u.start.line := by
  rcases h with hline | ⟨hline, -⟩ <;> omega

theorem Token.Laid.pairwise_lt {tokens : List Token} (h : Token.Laid tokens) :
    tokens.Pairwise fun t u => t.start.startCursor < u.start.startCursor :=
  h.before.imp_of_mem fun ht _ hbefore =>
    Cursor.lt_eq_true_iff.1 (hbefore.lt (h.nonempty _ ht))

/-! ## Statements one after the other -/

namespace Statement

variable {tokens : List Token} {s : Statement}

/-- The cursor stands within the statement. -/
def Spans (s : Statement) (x : Cursor) : Prop :=
  ∃ first ∈ s.head?, first.start.startCursor ≤ x ∧ x ≤ s.stop.endCursor

theorem Spans.exists_le {x : Cursor} (h : s.Spans x) : ∃ t ∈ s, t.start.startCursor ≤ x := by
  obtain ⟨first, hfirst, hle, -⟩ := h
  exact ⟨first, List.mem_of_head? hfirst, hle⟩

theorem Spans.le {x : Cursor} (h : s.Spans x) : x ≤ s.stop.endCursor := by
  obtain ⟨-, -, -, hle⟩ := h
  exact hle

/-- Statements that stand one after the other: each from its first token to its last, and with
something between two of them. -/
structure Laid (statements : List Statement) : Prop where
  spans : ∀ s ∈ statements, ∀ t ∈ s, s.Spans t.start.startCursor
  apart : statements.Pairwise fun s s' => ∀ t ∈ s', s.stop.endCursor < t.start.startCursor

namespace Laid

variable {ahead : List Statement}

theorem tail (h : Laid (s :: ahead)) : Laid ahead :=
  ⟨fun u hu => h.spans u (by simp [hu]), (List.pairwise_cons.1 h.apart).2⟩

theorem next (h : Laid (s :: ahead)) :
    ∀ u ∈ ahead, ∀ t ∈ u, s.stop.endCursor < t.start.startCursor :=
  (List.pairwise_cons.1 h.apart).1

theorem spans_stop {first : Token} {after : List Token} (h : Laid ((first :: after) :: ahead)) :
    Spans (first :: after) (stop (first :: after)).endCursor :=
  ⟨first, rfl, (h.spans _ (by simp) first (by simp)).le, le_refl _⟩

end Laid

theorem pairwise_collected (s : Statement) (R : Statement → Statement → Prop) :
    (collected s).Pairwise R := by
  unfold collected
  split <;> simp

/-- A splitter in the midst of tokens that stand one after the other. What has been collected does
not reach below the line of the token before, and what is ahead does not reach above it. -/
structure Midway (current : Statement) (lastLine : Option Nat) (ts : List Token) : Prop where
  before : (current ++ ts).Pairwise Token.Before
  nonempty : ∀ t ∈ ts, 0 < t.start.length
  above : ∀ n ∈ lastLine, ∀ t ∈ current, t.start.line ≤ n
  below : ∀ n ∈ lastLine, ∀ t ∈ ts, n ≤ t.start.line

namespace Midway

variable {current : Statement} {lastLine : Option Nat} {t u v : Token} {ts : List Token}
  (h : Midway current lastLine (t :: ts))
include h

theorem before_next (hu : u ∈ current) : u.Before t :=
  (List.pairwise_append.1 h.before).2.2 u hu t (by simp)

theorem next_before (hv : v ∈ ts) : t.Before v :=
  (List.pairwise_cons.1 (List.pairwise_append.1 h.before).2.1).1 v hv

/-- A comment or a continuation is passed over. -/
theorem skip : Midway current lastLine ts where
  before := h.before.sublist ((List.sublist_cons_self t ts).append_left current)
  nonempty := fun u hu => h.nonempty u (by simp [hu])
  above := h.above
  below := fun n hn u hu => h.below n hn u (by simp [hu])

/-- The next token is collected, after all of what has been or after none of it. -/
theorem collect {kept : Statement} (hkept : kept.Sublist current) :
    Midway (kept ++ [t]) (some t.start.line) ts where
  before := by
    rw [List.append_assoc, List.singleton_append]
    exact h.before.sublist (hkept.append_right _)
  nonempty := h.skip.nonempty
  above := by
    rintro _ ⟨rfl⟩ u hu
    rcases List.mem_append.1 hu with hu | hu
    · exact (h.before_next (hkept.subset hu)).line_le
    · rw [List.mem_singleton.1 hu]
  below := by
    rintro _ ⟨rfl⟩ u hu
    exact (h.next_before hu).line_le

/-- The next token ends what has been collected and is no part of it. -/
theorem separate : Midway [] (some t.start.line) ts where
  before := (List.pairwise_append.1 h.skip.before).2.1
  nonempty := h.skip.nonempty
  above := by simp
  below := (h.collect (List.Sublist.refl _)).below

/-- The next token, whatever it is, keeps what has been collected from what comes later. -/
theorem apart_of_next (hu : u ∈ current) (hv : v ∈ ts) :
    u.start.endCursor < v.start.startCursor := by
  have hut := Token.before_iff.1 (h.before_next hu)
  have htv := Token.before_iff.1 (h.next_before hv)
  have hwide := Span.startCursor_lt (h.nonempty t (by simp))
  order

/-- If the next token is not on the line of the token before, it and all that comes later are on
lines of their own. -/
theorem apart_of_break (hbroken : lastLine.any (· != t.start.line) = true) (hu : u ∈ current)
    (hv : v ∈ t :: ts) : u.start.endCursor < v.start.startCursor := by
  obtain ⟨n, hn, hne⟩ : ∃ n ∈ lastLine, n ≠ t.start.line := by
    simpa [Option.any_eq_true] using hbroken
  have habove := h.above n hn u hu
  have hline := h.below n hn t (by simp)
  have hlater : t.start.line ≤ v.start.line := by
    rcases List.mem_cons.1 hv with rfl | hv
    · exact Nat.le_refl _
    · exact (h.next_before hv).line_le
  exact Cursor.lt_def.2 (.inl (by simp only [Span.endCursor, Span.startCursor]; omega))

end Midway

/-- The statements that the tokens ahead complete do not touch: a break leads to a later line, and
an `&` stands between two statements of one line. -/
theorem pairwise_splitFrom {current : Statement} {continued : Bool} {lastLine : Option Nat}
    {ts : List Token} (h : Midway current lastLine ts) :
    (splitFrom current continued lastLine ts).Pairwise fun s s' =>
      ∀ t ∈ s, ∀ u ∈ s', t.start.endCursor < u.start.startCursor := by
  fun_induction splitFrom current continued lastLine ts with
  | case1 current continued lastLine => exact pairwise_collected current _
  | case2 current continued lastLine t ts hcomment ih => exact ih h.skip
  | case3 current continued lastLine t ts hcomment hcontinuation ih => exact ih h.skip
  | case4 current continued lastLine t ts hcomment hcontinuation broken finished kept hand ih =>
    have hdone : finished ++ collected kept = collected current := by
      cases hbroken : broken <;> simp [finished, kept, hbroken, collected]
    rw [hdone]
    refine List.pairwise_append.2 ⟨pairwise_collected current _, ih h.separate, ?_⟩
    intro s hs s' hs' u hu v hv
    obtain ⟨rfl, -⟩ := mem_collected.1 hs
    exact h.apart_of_next hu ((sublist_of_mem_splitFrom hs').subset hv)
  | case5 current continued lastLine t ts hcomment hcontinuation broken finished kept hand ih =>
    have hnext := ih (h.collect (kept_sublist broken current))
    cases hbroken : broken with
    | false => simpa [finished, hbroken] using hnext
    | true =>
      have hfinished : finished = collected current := by simp [finished, hbroken]
      have hline := (Bool.and_eq_true _ _ ▸ hbroken : _ ∧ _).1
      rw [hfinished]
      refine List.pairwise_append.2 ⟨pairwise_collected current _, hnext, ?_⟩
      intro s hs s' hs' u hu v hv
      obtain ⟨rfl, -⟩ := mem_collected.1 hs
      have hmem := (sublist_of_mem_splitFrom hs').subset hv
      exact h.apart_of_break hline hu (by simpa [kept, hbroken] using hmem)

/-- A statement ends with its last token. -/
theorem endCursor_stop_eq (hsingle : ∀ t ∈ s, t.stop = t.start) (hs : s ≠ []) :
    ∃ last ∈ s, s.getLast? = some last ∧ s.stop.endCursor = last.start.endCursor := by
  obtain ⟨last, hlast⟩ : ∃ last, s.getLast? = some last :=
    ⟨_, List.getLast?_eq_some_getLast hs⟩
  have hmem := List.mem_of_getLast? hlast
  refine ⟨last, hmem, hlast, ?_⟩
  rw [stop, hlast, Option.map_some, Option.getD_some, hsingle last hmem]

/-- A statement reaches from its first token to its last. -/
theorem spans_of_mem (hbefore : s.Pairwise Token.Before) (hsingle : ∀ t ∈ s, t.stop = t.start)
    {t : Token} (ht : t ∈ s) : s.Spans t.start.startCursor := by
  obtain ⟨last, -, hlast, hstop⟩ := endCursor_stop_eq hsingle (List.ne_nil_of_mem ht)
  obtain ⟨first, after, rfl⟩ := List.exists_cons_of_ne_nil (List.ne_nil_of_mem ht)
  refine ⟨first, rfl, ?_, ?_⟩
  · rcases List.mem_cons.1 ht with rfl | ht
    · exact le_refl _
    · have hfirst := Token.before_iff.1 ((List.pairwise_cons.1 hbefore).1 t ht)
      have hwide := first.start.startCursor_le
      order
  · have heq : (first :: after).dropLast ++ [last] = first :: after :=
      List.dropLast_append_getLast? last hlast
    have hwide := t.start.startCursor_le
    rw [← heq] at ht hbefore
    rw [hstop]
    rcases List.mem_append.1 ht with ht | ht
    · have hlast := Token.before_iff.1 ((List.pairwise_append.1 hbefore).2.2 t ht last (by simp))
      have hwide' := last.start.startCursor_le
      order
    · rwa [List.mem_singleton.1 ht] at hwide ⊢

/-- The statements of a text stand one after the other. -/
theorem laid_split (h : Token.Laid tokens) : Laid (split tokens) where
  spans := by
    intro s hs t ht
    have hsub := sublist_of_mem_split hs
    exact spans_of_mem (h.before.sublist hsub) (fun t ht => h.single t (hsub.subset ht)) ht
  apart := by
    have hpairwise : (splitFrom [] false none tokens).Pairwise fun s s' =>
        ∀ t ∈ s, ∀ u ∈ s', t.start.endCursor < u.start.startCursor :=
      pairwise_splitFrom ⟨by simpa using h.before, h.nonempty, by simp, by simp⟩
    refine hpairwise.imp_of_mem ?_
    intro s s' hs hs' hapart t ht
    have hsub := sublist_of_mem_split hs
    obtain ⟨last, hmem, -, hstop⟩ :=
      endCursor_stop_eq (fun t ht => h.single t (hsub.subset ht)) (ne_nil_of_mem_splitFrom hs)
    rw [hstop]
    exact hapart last hmem t ht

end Statement

end RoutineAtlas
