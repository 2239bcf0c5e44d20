import Mathlib.Data.List.Basic
import Mathlib.Data.List.Induction
import RoutineAtlas.Span
import RoutineAtlas.Text.Lines

/-!
# Where a stretch of text stands in its lines

A text is read line by line. What stands between two parts of a text, and does not itself end a
line, is found in the line that the first part leaves off in, right after what the first part has
left there.

## Main definitions

* `Text.endCursor` — the place after a text.
* `Text.exists_sourceLines` — the lines of a text with a stretch in its midst.
-/

namespace RoutineAtlas

section

variable {α : Type} [DecidableEq α] {sep : α}

theorem exists_piecesBetween (sep : α) (cs : List α) :
    ∃ piece more, piecesBetween sep cs = piece :: more := by
  cases cs with
  | nil => exact ⟨[], [], rfl⟩
  | cons c cs =>
    rw [piecesBetween]
    split
    · exact ⟨[], _, rfl⟩
    · split
      · exact ⟨[c], [], rfl⟩
      · exact ⟨_, _, rfl⟩

theorem piecesBetween_cons_of_ne {c : α} (h : c ≠ sep) {cs piece : List α} {more : List (List α)}
    (hcs : piecesBetween sep cs = piece :: more) :
    piecesBetween sep (c :: cs) = (c :: piece) :: more := by
  rw [piecesBetween, if_neg (by simpa using h), hcs]

/-- What holds no separator is put before the first piece. -/
theorem piecesBetween_append {part : List α} (h : sep ∉ part) {cs piece : List α}
    {more : List (List α)} (hcs : piecesBetween sep cs = piece :: more) :
    piecesBetween sep (part ++ cs) = (part ++ piece) :: more := by
  induction part with
  | nil => exact hcs
  | cons c part ih =>
    obtain ⟨hc, hpart⟩ := not_or.1 (List.mem_cons.not.1 h)
    exact piecesBetween_cons_of_ne (Ne.symm hc) (ih hpart)

end

namespace Text

theorem withoutReturn_eq {line : Text} (h : '\r' ∉ line) : line.withoutReturn = line := by
  rw [withoutReturn, if_neg]
  intro hlast
  exact h (List.mem_of_getLast? (eq_of_beq hlast))

theorem withoutReturn_append_return (line : Text) : withoutReturn (line ++ ['\r']) = line := by
  simp [withoutReturn]

/-- A line is what is left of it and perhaps a carriage return. -/
theorem eq_withoutReturn_append (line : Text) :
    line = line.withoutReturn ∨ line = line.withoutReturn ++ ['\r'] := by
  rw [withoutReturn]
  split
  · rename_i hlast
    exact .inr (List.dropLast_append_getLast? _ (eq_of_beq hlast)).symm
  · exact .inl rfl

/-- A carriage return at the end of a line is not among the characters before it. -/
theorem withoutReturn_append {part : Text} (hne : part ≠ []) (hreturn : '\r' ∉ part)
    (left rest : Text) :
    withoutReturn (left ++ part ++ rest) = left ++ part ++ rest.withoutReturn := by
  cases rest with
  | nil =>
    rw [withoutReturn, if_neg]
    · rfl
    · rw [List.append_nil, List.getLast?_append_of_ne_nil _ hne, beq_iff_eq]
      exact fun hlast => hreturn (List.mem_of_getLast? hlast)
  | cons c rest =>
    rw [withoutReturn, withoutReturn, List.getLast?_append_of_ne_nil _ (List.cons_ne_nil c rest)]
    split
    · rw [List.dropLast_append_of_ne_nil (List.cons_ne_nil c rest)]
    · rfl

/-- The place after a character that stands at `here`. -/
def pass (here : Cursor) (c : Char) : Cursor :=
  if c == '\n' then ⟨here.line + 1, 0⟩ else ⟨here.line, here.character + 1⟩

/-- The place after a text. -/
def endCursor (t : Text) : Cursor :=
  t.foldl pass ⟨0, 0⟩

/-- The pieces of a text go on from the last piece of its first part. -/
theorem exists_pieces (before : Text) : ∃ above left : List _,
    above.length = before.endCursor.line ∧ left.length = before.endCursor.character ∧
      ∀ (cs piece : Text) (more : List Text), piecesBetween '\n' cs = piece :: more →
        piecesBetween '\n' (before ++ cs) = above ++ (left ++ piece) :: more := by
  induction before using List.reverseRecOn with
  | nil => exact ⟨[], [], rfl, rfl, fun cs piece more hcs => hcs⟩
  | append_singleton before c ih =>
    obtain ⟨above, left, habove, hleft, hpieces⟩ := ih
    have hpass : endCursor (before ++ [c]) = pass (endCursor before) c := by
      rw [endCursor, List.foldl_append]
      rfl
    by_cases hc : c = '\n'
    · subst hc
      refine ⟨above ++ [left], [], ?_, ?_, fun cs piece more hcs => ?_⟩
      · rw [hpass, List.length_append, habove]
        rfl
      · rw [hpass]
        rfl
      · have hfeed : piecesBetween '\n' ('\n' :: cs) = [] :: piece :: more := by
          rw [piecesBetween, if_pos (by simp), hcs]
        rw [List.append_assoc, List.singleton_append, hpieces _ _ _ hfeed]
        simp
    · refine ⟨above, left ++ [c], ?_, ?_, fun cs piece more hcs => ?_⟩
      · rw [hpass, pass, if_neg (by simpa using hc), habove]
      · rw [hpass, pass, if_neg (by simpa using hc), List.length_append, hleft]
        rfl
      · rw [List.append_assoc, List.singleton_append,
          hpieces _ _ _ (piecesBetween_cons_of_ne hc hcs)]
        simp

/-- What stands between two parts of a text and does not end a line is found where the first part
ends. -/
theorem exists_sourceLines (before after : Text) : ∃ above left right below,
    List.length above = before.endCursor.line ∧ List.length left = before.endCursor.character ∧
      ∀ part : Text, part ≠ [] → '\n' ∉ part → '\r' ∉ part →
        sourceLines (before ++ part ++ after) = above ++ (left ++ part ++ right) :: below := by
  obtain ⟨above, left, habove, hleft, hpieces⟩ := exists_pieces before
  obtain ⟨piece, more, hafter⟩ := exists_piecesBetween '\n' after
  refine ⟨above.map withoutReturn, left, withoutReturn piece, more.map withoutReturn,
    by rw [List.length_map, habove], hleft, fun part hne hfeed hreturn => ?_⟩
  rw [sourceLines, piecesAt, List.append_assoc,
    hpieces _ _ _ (piecesBetween_append hfeed hafter), List.map_append, List.map_cons,
    ← List.append_assoc, withoutReturn_append hne hreturn]

end Text

end RoutineAtlas
