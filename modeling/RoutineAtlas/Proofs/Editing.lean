import RoutineAtlas.Proofs.Lines
import RoutineAtlas.Proofs.Tiling
import RoutineAtlas.Text.Edit

/-!
# Edits replace what lies between two places

An editor names a place by a line and a count of code units, and the text is kept as characters. A
place is first turned into an offset; from there on, an edit cuts the text in three and puts the new
part in the middle. In a text whose lines end with a line feed, or with a carriage return and a line
feed, the offset of a place is the start of its line and as many characters of the line as its units
need. The offsets follow the order of the places, stay within the text and part no carriage return
from its line feed, so that every edit has something to cut and leaves such a text behind.

The equations of `Text.offset` peel off one line after the other, and `Text.lineInduction` is the
induction that follows them.

## Main definitions

* `Text.plainBreaks` — the only line ends are `\n` and `\r\n`.
* `Text.place` — the offset of a place, said of the lines of the text.
* `Text.replace?` — an edit that fails if it has nothing to cut.
* `Text.PlacesFit` — all that the offsets of a text obey.
* `Text.edits_replace` — the edits of a document.
-/

namespace RoutineAtlas.Text

/-! ## Places -/

/-- Every line end is a line feed, or a carriage return right before a line feed. -/
def plainBreaks : Text → Bool
  | [] => true
  | c :: rest =>
    (!isLineEnd c || c == '\n' || (c == '\r' && rest.head? == some '\n')) && plainBreaks rest

/-- The number of code units of sixteen bits that a text takes. -/
def units : Text → Nat
  | [] => 0
  | c :: rest => codeUnits c + units rest

/-- The least number of characters of a line that take at least `count` code units, or all of them
if the line is shorter. -/
def charsFor (line : Text) (count : Nat) : Nat :=
  ((List.range line.length).find? fun n => decide (count ≤ units (line.take n))).getD line.length

/-- The number of characters before line number `n`, where a line ends after its line feed. -/
def lineStart (t : Text) (n : Nat) : Nat :=
  (((t.piecesAt '\n').take n).flatMap fun line => line ++ ['\n']).length

/-- The offset of a place: the start of its line, and as many characters of the line as it takes to
have its code units. A place on a line that does not exist is the end of the text. -/
def place (t : Text) (here : Cursor) : Nat :=
  match t.sourceLines[here.line]? with
  | some line => t.lineStart here.line + charsFor line here.character
  | none => t.length

/-- The text without the characters from number `start` up to number `stop`; nothing if the text has
no such part. -/
def remove? (t : Text) (start stop : Nat) : Option Text :=
  if start ≤ stop ∧ stop ≤ t.length then some (t.take start ++ t.drop stop) else none

/-- The text with a part put before character number `n`; nothing if the text is shorter. -/
def insert? (t : Text) (n : Nat) (part : Text) : Option Text :=
  if n ≤ t.length then some (t.take n ++ part ++ t.drop n) else none

/-- The text after a change. What lies between the two places of a range is removed, and the new
text is put in its place. -/
def replace? (t : Text) (change : TextChange) : Option Text :=
  match change.range with
  | none => some change.text
  | some range =>
    let start := t.place range.start
    (t.remove? start (max start (t.place range.stop))).bind fun rest =>
      rest.insert? start change.text

/-- The offsets of a text are those of the places, in their order, none of them beyond the text or
between a carriage return and its line feed. -/
structure PlacesFit (t : Text) : Prop where
  offset_eq : ∀ here, t.offset here = t.place here
  mono : ∀ a b : Cursor, a.le b = true → t.offset a ≤ t.offset b
  le_length : ∀ here, t.offset here ≤ t.length
  whole : ∀ here i, t[i]? = some '\r' → t[i + 1]? = some '\n' → t.offset here ≠ i + 1

/-! ## Code units -/

theorem charsFor_cons (c : Char) (line : Text) (count : Nat) : charsFor (c :: line) count =
    if count = 0 then 0 else charsFor line (count - codeUnits c) + 1 := by
  have hunits (n : Nat) : (count ≤ units ((c :: line).take (n + 1))) ↔
      count - codeUnits c ≤ units (line.take n) := by
    rw [List.take_succ_cons, units]
    omega
  rw [charsFor, List.length_cons, List.range_succ_eq_map, List.find?_cons, List.find?_map]
  split
  · rename_i hzero
    have hcount : count ≤ 0 := of_decide_eq_true hzero
    rw [if_pos (Nat.le_zero.1 hcount), Option.getD_some]
  · rename_i hzero
    have hcount : ¬count ≤ 0 := of_decide_eq_false hzero
    rw [if_neg (by omega), charsFor]
    simp only [Function.comp_def, Nat.succ_eq_add_one, hunits]
    cases List.find? _ _ <;> rfl

theorem charsFor_le (line : Text) (count : Nat) : charsFor line count ≤ line.length := by
  induction line generalizing count with
  | nil => exact Nat.le_refl 0
  | cons c line ih =>
    rw [charsFor_cons]
    split
    · exact Nat.zero_le _
    · exact Nat.succ_le_succ (ih _)

theorem charsFor_mono (line : Text) {count count' : Nat} (h : count ≤ count') :
    charsFor line count ≤ charsFor line count' := by
  induction line generalizing count count' with
  | nil => exact Nat.le_refl 0
  | cons c line ih =>
    rw [charsFor_cons, charsFor_cons]
    split
    · exact Nat.zero_le _
    · rw [if_neg (by omega)]
      exact Nat.succ_le_succ (ih (Nat.sub_le_sub_right h _))

theorem columnOffset_zero (t : Text) : columnOffset 0 t = 0 := by
  cases t <;> rfl

/-- A column is counted through the characters of its line, up to the line end. -/
theorem columnOffset_append {line rest : Text} (hline : ∀ c ∈ line, isLineEnd c = false)
    (hrest : ∀ c ∈ rest.head?, c = '\n' ∨ c = '\r') (column : Nat) :
    columnOffset column (line ++ rest) = charsFor line column := by
  induction line generalizing column with
  | nil =>
    cases column with
    | zero => exact columnOffset_zero _
    | succ column =>
      cases rest with
      | nil => rfl
      | cons c rest => rcases hrest c rfl with rfl | rfl <;> rfl
  | cons c line ih =>
    obtain ⟨hc, hline⟩ := List.forall_mem_cons.1 hline
    rw [charsFor_cons, List.cons_append]
    cases column with
    | zero => rfl
    | succ column =>
      have hnewline : (c == '\n' || c == '\r') = false := by
        rw [Bool.or_eq_false_iff, beq_eq_false_iff_ne, beq_eq_false_iff_ne]
        constructor <;> rintro rfl <;> cases hc
      have hstep : columnOffset (column + 1) (c :: (line ++ rest)) =
          if c == '\n' || c == '\r' then 0 else if isLineEnd c then 1
          else columnOffset (column + 1 - codeUnits c) (line ++ rest) + 1 := rfl
      rw [hstep, hnewline, hc, ih hline, if_neg (Nat.succ_ne_zero column)]
      rfl

/-! ## Lines -/

/-- A text has one line, or a line before others. -/
theorem lineInduction {P : Text → Prop} (last : ∀ t, '\n' ∉ t → P t)
    (more : ∀ line rest, '\n' ∉ line → P rest → P (line ++ '\n' :: rest)) (t : Text) : P t := by
  induction hlength : t.length using Nat.strongRecOn generalizing t with
  | ind length ih =>
    subst hlength
    by_cases hfeed : '\n' ∈ t
    · obtain ⟨line, rest, rfl, hline⟩ := List.eq_append_cons_of_mem hfeed
      have hlength : rest.length < (line ++ '\n' :: rest).length := by
        rw [List.length_append, List.length_cons]
        omega
      exact more line rest hline (ih rest.length hlength rest rfl)
    · exact last t hfeed

section

variable {t line rest : Text}

theorem plainBreaks_cons {c : Char} : plainBreaks (c :: rest) = true ↔
    (isLineEnd c = true → c = '\n' ∨ (c = '\r' ∧ rest.head? = some '\n')) ∧
      plainBreaks rest = true := by
  cases hc : isLineEnd c <;> simp [plainBreaks, hc]

theorem plainBreaks_of_append (h : plainBreaks (line ++ rest) = true) :
    plainBreaks rest = true := by
  induction line with
  | nil => exact h
  | cons c line ih => exact ih (plainBreaks_cons.1 h).2

theorem length_withoutReturn_le (line : Text) : (withoutReturn line).length ≤ line.length := by
  unfold withoutReturn
  split
  · exact (List.length_dropLast ▸ Nat.sub_le _ _)
  · exact Nat.le_refl _

theorem plainBreaks_of_line (h : plainBreaks (line ++ '\n' :: rest) = true) :
    plainBreaks rest = true :=
  (plainBreaks_cons.1 (plainBreaks_of_append h)).2

/-- A line has no line end in it, but for a carriage return before its line feed. -/
theorem exists_ending (hline : '\n' ∉ line) (hplain : plainBreaks (line ++ '\n' :: rest) = true) :
    ∃ content ending, line = content ++ ending ∧ (ending = [] ∨ ending = ['\r']) ∧
      ∀ c ∈ content, isLineEnd c = false := by
  induction line with
  | nil => exact ⟨[], [], rfl, .inl rfl, by simp⟩
  | cons c line ih =>
    obtain ⟨hc, hlater⟩ := not_or.1 (List.mem_cons.not.1 hline)
    obtain ⟨hends, hplain⟩ := plainBreaks_cons.1 hplain
    cases hend : isLineEnd c with
    | false =>
      obtain ⟨content, ending, rfl, hending, hcontent⟩ := ih hlater hplain
      exact ⟨c :: content, ending, rfl, hending, List.forall_mem_cons.2 ⟨hend, hcontent⟩⟩
    | true =>
      obtain ⟨rfl, hnext⟩ := (hends hend).resolve_left (Ne.symm hc)
      -- the line feed after it is the one that ends the line
      obtain rfl : line = [] := by
        cases line with
        | nil => rfl
        | cons d line => exact absurd (List.mem_cons.2 (.inl (Option.some.inj hnext).symm)) hlater
      exact ⟨[], ['\r'], rfl, .inr rfl, by simp⟩

/-- The content of a line stands before the line end. -/
theorem exists_eq_withoutReturn_append (hline : '\n' ∉ line)
    (hplain : plainBreaks (line ++ '\n' :: rest) = true) :
    ∃ ending, line = withoutReturn line ++ ending ∧ (ending = [] ∨ ending = ['\r']) ∧
      ∀ c ∈ withoutReturn line, isLineEnd c = false := by
  obtain ⟨content, ending, rfl, hending, hcontent⟩ := exists_ending hline hplain
  rcases hending with rfl | rfl
  · have hreturn : '\r' ∉ content := fun hmem => by cases hcontent _ hmem
    rw [List.append_nil, withoutReturn_eq hreturn]
    exact ⟨[], (List.append_nil _).symm, .inl rfl, hcontent⟩
  · rw [withoutReturn_append_return]
    exact ⟨['\r'], rfl, .inr rfl, hcontent⟩

/-- A last line has no line end in it. -/
theorem isLineEnd_eq_false_of_last (hlast : '\n' ∉ t) (hplain : plainBreaks t = true) :
    ∀ c ∈ t, isLineEnd c = false := by
  induction t with
  | nil => simp
  | cons c t ih =>
    obtain ⟨hc, hlast⟩ := not_or.1 (List.mem_cons.not.1 hlast)
    obtain ⟨hends, hplain⟩ := plainBreaks_cons.1 hplain
    refine List.forall_mem_cons.2 ⟨?_, ih hlast hplain⟩
    by_contra hend
    obtain ⟨-, hnext⟩ := (hends (by simpa using hend)).resolve_left (Ne.symm hc)
    exact hlast (List.mem_of_head? hnext)

/-! ## Offsets by lines -/

theorem lineOffset?_content {content : Text} (hcontent : ∀ c ∈ content, isLineEnd c = false)
    (n : Nat) (rest : Text) : lineOffset? (n + 1) (content ++ rest) =
      (lineOffset? (n + 1) rest).map (content.length + ·) := by
  induction content with
  | nil => simp
  | cons c content ih =>
    obtain ⟨hc, hcontent⟩ := List.forall_mem_cons.1 hcontent
    have hreturn : c ≠ '\r' := by
      rintro rfl
      cases hc
    have hstep : lineOffset? (n + 1) (c :: (content ++ rest)) =
        (lineOffset? (n + 1) (content ++ rest)).map (· + 1) := by
      rw [lineOffset?]
      · simp [hc]
      · simp [hreturn]
    rw [List.cons_append, hstep, ih hcontent, Option.map_map, List.length_cons]
    congr 1
    funext offset
    simp only [Function.comp_apply]
    omega

/-- The next line starts after the line feed. -/
theorem lineOffset?_append (hline : '\n' ∉ line)
    (hplain : plainBreaks (line ++ '\n' :: rest) = true) (n : Nat) :
    lineOffset? (n + 1) (line ++ '\n' :: rest) =
      (lineOffset? n rest).map (line.length + 1 + ·) := by
  obtain ⟨content, ending, rfl, hending, hcontent⟩ := exists_ending hline hplain
  have hstep : lineOffset? (n + 1) (ending ++ '\n' :: rest) =
      (lineOffset? n rest).map (· + (ending.length + 1)) := by
    rcases hending with rfl | rfl
    · rw [List.nil_append, lineOffset?]
      · simp [isLineEnd]
      · simp
    · rw [List.cons_append, List.nil_append, lineOffset?]
      rfl
  rw [List.append_assoc, lineOffset?_content hcontent, hstep, Option.map_map, List.length_append]
  congr 1
  funext offset
  simp only [Function.comp_apply]
  omega

theorem lineOffset?_last (hlast : '\n' ∉ t) (hplain : plainBreaks t = true) (n : Nat) :
    lineOffset? (n + 1) t = none := by
  have hstep := lineOffset?_content (isLineEnd_eq_false_of_last hlast hplain) n []
  rwa [List.append_nil] at hstep

theorem offset_first (t : Text) (column : Nat) : t.offset ⟨0, column⟩ = columnOffset column t := by
  have hstart : lineOffset? 0 t = some 0 := by cases t <;> rfl
  simp [offset, hstart]

/-- Before the line feed, offsets are counted within the first line. -/
theorem offset_first_append (hline : '\n' ∉ line)
    (hplain : plainBreaks (line ++ '\n' :: rest) = true) (column : Nat) :
    offset (line ++ '\n' :: rest) ⟨0, column⟩ = charsFor (withoutReturn line) column := by
  obtain ⟨ending, heq, hending, hcontent⟩ := exists_eq_withoutReturn_append hline hplain
  have hhead : ∀ c ∈ (ending ++ '\n' :: rest).head?, c = '\n' ∨ c = '\r' := by
    rcases hending with rfl | rfl <;> simp
  rw [offset_first, ← columnOffset_append hcontent hhead, ← List.append_assoc, ← heq]

theorem offset_first_last (hlast : '\n' ∉ t) (hplain : plainBreaks t = true) (column : Nat) :
    t.offset ⟨0, column⟩ = charsFor t column := by
  have hcontent := isLineEnd_eq_false_of_last hlast hplain
  have hend : ∀ c ∈ ([] : Text).head?, c = '\n' ∨ c = '\r' := by simp
  rw [offset_first, ← columnOffset_append hcontent hend, List.append_nil]

/-- After the line feed, offsets are counted as in the rest of the text. -/
theorem offset_append (hline : '\n' ∉ line) (hplain : plainBreaks (line ++ '\n' :: rest) = true)
    (n column : Nat) : offset (line ++ '\n' :: rest) ⟨n + 1, column⟩ =
      line.length + 1 + rest.offset ⟨n, column⟩ := by
  simp only [offset, lineOffset?_append hline hplain]
  cases lineOffset? n rest with
  | none => simp only [Option.map_none, List.length_append, List.length_cons]; omega
  | some start =>
    have hdrop : (line ++ '\n' :: rest).drop (line.length + 1 + start) = rest.drop start := by
      rw [List.drop_append, List.drop_eq_nil_of_le (by omega), List.nil_append,
        show line.length + 1 + start - line.length = start + 1 by omega, List.drop_succ_cons]
    simp only [Option.map_some, hdrop]
    rw [Nat.add_assoc]

theorem offset_last (hlast : '\n' ∉ t) (hplain : plainBreaks t = true) (n column : Nat) :
    t.offset ⟨n + 1, column⟩ = t.length := by
  simp only [offset, lineOffset?_last hlast hplain]

/-! ## Places by lines -/

theorem piecesAt_append (hline : '\n' ∉ line) (rest : Text) :
    piecesAt '\n' (line ++ '\n' :: rest) = line :: piecesAt '\n' rest := by
  have hfeed : piecesBetween '\n' ('\n' :: rest) = [] :: piecesBetween '\n' rest := by
    rw [piecesBetween, if_pos (by simp)]
  rw [piecesAt, piecesBetween_append hline hfeed, List.append_nil, piecesAt]

theorem piecesAt_last (hlast : '\n' ∉ t) : piecesAt '\n' t = [t] := by
  have hnil : piecesBetween '\n' ([] : Text) = [[]] := rfl
  have hpieces := piecesBetween_append hlast hnil
  rwa [List.append_nil] at hpieces

theorem place_first_append (hline : '\n' ∉ line) (rest : Text) (column : Nat) :
    place (line ++ '\n' :: rest) ⟨0, column⟩ = charsFor (withoutReturn line) column := by
  simp [place, sourceLines, lineStart, piecesAt_append hline]

theorem place_append (hline : '\n' ∉ line) (rest : Text) (n column : Nat) :
    place (line ++ '\n' :: rest) ⟨n + 1, column⟩ =
      line.length + 1 + rest.place ⟨n, column⟩ := by
  simp only [place, sourceLines, lineStart, piecesAt_append hline, List.map_cons,
    List.getElem?_cons_succ, List.take_succ_cons, List.flatMap_cons, List.length_append,
    List.length_singleton]
  cases ((piecesAt '\n' rest).map withoutReturn)[n]? with
  | none => simp only [List.length_cons]; omega
  | some l => simp only [Nat.add_assoc]

theorem place_first_last (hlast : '\n' ∉ t) (hplain : plainBreaks t = true) (column : Nat) :
    t.place ⟨0, column⟩ = charsFor t column := by
  have hreturn : '\r' ∉ t := fun hmem => by
    cases isLineEnd_eq_false_of_last hlast hplain _ hmem
  simp [place, sourceLines, lineStart, piecesAt_last hlast, withoutReturn_eq hreturn]

theorem place_last (hlast : '\n' ∉ t) (n column : Nat) : t.place ⟨n + 1, column⟩ = t.length := by
  simp [place, sourceLines, piecesAt_last hlast]

/-! ## What offsets obey -/

theorem offset_eq_place (h : plainBreaks t = true) (here : Cursor) :
    t.offset here = t.place here := by
  obtain ⟨n, column⟩ := here
  induction t using lineInduction generalizing n with
  | last t hlast =>
    cases n with
    | zero => rw [offset_first_last hlast h, place_first_last hlast h]
    | succ n => rw [offset_last hlast h, place_last hlast]
  | more line rest hline ih =>
    have hrest := plainBreaks_of_line h
    cases n with
    | zero => rw [offset_first_append hline h, place_first_append hline]
    | succ n => rw [offset_append hline h, place_append hline, ih hrest]

theorem offset_le_length (h : plainBreaks t = true) (here : Cursor) : t.offset here ≤ t.length := by
  obtain ⟨n, column⟩ := here
  induction t using lineInduction generalizing n with
  | last t hlast =>
    cases n with
    | zero =>
      rw [offset_first_last hlast h]
      exact charsFor_le t column
    | succ n => exact Nat.le_of_eq (offset_last hlast h n column)
  | more line rest hline ih =>
    have hrest := plainBreaks_of_line h
    rw [List.length_append, List.length_cons]
    cases n with
    | zero =>
      rw [offset_first_append hline h]
      have hchars := charsFor_le (withoutReturn line) column
      have hcontent := length_withoutReturn_le line
      omega
    | succ n =>
      have hoffset := ih hrest n
      rw [offset_append hline h]
      omega

theorem offset_mono (h : plainBreaks t = true) {a b : Cursor} (hab : a.le b = true) :
    t.offset a ≤ t.offset b := by
  obtain ⟨n, column⟩ := a
  obtain ⟨m, column'⟩ := b
  induction t using lineInduction generalizing n m with
  | last t hlast =>
    cases m with
    | zero =>
      obtain ⟨rfl, hcolumn⟩ : n = 0 ∧ column ≤ column' := by
        simpa [Cursor.le_iff] using hab
      rw [offset_first_last hlast h, offset_first_last hlast h]
      exact charsFor_mono t hcolumn
    | succ m =>
      rw [offset_last hlast h m]
      exact offset_le_length h _
  | more line rest hline ih =>
    have hrest := plainBreaks_of_line h
    cases n with
    | zero =>
      rw [offset_first_append hline h]
      cases m with
      | zero =>
        have hcolumn : column ≤ column' := by simpa [Cursor.le_iff] using hab
        rw [offset_first_append hline h]
        exact charsFor_mono _ hcolumn
      | succ m =>
        have hchars := charsFor_le (withoutReturn line) column
        have hcontent := length_withoutReturn_le line
        rw [offset_append hline h]
        omega
    | succ n =>
      cases m with
      | zero => simp [Cursor.le_iff] at hab
      | succ m =>
        have hoffsets := ih hrest n m (by simpa [Cursor.le_iff] using hab)
        rw [offset_append hline h, offset_append hline h]
        omega

/-- No offset lies between a carriage return and its line feed. -/
theorem offset_whole (h : plainBreaks t = true) (here : Cursor) {i : Nat}
    (hreturn : t[i]? = some '\r') (hfeed : t[i + 1]? = some '\n') : t.offset here ≠ i + 1 := by
  obtain ⟨n, column⟩ := here
  induction t using lineInduction generalizing n i with
  | last t hlast => exact absurd (List.mem_of_getElem? hfeed) hlast
  | more line rest hline ih =>
    have hrest := plainBreaks_of_line h
    cases n with
    | zero =>
      obtain ⟨ending, heq, -, hcontent⟩ := exists_eq_withoutReturn_append hline h
      rw [offset_first_append hline h]
      intro hoffset
      -- the carriage return would be within the content of the line
      have hlt : i < (withoutReturn line).length := by
        have hchars := charsFor_le (withoutReturn line) column
        omega
      rw [heq, List.append_assoc, List.getElem?_append_left hlt] at hreturn
      cases hcontent _ (List.mem_of_getElem? hreturn)
    | succ n =>
      rw [offset_append hline h]
      intro hoffset
      have hright (j : Nat) : (line ++ '\n' :: rest)[line.length + 1 + j]? = rest[j]? := by
        rw [List.getElem?_append_right (by omega),
          show line.length + 1 + j - line.length = j + 1 by omega, List.getElem?_cons_succ]
      cases hrestOffset : rest.offset ⟨n, column⟩ with
      | zero =>
        obtain rfl : i = line.length := by omega
        rw [List.getElem?_append_right (Nat.le_refl _), Nat.sub_self] at hreturn
        cases hreturn
      | succ j =>
        obtain rfl : i = line.length + 1 + j := by omega
        rw [hright] at hreturn
        rw [Nat.add_assoc (line.length + 1) j 1, hright] at hfeed
        exact ih hrest hreturn hfeed n hrestOffset

theorem placesFit (h : plainBreaks t = true) : t.PlacesFit where
  offset_eq := offset_eq_place h
  mono _ _ := offset_mono h
  le_length := offset_le_length h
  whole here _ := offset_whole h here

/-! ## Edits -/

theorem plainBreaks_append {t' : Text} (h : plainBreaks t = true) (h' : plainBreaks t' = true) :
    plainBreaks (t ++ t') = true := by
  induction t with
  | nil => exact h'
  | cons c t ih =>
    obtain ⟨hc, ht⟩ := plainBreaks_cons.1 h
    rw [List.cons_append, plainBreaks_cons]
    refine ⟨fun hend => (hc hend).imp_right fun hreturn => ⟨hreturn.1, ?_⟩, ih ht⟩
    rw [List.head?_append, hreturn.2]
    rfl

theorem plainBreaks_drop (h : plainBreaks t = true) (n : Nat) : plainBreaks (t.drop n) = true := by
  rw [← List.take_append_drop n t] at h
  exact plainBreaks_of_append h

theorem plainBreaks_take (h : plainBreaks t = true) {n : Nat}
    (hwhole : ∀ i, t[i]? = some '\r' → t[i + 1]? = some '\n' → n ≠ i + 1) :
    plainBreaks (t.take n) = true := by
  induction t generalizing n with
  | nil => rw [List.take_nil]; rfl
  | cons c t ih =>
    cases n with
    | zero => rfl
    | succ n =>
      obtain ⟨hc, ht⟩ := plainBreaks_cons.1 h
      rw [List.take_succ_cons, plainBreaks_cons]
      refine ⟨fun hend => (hc hend).imp_right fun hreturn => ⟨hreturn.1, ?_⟩, ih ht ?_⟩
      · cases n with
        | zero =>
          have hnext : (c :: t)[0 + 1]? = some '\n' := by
            rw [List.getElem?_cons_succ, ← List.head?_eq_getElem?, hreturn.2]
          exact absurd rfl (hwhole 0 (congrArg some hreturn.1) hnext)
        | succ n => rw [List.head?_take, if_neg (by omega), hreturn.2]
      · intro i hi hi' hn
        exact hwhole (i + 1) (by simpa using hi) (by simpa using hi') (by omega)

/-- An edit cuts such a text where it can be cut, and leaves such a text behind. -/
theorem replace?_eq_edit (h : plainBreaks t = true) {change : TextChange}
    (hchange : plainBreaks change.text = true) :
    t.replace? change = some (t.edit change) ∧ plainBreaks (t.edit change) = true := by
  unfold replace? edit
  cases change.range with
  | none => exact ⟨rfl, hchange⟩
  | some range =>
    simp only [← offset_eq_place h]
    have hstart := offset_le_length h range.start
    have hstop := offset_le_length h range.stop
    have htake := plainBreaks_take h fun i => offset_whole h range.start
    generalize t.offset range.start = start at hstart htake ⊢
    rw [Nat.max_comm start]
    have hmax : max (t.offset range.stop) start ≤ t.length := Nat.max_le.2 ⟨hstop, hstart⟩
    have hle : start ≤ max (t.offset range.stop) start := Nat.le_max_right _ _
    generalize max (t.offset range.stop) start = stop at hmax hle ⊢
    have hlength : (t.take start).length = start := List.length_take_of_le hstart
    constructor
    · have hinsert : start ≤ (t.take start ++ t.drop stop).length := by
        rw [List.length_append, hlength]
        exact Nat.le_add_right _ _
      rw [remove?, if_pos ⟨hle, hmax⟩, Option.bind_some, insert?, if_pos hinsert,
        List.take_left' hlength, List.drop_left' hlength]
    · exact plainBreaks_append (plainBreaks_append htake hchange) (plainBreaks_drop h stop)

theorem replaceAll_eq_editAll (h : plainBreaks t = true) {changes : List TextChange}
    (hchanges : ∀ change ∈ changes, plainBreaks change.text = true) :
    changes.foldlM replace? t = some (t.editAll changes) ∧
      plainBreaks (t.editAll changes) = true := by
  induction changes generalizing t with
  | nil => exact ⟨rfl, h⟩
  | cons change changes ih =>
    obtain ⟨hchange, hchanges⟩ := List.forall_mem_cons.1 hchanges
    obtain ⟨hreplace, hplain⟩ := replace?_eq_edit h hchange
    rw [List.foldlM_cons, hreplace]
    exact ih hplain hchanges

/-- Edits replace what lies between two places. In a text and with changes whose only line ends are
`\n` and `\r\n`, the changes of a document do, one after the other, what removing and inserting
between the places does, and none of them fails. Before each change and at the end, the offsets of
the places are in their order, within the text and never inside of `\r\n`. -/
theorem edits_replace (t : Text) (changes : List TextChange) (h : plainBreaks t = true)
    (hchanges : ∀ change ∈ changes, plainBreaks change.text = true) :
    changes.foldlM replace? t = some (t.editAll changes) ∧
      ∀ n, (t.editAll (changes.take n)).PlacesFit := by
  refine ⟨(replaceAll_eq_editAll h hchanges).1, fun n => placesFit ?_⟩
  exact (replaceAll_eq_editAll h fun change hchange =>
    hchanges change (List.mem_of_mem_take hchange)).2

/-- A column beyond the line stops before `\r\n`, one between the two units of a character is after
it, and a range from beyond the text back to its start is the end of the text. -/
theorem edits_replace_clamped :
    let t : Text := "a😀b\r\ncd\n".toList
    let changes : List TextChange :=
      [⟨some ⟨⟨0, 9⟩, ⟨0, 9⟩⟩, ['!']⟩, ⟨some ⟨⟨0, 2⟩, ⟨1, 1⟩⟩, ['x', '\n']⟩,
        ⟨some ⟨⟨9, 0⟩, ⟨0, 0⟩⟩, ['e']⟩]
    plainBreaks t = true ∧ (∀ change ∈ changes, plainBreaks change.text = true) ∧
      changes.foldlM replace? t = some "a😀x\nd\ne".toList ∧
      ∀ n, (t.editAll (changes.take n)).PlacesFit := by
  intro t changes
  have hplain : plainBreaks t = true ∧ ∀ change ∈ changes, plainBreaks change.text = true := by
    decide
  have hedit : t.editAll changes = "a😀x\nd\ne".toList := by decide
  rw [← hedit]
  exact ⟨hplain.1, hplain.2, edits_replace t changes hplain.1 hplain.2⟩

end

end RoutineAtlas.Text
