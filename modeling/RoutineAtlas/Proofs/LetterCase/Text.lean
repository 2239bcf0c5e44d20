import RoutineAtlas.Routine.Kind
import RoutineAtlas.Text.Lines

/-!
# Texts in small letters

Everything that looks at single characters asks for their class, and no class tells a capital
letter from its small one. So cutting a text and making its letters small can be done in either
order: a cut of the small text is the small form of the cut.

## Main definitions

* `CaseBlind` — a function of characters that does not tell the two cases of a letter apart.
* `caseBlind_of_capitals` — it is enough to look at the capital letters.
* `Text.sourceLines_lower` — the lines of the small text.
-/

namespace RoutineAtlas

theorem toLower_toLower (c : Char) : c.toLower.toLower = c.toLower := by
  delta Char.toLower
  split
  · rename_i h
    rw [dif_neg]
    simp only [ge_iff_le, UInt32.le_iff_toNat_le, UInt32.toNat_add, UInt32.reduceSub,
      UInt32.reduceToNat, Char.reduceVal] at h ⊢
    omega
  · rfl

/-! ## Characters -/

/-- The letters that have another small form. -/
def capitals : List Char :=
  "ABCDEFGHIJKLMNOPQRSTUVWXYZ".toList

theorem toLower_of_not_mem_capitals {c : Char} (h : c ∉ capitals) : c.toLower = c := by
  delta Char.toLower
  rw [dif_neg]
  intro hrange
  simp only [ge_iff_le, UInt32.le_iff_toNat_le, Char.reduceVal, UInt32.reduceToNat] at hrange
  have hcapital : ∀ n < 91, 65 ≤ n → Char.ofNat n ∈ capitals := by decide
  have hmem := hcapital c.toNat (Nat.lt_succ_of_le hrange.2) hrange.1
  rw [Char.ofNat_toNat] at hmem
  exact h hmem

/-- The function does not tell the two cases of a letter apart. -/
def CaseBlind {β : Type} (f : Char → β) : Prop :=
  ∀ c, f c.toLower = f c

theorem caseBlind_of_capitals {β : Type} [DecidableEq β] {f : Char → β}
    (h : capitals.all (fun c => f c.toLower = f c) = true) : CaseBlind f := by
  intro c
  by_cases hc : c ∈ capitals
  · exact of_decide_eq_true (List.all_eq_true.1 h c hc)
  · rw [toLower_of_not_mem_capitals hc]

theorem caseBlind_isBlank : CaseBlind isBlank := caseBlind_of_capitals (by decide)

theorem caseBlind_isAlpha : CaseBlind Char.isAlpha := caseBlind_of_capitals (by decide)

theorem caseBlind_isDigit : CaseBlind Char.isDigit := caseBlind_of_capitals (by decide)

theorem caseBlind_isNameStart : CaseBlind isNameStart := caseBlind_of_capitals (by decide)

theorem caseBlind_isNameChar : CaseBlind isNameChar := caseBlind_of_capitals (by decide)

theorem caseBlind_extendsWord : CaseBlind extendsWord := caseBlind_of_capitals (by decide)

theorem toLower_of_isAlpha_eq_false {c : Char} (h : c.isAlpha = false) : c.toLower = c := by
  have hletters : capitals.all Char.isAlpha = true := by decide
  refine toLower_of_not_mem_capitals fun hc => ?_
  rw [List.all_eq_true.1 hletters c hc] at h
  cases h

/-- A character that is no letter is met in the small text exactly where it was. -/
theorem toLower_eq_iff {c x : Char} (hx : x.isAlpha = false) : c.toLower = x ↔ c = x := by
  constructor
  · intro h
    have hc : c.isAlpha = false := by rw [← caseBlind_isAlpha c, h, hx]
    rw [← h, toLower_of_isAlpha_eq_false hc]
  · rintro rfl
    exact toLower_of_isAlpha_eq_false hx

theorem beq_toLower {c x : Char} (hx : x.isAlpha = false) : (c.toLower == x) = (c == x) := by
  rw [Bool.eq_iff_iff, beq_iff_eq, beq_iff_eq, toLower_eq_iff hx]

/-! ## Texts -/

namespace Text

@[simp] theorem lower_lower (t : Text) : t.lower.lower = t.lower := by
  rw [lower, lower, List.map_map]
  exact List.map_congr_left fun c _ => toLower_toLower c

@[simp] theorem lower_nil : lower [] = [] :=
  rfl

@[simp] theorem lower_cons (c : Char) (t : Text) : lower (c :: t) = c.toLower :: t.lower :=
  rfl

@[simp] theorem lower_append (s t : Text) : lower (s ++ t) = s.lower ++ t.lower :=
  List.map_append

theorem take_lower (n : Nat) (t : Text) : t.lower.take n = lower (t.take n) :=
  List.map_take.symm

theorem drop_lower (n : Nat) (t : Text) : t.lower.drop n = lower (t.drop n) :=
  List.map_drop.symm

section

variable {p : Char → Bool} (hp : CaseBlind p) (t : Text)
include hp

theorem takeWhile_lower : t.lower.takeWhile p = lower (t.takeWhile p) := by
  rw [lower, List.takeWhile_map, show p ∘ Char.toLower = p from funext hp]
  rfl

theorem dropWhile_lower : t.lower.dropWhile p = lower (t.dropWhile p) := by
  rw [lower, List.dropWhile_map, show p ∘ Char.toLower = p from funext hp]
  rfl

theorem all_lower : t.lower.all p = t.all p := by
  rw [lower, List.all_map, show p ∘ Char.toLower = p from funext hp]

theorem any_head?_lower : t.lower.head?.any p = t.head?.any p := by
  cases t with
  | nil => rfl
  | cons c cs => exact hp c

end

@[simp] theorem trimStart_lower (t : Text) : t.lower.trimStart = t.trimStart.lower :=
  dropWhile_lower caseBlind_isBlank t

@[simp] theorem trimEnd_lower (t : Text) : t.lower.trimEnd = t.trimEnd.lower := by
  have hreverse : t.lower.reverse = lower t.reverse := List.map_reverse.symm
  rw [trimEnd, hreverse, dropWhile_lower caseBlind_isBlank]
  exact List.map_reverse.symm

@[simp] theorem trim_lower (t : Text) : t.lower.trim = t.trim.lower := by
  rw [trim, trimStart_lower, trimEnd_lower, trim]

@[simp] theorem isBlankOnly_lower (t : Text) : t.lower.isBlankOnly = t.isBlankOnly :=
  all_lower caseBlind_isBlank t

@[simp] theorem isEmpty_lower (t : Text) : t.lower.isEmpty = t.isEmpty :=
  List.isEmpty_map

/-- The text has no letters. -/
def isLetterless (t : Text) : Bool :=
  t.all fun c => !c.isAlpha

theorem beq_lower {x : Text} (hx : x.isLetterless = true) (t : Text) :
    (t.lower == x) = (t == x) := by
  induction t generalizing x with
  | nil => rfl
  | cons c cs ih =>
    cases x with
    | nil => rfl
    | cons d ds =>
      obtain ⟨hd, hds⟩ : d.isAlpha = false ∧ isLetterless ds = true := by
        simpa [isLetterless] using hx
      rw [lower_cons, List.cons_beq_cons, List.cons_beq_cons, beq_toLower hd, ih hds]

theorem contains_lower {x : Char} (hx : x.isAlpha = false) (t : Text) :
    t.lower.contains x = t.contains x := by
  induction t with
  | nil => rfl
  | cons c cs ih =>
    rw [lower_cons, List.contains_cons, List.contains_cons, ih, Bool.beq_comm, beq_toLower hx,
      Bool.beq_comm]

theorem piecesAt_lower {sep : Char} (hsep : sep.isAlpha = false) (t : Text) :
    t.lower.piecesAt sep = (t.piecesAt sep).map lower := by
  simp only [piecesAt]
  induction t with
  | nil => rfl
  | cons c cs ih =>
    simp only [lower_cons, piecesBetween, beq_toLower hsep, ih]
    split
    · rfl
    · cases piecesBetween sep cs <;> rfl

theorem withoutReturn_lower (line : Text) :
    line.lower.withoutReturn = line.withoutReturn.lower := by
  have hlast : (line.lower.getLast? == some '\r') = (line.getLast? == some '\r') := by
    rw [lower, List.getLast?_map]
    cases line.getLast? with
    | none => rfl
    | some c => exact beq_toLower (c := c) (x := '\r') rfl
  rw [withoutReturn, withoutReturn, hlast]
  split
  · exact List.map_dropLast.symm
  · rfl

/-- The lines of the small text are the small lines. -/
theorem sourceLines_lower (t : Text) : t.lower.sourceLines = t.sourceLines.map lower := by
  rw [sourceLines, sourceLines, piecesAt_lower rfl, List.map_map, List.map_map]
  exact List.map_congr_left fun line _ => withoutReturn_lower line

theorem afterColons?_of_ne {c d : Char} (h : ¬ (c = ':' ∧ d = ':')) (t : Text) :
    afterColons? (c :: d :: t) = afterColons? (d :: t) := by
  rw [afterColons?]
  · cases afterColons? (d :: t) <;> rfl
  · intro rest hc hd
    exact h ⟨hc, (List.cons.inj hd).1⟩

theorem afterColons?_colons (t : Text) :
    afterColons? (':' :: ':' :: t) = some ((afterColons? (':' :: t)).getD t) := by
  rw [afterColons?]
  cases afterColons? (':' :: t) <;> rfl

theorem afterColons?_lower (t : Text) : t.lower.afterColons? = t.afterColons?.map lower := by
  induction t with
  | nil => rfl
  | cons c cs ih =>
    -- Two colons may overlap with the next two, so two characters have to be seen at a time.
    cases cs with
    | nil => simp [afterColons?]
    | cons d ds =>
      by_cases hcolons : c = ':' ∧ d = ':'
      · obtain ⟨rfl, rfl⟩ := hcolons
        have ih : afterColons? (':' :: lower ds) = (afterColons? (':' :: ds)).map lower := ih
        change afterColons? (':' :: ':' :: lower ds) = _
        rw [afterColons?_colons, afterColons?_colons, ih]
        cases afterColons? (':' :: ds) <;> rfl
      · have hlower : ¬ (c.toLower = ':' ∧ d.toLower = ':') := by
          rwa [toLower_eq_iff rfl, toLower_eq_iff rfl]
        rw [lower_cons, lower_cons, afterColons?_of_ne hlower, afterColons?_of_ne hcolons]
        exact ih

end Text

end RoutineAtlas
