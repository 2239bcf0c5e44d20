import RoutineAtlas.Proofs.Record
import RoutineAtlas.Proofs.Tiling

/-!
# Well-nested programs

A program is written one statement per line. Each of its routines is a header, a body and a lone
`end`, and a body is built from simple statements and from blocks, which nest to any depth. The word
that ends a routine may also close a block, so only the depth of open blocks tells the two apart.

Reading such a program gives back its routines. What carries the proof is that a body leaves the
depth as it was, and that inside of a block the depth is never zero.

## Main definitions

* `OnePerLine` — the lines hold the statements, each line at most one.
* `IsBody` — the grammar of bodies.
* `RoutineText` — a routine as it is written.
* `Record.recovers_program` — reading a program gives its routines.
-/

namespace RoutineAtlas

/-! ## One statement per line -/

/-- Some tokens without the comments among them. -/
def withoutComments (ts : List Token) : List Token :=
  ts.filter fun t => !t.kind.isComment

/-- The statement on line number `n`. -/
def lineStatement (n : Nat) (line : Text) : Statement :=
  withoutComments (lineTokens n line)

/-- The statements on lines that are numbered from `first` on; a line may hold none. -/
def statementsFrom (first : Nat) : List Text → List Statement
  | [] => []
  | line :: rest =>
    Statement.collected (lineStatement first line) ++ statementsFrom (first + 1) rest

/-- The token neither separates two statements nor joins two lines. -/
def Token.IsPlain (t : Token) : Prop :=
  t.kind ≠ .ampersand ∧ t.kind ≠ .continuation

/-- The lines hold the given statements, each line at most one, and none goes on to the next
line. -/
structure OnePerLine (lines : List Text) (statements : List Statement) : Prop where
  plain : ∀ t ∈ tokensFrom 0 lines, t.IsPlain
  holds : statementsFrom 0 lines = statements

namespace Statement

variable {current : Statement} {last : Option Nat} {n : Nat} {ts : List Token}

theorem splitFrom_comment {t : Token} (h : t.kind.isComment = true) (rest : List Token) :
    splitFrom current false last (t :: rest) = splitFrom current false last rest := by
  rw [splitFrom, if_pos h]

/-- A plain token on another line than the last one begins a statement. -/
theorem splitFrom_plain {t : Token} (hcode : t.kind.isComment = false) (hplain : t.IsPlain)
    (rest : List Token) :
    splitFrom current false last (t :: rest) =
      if last.any (· != t.start.line) then
        collected current ++ splitFrom [t] false (some t.start.line) rest
      else splitFrom (current ++ [t]) false (some t.start.line) rest := by
  have hampersand : (t.kind == .ampersand) = false := beq_false_of_ne hplain.1
  have hcontinuation : (t.kind == .continuation) = false := beq_false_of_ne hplain.2
  rw [splitFrom]
  cases last.any (· != t.start.line) <;> simp [hcode, hampersand, hcontinuation]

/-- The rest of a line goes to the statement at hand. -/
theorem splitFrom_sameLine (hline : ∀ t ∈ ts, t.start.line = n) (hplain : ∀ t ∈ ts, t.IsPlain)
    (rest : List Token) :
    splitFrom current false (some n) (ts ++ rest) =
      splitFrom (current ++ withoutComments ts) false (some n) rest := by
  induction ts generalizing current with
  | nil => simp [withoutComments]
  | cons t ts ih =>
    obtain ⟨rfl, hline⟩ := List.forall_mem_cons.1 hline
    obtain ⟨ht, hplain⟩ := List.forall_mem_cons.1 hplain
    rw [List.cons_append]
    cases hcode : t.kind.isComment with
    | true =>
      rw [splitFrom_comment hcode, ih hline hplain]
      simp [withoutComments, hcode]
    | false =>
      rw [splitFrom_plain hcode ht, if_neg (by simp), ih hline hplain]
      simp [withoutComments, hcode]

theorem splitFrom_comments (h : withoutComments ts = []) (rest : List Token) :
    splitFrom current false last (ts ++ rest) = splitFrom current false last rest := by
  induction ts with
  | nil => rfl
  | cons t ts ih =>
    cases hcode : t.kind.isComment with
    | true =>
      rw [List.cons_append, splitFrom_comment hcode]
      exact ih (by simpa [withoutComments, hcode] using h)
    | false => simp [withoutComments, hcode] at h

/-- A new line with code on it ends the statement before. -/
theorem splitFrom_newLine (hlast : ∀ m ∈ last, m ≠ n) (hfirst : last = none → current = [])
    (hline : ∀ t ∈ ts, t.start.line = n) (hplain : ∀ t ∈ ts, t.IsPlain)
    (hcode : withoutComments ts ≠ []) (rest : List Token) :
    splitFrom current false last (ts ++ rest) =
      collected current ++ splitFrom (withoutComments ts) false (some n) rest := by
  induction ts with
  | nil => exact absurd rfl hcode
  | cons t ts ih =>
    obtain ⟨rfl, hline⟩ := List.forall_mem_cons.1 hline
    obtain ⟨ht, hplain⟩ := List.forall_mem_cons.1 hplain
    rw [List.cons_append]
    cases hkind : t.kind.isComment with
    | true =>
      have hsame : withoutComments (t :: ts) = withoutComments ts := by
        simp [withoutComments, hkind]
      rw [hsame] at hcode ⊢
      rw [splitFrom_comment hkind, ih hline hplain hcode]
    | false =>
      have hhead : withoutComments (t :: ts) = [t] ++ withoutComments ts := by
        simp [withoutComments, hkind]
      rw [splitFrom_plain hkind ht, hhead]
      cases last with
      | none =>
        obtain rfl := hfirst rfl
        rw [if_neg (by simp), splitFrom_sameLine hline hplain]
        rfl
      | some m =>
        have hm : m ≠ t.start.line := hlast m rfl
        rw [if_pos (by simpa using hm), splitFrom_sameLine hline hplain]

theorem splitFrom_tokensFrom (lines : List Text) (first : Nat) (hlast : ∀ m ∈ last, m < first)
    (hfirst : last = none → current = []) (hplain : ∀ t ∈ tokensFrom first lines, t.IsPlain) :
    splitFrom current false last (tokensFrom first lines) =
      collected current ++ statementsFrom first lines := by
  induction lines generalizing first current last with
  | nil => simp [splitFrom, statementsFrom]
  | cons line lines ih =>
    rw [tokensFrom_cons] at hplain ⊢
    obtain ⟨hhere, hrest⟩ := List.forall_mem_append.1 hplain
    rw [statementsFrom]
    by_cases hcode : lineStatement first line = []
    · have hlater : ∀ m ∈ last, m < first + 1 := fun m hm => Nat.lt_succ_of_lt (hlast m hm)
      rw [splitFrom_comments hcode, ih (first + 1) hlater hfirst hrest, hcode]
      rfl
    · have hline : ∀ t ∈ lineTokens first line, t.start.line = first :=
        fun t ht => (standsIn_of_mem_lineTokens ht).line
      have hearlier : ∀ m ∈ last, m ≠ first := fun m hm => Nat.ne_of_lt (hlast m hm)
      rw [splitFrom_newLine hearlier hfirst hline hhere hcode,
        ih (first + 1) (by simp) (by simp) hrest]
      rfl

end Statement

theorem OnePerLine.split_eq {lines : List Text} {statements : List Statement}
    (h : OnePerLine lines statements) :
    Statement.split (TokenStream.ofLines lines).tokens = statements := by
  rw [tokens_ofLines, Statement.split,
    Statement.splitFrom_tokensFrom lines 0 (by simp) (fun _ => rfl) h.plain, h.holds]
  rfl

/-! ## Headers -/

/-- The name in a header. -/
inductive NameText where
  | plain (name : Token) (isWord : name.isWord = true)
  | method (owner colons name : Token) (owner_isWord : owner.isWord = true)
    (isDoubleColon : colons.kind = .doubleColon) (name_isWord : name.isWord = true)

namespace NameText

def tokens : NameText → List Token
  | plain name _ => [name]
  | method owner colons name _ _ _ => [owner, colons, name]

def text : NameText → Text
  | plain name _ => name.text
  | method owner _ name _ _ _ => owner.text ++ ':' :: ':' :: name.text

/-- The stretch from the first to the last character of the name. -/
def span : NameText → Span
  | plain name _ => name.start
  | method owner _ name _ _ _ =>
    { owner.start with length := name.stop.endColumn - owner.start.column }

def isMethod : NameText → Bool
  | plain _ _ => false
  | method _ _ _ _ _ _ => true

end NameText

/-- A parameter in a header, after its comma. -/
inductive ParameterText where
  | argument (comma name : Token) (isComma : comma.kind = .comma) (isWord : name.isWord = true)
  | keyword (comma name sign target : Token) (isComma : comma.kind = .comma)
    (isWord : name.isWord = true) (isSign : sign.isOperator "=" = true)
    (isIdentifier : target.kind = .identifier)

namespace ParameterText

def tokens : ParameterText → List Token
  | argument comma name _ _ => [comma, name]
  | keyword comma name sign target _ _ _ _ => [comma, name, sign, target]

def argument? : ParameterText → Option Argument
  | argument _ name _ _ => some ⟨name.text, name.start⟩
  | keyword _ _ _ _ _ _ _ _ => none

def keyword? : ParameterText → Option Keyword
  | argument _ _ _ _ => none
  | keyword _ name _ target _ _ _ _ => some ⟨name.text, target.text, name.start, target.start⟩

theorem exists_comma (p : ParameterText) :
    ∃ comma rest, p.tokens = comma :: rest ∧ comma.kind = .comma := by
  cases p with
  | argument comma name isComma => exact ⟨comma, _, rfl, isComma⟩
  | keyword comma name sign target isComma => exact ⟨comma, _, rfl, isComma⟩

end ParameterText

/-- A valid header. -/
structure HeaderText where
  word : Token
  name : NameText
  parameters : List ParameterText
  startsRoutine : word.startsRoutine = true

namespace HeaderText

/-- The parameters as they are written. -/
def parameterTokens (ps : List ParameterText) : List Token :=
  ps.flatMap ParameterText.tokens

def statement (h : HeaderText) : Statement :=
  h.word :: (h.name.tokens ++ parameterTokens h.parameters)

/-- What the header declares. -/
def signature (file : Path) (h : HeaderText) : Signature where
  name := h.name.text
  kind := .of (h.word.isReserved "function") h.name.isMethod
  args := h.parameters.filterMap ParameterText.argument?
  keywords := h.parameters.filterMap ParameterText.keyword?
  acceptsExtra := (h.parameters.filterMap ParameterText.keyword?).any fun k => isExtraKeyword k.name
  file := file
  nameSpan := h.name.span
  start := h.word.start
  stop := h.statement.stop

end HeaderText

/-- The parameters are read as they are written, and all that can be wrong with them is that one
repeats another. -/
structure ParameterList.Reads (l : ParameterList) (ps : List ParameterText) : Prop where
  args : l.args = ps.filterMap ParameterText.argument?
  keywords : l.keywords = ps.filterMap ParameterText.keyword?
  problems : ∀ p ∈ l.problems, p.code = ProblemCode.duplicateParameter.number

namespace ParameterList

open HeaderText (parameterTokens)

theorem code_of_mem_repetition {isRepeated : Bool} {target : Token} {p : Problem}
    (h : p ∈ repetition isRepeated target) : p.code = ProblemCode.duplicateParameter.number := by
  cases isRepeated with
  | false => cases h
  | true => rw [List.mem_singleton.1 h]; rfl

theorem Reads.addArgument {l : ParameterList} {ps : List ParameterText} (h : l.Reads ps)
    (comma name : Token) (isComma : comma.kind = .comma) (isWord : name.isWord = true)
    (isRepeated : Bool) :
    (ParameterList.addArgument name (repetition isRepeated name) l).Reads
      (.argument comma name isComma isWord :: ps) where
  args := congrArg _ h.args
  keywords := h.keywords
  problems := List.forall_mem_append.2 ⟨fun _ hp => code_of_mem_repetition hp, h.problems⟩

theorem Reads.addKeyword {l : ParameterList} {ps : List ParameterText} (h : l.Reads ps)
    (comma name sign target : Token) (isComma : comma.kind = .comma)
    (isWord : name.isWord = true) (isSign : sign.isOperator "=" = true)
    (isIdentifier : target.kind = .identifier) (isRepeated : Bool) :
    (ParameterList.addKeyword name target (repetition isRepeated target) l).Reads
      (.keyword comma name sign target isComma isWord isSign isIdentifier :: ps) where
  args := h.args
  keywords := congrArg _ h.keywords
  problems := List.forall_mem_append.2 ⟨fun _ hp => code_of_mem_repetition hp, h.problems⟩

theorem read_unexpected {separator : Token} (h : separator.kind ≠ .comma) (rest : List Token)
    (seen : Seen) :
    read seen (separator :: rest) = faulty (.unexpected separator.text) separator.start := by
  rw [read.eq_def]
  exact if_pos (by simpa using h)

section

variable {separator t : Token} (hcomma : separator.kind = .comma)
include hcomma

theorem read_missingParameter (hword : t.isWord = false) (rest : List Token) (seen : Seen) :
    read seen (separator :: t :: rest) = faulty .missingParameter t.start := by
  rw [read.eq_def]
  simp [hcomma, hword]

variable (hword : t.isWord = true)
include hword

theorem read_argument {rest : List Token} (hrest : rest.head?.any (·.isOperator "=") = false)
    (seen : Seen) : read seen (separator :: t :: rest) =
      addArgument t (repetition (seen.argument t.key).1 t)
        (read (seen.argument t.key).2 rest) := by
  cases rest with
  | nil => simp [read, hcomma, hword]
  | cons sign afterSign =>
    have hsign : sign.isOperator "=" = false := hrest
    rw [read.eq_def]
    simp [hcomma, hword, hsign]

theorem read_keyword {sign target : Token} (hsign : sign.isOperator "=" = true)
    (htarget : target.kind = .identifier) (rest : List Token) (seen : Seen) :
    read seen (separator :: t :: sign :: target :: rest) =
      addKeyword t target (repetition (seen.keyword t.key target.key).1 target)
        (read (seen.keyword t.key target.key).2 rest) := by
  rw [read]
  simp [hcomma, hword, hsign, htarget]

theorem read_missingVariable {sign target : Token} (hsign : sign.isOperator "=" = true)
    (htarget : target.kind ≠ .identifier) (rest : List Token) (seen : Seen) :
    read seen (separator :: t :: sign :: target :: rest) =
      faulty .missingVariable target.start := by
  rw [read.eq_def]
  simp [hcomma, hword, hsign, htarget]

end

theorem reads_parameterTokens (ps : List ParameterText) (seen : Seen) :
    (read seen (parameterTokens ps)).Reads ps := by
  induction ps generalizing seen with
  | nil => exact ⟨rfl, rfl, by simp [parameterTokens, read]⟩
  | cons p ps ih =>
    cases p with
    | argument comma name isComma isWord =>
      -- what follows an argument is the next comma, which is no `=`
      have hnext : (parameterTokens ps).head?.any (·.isOperator "=") = false := by
        cases ps with
        | nil => rfl
        | cons q ps =>
          obtain ⟨sign, rest, htokens, hkind⟩ := q.exists_comma
          simp [parameterTokens, htokens, Token.isOperator, hkind]
      change (read seen (comma :: name :: parameterTokens ps)).Reads _
      rw [read_argument isComma isWord hnext]
      exact (ih _).addArgument comma name isComma isWord _
    | keyword comma name sign target isComma isWord isSign isIdentifier =>
      change (read seen (comma :: name :: sign :: target :: parameterTokens ps)).Reads _
      rw [read_keyword isComma isWord isSign isIdentifier]
      exact (ih _).addKeyword comma name sign target isComma isWord isSign isIdentifier _

end ParameterList

/-- A valid header gives the signature it declares. -/
theorem HeaderText.read_statement (file : Path) (h : HeaderText) :
    ∃ problems, Header.read file h.word (h.name.tokens ++ parameterTokens h.parameters) =
      ⟨some (h.signature file), problems⟩ ∧
      ∀ p ∈ problems, p.code = ProblemCode.duplicateParameter.number := by
  obtain ⟨word, name, ps, starts⟩ := h
  have hreads := ParameterList.reads_parameterTokens ps .none
  refine ⟨_, ?_, hreads.problems⟩
  cases name with
  | plain name isWord =>
    have hname : HeaderName.read name (parameterTokens ps) =
        ⟨name.text, name.start, false, .read .none (parameterTokens ps)⟩ := by
      cases ps with
      | nil => rfl
      | cons p ps =>
        obtain ⟨comma, rest, htokens, hkind⟩ := p.exists_comma
        have hnext : parameterTokens (p :: ps) = comma :: (rest ++ parameterTokens ps) := by
          simp [parameterTokens, htokens]
        rw [hnext]
        simp [HeaderName.read, hkind]
    simp only [NameText.tokens, List.singleton_append, Header.read, isWord, if_true, hname,
      hreads.args, hreads.keywords]
    rfl
  | method owner colons name owner_isWord isDoubleColon name_isWord =>
    have hname : HeaderName.read owner (colons :: name :: parameterTokens ps) =
        ⟨owner.text ++ ':' :: ':' :: name.text,
          { owner.start with length := name.stop.endColumn - owner.start.column }, true,
          .read .none (parameterTokens ps)⟩ := by
      simp [HeaderName.read, isDoubleColon, name_isWord]
    simp only [NameText.tokens, List.cons_append, List.nil_append, Header.read, owner_isWord,
      if_true, hname, hreads.args, hreads.keywords]
    rfl

/-! ## Bodies -/

namespace Statement

/-- The statement has a first token, which does not begin a routine. -/
def IsInner (s : Statement) : Prop :=
  ∃ first ∈ s.head?, first.startsRoutine = false

/-- No word of the statement opens or closes a block, unless it is written as the name of a
keyword. -/
def IsSimple (s : Statement) : Prop :=
  s.IsInner ∧ ∀ p ∈ s.places, p.token.kind = .reserved →
    p.token.key ∈ blockOpeners ++ blockClosers → p.isKeywordName = true

instance (s : Statement) : Decidable s.IsInner :=
  inferInstanceAs (Decidable (∃ first ∈ s.head?, first.startsRoutine = false))

instance (s : Statement) : Decidable s.IsSimple :=
  inferInstanceAs (Decidable (_ ∧ _))

end Statement

/-- The grammar of bodies. A block may have middle statements, such as `endif else begin`, each
with a body of its own. -/
inductive IsBody : List Statement → Prop
  | nil : IsBody []
  | simple {s : Statement} {rest : List Statement} : s.IsSimple → IsBody rest → IsBody (s :: rest)
  | block {opening closing : Statement} {body rest : List Statement}
      {middles : List (Statement × List Statement)} :
      opening.IsInner → opening.blockDelta = 1 → IsBody body →
      (∀ m ∈ middles, m.1.IsInner ∧ m.1.blockDelta = 0) → (∀ m ∈ middles, IsBody m.2) →
      closing.IsInner → closing.blockDelta = -1 → IsBody rest →
      IsBody (opening :: body ++ middles.flatMap (fun m => m.1 :: m.2) ++ closing :: rest)

/-- A routine as it is written. -/
structure RoutineText where
  header : HeaderText
  body : List Statement
  ending : Token
  isBody : IsBody body
  isEnd : ending.isReserved "end" = true

def RoutineText.statements (r : RoutineText) : List Statement :=
  r.header.statement :: r.body ++ [[r.ending]]

namespace Statement

variable {s : Statement}

theorem IsSimple.blockDelta_eq (h : s.IsSimple) : s.blockDelta = 0 := by
  have hplace : ∀ p ∈ s.places, p.blockDelta = 0 := by
    intro p hp
    have hword := h.2 p hp
    rw [List.mem_append] at hword
    unfold Place.blockDelta
    split
    · rename_i hreserved
      simp only [Bool.and_eq_true, beq_iff_eq, Bool.not_eq_true'] at hreserved
      rw [if_neg, if_neg]
      · intro hcloses
        exact absurd (hword hreserved.1 (.inr (List.contains_iff_mem.1 hcloses)))
          (by simp [hreserved.2])
      · intro hopens
        exact absurd (hword hreserved.1 (.inl (List.contains_iff_mem.1 hopens)))
          (by simp [hreserved.2])
    · rfl
  unfold Statement.blockDelta
  generalize s.places = ps at hplace
  induction ps with
  | nil => rfl
  | cons p ps ih =>
    obtain ⟨hp, hps⟩ := List.forall_mem_cons.1 hplace
    rw [List.foldl_cons, hp]
    exact ih hps

/-- A lone `end` closes a block: there is nothing around it that would make it a name. -/
theorem blockDelta_of_isSingle_end (h : s.isSingle "end" = true) : s.blockDelta = -1 := by
  unfold isSingle at h
  split at h
  · rename_i t
    simp only [Token.isReserved, Bool.and_eq_true, beq_iff_eq] at h
    have hkey : t.key = Text.ofString "end" := eq_of_beq h.2
    simp only [blockDelta, places, Place.placesFrom, List.foldl_cons, List.foldl_nil,
      Place.blockDelta, Place.isKeywordName, h.1, hkey]
    decide
  · cases h

theorem not_isSingle_end (h : 0 ≤ s.blockDelta) : s.isSingle "end" = false := by
  refine Bool.eq_false_iff.2 fun hend => ?_
  rw [blockDelta_of_isSingle_end hend] at h
  exact absurd h (by decide)

end Statement

namespace Outline

variable {file : Path} {s : Statement}

/-- The outline inside of the routine `r`. -/
def opened (o : Outline) (r : OpenRoutine) : Outline :=
  { o with openRoutine := some r }

/-- Put statements into a scope. -/
def putAll (o : Outline) (scope : Nat) (ss : List Statement) : Outline :=
  ss.foldl (fun o s => o.put scope s) o

theorem putAll_cons (o : Outline) (scope : Nat) (s : Statement) (ss : List Statement) :
    o.putAll scope (s :: ss) = (o.put scope s).putAll scope ss :=
  rfl

theorem putAll_append (o : Outline) (scope : Nat) (ss ts : List Statement) :
    o.putAll scope (ss ++ ts) = (o.putAll scope ss).putAll scope ts :=
  List.foldl_append

/-- A statement that does not end the routine goes into its scope. -/
theorem add_opened (o : Outline) (r : OpenRoutine) (hs : s.IsInner)
    (hend : (s.isSingle "end" && r.depth == 0) = false) :
    add file (o.opened r) s =
      (o.put r.scope s).opened { r with depth := s.depthAfter r.depth } := by
  obtain ⟨first, hfirst, hstarts⟩ := hs
  obtain ⟨after, rfl⟩ := List.head?_eq_some_iff.1 hfirst
  simp only [add, hstarts, opened, addToRoutine, hend]
  rfl

/-- Inside of a routine the statements go into its scope and leave the depth as it was. -/
def KeepsDepth (file : Path) (ss : List Statement) : Prop :=
  ∀ (o : Outline) (r : OpenRoutine),
    ss.foldl (add file) (o.opened r) = (o.putAll r.scope ss).opened r

/-- A statement that closes as many blocks as it opens leaves the depth as it was. -/
theorem add_opened_level (o : Outline) (r : OpenRoutine) (hs : s.IsInner)
    (hlevel : s.blockDelta = 0) : add file (o.opened r) s = (o.put r.scope s).opened r := by
  have hend : s.isSingle "end" = false := Statement.not_isSingle_end (by omega)
  have hdepth : s.depthAfter r.depth = r.depth := by
    simp [Statement.depthAfter, hlevel]
  rw [add_opened o r hs (by rw [hend]; rfl), hdepth]

theorem add_opened_opening (o : Outline) (r : OpenRoutine) (hs : s.IsInner)
    (hopens : s.blockDelta = 1) :
    add file (o.opened r) s = (o.put r.scope s).opened { r with depth := r.depth + 1 } := by
  have hend : s.isSingle "end" = false := Statement.not_isSingle_end (by omega)
  have hdepth : s.depthAfter r.depth = r.depth + 1 := by
    simp only [Statement.depthAfter, hopens]
    omega
  rw [add_opened o r hs (by rw [hend]; rfl), hdepth]

/-- Within a block even a lone `end` only closes the block. -/
theorem add_opened_closing (o : Outline) (r : OpenRoutine) (hs : s.IsInner)
    (hcloses : s.blockDelta = -1) :
    add file (o.opened { r with depth := r.depth + 1 }) s = (o.put r.scope s).opened r := by
  have hdepth : s.depthAfter (r.depth + 1) = r.depth := by
    simp only [Statement.depthAfter, hcloses]
    omega
  rw [add_opened o _ hs (by simp), hdepth]

theorem keepsDepth_middles {middles : List (Statement × List Statement)}
    (hmiddle : ∀ m ∈ middles, m.1.IsInner ∧ m.1.blockDelta = 0)
    (hbody : ∀ m ∈ middles, KeepsDepth file m.2) :
    KeepsDepth file (middles.flatMap fun m => m.1 :: m.2) := by
  induction middles with
  | nil => exact fun o r => rfl
  | cons m middles ih =>
    obtain ⟨hm, hmiddle⟩ := List.forall_mem_cons.1 hmiddle
    obtain ⟨hfirst, hbody⟩ := List.forall_mem_cons.1 hbody
    intro o r
    rw [List.flatMap_cons, List.cons_append, List.foldl_cons, add_opened_level o r hm.1 hm.2,
      List.foldl_append, hfirst, ih hmiddle hbody, putAll_cons, putAll_append]

/-- Reading a body puts it into the scope and leaves the depth as it was. -/
theorem keepsDepth_of_isBody {ss : List Statement} (h : IsBody ss) : KeepsDepth file ss := by
  induction h with
  | nil => exact fun o r => rfl
  | simple hs _ ih =>
    intro o r
    rw [List.foldl_cons, add_opened_level o r hs.1 hs.blockDelta_eq, ih, putAll_cons]
  | @block opening closing body rest middles hopening hopens _ hmiddle _ hclosing hcloses _
      ihbody ihmiddles ihrest =>
    intro o r
    have hmiddles := keepsDepth_middles hmiddle ihmiddles
    -- one block deeper for the body and the middle statements, and back again at the end
    rw [List.cons_append, List.cons_append, List.foldl_cons, add_opened_opening o r hopening hopens,
      List.foldl_append, List.foldl_append, ihbody, hmiddles, List.foldl_cons,
      add_opened_closing _ r hclosing hcloses, ihrest, putAll_cons, putAll_append, putAll_append,
      putAll_cons]

end Outline

/-! ## Routines -/

/-- What a scope belongs to, and where it is. -/
def Scope.frame (s : Scope) : ScopeKind × Span × Span :=
  (s.kind, s.start, s.stop)

def ScopeDraft.frame (d : ScopeDraft) : ScopeKind × Span × Span :=
  (d.kind, d.start, d.stop)

namespace Outline

variable {file : Path}

@[simp] theorem routines_putAll (o : Outline) (scope : Nat) (ss : List Statement) :
    (o.putAll scope ss).routines = o.routines := by
  induction ss generalizing o with
  | nil => rfl
  | cons s ss ih => exact ih _

@[simp] theorem problems_putAll (o : Outline) (scope : Nat) (ss : List Statement) :
    (o.putAll scope ss).problems = o.problems := by
  induction ss generalizing o with
  | nil => rfl
  | cons s ss ih => exact ih _

/-- Statements put into the last scope change neither its kind nor its start. -/
theorem scopes_putAll {xs : List ScopeDraft} {o : Outline} {d : ScopeDraft} (ss : List Statement)
    (h : o.scopes = xs ++ [d]) :
    ∃ d', (o.putAll xs.length ss).scopes = xs ++ [d'] ∧ d'.kind = d.kind ∧ d'.start = d.start := by
  induction ss generalizing o d with
  | nil => exact ⟨d, h, rfl, rfl⟩
  | cons s ss ih =>
    have hput : (o.put xs.length s).scopes =
        xs ++ [{ d with stop := s.stop, statements := d.statements ++ [s] }] := by
      rw [put, h]
      exact modify_last xs d _
    obtain ⟨d', hscopes, hkind, hstart⟩ := ih hput
    exact ⟨d', hscopes, hkind, hstart⟩

/-- The routine that a header begins. -/
def openedBy (o : Outline) (h : HeaderText) : OpenRoutine :=
  ⟨o.routines.length, o.scopes.length, 0, h.word.start⟩

theorem add_header (file : Path) (o : Outline) (hopen : o.openRoutine = none) (h : HeaderText) :
    ∃ problems, (∀ p ∈ problems, p.code ≠ ProblemCode.missingEnd.number) ∧
      add file o h.statement =
        ({ o with
          routines := o.routines ++ [⟨h.signature file, o.scopes.length, false⟩]
          scopes := o.scopes ++ [⟨.routine o.routines.length, h.word.start, h.statement.stop,
            headerBindings (h.signature file), []⟩]
          problems := o.problems ++ problems } : Outline).opened (o.openedBy h) := by
  obtain ⟨problems, hread, hcodes⟩ := h.read_statement file
  have habandon : o.abandon = o := by rw [abandon, hopen]
  refine ⟨problems ++ o.redefinition (h.signature file), List.forall_mem_append.2 ⟨?_, ?_⟩, ?_⟩
  · intro p hp
    rw [hcodes p hp]
    decide
  · intro p hp
    unfold redefinition at hp
    split at hp
    · rw [List.mem_singleton.1 hp]
      exact (by decide : ProblemCode.duplicateRoutine.number ≠ ProblemCode.missingEnd.number)
    · cases hp
  · rw [HeaderText.statement, add, if_pos h.startsRoutine, habandon, addHeader, hread]
    simp only [begin, opened, openedBy, redefinition, List.append_assoc]
    rfl

/-- A lone `end` outside of any block ends the routine. -/
theorem add_opened_end (o : Outline) {r : OpenRoutine} {t : Token} (hdepth : r.depth = 0)
    (hend : t.isReserved "end" = true) : add file (o.opened r) [t] = o.close r [t] := by
  have hkey : t.text.lower = Text.ofString "end" := by
    simp only [Token.isReserved, Bool.and_eq_true] at hend
    exact eq_of_beq hend.2
  have hstarts : t.startsRoutine = false := by
    simp only [Token.startsRoutine, Token.isReserved, Text.sameName, hkey]
    cases t.kind == .reserved <;> decide
  have hsingle : Statement.isSingle [t] "end" = true := hend
  simp only [add, hstarts, opened, addToRoutine, hsingle, hdepth]
  rfl

/-- What reading a routine adds to an outline. -/
structure Gains (file : Path) (o o' : Outline) (r : RoutineText) : Prop where
  closed : o'.openRoutine = none
  routines : o'.routines = o.routines ++ [⟨r.header.signature file, o.scopes.length, true⟩]
  frames : o'.scopes.map ScopeDraft.frame = o.scopes.map ScopeDraft.frame ++
    [(.routine o.routines.length, r.header.word.start, r.ending.stop)]
  problems : ∃ ps, o'.problems = o.problems ++ ps ∧
    ∀ p ∈ ps, p.code ≠ ProblemCode.missingEnd.number

theorem gains_routine (file : Path) (o : Outline) (hopen : o.openRoutine = none) (r : RoutineText) :
    Gains file o (r.statements.foldl (add file) o) r := by
  obtain ⟨ps, hcodes, hheader⟩ := add_header file o hopen r.header
  rw [RoutineText.statements, List.cons_append, List.foldl_cons, hheader, List.foldl_append,
    keepsDepth_of_isBody r.isBody, List.foldl_cons, List.foldl_nil, add_opened_end _ rfl r.isEnd]
  obtain ⟨d, hscopes, hkind, hstart⟩ := scopes_putAll (o := { o with
    routines := o.routines ++ [⟨r.header.signature file, o.scopes.length, false⟩]
    scopes := o.scopes ++ [⟨.routine o.routines.length, r.header.word.start,
      r.header.statement.stop, headerBindings (r.header.signature file), []⟩]
    problems := o.problems ++ ps }) r.body rfl
  refine ⟨rfl, ?_, ?_, ps, ?_, hcodes⟩
  · rw [close, routines_putAll]
    exact modify_last o.routines _ _
  · simp only [close, openedBy]
    rw [hscopes, modify_last, List.map_append]
    simp only [List.map_cons, List.map_nil, ScopeDraft.frame, hkind, hstart]
    rfl
  · exact problems_putAll _ _ _

/-! ## Programs -/

/-- The outline holds the routines of the program, and each has its end. -/
structure Recovers (file : Path) (program : List RoutineText) (o : Outline) : Prop where
  closed : o.openRoutine = none
  routines : o.routines = program.mapIdx fun i r => ⟨r.header.signature file, i, true⟩
  frames : o.scopes.map ScopeDraft.frame =
    program.mapIdx fun i r => (.routine i, r.header.word.start, r.ending.stop)
  ended : ∀ p ∈ o.problems, p.code ≠ ProblemCode.missingEnd.number

variable {o : Outline} {program : List RoutineText}

theorem Recovers.add_routine (h : o.Recovers file program) (r : RoutineText) :
    (r.statements.foldl (add file) o).Recovers file (program ++ [r]) := by
  have hgains := gains_routine file o h.closed r
  have hroutines : o.routines.length = program.length := by rw [h.routines, List.length_mapIdx]
  have hscopes : o.scopes.length = program.length := by
    rw [← List.length_map (f := ScopeDraft.frame), h.frames, List.length_mapIdx]
  obtain ⟨ps, hproblems, hcodes⟩ := hgains.problems
  refine ⟨hgains.closed, ?_, ?_, ?_⟩
  · rw [hgains.routines, List.mapIdx_concat, h.routines, hscopes]
  · rw [hgains.frames, List.mapIdx_concat, h.frames, hroutines]
  · rw [hproblems]
    exact List.forall_mem_append.2 ⟨h.ended, hcodes⟩

theorem Recovers.add_routines (h : o.Recovers file program) (rest : List RoutineText) :
    ((rest.flatMap RoutineText.statements).foldl (add file) o).Recovers file (program ++ rest) := by
  induction rest generalizing o program with
  | nil => simpa using h
  | cons r rest ih =>
    have hnext := ih (h.add_routine r)
    rwa [List.append_assoc, ← List.foldl_append] at hnext

theorem recovers_ofStatements (file : Path) (program : List RoutineText) :
    (ofStatements file (program.flatMap RoutineText.statements)).Recovers file program := by
  have hempty : empty.Recovers file [] := ⟨rfl, rfl, rfl, by simp [empty]⟩
  have hread := hempty.add_routines program
  rw [List.nil_append] at hread
  rwa [ofStatements, abandon, hread.closed]

theorem map_frame_record (o : Outline) :
    o.record.scopes.map Scope.frame = o.scopes.map ScopeDraft.frame := by
  refine List.ext_getElem? fun i => ?_
  simp only [record, List.getElem?_map, List.getElem?_mapIdx, Option.map_map]
  rfl

end Outline

/-- Reading a well-nested program gives its routines in order, each with its end and with a scope
that goes from the header to that end; nothing is left for the main level. -/
theorem Record.recovers_program (file : Path) (program : List RoutineText) (lines : List Text)
    (h : OnePerLine lines (program.flatMap RoutineText.statements)) :
    let (record, problems) := Record.ofTokens file (TokenStream.ofLines lines).tokens
    record.routines = program.mapIdx (fun i r => ⟨r.header.signature file, i, true⟩) ∧
      record.scopes.map Scope.frame =
        program.mapIdx (fun i r => (.routine i, r.header.word.start, r.ending.stop)) ∧
      (∀ s ∈ record.scopes, s.kind ≠ .main) ∧
      ∀ p ∈ problems, p.code ≠ ProblemCode.missingEnd.number := by
  have hread := Outline.recovers_ofStatements file program
  rw [← h.split_eq] at hread
  have hframes := (Outline.map_frame_record _).trans hread.frames
  refine ⟨hread.routines, hframes, ?_, hread.ended⟩
  intro s hs hmain
  have hmem := List.mem_map_of_mem (f := Scope.frame) hs
  rw [hframes, List.mem_mapIdx] at hmem
  obtain ⟨i, hi, heq⟩ := hmem
  have hkind : s.kind = .routine i := congrArg Prod.fst heq.symm
  rw [hmain] at hkind
  cases hkind

/-- A lone `end` closes a loop that holds a block of two bodies, a `case`, a `switch` with a block
in one of its branches, and a keyword that is called `end`. -/
theorem Record.recovers_program_lone_end :
    let lines := ["pro p, n", "for i=0, n do begin ; all", "f, /end", "", "if i then begin",
      "endif else begin", "endelse", "case i of", "0: f", "endcase", "switch i of", "1: begin",
      "end", "endswitch", "end", "end", "function q::r, K=k", "end"].map Text.ofString
    let (record, problems) := Record.ofTokens (.ofText ['a']) (TokenStream.ofLines lines).tokens
    ∃ program : List RoutineText,
      OnePerLine lines (program.flatMap RoutineText.statements) ∧ program.length = 2 ∧
      record.routines = program.mapIdx (fun i r => ⟨r.header.signature (.ofText ['a']), i, true⟩) ∧
      record.scopes.map Scope.frame =
        program.mapIdx (fun i r => (.routine i, r.header.word.start, r.ending.stop)) ∧
      (∀ s ∈ record.scopes, s.kind ≠ .main) ∧
      ∀ p ∈ problems, p.code ≠ ProblemCode.missingEnd.number := by
  intro lines
  let token (kind : TokenKind) (text : String) (line column : Nat) : Token :=
    .single kind (.ofString text) ⟨line, column, text.length⟩
  let statement (n : Nat) : Statement := lineStatement n (lines.getD n [])
  let statements (first last : Nat) : List Statement :=
    (List.range' first (last + 1 - first)).map statement
  have hbranch : IsBody (statements 11 12) :=
    @IsBody.block (statement 11) (statement 12) [] [] [] (by decide +kernel) (by decide +kernel)
      .nil (by simp) (by simp) (by decide +kernel) (by decide +kernel) .nil
  have hswitch : IsBody (statements 10 13) :=
    @IsBody.block (statement 10) (statement 13) (statements 11 12) [] [] (by decide +kernel)
      (by decide +kernel) hbranch (by simp) (by simp) (by decide +kernel) (by decide +kernel) .nil
  have hcase : IsBody (statements 7 13) :=
    @IsBody.block (statement 7) (statement 9) [statement 8] (statements 10 13) []
      (by decide +kernel) (by decide +kernel) (.simple (by decide +kernel) .nil) (by simp)
      (by simp) (by decide +kernel) (by decide +kernel) hswitch
  have hif : IsBody (statements 4 13) :=
    @IsBody.block (statement 4) (statement 6) [] (statements 7 13) [(statement 5, [])]
      (by decide +kernel) (by decide +kernel) .nil (by decide +kernel) (by simpa using .nil)
      (by decide +kernel) (by decide +kernel) hcase
  have hbody : IsBody (statement 1 :: statement 2 :: statements 4 14) :=
    @IsBody.block (statement 1) (statement 14) (statement 2 :: statements 4 13) [] []
      (by decide +kernel) (by decide +kernel) (.simple (by decide +kernel) hif) (by simp) (by simp)
      (by decide +kernel) (by decide +kernel) .nil
  let header : HeaderText :=
    { word := token .reserved "pro" 0 0
      name := .plain (token .identifier "p" 0 4) rfl
      parameters := [.argument (token .comma "," 0 5) (token .identifier "n" 0 7) rfl rfl]
      startsRoutine := by decide +kernel }
  let methodHeader : HeaderText :=
    { word := token .reserved "function" 16 0
      name := .method (token .identifier "q" 16 9) (token .doubleColon "::" 16 10)
        (token .identifier "r" 16 12) rfl rfl rfl
      parameters := [.keyword (token .comma "," 16 13) (token .identifier "K" 16 15)
        (token .operator "=" 16 16) (token .identifier "k" 16 17) rfl rfl (by decide +kernel) rfl]
      startsRoutine := by decide +kernel }
  let program : List RoutineText :=
    [⟨header, _, token .reserved "end" 15 0, hbody, by decide +kernel⟩,
      ⟨methodHeader, [], token .reserved "end" 17 0, .nil, by decide +kernel⟩]
  have hlines : OnePerLine lines (program.flatMap RoutineText.statements) := by
    refine ⟨by unfold Token.IsPlain; decide +kernel, ?_⟩
    change statementsFrom 0 lines =
      header.statement :: statement 1 :: statement 2 :: statements 4 14 ++
        [[token .reserved "end" 15 0], methodHeader.statement, [token .reserved "end" 17 0]]
    decide +kernel
  exact ⟨program, hlines, rfl, recovers_program (.ofText ['a']) program lines hlines⟩

end RoutineAtlas
