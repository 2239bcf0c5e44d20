import RoutineAtlas.Proofs.LetterCase.Text
import RoutineAtlas.Statement.Role

/-!
# Statements written down again

What an identifier is there for is told by the kinds of the tokens around it, by operators, which
have no letters, and by the small forms of reserved words. Neither the case of letters nor the place
where a token stands has a say. So statements may be written down again with other letters and at
other places, and their places, roles and calls are those of the statements, written down again.

A `Transcription` is such a way of writing, with the few laws that the readers rely on. Two of them
are of use: all letters small, and all places forgotten.

## Main definitions

* `Transcription` — a way to write texts and spans, and what reports say about them.
* `Transcription.token`, `Transcription.place`, `Transcription.callSite` — what is written with
  tokens, written down again.
* `Transcription.role_place`, `Transcription.call_place` — the role and the call at a place that is
  written down again.
-/

namespace RoutineAtlas

/-- A way to write texts and spans down again. Names are the same up to case, operators are the
same, and what is made of two texts or spans can be made before or after. -/
structure Transcription where
  text : Text → Text
  span : Span → Span
  /-- What two reports that quote a text and its transcript have in common. -/
  info : String → String
  lower_text : ∀ t, (text t).lower = t.lower
  text_colons : ∀ s t, text (s ++ ':' :: ':' :: t) = text s ++ ':' :: ':' :: text t
  beq_text : ∀ {x : Text}, x.isLetterless = true → ∀ t, (text t == x) = (t == x)
  span_span : ∀ s, span (span s) = span s
  span_zero : span ⟨0, 0, 0⟩ = ⟨0, 0, 0⟩
  span_through : ∀ s u : Span, span { s with length := u.endColumn - s.column } =
    { span s with length := (span u).endColumn - (span s).column }
  info_quoted : ∀ (before after : String) (t : Text),
    info (before ++ String.ofList (text t) ++ after) = info (before ++ String.ofList t ++ after)

namespace Transcription

variable (f : Transcription)

theorem text_nil : f.text [] = [] := by
  have hlower := f.lower_text []
  rwa [Text.lower_nil, Text.lower, List.map_eq_nil_iff] at hlower

theorem contains_text {xs : List Text} (hxs : xs.all Text.isLetterless = true) (t : Text) :
    xs.contains (f.text t) = xs.contains t := by
  induction xs with
  | nil => rfl
  | cons x xs ih =>
    rw [List.all_cons, Bool.and_eq_true] at hxs
    rw [List.contains_cons, List.contains_cons, f.beq_text hxs.1, ih hxs.2]

/-! ## Tokens -/

/-- The token, written down again. -/
def token (t : Token) : Token :=
  ⟨t.kind, f.text t.text, f.span t.start, f.span t.stop⟩

section

variable (t : Token)

@[simp] theorem kind_token : (f.token t).kind = t.kind :=
  rfl

@[simp] theorem start_token : (f.token t).start = f.span t.start :=
  rfl

@[simp] theorem stop_token : (f.token t).stop = f.span t.stop :=
  rfl

@[simp] theorem key_token : (f.token t).key = t.key :=
  f.lower_text t.text

@[simp] theorem isWord_token : (f.token t).isWord = t.isWord :=
  rfl

@[simp] theorem isReserved_token (word : String) :
    (f.token t).isReserved word = t.isReserved word := by
  simp only [Token.isReserved, Text.sameName, token, f.lower_text]

@[simp] theorem startsRoutine_token : (f.token t).startsRoutine = t.startsRoutine := by
  rw [Token.startsRoutine, isReserved_token, isReserved_token, Token.startsRoutine]

/-- Operators are written without letters. -/
theorem isOperator_token {op : String} (hop : (Text.ofString op).isLetterless = true) :
    (f.token t).isOperator op = t.isOperator op := by
  simp only [Token.isOperator, token, f.beq_text hop]

end

theorem stop_statement (s : Statement) : Statement.stop (s.map f.token) = f.span s.stop := by
  rw [Statement.stop, Statement.stop, List.getLast?_map, Option.map_map]
  cases s.getLast? with
  | none => exact f.span_zero.symm
  | some t => rfl

theorem isSingle_statement (s : Statement) (word : String) :
    Statement.isSingle (s.map f.token) word = s.isSingle word := by
  match s with
  | [] => rfl
  | [t] => exact f.isReserved_token t word
  | _ :: _ :: _ => rfl

/-! ## Places -/

/-- The place, written down again. -/
def place (p : Place) : Place :=
  ⟨p.before.map f.token, f.token p.token, p.after.map f.token⟩

section

variable (p : Place)

theorem prevIs_place {g : Token → Bool} (hg : ∀ t, g (f.token t) = g t) :
    (f.place p).prevIs g = p.prevIs g := by
  simp only [Place.prevIs, Place.prev?, place, List.head?_map, Option.any_map, hg]

theorem nextIs_place {g : Token → Bool} (hg : ∀ t, g (f.token t) = g t) :
    (f.place p).nextIs g = p.nextIs g := by
  simp only [Place.nextIs, Place.next?, place, List.head?_map, Option.any_map, hg]

theorem nextIs_equals_place :
    (f.place p).nextIs (·.isOperator "=") = p.nextIs (·.isOperator "=") :=
  f.nextIs_place p fun t => f.isOperator_token t (by decide)

theorem isKeywordName_place : (f.place p).isKeywordName = p.isKeywordName := by
  obtain ⟨before, token, after⟩ := p
  cases before with
  | nil => rfl
  | cons prev earlier =>
    have hnext := f.nextIs_equals_place ⟨prev :: earlier, token, after⟩
    have hearlier :
        (earlier.map f.token).head?.any Place.separates = earlier.head?.any Place.separates := by
      cases earlier <;> rfl
    simp only [Place.isKeywordName, hnext]
    simp (disch := decide) only [place, List.map_cons, isOperator_token, hearlier]
    rfl

theorem startsStatement_place : (f.place p).startsStatement = p.startsStatement := by
  obtain ⟨before, token, after⟩ := p
  cases before with
  | nil => rfl
  | cons prev earlier =>
    simp only [Place.startsStatement, place, List.map_cons, kind_token, key_token,
      List.length_cons, List.length_map]

theorem blockDelta_place : (f.place p).blockDelta = p.blockDelta := by
  have hkind : (f.place p).token.kind = p.token.kind := rfl
  have hkey : (f.place p).token.key = p.token.key := f.key_token p.token
  rw [Place.blockDelta, hkind, isKeywordName_place, hkey, Place.blockDelta]

theorem placesFrom_map (before ts : List Token) :
    Place.placesFrom (before.map f.token) (ts.map f.token) =
      (Place.placesFrom before ts).map f.place := by
  induction ts generalizing before with
  | nil => rfl
  | cons t ts ih =>
    have ih := ih (t :: before)
    rw [List.map_cons] at ih
    rw [List.map_cons, Place.placesFrom, ih, Place.placesFrom, List.map_cons]
    rfl

end

theorem blockDelta_statement (s : Statement) :
    Statement.blockDelta (s.map f.token) = s.blockDelta := by
  have hplaces : Statement.places (s.map f.token) = s.places.map f.place := f.placesFrom_map [] s
  rw [Statement.blockDelta, hplaces, List.foldl_map, Statement.blockDelta]
  simp only [blockDelta_place]

theorem depthAfter_statement (s : Statement) (depth : Nat) :
    Statement.depthAfter (s.map f.token) depth = s.depthAfter depth := by
  rw [Statement.depthAfter, blockDelta_statement, Statement.depthAfter]

/-! ## Calls -/

/-- The passed keyword, written down again. -/
def passedKeyword (k : PassedKeyword) : PassedKeyword :=
  ⟨f.text k.name, f.span k.span⟩

/-- The call, written down again. -/
def callSite (c : CallSite) : CallSite :=
  { c with
    name := f.text c.name
    span := f.span c.span
    keywords := c.keywords.map f.passedKeyword
    stop := f.span c.stop }

/-- What is passed, written down again. -/
def passedItems (items : PassedItems) : PassedItems :=
  ⟨items.keywords.map f.passedKeyword, items.positional, f.span items.stop⟩

theorem keyword?_map (item : List Token) :
    PassedItems.keyword? (item.map f.token) = (PassedItems.keyword? item).map f.passedKeyword := by
  match item with
  | [] => rfl
  | [_] => rfl
  | first :: second :: _ =>
    simp (disch := decide) only [PassedItems.keyword?, List.map_cons, isWord_token,
      isOperator_token]
    split
    · rfl
    · split <;> rfl

theorem add_map (item : List Token) (isEmpty : Bool) (rest : PassedItems) :
    PassedItems.add (item.map f.token) isEmpty (f.passedItems rest) =
      f.passedItems (PassedItems.add item isEmpty rest) := by
  cases isEmpty with
  | true => rfl
  | false =>
    simp only [PassedItems.add, Bool.false_eq_true, if_false, keyword?_map]
    cases PassedItems.keyword? item <;> rfl

theorem endsItem_token (parens : Bool) (t : Token) :
    PassedItems.endsItem parens (f.token t) = PassedItems.endsItem parens t := by
  rw [PassedItems.endsItem, kind_token, isReserved_token, PassedItems.endsItem]

theorem readFrom_map (parens : Bool) (item : List Token) (isEmpty : Bool) (depth : Int)
    (stop : Span) (ts : List Token) :
    PassedItems.readFrom parens (item.map f.token) isEmpty depth (f.span stop) (ts.map f.token) =
      f.passedItems (PassedItems.readFrom parens item isEmpty depth stop ts) := by
  induction ts generalizing item isEmpty depth stop with
  | nil => exact f.add_map item isEmpty ⟨[], 0, stop⟩
  | cons t ts ih =>
    rw [List.map_cons, PassedItems.readFrom, PassedItems.readFrom, endsItem_token, kind_token,
      stop_token]
    split
    · split
      · rw [ih ts true 0 t.stop, add_map]
      · have hitems : (⟨[], 0, if parens then f.span t.stop else f.span stop⟩ : PassedItems) =
            f.passedItems ⟨[], 0, if parens then t.stop else stop⟩ := by
          cases parens <;> rfl
        rw [hitems, add_map]
    · exact ih item false (depth + PassedItems.depthDelta t) t.stop

theorem read_map (isFunction : Bool) (last : Token) (after : List Token) :
    PassedItems.read isFunction (f.token last) (after.map f.token) =
      f.passedItems (PassedItems.read isFunction last after) := by
  cases after with
  | nil => rfl
  | cons t ts =>
    rw [List.map_cons, PassedItems.read, PassedItems.read, kind_token, stop_token, stop_token,
      readFrom_map]
    by_cases hkind : (t.kind == if isFunction then .leftParen else .comma) = true
    · rw [if_pos hkind, if_pos hkind]
    · rw [if_neg hkind, if_neg hkind]
      rfl

/-- The method name, written down again. -/
def methodName (m : MethodName) : MethodName :=
  ⟨f.text m.text, f.token m.last, m.after.map f.token⟩

theorem extend_map (text : Text) (last : Token) (ts : List Token) :
    MethodName.extend (f.text text) (f.token last) (ts.map f.token) =
      f.methodName (MethodName.extend text last ts) := by
  fun_induction MethodName.extend text last ts with
  | case1 => rfl
  | case2 => rfl
  | case3 text last t w rest hmore ih =>
    rw [List.map_cons, List.map_cons, MethodName.extend, kind_token, isWord_token, if_pos hmore,
      ← ih, f.text_colons]
    rfl
  | case4 text last t w rest hmore =>
    rw [List.map_cons, List.map_cons, MethodName.extend, kind_token, isWord_token, if_neg hmore]
    rfl

section

variable (p : Place)

theorem methodName_place : (f.place p).methodName = f.methodName p.methodName :=
  f.extend_map p.token.text p.token p.after

theorem methodHasParens_place : (f.place p).methodHasParens = p.methodHasParens := by
  rw [Place.methodHasParens, methodName_place, methodName, List.head?_map, Option.any_map]
  rfl

/-- The call at a place that is written down again. -/
theorem call_place (kind : RoutineKind) (scope : Nat) :
    (f.place p).call kind scope = f.callSite (p.call kind scope) := by
  unfold Place.call
  by_cases hmethod : kind.isMethod = true
  · simp only [hmethod, if_true, methodName_place]
    simp only [methodName, read_map]
    rfl
  · simp only [hmethod, Bool.false_eq_true, if_false]
    simp only [place, read_map]
    rfl

/-! ## Roles -/

theorem nextIs_reserved_place (word : String) :
    (f.place p).nextIs (·.isReserved word) = p.nextIs (·.isReserved word) :=
  f.nextIs_place p fun t => f.isReserved_token t word

theorem prevIs_reserved_place (word : String) :
    (f.place p).prevIs (·.isReserved word) = p.prevIs (·.isReserved word) :=
  f.prevIs_place p fun t => f.isReserved_token t word

theorem nextIs_kind_place (g : TokenKind → Bool) :
    (f.place p).nextIs (fun t => g t.kind) = p.nextIs fun t => g t.kind :=
  f.nextIs_place p fun _ => rfl

theorem prevIs_kind_place (g : TokenKind → Bool) :
    (f.place p).prevIs (fun t => g t.kind) = p.prevIs fun t => g t.kind :=
  f.prevIs_place p fun _ => rfl

theorem isEmpty_after_place : (f.place p).after.isEmpty = p.after.isEmpty :=
  List.isEmpty_map

theorem isForeachKey_place : (f.place p).isForeachKey = p.isForeachKey := by
  have hfirst : (f.place p).before.getLast?.getD (f.place p).token =
      f.token (p.before.getLast?.getD p.token) := by
    rw [place, List.getLast?_map, Option.getD_map]
  have hcommas : ((f.place p).before.filter fun t => t.kind == .comma).length =
      (p.before.filter fun t => t.kind == .comma).length := by
    rw [place, List.filter_map, List.length_map]
    rfl
  rw [Place.isForeachKey, hfirst, hcommas, isReserved_token, nextIs_reserved_place,
    f.prevIs_kind_place p (· == .comma), Place.isForeachKey]

theorem isAside_place (enclosing : Option TokenKind) :
    (f.place p).isAside enclosing = p.isAside enclosing := by
  rw [Place.isAside, Place.isAside, f.nextIs_kind_place p (· == .doubleColon),
    prevIs_reserved_place, isKeywordName_place, startsStatement_place,
    f.nextIs_kind_place p (· == .colon), f.prevIs_kind_place p (· == .leftBrace),
    isEmpty_after_place, f.nextIs_kind_place p fun k => k == .comma || k == .rightBrace]

theorem plainRole_place (known : List Text) :
    (f.place p).plainRole known = p.plainRole known := by
  have hupdate : (f.place p).nextIs (fun t => updateOperators.contains t.text) =
      p.nextIs fun t => updateOperators.contains t.text :=
    f.nextIs_place p fun t => f.contains_text (by decide) t.text
  have hkey : (f.place p).token.key = p.token.key := f.key_token p.token
  simp only [Place.plainRole, startsStatement_place, nextIs_equals_place, prevIs_reserved_place,
    isForeachKey_place, hupdate, isEmpty_after_place, f.nextIs_kind_place p (· == .comma),
    nextIs_reserved_place, f.nextIs_kind_place p (· == .leftParen), hkey]

/-- An identifier has the same role however it is written. -/
theorem role_place (enclosing : Option TokenKind) (known : List Text) :
    (f.place p).role enclosing known = p.role enclosing known := by
  have hmember : (f.place p).prevIs (fun t => t.isOperator "." || t.kind == .doubleColon) =
      p.prevIs fun t => t.isOperator "." || t.kind == .doubleColon :=
    f.prevIs_place p fun t => by rw [f.isOperator_token t (by decide), kind_token]
  rw [Place.role, Place.role, hmember, f.prevIs_kind_place p (· == .arrow), methodHasParens_place,
    isAside_place, plainRole_place]

theorem hasRole_place : (f.place p).hasRole = p.hasRole := by
  rw [Place.hasRole, f.prevIs_place p fun _ => rfl]
  rfl

end

theorem rolesFrom_map (known : List Text) (before : List Token) (brackets : List TokenKind)
    (ts : List Token) :
    Place.rolesFrom known (before.map f.token) brackets (ts.map f.token) =
      (Place.rolesFrom known before brackets ts).map (Prod.map f.place id) := by
  induction ts generalizing before brackets with
  | nil => rfl
  | cons t ts ih =>
    have hplace : (⟨before.map f.token, f.token t, ts.map f.token⟩ : Place) =
        f.place ⟨before, t, ts⟩ := rfl
    have ih (brackets : List TokenKind) := ih (t :: before) brackets
    simp only [List.map_cons] at ih
    simp only [List.map_cons, Place.rolesFrom, kind_token, ih, hplace, hasRole_place, role_place]
    split <;> rfl

section

variable (s : Statement)

theorem roles_statement (known : List Text) :
    Statement.roles (s.map f.token) known = (s.roles known).map (Prod.map f.place id) :=
  f.rolesFrom_map known [] [] s

theorem isCommon_statement : Statement.isCommon (s.map f.token) = s.isCommon := by
  cases s with
  | nil => rfl
  | cons t ts => exact f.isReserved_token t "common"

theorem commonMembers_statement :
    Statement.commonMembers (s.map f.token) = s.commonMembers.map f.token := by
  rw [Statement.commonMembers, ← List.map_drop, List.filter_map]
  rfl

/-- A statement gives the same variables a value however it is written. -/
theorem defined_statement : Statement.defined (s.map f.token) = s.defined := by
  have hkeys (ts : List Token) : (ts.map f.token).map (·.key) = ts.map (·.key) := by
    rw [List.map_map]
    exact List.map_congr_left fun t _ => f.key_token t
  simp only [Statement.defined, roles_statement, isCommon_statement, commonMembers_statement, hkeys,
    List.filterMap_map]
  simp only [Function.comp_def, Prod.map, id_eq, place, key_token]

theorem isSilent_statement : Statement.isSilent (s.map f.token) = s.isSilent := by
  cases s with
  | nil => rfl
  | cons t ts => simp [Statement.isSilent]

theorem isLabel_statement : Statement.isLabel (s.map f.token) = s.isLabel := by
  match s with
  | [] => rfl
  | [_] => rfl
  | [_, _] => rfl
  | _ :: _ :: _ :: _ => rfl

end

end Transcription

end RoutineAtlas
