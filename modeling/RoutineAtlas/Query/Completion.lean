import RoutineAtlas.Query.Selection
import RoutineAtlas.Settings

/-!
# Completions

What can be typed at the cursor: methods after `->`, keywords after the `/` of a call, and
otherwise variables, routines and the keywords of the call at hand.
-/

namespace RoutineAtlas

/-- What a completion stands for. -/
inductive CompletionKind where
  | variableName
  | function
  | method
  | keyword
deriving DecidableEq, Repr

/-- A completion. -/
structure CompletionItem where
  label : Text
  kind : CompletionKind
  detail : String
  /-- The full name, where the label is only a part of it. -/
  fullName : Option Text
  /-- What is known about the thing, in Markdown. -/
  documentation : Option String
  /-- The text to insert, where it is not the label. -/
  insertText : Option Text
deriving DecidableEq, Repr

/-- The completions at a place. -/
structure CompletionList where
  /-- There are more than the settings allow to be offered. -/
  isIncomplete : Bool
  items : List CompletionItem
deriving DecidableEq, Repr

/-- Where the user is typing. -/
structure Typing where
  line : Nat
  /-- What has been typed of the word at the cursor. -/
  typed : Text
  /-- The column where that word starts. -/
  start : Nat
  /-- The last token before that word, comments left out. -/
  previous : Option Token
  /-- The cursor is inside of a string or a comment. -/
  inLiteral : Bool
deriving DecidableEq, Repr

namespace Typing

/-- Where the user is typing, given the tokens of the file. -/
def ofCursor (tokens : List Token) (here : Cursor) : Typing :=
  let current := tokens.find? fun t =>
    t.start.line == here.line && t.start.column < here.character &&
      here.character ≤ t.start.endColumn
  let word := current.filter (·.isWord)
  let start := (word.map (·.start.column)).getD here.character
  let code := tokens.filter fun t => !t.kind.isComment
  { line := here.line
    typed := (word.map fun t => t.text.take (here.character - t.start.column)).getD []
    start := start
    previous := (code.takeWhile fun t => t.start.startCursor.lt ⟨here.line, start⟩).getLast?
    inLiteral := current.any fun t => t.kind == .string || t.kind.isComment }

/-- The place where the typed word starts. -/
def place (t : Typing) : Cursor :=
  ⟨t.line, t.start⟩

/-- The token before the word is of the given kind. -/
def isAfter (t : Typing) (kind : TokenKind) : Bool :=
  t.previous.any fun p => p.kind == kind

/-- The token before the word is the given operator. -/
def isAfterOperator (t : Typing) (op : String) : Bool :=
  t.previous.any (·.isOperator op)

/-- The words after which a statement begins. -/
def leaders : List Text :=
  ["then", "else", "do", "begin", "of", "repeat"].map Text.ofString

/-- A statement begins at the word, so that it may call a procedure. -/
def startsStatement (t : Typing) : Bool :=
  match t.previous with
  | none => true
  | some p =>
    if p.kind == .continuation then false
    else if p.stop.line < t.line then true
    else p.kind == .ampersand || (p.kind == .reserved && leaders.contains p.key)

/-- The innermost call that the word is in: the last whose name lies before the word and that
reaches it. -/
def enclosingCall? (t : Typing) (r : Record) : Option CallSite :=
  let reaches (c : CallSite) : Bool :=
    c.spans t.place || t.previous.any fun p => p.start == c.stop
  (r.calls.filter fun c => c.span.endCursor.lt t.place && reaches c).getLast?

/-- The routine that is called around the word. -/
def callee? (t : Typing) (a : Analysis) (lookup : RoutineLookup) : Option Signature := do
  a.resolveCall lookup (← t.enclosingCall? a.record)

end Typing

namespace CompletionItem

/-- A method, under its own name without the class. -/
def ofMethod (s : Signature) : CompletionItem :=
  ⟨s.name.afterColons?.getD s.name, .method, String.ofList s.headerText, some s.name, none, none⟩

/-- A routine that is no method. -/
def ofRoutine (s : Signature) : CompletionItem :=
  ⟨s.name, .function, String.ofList s.headerText, none, none, none⟩

/-- A variable. -/
def ofBinding (b : Binding) : CompletionItem :=
  let detail := match b.kind with
    | .argument => "argument"
    | .keyword name => "keyword " ++ String.ofList name
    | .localVariable => "local variable"
    | .common block => "common " ++ String.ofList block
  ⟨b.name, .variableName, detail, none, none, none⟩

/-- A keyword of a called routine, to be given a value. -/
def ofKeyword (callee : Signature) (k : Keyword) : CompletionItem :=
  ⟨k.name, .keyword, "Keyword of " ++ String.ofList callee.name, none, none,
    some (k.name ++ ['='])⟩

/-- A keyword of a called routine, to be set, with its documentation. -/
def ofFlag (callee : Signature) (k : Keyword) (docs : Option String) : CompletionItem :=
  ⟨k.name, .keyword, "Keyword of " ++ String.ofList callee.name, none, docs, none⟩

end CompletionItem

namespace CompletionList

/-- How well a label fits what has been typed: best if it starts with it, then if it does so but
for the case, then if it holds it anywhere. -/
def tier? (typed label : Text) : Option Nat :=
  if typed.isPrefixOf label then some 0
  else if typed.lower.isPrefixOf label.lower then some 1
  else if label.lower.holds typed.lower then some 2
  else none

/-- The order of completions: by how well they fit, then by their labels in small letters. -/
def ranksBefore (a b : Nat × CompletionItem) : Bool :=
  if a.1 == b.1 then Text.le a.2.label.lower b.2.label.lower else a.1 ≤ b.1

/-- A list without the items that have the label of the item before them. -/
def dedup : List (Nat × CompletionItem) → List (Nat × CompletionItem)
  | [] => []
  | a :: rest =>
    let rec go (label : Text) : List (Nat × CompletionItem) → List (Nat × CompletionItem)
      | [] => []
      | b :: rest => if b.2.label == label then go label rest else b :: go b.2.label rest
    a :: go a.2.label rest

/-- The completions among the candidates, the best first. -/
def of (typed : Text) (limit : Nat) (candidates : List CompletionItem) : CompletionList :=
  let fitting := candidates.filterMap fun item => (tier? typed item.label).map fun n => (n, item)
  let ranked := dedup (fitting.mergeSort ranksBefore)
  ⟨limit < ranked.length, (ranked.take limit).map (·.2)⟩

end CompletionList

namespace Workspace

/-- The methods that can follow an arrow. -/
def methodCandidates? (w : Workspace) (t : Typing) : Option (List CompletionItem) :=
  if t.inLiteral || !t.isAfter .arrow then none
  else some ((w.table.routines.filter (·.kind.isMethod)).map .ofMethod)

/-- The documentation of a keyword, if it says anything. -/
def keywordDocs? (w : Workspace) (s : Signature) (k : Keyword) : Option String := do
  let entry ← w.parameterDocs? s .keywords k.name
  let text := "\n".intercalate (entry.description.map String.ofList)
  if text.isEmpty then none else some text

/-- The keywords that can follow a slash in a call. -/
def flagCandidates? (w : Workspace) (t : Typing) (a : Analysis) (p : Path) :
    Option (List CompletionItem) :=
  if t.inLiteral || !t.isAfterOperator "/" then none
  else do
    let s ← t.callee? a (w.lookup p)
    return s.namedKeywords.map fun k => .ofFlag s k (w.keywordDocs? s k)

/-- The variables of the scope at the cursor, but for one that only the typed word makes. -/
def variablesAt (t : Typing) (r : Record) (here : Cursor) : List Binding :=
  let typedHere (b : Binding) : Bool :=
    b.occurrences.all fun o => o.span.line == here.line && o.span.column == t.start
  let scope := (r.scopeAt? here).bind fun i => r.scopes[i]?
  ((scope.map (·.bindings)).getD []).filter fun b => !typedHere b

/-- What can stand at the cursor as a plain name. -/
def nameCandidates? (w : Workspace) (t : Typing) (a : Analysis) (p : Path) (here : Cursor) :
    Option (List CompletionItem) :=
  if t.inLiteral || t.isAfterOperator "." || t.isAfter .arrow || t.isAfter .doubleColon then none
  else
    let starts := t.startsStatement
    let routines := w.table.routines.filter fun s =>
      !s.kind.isMethod && s.kind.isFunction != starts
    let callee := if starts then none else t.callee? a (w.lookup p)
    let keywords := (callee.map fun s => s.namedKeywords.map (.ofKeyword s)).getD []
    some ((variablesAt t a.record here).map .ofBinding ++ routines.map .ofRoutine ++ keywords)

/-- The completions at the cursor of a file. -/
def complete? (w : Workspace) (settings : Settings) (p : Path) (here : Cursor) :
    Option CompletionList := do
  let a := (← w.file? p).analysis
  let t := Typing.ofCursor a.tokens here
  let candidates ←
    w.methodCandidates? t <|> w.flagCandidates? t a p <|> w.nameCandidates? t a p here
  return .of t.typed settings.completionLimit candidates

end Workspace

end RoutineAtlas
