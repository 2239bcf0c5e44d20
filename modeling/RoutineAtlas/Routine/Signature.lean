import RoutineAtlas.Path
import RoutineAtlas.Routine.Kind
import RoutineAtlas.Span

/-!
# Signatures

The head of a routine: its name, what it takes, and where all of that is written.
-/

namespace RoutineAtlas

/-- A positional argument. -/
structure Argument where
  name : Text
  span : Span
deriving DecidableEq, Repr

/-- A keyword: the name that callers use and the variable it is bound to. -/
structure Keyword where
  name : Text
  target : Text
  span : Span
  targetSpan : Span
deriving DecidableEq, Repr

/-- The keywords that pass on whatever else the caller gives. -/
def extraKeywords : List Text :=
  ["_extra", "_ref_extra", "_strict_extra"].map Text.ofString

/-- The name is that of a keyword which passes on other keywords. -/
def isExtraKeyword (name : Text) : Bool :=
  extraKeywords.contains name.lower

/-- The head of a routine. -/
structure Signature where
  name : Text
  kind : RoutineKind
  args : List Argument
  keywords : List Keyword
  /-- The routine passes on keywords that it does not declare. -/
  acceptsExtra : Bool
  file : Path
  nameSpan : Span
  /-- The word that begins the definition. -/
  start : Span
  /-- The last token of the head. -/
  stop : Span
deriving DecidableEq, Repr

namespace Signature

/-- What the routine is known by. -/
def key (s : Signature) : RoutineKey :=
  .of s.name s.kind

/-- The two routines can be called in the same ways. -/
def sameInterface (s t : Signature) : Bool :=
  s.key == t.key && s.acceptsExtra == t.acceptsExtra &&
    s.args.map (·.name.lower) == t.args.map (·.name.lower) &&
    s.keywords.map (·.name.lower) == t.keywords.map (·.name.lower)

/-- The two signatures agree in everything, their files up to the spelling of the path. -/
def same (s t : Signature) : Bool :=
  s.file.same t.file && s == { t with file := s.file }

/-- The keywords that a caller can name. -/
def namedKeywords (s : Signature) : List Keyword :=
  s.keywords.filter fun k => !isExtraKeyword k.name

/-- The keyword that a caller means. A caller may cut a keyword short as long as only one keyword
starts so; a keyword written in full is always meant. -/
def resolveKeyword? (s : Signature) (passed : Text) : Option Keyword :=
  match s.namedKeywords.find? fun k => k.name.sameName passed with
  | some k => some k
  | none =>
    match s.namedKeywords.filter fun k => passed.lower.isPrefixOf k.name.lower with
    | [k] => some k
    | _ => none

/-- The head as it would be written in source. -/
def headerText (s : Signature) : Text :=
  s.kind.keyword.toList ++ ' ' :: s.name ++
    s.args.flatMap (fun a => ',' :: ' ' :: a.name) ++
    s.keywords.flatMap (fun k => ',' :: ' ' :: k.name ++ '=' :: k.target)

end Signature

end RoutineAtlas
