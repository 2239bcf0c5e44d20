import RoutineAtlas.Document
import RoutineAtlas.Settings
import RoutineAtlas.Workspace

/-!
# Semantic tokens

The tokens of a file by what they mean, for an editor to colour. A token's kind tells most of it;
names get their meaning from the record of the file. Tokens are sent relative to each other:
`SemanticToken.encode` writes them so.
-/

namespace RoutineAtlas

/-- What a token means. -/
inductive SemanticClass where
  | keyword
  | function
  | method
  | variableName
  | parameter
  | property
  | string
  | number
  | comment
  | operator
deriving DecidableEq, Repr

namespace SemanticClass

/-- All classes, in the order of their numbers. -/
def all : List SemanticClass :=
  [keyword, function, method, variableName, parameter, property, string, number, comment, operator]

/-- The name of a class. -/
def name : SemanticClass → String
  | keyword => "keyword"
  | function => "function"
  | method => "method"
  | variableName => "variable"
  | parameter => "parameter"
  | property => "property"
  | string => "string"
  | number => "number"
  | comment => "comment"
  | operator => "operator"

end SemanticClass

/-- Properties of a token beyond its class. -/
structure TokenModifiers where
  declaration : Bool
  defaultLibrary : Bool
  documentation : Bool
deriving DecidableEq, Repr

namespace TokenModifiers

/-- The names of the properties, in the order of their bits. -/
def names : List String :=
  ["declaration", "defaultLibrary", "documentation"]

/-- No properties. -/
def none : TokenModifiers :=
  ⟨false, false, false⟩

/-- Where something is declared. -/
def declares : TokenModifiers :=
  ⟨true, false, false⟩

/-- The properties as a number with a bit for each. -/
def bits (m : TokenModifiers) : Nat :=
  m.declaration.toNat + 2 * m.defaultLibrary.toNat + 4 * m.documentation.toNat

end TokenModifiers

/-- A token with what it means. -/
structure SemanticToken where
  span : Span
  meaning : SemanticClass
  modifiers : TokenModifiers
deriving DecidableEq, Repr

/-- A stretch of source whose words have a meaning. -/
structure Mark where
  span : Span
  meaning : SemanticClass
  modifiers : TokenModifiers
deriving DecidableEq, Repr

namespace Mark

/-- The mark gives the token its meaning: it is a word that starts within the mark. A mark without
length still reaches a word that starts there. -/
def covers (m : Mark) (t : Token) : Bool :=
  t.isWord && t.start.line == m.span.line && m.span.column ≤ t.start.column &&
    t.start.column < max m.span.endColumn (m.span.column + 1)

/-- The class of a routine's name. -/
def routineClass (kind : RoutineKind) : SemanticClass :=
  if kind.isMethod then .method else .function

/-- The marks of a variable. -/
def ofBinding (b : Binding) : List Mark :=
  let meaning : SemanticClass := match b.kind with
    | .argument | .keyword _ => .parameter
    | .localVariable | .common _ => .variableName
  b.occurrences.map fun o => ⟨o.span, meaning, .none⟩

/-- The marks of a call. -/
def ofCall (c : CallSite) : List Mark :=
  ⟨c.span, routineClass c.kind, .none⟩ :: c.keywords.map fun k => ⟨k.span, .property, .none⟩

/-- The marks of a header. -/
def ofSignature (s : Signature) : List Mark :=
  ⟨s.nameSpan, routineClass s.kind, .declares⟩ ::
    s.keywords.flatMap (fun k =>
      [⟨k.span, .property, .declares⟩, ⟨k.targetSpan, .parameter, .declares⟩]) ++
    s.args.map fun a => ⟨a.span, .parameter, .declares⟩

/-- The marks of a file. Where several cover a word, the last counts. -/
def ofRecord (r : Record) : List Mark :=
  (r.scopes.flatMap (·.bindings)).flatMap ofBinding ++ r.calls.flatMap ofCall ++
    r.signatures.flatMap ofSignature

end Mark

namespace SemanticToken

/-- The reserved words that are operators. -/
def wordOperators : List Text :=
  ["and", "eq", "ge", "gt", "le", "lt", "mod", "ne", "not", "or", "xor"].map Text.ofString

/-- What the kind of a token alone tells. -/
def lexical? (t : Token) : Option (SemanticClass × TokenModifiers) :=
  match t.kind with
  | .reserved => some (if wordOperators.contains t.key then .operator else .keyword, .none)
  | .systemVariable => some (.variableName, ⟨false, true, false⟩)
  | .number => some (.number, .none)
  | .string => some (.string, .none)
  | .comment => some (.comment, .none)
  | .docOpen | .docClose => some (.comment, ⟨false, false, true⟩)
  | .operator | .arrow | .doubleColon => some (.operator, .none)
  | _ => none

/-- The line is inside of a documentation block. -/
def inDocBlock (blocks : List DocBlock) (line : Nat) : Bool :=
  blocks.any fun b => b.opening.line < line && b.closing.all fun c => line < c.line

/-- What a token means, if anything. -/
def ofToken? (marks : List Mark) (blocks : List DocBlock) (t : Token) : Option SemanticToken := do
  let (meaning, modifiers) ← match marks.reverse.find? fun m => m.covers t with
    | some m => some (m.meaning, m.modifiers)
    | none => lexical? t
  let modifiers := if meaning == .comment && inDocBlock blocks t.start.line then
    { modifiers with documentation := true } else modifiers
  return ⟨t.start, meaning, modifiers⟩

/-- The tokens of a file with what they mean, in reading order. -/
def classify (a : Analysis) : List SemanticToken :=
  let tokens := a.tokens.filter fun t => 0 < t.start.length
  tokens.filterMap (ofToken? (Mark.ofRecord a.record) a.blocks)

/-- The number of a class. -/
def classIndex (c : SemanticClass) : Nat :=
  SemanticClass.all.idxOf c

/-- A token by its place relative to the one before it. -/
structure Delta where
  line : Nat
  /-- Relative to the start of the token before if both are on one line. -/
  start : Nat
  length : Nat
  classIndex : Nat
  modifierBits : Nat
deriving DecidableEq, Repr

/-- The tokens relative to each other, the first of them relative to `line` and `column`. -/
def encodeFrom (line column : Nat) : List SemanticToken → List Delta
  | [] => []
  | t :: rest =>
    let start := if t.span.line - line = 0 then t.span.column - column else t.span.column
    ⟨t.span.line - line, start, t.span.length, SemanticToken.classIndex t.meaning,
      t.modifiers.bits⟩ :: encodeFrom t.span.line t.span.column rest

/-- The tokens relative to each other. -/
def encode (tokens : List SemanticToken) : List Delta :=
  encodeFrom 0 0 tokens

/-- The numbers that a token is sent as. -/
def Delta.numbers (d : Delta) : List Nat :=
  [d.line, d.start, d.length, d.classIndex, d.modifierBits]

end SemanticToken

/-- The tokens of a document with what they mean, unless the settings are against it or the
document is no source file. -/
def Workspace.semanticTokens? (w : Workspace) (settings : Settings) (u : Url) :
    Option (List SemanticToken) :=
  if settings.semanticTokens && isClassifiedDocument u then do
    let entry ← w.file? (← u.filePath?)
    return SemanticToken.classify entry.analysis
  else none

end RoutineAtlas
