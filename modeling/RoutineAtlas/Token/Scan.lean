import RoutineAtlas.Problem
import RoutineAtlas.Token.Lexeme

/-!
# Scanning

Cutting source lines into tokens. Lines are scanned one by one, and scanning never fails: what
starts no token becomes a token of unknown kind with a problem on it.
-/

namespace RoutineAtlas

/-- A token together with what is wrong with it. -/
structure ScannedToken where
  token : Token
  fault : Option ProblemCode
deriving DecidableEq, Repr

namespace ScannedToken

/-- The problem that a faulty token gives; it covers the token. -/
def problem? (s : ScannedToken) : Option Problem :=
  s.fault.map fun code =>
    match code with
    | .unknownToken => .on code (code.messageColon (String.ofList s.token.text)) s.token.start
    | _ => .plain code s.token.start

end ScannedToken

/-- The tokens of a line from column `column` on. The first `skip` characters belong to the token
read last; `leading` says that the line has had only blanks so far. -/
def scanFrom (line : Nat) : (column skip : Nat) → (leading : Bool) → Text → List ScannedToken
  | _, _, _, [] => []
  | column, skip + 1, leading, _ :: cs => scanFrom line (column + 1) skip leading cs
  | column, 0, leading, c :: cs =>
    if isBlank c then scanFrom line (column + 1) 0 leading cs
    else
      let lexeme := Lexeme.read leading c cs
      let token := Token.single lexeme.kind ((c :: cs).take lexeme.length)
        ⟨line, column, lexeme.length⟩
      ⟨token, lexeme.fault⟩ :: scanFrom line (column + 1) (lexeme.length - 1) false cs

/-- The tokens of one line. -/
def scanLine (line : Nat) (cs : Text) : List ScannedToken :=
  scanFrom line 0 0 true cs

/-- The tokens of lines that are numbered from `first` on. -/
def scanLinesFrom (first : Nat) : List Text → List ScannedToken
  | [] => []
  | l :: ls => scanLine first l ++ scanLinesFrom (first + 1) ls

/-- The tokens of a file and the problems found while scanning it. -/
structure TokenStream where
  tokens : List Token
  problems : List Problem
deriving DecidableEq, Repr

namespace TokenStream

/-- The last token that is no comment, if it is a continuation: nothing is left to continue. -/
def dangling? (tokens : List Token) : Option Token :=
  match tokens.reverse.find? fun t => !t.kind.isComment with
  | some t => if t.kind == .continuation then some t else none
  | none => none

/-- The token stream of some lines. Its problems come in the order of their tokens, a dangling
continuation last. -/
def ofLines (lines : List Text) : TokenStream :=
  let scanned := scanLinesFrom 0 lines
  let tokens := scanned.map (·.token)
  let dangling := (dangling? tokens).map fun t => Problem.plain .danglingContinuation t.start
  ⟨tokens, scanned.filterMap (·.problem?) ++ dangling.toList⟩

end TokenStream

end RoutineAtlas
