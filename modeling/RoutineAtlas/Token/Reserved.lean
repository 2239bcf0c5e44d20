import RoutineAtlas.Text.Case

/-!
# Reserved words

The words of the language that no variable can be called. They are reserved in any letter case.
-/

namespace RoutineAtlas

/-- The reserved words, in alphabetical order and in small letters. -/
def reservedWords : List Text :=
  ["and", "begin", "break", "case", "common", "compile_opt", "continue", "do", "else", "end",
    "endcase", "endelse", "endfor", "endforeach", "endif", "endrep", "endswitch", "endwhile", "eq",
    "for", "foreach", "forward_function", "function", "ge", "goto", "gt", "if", "inherits", "le",
    "lt", "mod", "ne", "not", "of", "on_ioerror", "or", "pro", "repeat", "return", "switch",
    "then", "until", "while", "xor"].map Text.ofString

/-- A word is reserved, whatever its letter case. -/
def isReservedWord (word : Text) : Bool :=
  reservedWords.contains word.lower

/-- Words that open a block of statements. -/
def blockOpeners : List Text :=
  ["begin", "case", "switch"].map Text.ofString

/-- Words that close a block of statements. -/
def blockClosers : List Text :=
  ["end", "endcase", "endelse", "endfor", "endforeach", "endif", "endrep", "endswitch",
    "endwhile"].map Text.ofString

/-- Words after which another statement begins on the same line. -/
def statementLeaders : List Text :=
  ["then", "else", "do", "begin", "of", "repeat", "for", "foreach"].map Text.ofString

/-- Words that begin a statement which names no variables. -/
def silentStatements : List Text :=
  ["compile_opt", "forward_function", "goto", "on_ioerror"].map Text.ofString

end RoutineAtlas
