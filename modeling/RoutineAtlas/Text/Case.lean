import RoutineAtlas.Text.Blank

/-!
# Letter case

Names of the language are compared without regard to the case of the ASCII letters. `Text.lower`
is the normal form behind every such comparison.
-/

namespace RoutineAtlas

/-- An ASCII letter or an underscore: what a name may start with. -/
def isNameStart (c : Char) : Bool :=
  c.isAlpha || c == '_'

/-- An ASCII letter, digit or underscore. -/
def isNameChar (c : Char) : Bool :=
  c.isAlphanum || c == '_'

/-- A character that would extend a name or a number: also the dollar sign, which names may hold
inside. -/
def extendsWord (c : Char) : Bool :=
  isNameChar c || c == '$'

namespace Text

/-- Text with its ASCII capital letters made small. -/
def lower (t : Text) : Text :=
  t.map Char.toLower

/-- Equality up to the case of ASCII letters. -/
def sameName (s t : Text) : Bool :=
  s.lower == t.lower

@[simp] theorem length_lower (t : Text) : t.lower.length = t.length := by
  simp [lower]

end Text

end RoutineAtlas
