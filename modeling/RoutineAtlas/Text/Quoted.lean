import RoutineAtlas.Text.Printable

/-!
# Quoted text

Text between double quotes, as messages cite it: quotes, backslashes and characters that do not show
are escaped.
-/

namespace RoutineAtlas.Text

/-- A character as it stands between quotes. -/
def quotedChar (c : Char) : Text :=
  if c == '"' then ['\\', '"']
  else if c == '\\' then ['\\', '\\']
  else if c == '\n' then ['\\', 'n']
  else if c == '\r' then ['\\', 'r']
  else if c == '\t' then ['\\', 't']
  else if c.toNat == 0 then ['\\', '0']
  else if isShown c then [c]
  else ['\\', 'u', '\x7b'] ++ hexDigits c.toNat ++ ['\x7d']

/-- Text between double quotes. -/
def quoted (t : Text) : Text :=
  '"' :: t.flatMap quotedChar ++ ['"']

end RoutineAtlas.Text
