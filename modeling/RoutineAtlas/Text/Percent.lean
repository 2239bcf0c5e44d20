import RoutineAtlas.Text.Digits

/-!
# Percent encoding

Writing characters that a URL cannot hold by the bytes of their UTF-8 form, each as a percent sign
and two hexadecimal digits.
-/

namespace RoutineAtlas.Text

/-- A byte as a percent sign and two digits. -/
def percentByte (b : UInt8) : Text :=
  ['%', upperHexDigit (b.toNat / 16), upperHexDigit (b.toNat % 16)]

/-- Text with the characters that `keeps` refuses percent-encoded. -/
def percentEncode (keeps : Char → Bool) (t : Text) : Text :=
  t.flatMap fun c => if keeps c then [c] else (String.utf8EncodeChar c).flatMap percentByte

/-- The bytes of a text, with its percent-encoded bytes decoded. A percent sign without two digits
stands for itself. -/
def percentBytes : Text → List UInt8
  | [] => []
  | '%' :: high :: low :: rest =>
    match hexDigitValue? high, hexDigitValue? low with
    | some h, some l => UInt8.ofNat (h * 16 + l) :: percentBytes rest
    | _, _ => String.utf8EncodeChar '%' ++ percentBytes (high :: low :: rest)
  | c :: cs => String.utf8EncodeChar c ++ percentBytes cs

end RoutineAtlas.Text
