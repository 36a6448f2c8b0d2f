import DiagnosticReport.Text.Case
import DiagnosticReport.Text.PrintableTable

/-!
# Quoted text in messages

A text inside a message stands between double quotes; a quote, a backslash, a control character
or any other character that does not print is escaped.
-/

namespace DiagnosticReport.Text

/-- Digits of a code point, in lower-case hexadecimal. -/
def hexDigits (n : Nat) : List Char :=
  Nat.toDigits 16 n

/-- A character as it stands in a quoted text. -/
def quotedChar (c : Char) : List Char :=
  match c with
  | '\x00' => ['\\', '0']
  | '\t' => ['\\', 't']
  | '\r' => ['\\', 'r']
  | '\n' => ['\\', 'n']
  | '"' => ['\\', '"']
  | '\\' => ['\\', '\\']
  | c =>
    if inBoundaries printableBoundaries c.toNat then [c]
    else ['\\', 'u', '\x7b'] ++ hexDigits c.toNat ++ ['\x7d']

/-- A text in double quotes. -/
def quoted (s : String) : String :=
  String.ofList ('"' :: (s.toList.flatMap quotedChar ++ ['"']))

end DiagnosticReport.Text
