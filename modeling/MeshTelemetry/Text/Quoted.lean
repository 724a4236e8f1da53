import MeshTelemetry.Text.Hex
import MeshTelemetry.Text.Visible

/-!
Text in double quotes, as log lines and error messages show a string value.

A quote and a backslash get a backslash in front, the four common controls have letters of their
own, and any other hidden character is written as its code point in braces. An apostrophe stands
as it is.
-/

namespace MeshTelemetry.Text

/-- The characters that stand for one character inside the quotes. -/
def escapeChar (c : Char) : List Char :=
  match c with
  | '\x00' => ['\\', '0']
  | '\t' => ['\\', 't']
  | '\r' => ['\\', 'r']
  | '\n' => ['\\', 'n']
  | '"' => ['\\', '"']
  | '\\' => ['\\', '\\']
  | c =>
    if isVisible c then [c]
    else ['\\', 'u', '\x7b'] ++ Hex.ofNat c.toNat ++ ['\x7d']

/-- A string in double quotes. -/
def quoted (s : String) : String :=
  String.ofList ('"' :: s.toList.flatMap escapeChar ++ ['"'])

end MeshTelemetry.Text
