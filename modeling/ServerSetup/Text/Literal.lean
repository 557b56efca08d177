import ServerSetup.Text.Visible

/-!
# Texts as literals

A text in double quotes, in which every character can be told: quotes, backslashes and the usual
control characters are written with a backslash, and a character that does not show as itself is
written by its number in braces.
-/

namespace ServerSetup.Text

/-- A character as it is written in a literal. -/
def literalChar (c : Char) : List Char :=
  match c with
  | '"' => ['\\', '"']
  | '\\' => ['\\', '\\']
  | '\n' => ['\\', 'n']
  | '\r' => ['\\', 'r']
  | '\t' => ['\\', 't']
  | '\x00' => ['\\', '0']
  | c => if isVisible c then [c] else ['\\', 'u', '\x7b'] ++ Nat.toDigits 16 c.toNat ++ ['\x7d']

/-- A text as a literal. -/
def literal (s : String) : String :=
  String.ofList ('"' :: s.toList.flatMap literalChar ++ ['"'])

end ServerSetup.Text
