import Offload.Text.Printable

/-!
A text between double quotes, as messages cite what a user wrote.

Quotes and backslashes are escaped, the usual control characters have their letters, and a
character that does not print is given by its code point in braces.
-/

namespace Offload.Text

def lowerHex (n : Nat) : List Char := Nat.toDigits 16 n

def escaped (c : Char) : List Char :=
  match c with
  | '\x00' => ['\\', '0']
  | '\t' => ['\\', 't']
  | '\n' => ['\\', 'n']
  | '\r' => ['\\', 'r']
  | '"' => ['\\', '"']
  | '\\' => ['\\', '\\']
  | _ => if isPrintable c then [c] else ['\\', 'u', '\x7b'] ++ lowerHex c.toNat ++ ['\x7d']

def quoted (s : String) : String :=
  String.ofList ('"' :: s.toList.flatMap escaped ++ ['"'])

end Offload.Text
