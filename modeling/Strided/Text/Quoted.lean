import Strided.Text.Character

/-! Quoted strings, in which every character can be told from its neighbours.

Quotes, backslashes and the usual control characters are escaped with a backslash. Any other
character that does not show by itself is written as its code point.
-/

set_option autoImplicit false

namespace Strided.Text

def hexDigits (n : Nat) : List Char :=
  Nat.toDigits 16 n

/-- The lower-case hexadecimal digits of a number, filled up with zeros to a width. -/
def hexPadded (width n : Nat) : String :=
  .ofList (List.replicate (width - (hexDigits n).length) '0' ++ hexDigits n)

def escape (c : Char) : List Char :=
  match c with
  | '"' => ['\\', '"']
  | '\\' => ['\\', '\\']
  | '\n' => ['\\', 'n']
  | '\r' => ['\\', 'r']
  | '\t' => ['\\', 't']
  | '\x00' => ['\\', '0']
  | c => if isPlain c then [c] else ['\\', 'u', '\x7b'] ++ hexDigits c.toNat ++ ['\x7d']

def quoted (s : String) : String :=
  String.ofList (['"'] ++ s.toList.flatMap escape ++ ['"'])

end Strided.Text
