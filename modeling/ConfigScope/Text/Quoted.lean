import ConfigScope.Text.Visible

/-!
# Quoted text

A text is quoted by double quotes around it. Five characters and NUL have a
short escape; every other character that cannot be seen on its own is
written by its code point in hexadecimal, and the rest stand as they are.
A single quote needs no escape inside double quotes.
-/

namespace ConfigScope.Text

/-- Hexadecimal digits in lower case, without leading zeros. -/
def hexDigits (n : Nat) : List Char :=
  Nat.toDigits 16 n

def escapeChar (c : Char) : List Char :=
  match c with
  | '\x00' => ['\\', '0']
  | '\t' => ['\\', 't']
  | '\r' => ['\\', 'r']
  | '\n' => ['\\', 'n']
  | '\\' => ['\\', '\\']
  | '"' => ['\\', '"']
  | c =>
    if isVisible c then [c]
    else ['\\', 'u', '\x7b'] ++ hexDigits c.toNat ++ ['\x7d']

def quote (text : String) : String :=
  String.ofList ('"' :: text.toList.flatMap escapeChar ++ ['"'])

end ConfigScope.Text
