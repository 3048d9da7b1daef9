/-
# TripleAlgebra.Text.Escaped -- the text of a literal between its quotes

Inside the quotes of a literal, the quote, the backslash and the control characters
of ASCII are written as escapes; every other character stands for itself.  Escapes
are a backslash and one letter, or a backslash, `u` and four hexadecimal digits.
-/
namespace TripleAlgebra.Text

set_option autoImplicit false

/-- The hexadecimal digit of a number below sixteen, in upper case. -/
def upperHexDigit (n : Nat) : Char :=
  (Nat.digitChar n).toUpper

/-- The characters that stand for `c` between the quotes of a literal. -/
def escapeChar (c : Char) : List Char :=
  if c = '\x08' then ['\\', 'b']
  else if c = '\t' then ['\\', 't']
  else if c = '\n' then ['\\', 'n']
  else if c = '\x0c' then ['\\', 'f']
  else if c = '\r' then ['\\', 'r']
  else if c = '"' then ['\\', '"']
  else if c = '\\' then ['\\', '\\']
  else if c.toNat < 0x20 || c.toNat = 0x7f then
    ['\\', 'u', '0', '0', upperHexDigit (c.toNat / 16), upperHexDigit (c.toNat % 16)]
  else [c]

/-- The text of a literal as it stands between its quotes. -/
def escape (text : String) : String :=
  String.ofList (text.toList.flatMap escapeChar)

theorem toList_escape (text : String) : (escape text).toList = text.toList.flatMap escapeChar := by
  simp [escape]

end TripleAlgebra.Text
