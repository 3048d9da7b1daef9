/-
# TripleAlgebra.Text.Quoted -- a text quoted inside a message

A message that complains about a text shows it between quotes, with everything
that would not be seen written out: the usual short escapes, and the code point in
braces for all other characters that are not printable.
-/
import TripleAlgebra.Text.Printable

namespace TripleAlgebra.Text

set_option autoImplicit false

/-- The characters that stand for `c` in a quoted text.  Code points are written in
lower-case hexadecimal without leading zeros. -/
def quoteChar (c : Char) : List Char :=
  if c = '\x00' then ['\\', '0']
  else if c = '\t' then ['\\', 't']
  else if c = '\n' then ['\\', 'n']
  else if c = '\r' then ['\\', 'r']
  else if c = '"' then ['\\', '"']
  else if c = '\\' then ['\\', '\\']
  else if isPrintable c then [c]
  else ['\\', 'u', '\x7b'] ++ Nat.toDigits 16 c.toNat ++ ['\x7d']

/-- A text in quotes, safe to show in one line. -/
def quoted (text : String) : String :=
  String.ofList ('"' :: text.toList.flatMap quoteChar ++ ['"'])

end TripleAlgebra.Text
