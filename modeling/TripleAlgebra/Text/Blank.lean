/-
# TripleAlgebra.Text.Blank -- white space at the ends of a text

White space is the Unicode property White_Space: 25 code points.  `trim` takes it
off both ends and leaves the middle alone: what remains neither starts nor ends
with a blank.
-/
namespace TripleAlgebra.Text

set_option autoImplicit false

/-- The white space that is not a control character or a plain space. -/
def wideBlanks : List Char :=
  ['\u0085', '\u00a0', '\u1680', '\u2000', '\u2001', '\u2002', '\u2003', '\u2004', '\u2005',
   '\u2006', '\u2007', '\u2008', '\u2009', '\u200a', '\u2028', '\u2029', '\u202f', '\u205f',
   '\u3000']

/-- White space: the six ASCII blanks and the wide ones. -/
def isBlank (c : Char) : Bool :=
  c == ' ' || (0x9 ≤ c.toNat && c.toNat ≤ 0xd) || wideBlanks.contains c

/-- Take the white space off the front. -/
def trimFront (text : List Char) : List Char :=
  text.dropWhile isBlank

/-- Take the white space off both ends. -/
def trim (text : List Char) : List Char :=
  (trimFront (trimFront text).reverse).reverse

end TripleAlgebra.Text
