import ConfigScope.Text.Ranges

/-!
# White space

The code points with the property `White_Space`, and the characters among
them that end a line.
-/

namespace ConfigScope.Text

def blank : Ranges :=
    [(0x9, 0xd), (0x20, 0x20), (0x85, 0x85), (0xa0, 0xa0), (0x1680, 0x1680), (0x2000, 0x200a),
    (0x2028, 0x2029), (0x202f, 0x202f), (0x205f, 0x205f), (0x3000, 0x3000)]

def isBlank (c : Char) : Bool :=
  blank.contains c.toNat

/-- Whether a character ends a line: line feed, vertical tab, form feed, carriage return, next line,
line separator, paragraph separator. -/
def endsLine (c : Char) : Bool :=
  (0xa ≤ c.toNat && c.toNat ≤ 0xd) || c.toNat == 0x85 || c.toNat == 0x2028 || c.toNat == 0x2029

end ConfigScope.Text
