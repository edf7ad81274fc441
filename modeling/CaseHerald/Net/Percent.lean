import CaseHerald.Text.Octets

/-!
# Percent-encoding

An octet that may not stand in a part of an address is written as a percent sign and its two
hexadecimal digits. Which octets may stand as they are depends on the part.
-/
namespace CaseHerald.Net

open Text (Octets octets)

/-- The percent sign and the digits of an octet. -/
def percent (b : UInt8) : List Char :=
  let digit (n : Nat) : Char := (Nat.digitChar (n % 16)).toUpper
  ['%', digit (b.toNat / 16), digit b.toNat]

/-- The characters in octets, of which only those that pass the test stand as they are. -/
def encodeWith (keeps : Char → Bool) (cs : List Char) : List Char :=
  cs.flatMap fun c =>
    if keeps c then [c] else (String.utf8EncodeChar c).flatMap percent

/-- Whether the character is a visible ASCII character. -/
def isGraphic (c : Char) : Bool := 0x20 < c.toNat && c.toNat < 0x7F

/-- Whether a path without segments, and the host of an unknown kind, keep the character. -/
def plainKeeps (c : Char) : Bool := 0x20 ≤ c.toNat && c.toNat < 0x7F

/-- Whether a fragment keeps the character. -/
def fragmentKeeps (c : Char) : Bool := isGraphic c && !(['"', '<', '>', '\x60'].contains c)

/-- Whether a path keeps the character. -/
def pathKeeps (c : Char) : Bool :=
  isGraphic c && !(['"', '#', '<', '>', '?', '\x60', '\x7b', '\x7d'].contains c)

/-- Whether a name or a password keeps the character. -/
def userKeeps (c : Char) : Bool :=
  pathKeeps c && !(['/', ':', ';', '=', '@', '[', '\\', ']', '^', '|'].contains c)

/-- Whether the query of an address keeps the character. -/
def plainQueryKeeps (c : Char) : Bool := isGraphic c && !(['"', '#', '<', '>'].contains c)

/-- Whether the query of an address with a known scheme keeps the character. -/
def queryKeeps (c : Char) : Bool := plainQueryKeeps c && c ≠ '\''

/-- Whether a form keeps the character. -/
def formKeeps (c : Char) : Bool :=
  c.isAlphanum || c = '*' || c = '-' || c = '.' || c = '_'

/-- The text as a part of a form, where a space is a plus sign. -/
def formEncode (s : String) : List Char :=
  s.toList.flatMap fun c => if c = ' ' then ['+'] else encodeWith formKeeps [c]

/-- Names and values as a form. -/
def formOf (pairs : List (String × String)) : List Char :=
  List.intercalate ['&'] (pairs.map fun p => formEncode p.1 ++ '=' :: formEncode p.2)

end CaseHerald.Net
