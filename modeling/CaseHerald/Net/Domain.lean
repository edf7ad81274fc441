import CaseHerald.Net.Domain.Direction
import CaseHerald.Net.Domain.Joining
import CaseHerald.Net.Domain.Mapping
import CaseHerald.Net.Domain.Punycode
import CaseHerald.Text.Normal

/-!
# Domain names

A domain name is given in any script and used in ASCII. Its characters are mapped to those that they
stand for and composed; labels already in ASCII form are taken apart; each label is checked; and those
with other characters than ASCII are written in their ASCII form.
-/
namespace CaseHerald.Net.Domain

/-- What a label in ASCII form begins with. -/
def asciiMark : List Char := ['x', 'n', '-', '-']

/-- Whether the label is in ASCII form. -/
def isMarked (label : List Char) : Bool := asciiMark.isPrefixOf label

/-- The label that stands for one in ASCII form: one that would be written in that form. -/
def unmark? (label : List Char) : Option (List Char) :=
  match Punycode.decode? (label.drop asciiMark.length) with
  | none => none
  | some plain =>
    if plain.all Punycode.isBasic || !plain.all isKept || Text.compose plain ≠ plain || isMarked plain
    then none else some plain

/-- The label in its own characters. -/
def plain? (label : List Char) : Option (List Char) :=
  if isMarked label then unmark? label else some label

/-- Whether the label holds nothing that depends on what stands before it or that cannot be seen. -/
def isSound (label : List Char) : Bool :=
  !((label.head?.map Text.isMark).getD false) && joinersFit [] label

/-- The label in ASCII, unless it is too long to be written so. -/
def toAscii? (label : List Char) : Option (List Char) :=
  if label.all Punycode.isBasic then some label
  else if label.length ≤ Punycode.longestWritten then some (asciiMark ++ Punycode.encode label)
  else none

/-- ASCII characters that no domain name may hold: they delimit the parts of an address. -/
def delimiters : List Char := ['#', '/', ':', '<', '>', '?', '@', '[', '\\', ']', '^', '|', '%']

/-- Whether a domain name may hold the character after the mapping. -/
def isAllowed (c : Char) : Bool := 0x20 < c.toNat && c.toNat ≠ 0x7F && !delimiters.contains c

/-- The domain name in ASCII. -/
def read? (cs : List Char) : Option (List Char) := do
  let mapped ← mapAll? cs
  let composed := Text.compose mapped
  if !composed.all isAllowed then none
  else
    let labels ← (Text.pieces '.' composed).mapM plain?
    if labels.all isSound && areDirected labels then
      return List.intercalate ['.'] (← labels.mapM toAscii?)
    else none

end CaseHerald.Net.Domain
