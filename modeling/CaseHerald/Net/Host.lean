import CaseHerald.Net.Domain
import CaseHerald.Net.Percent

/-!
# Hosts

A host is a domain name or the number of a machine. A name whose last label is a number has to be a
number of 32 bits in up to four parts; a number of 128 bits stands in brackets, as groups of
hexadecimal digits of which one run of zeros may be left out. Where it is not known what hosts are, a
host is any text.
-/
namespace CaseHerald.Net

/-- A host. -/
inductive Host
  | domain (name : String)
  /-- a number of 32 bits -/
  | v4 (bits : Nat)
  /-- a number of 128 bits, in groups of sixteen -/
  | v6 (groups : List Nat)
  /-- a text that is not looked into -/
  | plain (text : String)
  deriving DecidableEq, Repr

namespace Host

/-! ## Numbers of 32 bits -/

/-- A part of a number, in decimal digits, in octal ones after a zero, or in hexadecimal ones. -/
def part? (cs : List Char) : Option Nat :=
  let read (base : Nat) (ds : List Char) : Option Nat := Text.extendDigits? base Text.hexDigit? 0 ds
  match cs with
  | [] => none
  | ['0'] => some 0
  | '0' :: x :: ds => if x = 'x' ∨ x = 'X' then read 16 ds else read 8 (x :: ds)
  | ds => read 10 ds

/-- The labels of a name, but not an empty one at its end. -/
def labels (cs : List Char) : List (List Char) :=
  let all := Text.pieces '.' cs
  if all.getLast? = some [] then all.dropLast else all

/-- Whether the last label of the name is a number. -/
def endsInNumber (cs : List Char) : Bool :=
  match (labels cs).getLast? with
  | none => false
  | some last => (!last.isEmpty && last.all Char.isDigit) || (part? last).isSome

/-- The number with the parts. Each part but the last is eight bits, and the last one the rest. -/
def v4OfParts? (parts : List Nat) : Option Nat :=
  let front := parts.dropLast
  let last := parts.getLastD 0
  if parts.isEmpty || 4 < parts.length || front.any (255 < ·) ||
      Nat.pow 256 (5 - parts.length) ≤ last then none
  else some (front.foldl (fun n p => n * 256 + p) 0 * Nat.pow 256 (5 - parts.length) + last)

/-- The number that the name is. -/
def v4? (cs : List Char) : Option Nat := ((labels cs).mapM part?).bind v4OfParts?

/-! ## Numbers of 128 bits -/

/-- A group of one to four hexadecimal digits. -/
def group? (cs : List Char) : Option Nat :=
  if cs.isEmpty || 4 < cs.length then none else Text.extendDigits? 16 Text.hexDigit? 0 cs

/-- A number of eight bits, in decimal digits without zeros in front. -/
def octet? (cs : List Char) : Option Nat :=
  if cs.head? = some '0' ∧ cs ≠ ['0'] then none
  else (Text.natural? cs).bind fun n => if n < 256 then some n else none

/-- The groups of the last piece: one, or two that are written as a number of 32 bits. -/
def lastGroups? (cs : List Char) : Option (List Nat) :=
  if cs.contains '.' then
    match (Text.pieces '.' cs).mapM octet? with
    | some [a, b, c, d] => some [a * 256 + b, c * 256 + d]
    | _ => none
  else (group? cs).map fun g => [g]

/-- The groups of pieces with colons between them, which may be none at all. -/
def groups? (cs : List Char) : Option (List Nat) :=
  if cs.isEmpty then some []
  else
    let all := Text.pieces ':' cs
    match all.dropLast.mapM group?, lastGroups? (all.getLastD []) with
    | some front, some back => some (front ++ back)
    | _, _ => none

/-- What stands before and after the first two colons in a row. -/
def splitGap : List Char → Option (List Char × List Char)
  | [] => none
  | ':' :: ':' :: rest => some ([], rest)
  | c :: rest => (splitGap rest).map fun r => (c :: r.1, r.2)

/-- The number that stands in brackets. -/
def v6? (cs : List Char) : Option (List Nat) :=
  match splitGap cs with
  | none =>
    match groups? cs with
    | some gs => if gs.length = 8 then some gs else none
    | none => none
  | some (before, after) =>
    if before.contains '.' then none
    else
      match groups? before, groups? after with
      | some front, some back =>
        let count := front.length + back.length
        if count ≤ 7 then some (front ++ List.replicate (8 - count) 0 ++ back) else none
      | _, _ => none

/-! ## Reading and writing -/

/-- The octets of the characters, where a percent sign and two hexadecimal digits are one octet. -/
def unescape : List Char → Text.Octets
  | [] => []
  | '%' :: a :: b :: rest =>
    match Text.hexDigit? a, Text.hexDigit? b with
    | some high, some low => UInt8.ofNat (16 * high + low) :: unescape rest
    | _, _ => String.utf8EncodeChar '%' ++ unescape (a :: b :: rest)
  | c :: rest => String.utf8EncodeChar c ++ unescape rest

/-- The host that the characters are. -/
def read? (cs : List Char) : Option Host :=
  match cs with
  | '[' :: rest => if rest.getLast? = some ']' then (v6? rest.dropLast).map .v6 else none
  | _ => do
    let text ← Text.strict? (Text.ofOctets (unescape cs))
    let name ← Domain.read? text.toList
    if name.isEmpty then none
    else if endsInNumber name then (v4? name).map .v4
    else some (.domain (String.ofList name))

/-- Whether a host of any kind may hold the character. -/
def isPlainChar (c : Char) : Bool :=
  !(['\x00', '\t', '\n', '\r', ' ', '#', '/', ':', '<', '>', '?', '@', '[', '\\', ']', '^', '|'].contains c)

/-- The host that the characters are where it is not known what hosts are. -/
def readPlain? (cs : List Char) : Option Host :=
  match cs with
  | '[' :: _ => read? cs
  | _ =>
    if cs.all isPlainChar then some (.plain (String.ofList (encodeWith plainKeeps cs))) else none

/-- The first longest run of zeros: where it starts and how many they are. -/
def longestZeros (groups : List Nat) : Nat × Nat :=
  let runs := (List.range groups.length).map fun i => (i, ((groups.drop i).takeWhile (· = 0)).length)
  runs.foldl (fun best r => if best.2 < r.2 then r else best) (0, 0)

/-- Groups with colons between them. -/
def writeGroups (groups : List Nat) : List Char :=
  List.intercalate [':'] (groups.map (Nat.toDigits 16))

/-- The host as text. The first longest run of two or more zeros is left out. -/
def render : Host → String
  | .domain name | .plain name => name
  | .v4 bits =>
    ".".intercalate ([3, 2, 1, 0].map fun i => toString (bits / Nat.pow 256 i % 256))
  | .v6 groups =>
    let (start, count) := longestZeros groups
    String.ofList ('[' :: (if count < 2 then writeGroups groups
      else writeGroups (groups.take start) ++ ':' :: ':' :: writeGroups (groups.drop (start + count))) ++ [']'])

/-- The name or number without brackets. -/
def bare (h : Host) : String := String.ofList (h.render.toList.filter fun c => c ≠ '[' && c ≠ ']')

end Host

end CaseHerald.Net
