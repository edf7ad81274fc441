import CaseHerald.Net.Percent

/-!
# Paths of addresses

A path is resolved as it is read: a segment of one dot is left out, one of two dots takes the segment
before it away, and what may not stand in a segment is percent-encoded.
-/
namespace CaseHerald.Net.Url

/-- A segment with its escaped dots as dots. -/
def plainDots : List Char → List Char
  | '%' :: '2' :: c :: cs =>
    if c = 'e' || c = 'E' then '.' :: plainDots cs else '%' :: '2' :: c :: plainDots cs
  | c :: cs => c :: plainDots cs
  | [] => []

/-- Whether the segment is the letter of a drive, which no dots take away. -/
def isDrive : List Char → Bool
  | [c, d] => c.isAlpha && (d = ':' || d = '|')
  | _ => false

/-- The segments without the last one, the last one first, unless that is a drive. -/
def shorten : List (List Char) → List (List Char)
  | [] => []
  | s :: done => if isDrive s then s :: done else done

/-- Resolves the dots of segments, where `done` holds those before, the last one first. A dot
segment at the end leaves an empty one. -/
def resolveDots (done : List (List Char)) : List (List Char) → List (List Char)
  | [] => done.reverse
  | s :: rest =>
    let dots := plainDots s
    if dots = ['.', '.'] then
      if rest.isEmpty then ([] :: shorten done).reverse else resolveDots (shorten done) rest
    else if dots = ['.'] then
      if rest.isEmpty then ([] :: done).reverse else resolveDots done rest
    else resolveDots (encodeWith pathKeeps s :: done) rest

/-- Splits at every slash. -/
def splitSlashes (isSlash : Char → Bool) (current : List Char) : List Char → List (List Char)
  | [] => [current.reverse]
  | c :: cs =>
    if isSlash c then current.reverse :: splitSlashes isSlash [] cs
    else splitSlashes isSlash (c :: current) cs

/-- The path in its final form, which begins with a slash. -/
def normalPath (isSlash : Char → Bool) (cs : List Char) : List Char :=
  let cs := match cs with
    | c :: rest => if isSlash c then rest else cs
    | [] => []
  '/' :: List.intercalate ['/'] (resolveDots [] (splitSlashes isSlash [] cs))

end CaseHerald.Net.Url
