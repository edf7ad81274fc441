import CaseHerald.Net.Url
import CaseHerald.Net.Url.Path

/-!
# Reading addresses

An address is read from text as a browser reads it: blanks at the ends and line ends anywhere are
dropped, a backslash is a slash in the known schemes, and what may not stand in a part is
percent-encoded. A reference is read against the address on the web that it stands on.
-/
namespace CaseHerald.Net.Url

/-- The characters that count. -/
def relevant (cs : List Char) : List Char :=
  let isEnd (c : Char) : Bool := c.toNat ≤ 0x20
  let trimmed := ((cs.dropWhile isEnd).reverse.dropWhile isEnd).reverse
  trimmed.filter fun c => !(c = '\t' || c = '\n' || c = '\r')

/-- The characters before the first that passes the test, and the rest. -/
def upTo (stop : Char → Bool) (cs : List Char) : List Char × List Char :=
  (cs.takeWhile fun c => !stop c, cs.dropWhile fun c => !stop c)

/-- The scheme in front, in small letters, and what follows its colon. -/
def scheme? (cs : List Char) : Option (String × List Char) :=
  let (scheme, rest) := upTo (· = ':') cs
  let isLetter (c : Char) : Bool := c.isAlphanum || c = '+' || c = '-' || c = '.'
  match scheme, rest with
  | c :: cs, ':' :: rest =>
    if c.isAlpha && cs.all isLetter then some (String.ofList (scheme.map Char.toLower), rest) else none
  | _, _ => none

/-- Whether the scheme is a known one whose addresses name a host. -/
def isKnown (scheme : String) : Bool := ["http", "https", "ws", "wss", "ftp", "file"].contains scheme

/-- Whether the character is a slash in addresses of the scheme. -/
def isSlash (scheme : String) (c : Char) : Bool := c = '/' || (isKnown scheme && c = '\\')

/-- Whether the character ends the part before the path. -/
def endsAuthority (scheme : String) (c : Char) : Bool := isSlash scheme c || c = '?' || c = '#'

/-! ## Path, query and fragment -/

/-- The path, the query and the fragment of the characters, with the path as it stands. -/
def splitTail (cs : List Char) : List Char × Option (List Char) × Option (List Char) :=
  let (cs, fragment) := upTo (· = '#') cs
  let (path, query) := upTo (· = '?') cs
  (path, match query with
    | [] => none
    | _ :: q => some q, match fragment with
    | [] => none
    | _ :: f => some f)

/-- The address with the fragment. -/
def withFragment (u : Url) (fragment : Option (List Char)) : Url :=
  { u with fragment := fragment.map fun f => String.ofList (encodeWith fragmentKeeps f) }

/-- The address with the query and the fragment. -/
def withTail (u : Url) (query fragment : Option (List Char)) : Url :=
  let keeps := if isKnown u.scheme then queryKeeps else plainQueryKeeps
  { u with query := query.map fun q => String.ofList (encodeWith keeps q) }.withFragment fragment

/-- The address with the path, the query and the fragment that the characters are. -/
def withPath (u : Url) (cs : List Char) : Url :=
  let (path, query, fragment) := splitTail cs
  let path := if path.isEmpty && !isKnown u.scheme then [] else normalPath (isSlash u.scheme) path
  { u with path := String.ofList path }.withTail query fragment

/-! ## Hosts -/

/-- The authority after the last at sign, and what stands before it. -/
def splitUser (cs : List Char) : List Char × List Char :=
  if cs.contains '@' then
    let site := (cs.reverse.takeWhile (· ≠ '@')).reverse
    (cs.take (cs.length - site.length - 1), site)
  else ([], cs)

/-- The name and the password, where an empty password is none. -/
def userOf (cs : List Char) : String :=
  let (name, password) := upTo (· = ':') cs
  let encode (cs : List Char) : String := String.ofList (encodeWith userKeeps cs)
  match password.drop 1 with
  | [] => encode name
  | p => encode name ++ ":" ++ encode p

/-- The host, and what follows the first colon that is not in brackets. -/
def splitNumber (inside : Bool) : List Char → List Char × Option (List Char)
  | [] => ([], none)
  | c :: cs =>
    if c = ':' && !inside then ([], some cs)
    else
      let r := splitNumber (c = '[' || (inside && c ≠ ']')) cs
      (c :: r.1, r.2)

/-- The number of a service. An empty text is none. -/
def number? (scheme : String) : Option (List Char) → Option (Option Nat)
  | none | some [] => some none
  | some ds =>
    match Text.natural? ds with
    | some n => if n < 65536 then some (if usualNumber scheme = some n then none else some n) else none
    | none => none

/-- The host of an address with the scheme. One of an unknown scheme is not looked into. -/
def host? (scheme : String) (cs : List Char) : Option Host :=
  if isKnown scheme then Host.read? cs else Host.readPlain? cs

/-- The address of the characters after the scheme and the slashes. -/
def ofAuthority? (scheme : String) (cs : List Char) : Option Url :=
  let (authority, rest) := upTo (endsAuthority scheme) cs
  let (user, site) := splitUser authority
  let (hostText, numberText) := splitNumber false site
  if hostText.isEmpty && (isKnown scheme || numberText.isSome || authority.contains '@') then none
  else
    match host? scheme hostText, number? scheme numberText with
    | some host, some number =>
      let u : Url := ⟨scheme, userOf user, some host, number, "", none, none⟩
      some ((if u.isWeb then { u with user := "" } else u).withPath rest)
    | _, _ => none

/-- The path of an address of a file, where slashes in front count once. The bar after the letter of a
drive is a colon. -/
def filePath (cs : List Char) : List Char :=
  let cs := cs.dropWhile (isSlash "file")
  match cs with
  | c :: '|' :: rest =>
    if c.isAlpha && ((rest.head?.map (endsAuthority "file")).getD true) then c :: ':' :: rest else cs
  | _ => cs

/-- The address of a file after its scheme. -/
def ofFile? (cs : List Char) : Option Url :=
  let on (host : Host) (rest : List Char) : Url :=
    (⟨"file", "", some host, none, "", none, none⟩ : Url).withPath (filePath rest)
  match cs with
  | a :: b :: rest =>
    if isSlash "file" a && isSlash "file" b then
      let (name, after) := upTo (endsAuthority "file") rest
      if name.isEmpty || isDrive name then some (on (.plain "") rest)
      else (Host.read? name).map fun host =>
        on (if host = .domain "localhost" then .plain "" else host) after
    else some (on (.plain "") cs)
  | _ => some (on (.plain "") cs)

/-- The address of an unknown scheme after its colon. -/
def ofUnknown? (scheme : String) (cs : List Char) : Option Url :=
  let u : Url := ⟨scheme, "", none, none, "", none, none⟩
  match cs with
  | '/' :: '/' :: rest => ofAuthority? scheme rest
  | '/' :: _ => some (u.withPath cs)
  | _ =>
    let (path, query, fragment) := splitTail cs
    some ({ u with path := String.ofList (encodeWith plainKeeps path) }.withTail query fragment)

/-! ## References -/

/-- The folder of the path. -/
def folder (u : Url) : List Char := (u.path.toList.reverse.dropWhile (· ≠ '/')).reverse

/-- What a reference without a scheme names from the address on the web. -/
def relative? (u : Url) (cs : List Char) : Option Url :=
  let slashes := cs.takeWhile (isSlash u.scheme)
  let (_, query, fragment) := splitTail cs
  match cs with
  | [] | '#' :: _ => some (u.withFragment fragment)
  | '?' :: _ => some (u.withTail query fragment)
  | '/' :: '/' :: rest => ofAuthority? u.scheme rest
  | _ =>
    if 2 ≤ slashes.length then ofAuthority? u.scheme (cs.drop slashes.length)
    else if slashes.length = 1 then some (u.withPath cs)
    else some (u.withPath (u.folder ++ cs))

/-- The address that the text is, or what it refers to from an address on the web. -/
def read? (base : Option Url) (s : String) : Option Url :=
  let cs := relevant s.toList
  match scheme? cs with
  | none => base.bind fun u => u.relative? cs
  | some (scheme, rest) =>
    let slashes := rest.takeWhile (isSlash scheme)
    if scheme = "file" then ofFile? rest
    else if !isKnown scheme then ofUnknown? scheme rest
    else
      match base with
      | some u =>
        if u.scheme = scheme ∧ slashes.length < 2 then u.relative? rest
        else ofAuthority? scheme (rest.drop slashes.length)
      | none => ofAuthority? scheme (rest.drop slashes.length)

end CaseHerald.Net.Url
