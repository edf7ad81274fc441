import CaseHerald.Net.Http
import CaseHerald.Text.Numeral

/-!
# Requests and responses on a connection

A connection carries one request and one response. A request is written as lines and a body of known
length; a response is read when the connection has been closed, and its body comes as a whole, in a
known length or in chunks.
-/
namespace CaseHerald.Net

open Text (Octets octets)

/-! ## Writing a request -/

/-- A line with its end. -/
def wireLine (s : String) : Octets := octets s ++ [0x0D, 0x0A]

/-- The request as it goes over the connection. -/
def Request.toWire (r : Request) : Octets :=
  let body := r.body.getD []
  let length := if r.body.isSome then [("content-length", toString body.length)] else []
  let headers := [("host", r.url.authority), ("accept", "*/*"), ("connection", "close")] ++
    r.headers ++ length
  wireLine (r.method ++ " " ++ r.url.target ++ " HTTP/1.1") ++
    headers.flatMap (fun h => wireLine (h.1 ++ ": " ++ h.2)) ++ wireLine "" ++ body

/-! ## Reading a response -/

/-- The first line without its end, and what follows it. -/
def takeLine : Octets → Option (Octets × Octets)
  | [] => none
  | 0x0A :: rest => some ([], rest)
  | 0x0D :: 0x0A :: rest => some ([], rest)
  | b :: rest => (takeLine rest).map fun r => (b :: r.1, r.2)

theorem length_takeLine {s line rest : Octets} (h : takeLine s = some (line, rest)) :
    rest.length < s.length := by
  fun_induction takeLine s generalizing line rest with
  | case1 => simp at h
  | case2 r => cases h; simp
  | case3 r =>
    cases h
    simp only [List.length_cons]
    omega
  | case4 b s _ _ ih =>
    obtain ⟨⟨line', rest'⟩, h', heq⟩ := Option.map_eq_some_iff.1 h
    cases heq
    exact Nat.lt_succ_of_lt (ih h')

/-- Octets as ASCII text. -/
def asciiText (s : Octets) : String := String.ofList (s.map fun b => Char.ofNat b.toNat)

/-- The name and the value in a line, without blanks around the value. -/
def headerOfLine? (line : Octets) : Option (String × Octets) :=
  let isBlank (b : UInt8) : Bool := b = 0x20 || b = 0x09
  match line.dropWhile (· ≠ 0x3A) with
  | [] => none
  | _ :: value =>
    let value := ((value.dropWhile isBlank).reverse.dropWhile isBlank).reverse
    some (asciiText (line.takeWhile (· ≠ 0x3A)), value)

/-- The headers up to the empty line, and what follows it. -/
def takeHeaders (s : Octets) : Option (List (String × Octets) × Octets) :=
  match _h : takeLine s with
  | none => none
  | some ([], rest) => some ([], rest)
  | some (line, rest) =>
    match headerOfLine? line, takeHeaders rest with
    | some header, some (headers, rest) => some (header :: headers, rest)
    | _, _ => none
termination_by s.length
decreasing_by exact length_takeLine _h

/-- The status in the first line of a response. -/
def statusOfLine? (line : Octets) : Option Nat :=
  match (asciiText line).splitOn " " with
  | _ :: code :: _ => Text.natural? code.toList
  | _ => none

/-- The length of a chunk in the line before it. -/
def chunkLength? (line : Octets) : Option Nat :=
  let ds := (asciiText line).toList.takeWhile fun c => (Text.hexDigit? c).isSome
  if ds.isEmpty then none else Text.extendDigits? 16 Text.hexDigit? 0 ds

/-- The body that comes in chunks. -/
def joinChunks (s : Octets) : Option Octets :=
  match _h : takeLine s with
  | none => none
  | some (line, rest) =>
    match chunkLength? line with
    | none => none
    | some 0 => some []
    | some n =>
      if rest.length < n then none
      else
        match _h' : takeLine (rest.drop n) with
        | none => none
        | some (_, later) => (joinChunks later).map (rest.take n ++ ·)
termination_by s.length
decreasing_by
  have h₁ := length_takeLine _h
  have h₂ := length_takeLine _h'
  simp only [List.length_drop] at h₂
  omega

/-- The body of a response that was asked for by the method, from what follows its headers. -/
def bodyOfWire? (method : String) (r : Response) (s : Octets) : Option Octets :=
  if method = "HEAD" ∨ r.status = 204 ∨ r.status = 304 then some []
  else if (r.header? "transfer-encoding").isSome then joinChunks s
  else
    match (r.header? "content-length").bind fun v => Text.natural? (asciiText v).toList with
    | none => some s
    | some n => if s.length < n then none else some (s.take n)

/-- The response to a request with the method, from what came over the connection. Notices before it
are passed over. -/
def responseOfWire? (method : String) (s : Octets) : Option Response :=
  match takeLine s with
  | none => none
  | some (line, rest) =>
    match statusOfLine? line, takeHeaders rest with
    | some status, some (headers, body) =>
      if _h : status < 200 ∧ body.length < s.length then responseOfWire? method body
      else
        let r : Response := ⟨status, headers, []⟩
        (bodyOfWire? method r body).map fun body => { r with body }
    | _, _ => none
termination_by s.length
decreasing_by exact _h.2

end CaseHerald.Net
