import CaseHerald.Digest.Sha256
import CaseHerald.Store.Volume

/-!
# Volumes as documents

A volume is written with its tables in the order of their names, and the keys of each in hexadecimal
digits.
-/
namespace CaseHerald.Store.Volume

open Json (Value Record Decoder)
open Text (Octets)

/-- The entries of a table as a document, where `write` writes a value. -/
def writeTable {α : Type} (write : α → Value) (t : Table α) : Value :=
  .list (t.entries.map fun e => .list [.text (Digest.hexText e.1), write e.2])

/-- A table of a document, where `d` decodes a value. -/
def tableOfJson? {α : Type} (d : Decoder α) : Decoder (Table α) := fun raw => do
  let entries ← Decoder.list (fun entry => do
    let r ← Record.read? ["key", "value"] true entry
    let key ← r.need "key" (.via fun s => Text.ofHex? s.toList)
    return (key, ← r.need "value" d)) raw
  return entries.foldl (fun t e => t.insert e.1 e.2) ∅

/-- The volume as a document. -/
def toJson (v : Volume) : Value :=
  .object [("megabytes", .nat v.megabytes), ("tables", writeTable (writeTable .text) v.tables)]

/-- The volume of a document. -/
def ofJson? : Decoder Volume := fun raw => do
  let r ← Record.read? ["megabytes", "tables"] false raw
  let megabytes ← r.need "megabytes" fun
    | .number n => n.toNat?
    | _ => none
  return ⟨megabytes, ← r.need "tables" (tableOfJson? (tableOfJson? .text))⟩

end CaseHerald.Store.Volume
