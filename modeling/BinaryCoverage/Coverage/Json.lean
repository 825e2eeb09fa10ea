import BinaryCoverage.Coverage.Basic
import BinaryCoverage.Json.Decode
import BinaryCoverage.Json.Printer

/-!
# Documents as JSON

This file defines:

* `Document.toJson`, `Document.print` — the text of a document;
* `Document.decoder`, `Document.read?` — the document of a text.

Fields that are not known are skipped.  Only `covered` has to be there; what else is missing is
empty, zero, or the empty text for the metadata.
-/

namespace BinaryCoverage

open Json (Decoder Fields)

/-! ## Writing -/

def Table.toJson {κ α : Type} [Ord κ] [Std.TransOrd κ] (key : κ → String) (value : α → Json)
    (t : Table κ α) : Json :=
  .object (t.toList.map fun (k, v) => (key k, value v))

/-- A number as the key of an object. -/
def keyText (n : Nat) : String := String.ofList (Text.decimal n)

def InstructionRecord.toJson (r : InstructionRecord) : Json :=
  .array [.string r.opcode, Json.ofWord64 r.count]

def LineCoverage.toJson (l : LineCoverage) : Json :=
  .object
    [("covered", .bool l.covered),
      ("elf_index",
        l.records.toJson (keyText ·.toNat) fun byAddress =>
          byAddress.toJson (keyText ·.toNat) InstructionRecord.toJson)]

def FunctionCoverage.toJson (f : FunctionCoverage) : Json :=
  .object [("covered", .bool f.covered), ("line_number", Json.ofWord32 f.declaredAt)]

def FileCoverage.toJson (c : FileCoverage) : Json :=
  .object
    [("functions", c.functions.toJson id FunctionCoverage.toJson),
      ("lines", c.lines.toJson (keyText ·.toNat) LineCoverage.toJson)]

def Provenance.toJson (p : Provenance) : Json :=
  .object
    [("sources", .array (p.sources.map (·.json))),
      ("metadata", p.metadata.json),
      ("elf_map", p.binaries.toJson id Json.ofWord32)]

def Document.toJson (d : Document) : Json :=
  .object
    [("source_files", d.files.toJson id FileCoverage.toJson),
      ("configuration", d.provenance.toJson)]

def Document.print (d : Document) : String := d.toJson.print

/-! ## Reading -/

def InstructionRecord.decoder : Decoder InstructionRecord := fun level raw =>
  (Decoder.pair Decoder.text Decoder.word64 level raw).map fun (opcode, count) => ⟨opcode, count⟩

def LineCoverage.decoder : Decoder LineCoverage := fun level raw => do
  let fields ← Fields.of? ["covered", "elf_index"] level raw
  let covered ← fields.required "covered" Decoder.flag
  let records ← fields.optional "elf_index" ∅
    (Decoder.table Decoder.key32? (Decoder.table Decoder.key64? InstructionRecord.decoder))
  some { covered, records }

def FunctionCoverage.decoder : Decoder FunctionCoverage := fun level raw => do
  let fields ← Fields.of? ["covered", "line_number"] level raw
  let covered ← fields.required "covered" Decoder.flag
  let declaredAt ← fields.optional "line_number" 0 Decoder.word32
  some { covered, declaredAt }

def FileCoverage.decoder : Decoder FileCoverage := fun level raw => do
  let fields ← Fields.of? ["functions", "lines"] level raw
  let functions ← fields.optional "functions" ∅
    (Decoder.table Json.textOf? FunctionCoverage.decoder)
  let lines ← fields.optional "lines" ∅ (Decoder.table Decoder.key32? LineCoverage.decoder)
  some { functions, lines }

def Provenance.decoder : Decoder Provenance := fun level raw => do
  let fields ← Fields.of? ["sources", "metadata", "elf_map"] level raw
  let sources ← fields.optional "sources" [] (Decoder.list Decoder.payload)
  let metadata ← fields.optional "metadata" Payload.emptyText Decoder.payload
  let binaries ← fields.optional "elf_map" ∅ (Decoder.table Json.textOf? Decoder.word32)
  some { sources, metadata, binaries }

def Document.decoder : Decoder Document := fun level raw => do
  let fields ← Fields.of? ["source_files", "configuration"] level raw
  let files ← fields.optional "source_files" ∅ (Decoder.table Json.textOf? FileCoverage.decoder)
  let provenance ← fields.optional "configuration" {} Provenance.decoder
  some { files, provenance }

def FileCoverage.read? (text : String) : Option FileCoverage := do
  FileCoverage.decoder Json.levels (← Json.Raw.read? text)

def Document.read? (text : String) : Option Document := do
  Document.decoder Json.levels (← Json.Raw.read? text)

end BinaryCoverage
