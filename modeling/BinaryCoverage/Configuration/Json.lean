import BinaryCoverage.Configuration.Basic
import BinaryCoverage.Json.Decode
import BinaryCoverage.Json.Printer

/-!
# Configurations as JSON

A configuration has the sections `configuration`, `parameters` and `elfs`.  Everything but the
latter two and the names of binaries may be missing, and unknown fields are skipped.
-/

namespace BinaryCoverage

open Json (Decoder Fields)

/-- The fields of the sections, in the order in which an array would list them. -/
def RunConfig.sectionNames : List String := ["configuration", "parameters", "elfs"]

def RunConfig.switchNames : List String := ["remove_workspace"]

def RunConfig.parameterNames : List String :=
  ["objdump", "ctags", "workspace", "output_file", "sources", "metadata"]

def BinaryConfig.fieldNames : List String := ["name", "traces", "exclude_functions"]

/-! ## Reading -/

def BinaryConfig.decoder : Decoder BinaryConfig := fun level raw => do
  let fields ← Fields.of? BinaryConfig.fieldNames level raw
  let image ← fields.required "name" Decoder.text
  let traces ← fields.optional "traces" [] (Decoder.list Decoder.text)
  let exclusions ← fields.optional "exclude_functions" [] (Decoder.list Decoder.text)
  some { image, traces, exclusions }

namespace RunConfig

/-- The switches: whether keys are relative. -/
def switches : Decoder Bool := fun level raw => do
  let fields ← Fields.of? switchNames level raw
  fields.optional "remove_workspace" false Decoder.flag

/-- The parameters, as a configuration without binaries. -/
def parameters : Decoder RunConfig := fun level raw => do
  let fields ← Fields.of? parameterNames level raw
  let disassembler ← fields.optional "objdump" "objdump" Decoder.text
  let crossReferencer ← fields.optional "ctags" none (Decoder.nullable Decoder.text)
  let workspace ← fields.optional "workspace" "" Decoder.text
  let outputFile ← fields.optional "output_file" "" Decoder.text
  let sources ← fields.optional "sources" [] (Decoder.list Decoder.payload)
  let metadata ← fields.optional "metadata" none (Decoder.nullable Decoder.payload)
  some
    { disassembler, crossReferencer, workspace, outputFile, sources, metadata, binaries := [] }

def decoder : Decoder RunConfig := fun level raw => do
  let fields ← Fields.of? sectionNames level raw
  let relativeKeys ← fields.optional "configuration" false switches
  let config ← fields.required "parameters" parameters
  let binaries ← fields.required "elfs" (Decoder.list BinaryConfig.decoder)
  some { config with relativeKeys, binaries }

def ofJson? (text : String) : Option RunConfig := do
  decoder Json.levels (← Json.Raw.read? text)

/-! ## Writing -/

def binaryJson (b : BinaryConfig) : Json :=
  .object
    [("name", .string b.image),
      ("traces", .array (b.traces.map .string)),
      ("exclude_functions", .array (b.exclusions.map .string))]

def toJson (c : RunConfig) : Json :=
  .object
    [("configuration", .object [("remove_workspace", .bool c.relativeKeys)]),
      ("parameters",
        .object
          ([("objdump", Json.string c.disassembler)] ++
            (c.crossReferencer.map fun tool => ("ctags", Json.string tool)).toList ++
            [("workspace", .string c.workspace),
              ("output_file", .string c.outputFile),
              ("sources", .array (c.sources.map (·.json))),
              ("metadata", (c.metadata.map (·.json)).getD .null)])),
      ("elfs", .array (c.binaries.map binaryJson))]

end RunConfig

end BinaryCoverage
