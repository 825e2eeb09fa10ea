import BinaryCoverage.Configuration.Json
import BinaryCoverage.Yaml.Decode

/-!
# Configurations as YAML

A configuration in YAML has the sections and fields of one in JSON.
-/

namespace BinaryCoverage

open Yaml (Decoder Fields)

namespace BinaryConfig

/-- The binary that a node of a document describes. -/
def fromNode : Decoder BinaryConfig := fun d level n => do
  let fields ← Fields.ofNode fieldNames d level n
  let image ← fields.required d "name" Decoder.text
  let traces ← fields.optional d "traces" [] (Decoder.list Decoder.text)
  let exclusions ← fields.optional d "exclude_functions" [] (Decoder.list Decoder.text)
  pure { image, traces, exclusions }

end BinaryConfig

namespace RunConfig

def switchesFromNode : Decoder Bool := fun d level n => do
  let fields ← Fields.ofNode switchNames d level n
  fields.optional d "remove_workspace" false Decoder.flag

def parametersFromNode : Decoder RunConfig := fun d level n => do
  let fields ← Fields.ofNode parameterNames d level n
  let disassembler ← fields.optional d "objdump" "objdump" Decoder.text
  let crossReferencer ← fields.optional d "ctags" none (Decoder.nullable Decoder.text)
  let workspace ← fields.optional d "workspace" "" Decoder.text
  let outputFile ← fields.optional d "output_file" "" Decoder.text
  let sources ← fields.optional d "sources" [] (Decoder.list Decoder.payload)
  let metadata ← fields.optional d "metadata" none (Decoder.nullable Decoder.payload)
  pure
    { disassembler, crossReferencer, workspace, outputFile, sources, metadata, binaries := [] }

def fromNode : Decoder RunConfig := fun d level n => do
  let fields ← Fields.ofNode sectionNames d level n
  let relativeKeys ← fields.optional d "configuration" false switchesFromNode
  let config ← fields.required d "parameters" parametersFromNode
  let binaries ← fields.required d "elfs" (Decoder.list BinaryConfig.fromNode)
  pure { config with relativeKeys, binaries }

def ofYaml? (text : String) : Option RunConfig := do
  (← Yaml.Document.read? text).decode? fromNode

end RunConfig

end BinaryCoverage
