import BinaryCoverage.Coverage.File
import BinaryCoverage.Proofs.Json.Record
import BinaryCoverage.Proofs.Table

/-!
# Documents read back

The text of a document is read as that document again, unless it opens too many arrays and objects
at once; and what is accepted never does.  Floating point is left aside.  This file defines:

* `Document.IsFloatless` — there is no floating-point number in what is passed through.
-/

namespace BinaryCoverage

open Json (Decoder Fields Piece pieces textOf?_pieces key32?_pieces key64?_pieces)

/-! ## Decoders of the parts -/

theorem Json.Decoder.reads_table {κ α : Type} [Ord κ] [Std.TransOrd κ] [Std.LawfulEqOrd κ]
    [DecidableEq κ] {key : List Piece → Option κ} {write : κ → String} {item : Decoder α}
    {writeItem : α → Json} (hkey : ∀ k, key (pieces (write k)) = some k)
    (hitem : item.Reads writeItem) :
    (Decoder.table key item).Reads (Table.toJson write writeItem) := by
  intro t level hfloatless hdepth
  rcases Json.inside_object hfloatless hdepth with ⟨below, hbelow, hparts⟩
  -- A table is written in the order of its keys, so that its entries come back in that order.
  have hentry : ∀ entry ∈ t.toList, ((key (pieces (write entry.1))).bind fun k =>
      (item below (writeItem entry.2).form).bind fun v => some (k, v)) = some entry := by
    intro entry hentry
    rcases hparts _ (List.mem_map_of_mem hentry) with ⟨hfloatless, hdepth⟩
    rw [hkey, Option.bind_some, hitem entry.2 below hfloatless hdepth]
    rfl
  change (Json.descend? level).bind (fun level =>
    Option.bind ((Json.fieldForms (t.toList.map fun e => (write e.1, writeItem e.2))).mapM
      fun e => (key e.1).bind fun k => (item level e.2).bind fun v => some (k, v))
        fun entries => some (Table.build entries)) = _
  rw [hbelow, Option.bind_some, Json.fieldForms_eq_map, List.map_map, Json.mapM_map_of_inverse,
    Option.bind_some, Table.build_toList]
  exact hentry

theorem InstructionRecord.reads : decoder.Reads toJson := by
  intro r level hfloatless hdepth
  have hpair : Decoder.pair Decoder.text Decoder.word64 level r.toJson.form =
      some (r.opcode, r.count) :=
    Decoder.reads_pair Decoder.reads_text Decoder.reads_word64 (r.opcode, r.count) level hfloatless
      hdepth
  unfold decoder
  rw [hpair]
  rfl

theorem LineCoverage.reads : decoder.Reads toJson := by
  intro l level hfloatless hdepth
  rcases Fields.of?_form (by simp) hfloatless hdepth with ⟨f, hf, hshows⟩
  have hfields : Fields.of? ["covered", "elf_index"] level l.toJson.form = some f := hf
  have hcovered : f.required "covered" Decoder.flag = some l.covered :=
    hshows.required Decoder.reads_flag (.head _)
  have hrecords : f.optional "elf_index" ∅
      (Decoder.table Decoder.key32? (Decoder.table Decoder.key64? InstructionRecord.decoder)) =
        some l.records :=
    hshows.optional (Decoder.reads_table key32?_pieces
      (Decoder.reads_table key64?_pieces InstructionRecord.reads)) (.tail _ (.head _)) ∅
  unfold decoder
  simp only [hfields, hcovered, hrecords, Option.bind_eq_bind, Option.bind_some]

theorem FunctionCoverage.reads : decoder.Reads toJson := by
  intro c level hfloatless hdepth
  rcases Fields.of?_form (by simp) hfloatless hdepth with ⟨f, hf, hshows⟩
  have hfields : Fields.of? ["covered", "line_number"] level c.toJson.form = some f := hf
  have hcovered : f.required "covered" Decoder.flag = some c.covered :=
    hshows.required Decoder.reads_flag (.head _)
  have hline : f.optional "line_number" 0 Decoder.word32 = some c.declaredAt :=
    hshows.optional Decoder.reads_word32 (.tail _ (.head _)) 0
  unfold decoder
  simp only [hfields, hcovered, hline, Option.bind_eq_bind, Option.bind_some]

theorem FileCoverage.reads : decoder.Reads toJson := by
  intro c level hfloatless hdepth
  rcases Fields.of?_form (by simp) hfloatless hdepth with ⟨f, hf, hshows⟩
  have hfields : Fields.of? ["functions", "lines"] level c.toJson.form = some f := hf
  have hfunctions : f.optional "functions" ∅
      (Decoder.table Json.textOf? FunctionCoverage.decoder) = some c.functions :=
    hshows.optional (Decoder.reads_table textOf?_pieces FunctionCoverage.reads) (.head _) ∅
  have hlines : f.optional "lines" ∅
      (Decoder.table Decoder.key32? LineCoverage.decoder) = some c.lines :=
    hshows.optional (Decoder.reads_table key32?_pieces LineCoverage.reads) (.tail _ (.head _)) ∅
  unfold decoder
  simp only [hfields, hfunctions, hlines, Option.bind_eq_bind, Option.bind_some]

theorem Provenance.reads : decoder.Reads toJson := by
  intro p level hfloatless hdepth
  rcases Fields.of?_form (by simp) hfloatless hdepth with ⟨f, hf, hshows⟩
  have hfields : Fields.of? ["sources", "metadata", "elf_map"] level p.toJson.form = some f := hf
  have hsources : f.optional "sources" [] (Decoder.list Decoder.payload) = some p.sources :=
    hshows.optional (Decoder.reads_list Decoder.reads_payload) (.head _) []
  have hmetadata : f.optional "metadata" Payload.emptyText Decoder.payload = some p.metadata :=
    hshows.optional Decoder.reads_payload (.tail _ (.head _)) Payload.emptyText
  have hbinaries : f.optional "elf_map" ∅
      (Decoder.table Json.textOf? Decoder.word32) = some p.binaries :=
    hshows.optional (Decoder.reads_table textOf?_pieces Decoder.reads_word32)
      (.tail _ (.tail _ (.head _))) ∅
  unfold decoder
  simp only [hfields, hsources, hmetadata, hbinaries, Option.bind_eq_bind, Option.bind_some]

theorem Document.reads : decoder.Reads toJson := by
  intro d level hfloatless hdepth
  rcases Fields.of?_form (by simp) hfloatless hdepth with ⟨f, hf, hshows⟩
  have hfields : Fields.of? ["source_files", "configuration"] level d.toJson.form = some f := hf
  have hfiles : f.optional "source_files" ∅
      (Decoder.table Json.textOf? FileCoverage.decoder) = some d.files :=
    hshows.optional (Decoder.reads_table textOf?_pieces FileCoverage.reads) (.head _) ∅
  have hprovenance : f.optional "configuration" {} Provenance.decoder = some d.provenance :=
    hshows.optional Provenance.reads (.tail _ (.head _)) {}
  unfold decoder
  simp only [hfields, hfiles, hprovenance, Option.bind_eq_bind, Option.bind_some]

/-! ## Nesting of what is written -/

theorem Table.within_toJson {κ α : Type} [Ord κ] [Std.TransOrd κ] (key : κ → String)
    {value : α → Json} {n : Nat} (h : ∀ v, (value v).Within n) (t : Table κ α) :
    (t.toJson key value).Within (n + 1) := by
  refine Json.within_object ?_
  intro field hfield
  rcases List.mem_map.1 hfield with ⟨entry, -, rfl⟩
  exact h entry.2

theorem InstructionRecord.within_toJson (r : InstructionRecord) : r.toJson.Within 1 :=
  ⟨rfl, Nat.le_refl 1⟩

theorem FunctionCoverage.within_toJson (f : FunctionCoverage) : f.toJson.Within 1 :=
  ⟨rfl, Nat.le_refl 1⟩

theorem LineCoverage.within_toJson (l : LineCoverage) : l.toJson.Within 4 := by
  have hrecords := Table.within_toJson (keyText ·.toNat)
    (Table.within_toJson (keyText ·.toNat) InstructionRecord.within_toJson) l.records
  refine Json.within_object ?_
  simp only [List.forall_mem_cons]
  exact ⟨⟨rfl, Nat.zero_le 3⟩, hrecords, by simp⟩

theorem FileCoverage.within_toJson (c : FileCoverage) : c.toJson.Within 6 := by
  have hfunctions := Table.within_toJson id FunctionCoverage.within_toJson c.functions
  have hlines := Table.within_toJson (keyText ·.toNat) LineCoverage.within_toJson c.lines
  refine Json.within_object ?_
  simp only [List.forall_mem_cons]
  exact ⟨hfunctions.mono (by omega), hlines, by simp⟩

/-- Only what is passed through can open many arrays and objects. -/
theorem Document.within_toJson {d : Document} {n : Nat} (hn : 5 ≤ n)
    (hsources : ∀ p ∈ d.provenance.sources, p.json.Within n)
    (hmetadata : d.provenance.metadata.json.Within (n + 1)) : d.toJson.Within (n + 3) := by
  have hword (w : UInt32) : (Json.ofWord32 w).Within 0 := ⟨rfl, Nat.le_refl 0⟩
  have hfiles := Table.within_toJson id FileCoverage.within_toJson d.files
  have hbinaries := Table.within_toJson id hword d.provenance.binaries
  have harray : (Json.array (d.provenance.sources.map (·.json))).Within (n + 1) := by
    refine Json.within_array ?_
    intro item hitem
    rcases List.mem_map.1 hitem with ⟨p, hp, rfl⟩
    exact hsources p hp
  have hprovenance : d.provenance.toJson.Within (n + 2) := by
    refine Json.within_object ?_
    simp only [List.forall_mem_cons]
    exact ⟨harray, hmetadata, hbinaries.mono (by omega), by simp⟩
  refine Json.within_object ?_
  simp only [List.forall_mem_cons]
  exact ⟨hfiles.mono (by omega), hprovenance, by simp⟩

/-- There is no floating-point number in what is passed through. -/
def Document.IsFloatless (d : Document) : Prop :=
  (∀ p ∈ d.provenance.sources, p.json.isFloatless) ∧ d.provenance.metadata.json.isFloatless

theorem Document.isFloatless_toJson {d : Document} (h : d.IsFloatless) : d.toJson.isFloatless := by
  -- Any bound will do here that is large enough for what is passed through.
  let n := max 5 (max (Json.itemsDepth (d.provenance.sources.map (·.json)))
    d.provenance.metadata.json.depth)
  have hsources : ∀ p ∈ d.provenance.sources, p.json.Within n := by
    intro p hp
    have hdepth : p.json.depth ≤ Json.itemsDepth (d.provenance.sources.map (·.json)) :=
      Json.itemsDepth_le_iff.1 (Nat.le_refl _) p.json (List.mem_map_of_mem hp)
    exact ⟨h.1 p hp, by omega⟩
  have hmetadata : d.provenance.metadata.json.Within (n + 1) := ⟨h.2, by omega⟩
  exact (Document.within_toJson (by omega) hsources hmetadata).isFloatless

/-! ## Nesting of what is accepted -/

theorem Provenance.depth_of_decoder {level : Nat} {raw : Json.Raw} {p : Provenance}
    (h : decoder level raw = some p) :
    (∀ source ∈ p.sources, source.json.depth + 2 < level) ∧ p.metadata.json.depth + 1 < level := by
  rcases Option.bind_eq_some_iff.1 h with ⟨f, hf, h⟩
  rcases Option.bind_eq_some_iff.1 h with ⟨sources, hsources, h⟩
  rcases Option.bind_eq_some_iff.1 h with ⟨metadata, hmetadata, h⟩
  rcases Option.bind_eq_some_iff.1 h with ⟨binaries, -, h⟩
  cases h
  rcases Fields.level_of_of? hf with ⟨hpos, rfl⟩
  refine ⟨?_, ?_⟩
  · intro source hsource
    rcases Fields.of_optional hsources with rfl | ⟨raw, hraw⟩
    · cases hsource
    · rcases Decoder.of_list hraw with ⟨below, hbelow, hlevel, hread⟩
      rcases hread source hsource with ⟨part, hpart⟩
      have hdepth := Decoder.depth_of_payload hbelow hpart
      omega
  · -- Where the field is missing, its value is the empty text, which opens nothing.
    rcases Fields.of_optional hmetadata with rfl | ⟨raw, hraw⟩
    · exact Nat.succ_lt_succ hpos
    · exact Nat.succ_lt_succ (Decoder.depth_of_payload hpos hraw)

namespace Document

variable {d : Document}

/-- What is accepted opens fewer arrays and objects at once than there are levels. -/
theorem depth_of_parse {text : String} (h : parse text = .ok d) (hfloatless : d.IsFloatless) :
    d.toJson.depth < Json.levels := by
  have hread : read? text = some d := by
    unfold parse at h
    split at h
    · rename_i e he
      cases h
      exact he
    · cases h
  rcases Option.bind_eq_some_iff.1 hread with ⟨raw, -, hdecoder⟩
  rcases Option.bind_eq_some_iff.1 hdecoder with ⟨f, hf, hdecoder⟩
  rcases Option.bind_eq_some_iff.1 hdecoder with ⟨files, -, hdecoder⟩
  rcases Option.bind_eq_some_iff.1 hdecoder with ⟨provenance, hprovenance, hdecoder⟩
  cases hdecoder
  rcases Fields.level_of_of? hf with ⟨-, hlevel⟩
  -- The document itself takes the first of the levels.
  have hlevel : f.level = 127 := by
    have hlevels : Json.levels = 128 := rfl
    omega
  have hdepth : (∀ source ∈ provenance.sources, source.json.depth + 2 < 127) ∧
      provenance.metadata.json.depth + 1 < 127 := by
    rcases Fields.of_optional hprovenance with rfl | ⟨raw, hraw⟩
    · exact ⟨nofun, by decide⟩
    · rw [hlevel] at hraw
      exact Provenance.depth_of_decoder hraw
  have hsources : ∀ source ∈ provenance.sources, source.json.Within 124 := by
    intro source hsource
    have hsourceDepth := hdepth.1 source hsource
    exact ⟨hfloatless.1 source hsource, by omega⟩
  have hmetadata : provenance.metadata.json.Within (124 + 1) := ⟨hfloatless.2, by omega⟩
  have hwithin : (toJson ⟨files, provenance⟩).Within (124 + 3) :=
    within_toJson (by omega) hsources hmetadata
  exact Nat.lt_succ_of_le hwithin.depth

/-! ## Round trips -/

theorem parse_of_depth (hfloatless : d.IsFloatless) (hdepth : d.toJson.depth < Json.levels) :
    parse d.print = .ok d := by
  have hplain := isFloatless_toJson hfloatless
  have hread : read? d.print = some d := by
    unfold read? print
    rw [Json.read?_print hplain]
    exact Document.reads d Json.levels hplain hdepth
  unfold parse
  rw [hread]

/-- A document is read back from its text unless it opens 128 arrays and objects at once, and
what has been accepted from some text is read back from its own text. -/
theorem parse_print (hfloatless : d.IsFloatless) :
    (parse d.print = .ok d ↔ d.toJson.depth < 128) ∧
      ∀ text, parse text = .ok d → parse d.print = .ok d := by
  refine ⟨⟨?_, ?_⟩, ?_⟩
  · intro hparse
    exact depth_of_parse hparse hfloatless
  · intro hdepth
    exact parse_of_depth hfloatless hdepth
  · intro text htext
    exact parse_of_depth hfloatless (depth_of_parse htext hfloatless)

/-- One instruction that has run, in a file with an awkward name. -/
def awkward : Document where
  files := Table.build [("a\"\\\x1f.c", { lines := Table.build [(3,
    { covered := true
      records := Table.build [(0, Table.build [(4096, ⟨"nop\tß", 18446744073709551615⟩)])] })] })]
  provenance :=
    { sources :=
        [⟨.object [("a", .string "\n"), ("b", .array [.integer ⟨-1, by omega, by omega⟩])],
          by decide⟩]
      binaries := Table.build [("bl1", 0)] }

/-- The document of a text that gives no more than one source. -/
def sole : Document := { provenance := { sources := [⟨.string "ß", rfl⟩] } }

theorem parse_print_awkward :
    parse awkward.print = .ok awkward ∧
      parse "[\x7b\x7d, [[\"\\u00df\"]]]" = .ok sole ∧ parse sole.print = .ok sole := by
  have hawkward : awkward.IsFloatless := by
    simp [IsFloatless, awkward, Json.isFloatless, Json.fieldsFloatless, Json.allFloatless,
      Payload.emptyText]
  have hsole : sole.IsFloatless := by
    simp [IsFloatless, sole, Json.isFloatless, Payload.emptyText]
  have htext : parse "[\x7b\x7d, [[\"\\u00df\"]]]" = .ok sole := by
    have hread : read? "[\x7b\x7d, [[\"\\u00df\"]]]" = some sole := by
      decide +kernel
    unfold parse
    rw [hread]
  exact ⟨(parse_print hawkward).1.2 (by decide +kernel), htext, (parse_print hsole).2 _ htext⟩

end Document

end BinaryCoverage
