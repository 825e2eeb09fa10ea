import BinaryCoverage.Proofs.Run.Entries
import BinaryCoverage.Proofs.Trace.Load

/-!
# Binaries that a run tells apart

A run knows a binary by its name, which is the stem of its path: two binaries have one index just
when they have one name, whatever their paths are.  The records under an index are those of the
transcripts of its name, and the others do not touch them (`run_identifies`).
-/

namespace BinaryCoverage

/-! ## Observations by name -/

namespace BinaryInput

variable {m : SourceMapping} {r : BinaryRegistry} {inputs : List BinaryInput} {name : String}
  {i : UInt32}

theorem filter_observations_of_ne {x : BinaryInput} {j : UInt32} (hne : j ≠ i) (key : String)
    (n : UInt32) (address : UInt64) :
    (x.observations m j).filter (Observation.isAt key n i address) = [] := by
  rw [List.filter_eq_nil_iff]
  intro o ho hat
  obtain ⟨hbinary, -⟩ := mem_observations_iff.1 ho
  simp only [Observation.isAt, decide_eq_true_eq] at hat
  exact hne (hbinary.symm.trans hat.2.2.1)

/-- Under the index of a name only the transcripts of that name observe anything. -/
theorem filter_observationsAll
    (hname : (r.indexAll (inputs.map (·.name))).assigned[name]? = some i)
    (hunique : ∀ a, (r.indexAll (inputs.map (·.name))).assigned[a]? = some i → a = name)
    (key : String) (n : UInt32) (address : UInt64) :
    (observationsAll m r inputs).filter (Observation.isAt key n i address) =
      ((inputs.filter (·.name = name)).flatMap (·.observations m i)).filter
        (Observation.isAt key n i address) := by
  induction inputs generalizing r with
  | nil =>
      rfl
  | cons x rest ih =>
      -- The index that the first transcript is given is still its own in the end.
      have hfirst := r.assigned_indexAll_cons x.name (rest.map (·.name))
      rw [← List.map_cons] at hfirst
      rw [observationsAll, List.filter_append, ih hname hunique]
      by_cases hx : x.name = name
      · rw [hx, hname] at hfirst
        rw [List.filter_cons_of_pos (by simpa using hx), List.flatMap_cons, List.filter_append, hx,
          ← Option.some.inj hfirst]
      · have hne : (r.index x.name).1 ≠ i := by
          intro hi
          rw [hi] at hfirst
          exact hx (hunique x.name hfirst)
        rw [List.filter_cons_of_neg (by simpa using hx), filter_observations_of_ne hne,
          List.nil_append]

end BinaryInput

/-! ## Runs -/

namespace RunConfig

variable {c : RunConfig} {w : Workbench} {elsewhere : Option Path} {r : RunResult}

/-- The binaries of a run that succeeds have the names of its entries in order.  Two of them have
one index just when they have one name, and the records under an index are what the transcripts of
that name observe, the last observation deciding. -/
theorem run_identifies (hrun : (c.run w elsewhere).1 = .ok r)
    (hfew : (unreservedNames (c.binaries.map (·.name))).length ≤ numberLimit) :
    r.binaries.map (·.name) = c.binaries.map (·.name) ∧
      List.Forall₂ (fun b x => BinaryConfig.input w b = .ok x) c.binaries (c.inputs w) ∧
      ∀ o ∈ r.binaries, r.document.index? o.name = some o.index ∧
        (∀ o' ∈ r.binaries, o.index = o'.index ↔ o.name = o'.name) ∧
        ∀ key n address, r.document.record? key n o.index address =
          Observation.last? key n o.index address (((c.inputs w).filter (·.name = o.name)).flatMap
            (·.observations (c.view w elsewhere).mapping o.index)) := by
  obtain ⟨hinputs, hanswers, hbinaries, hrecords⟩ := run_spec hrun
  have hnumbers := (BinaryRegistry.numbers_indexAll (c.binaries.map (·.name))).numbering
  -- The index of an outcome is still that of its name when the run is over.
  have hindex : ∀ o ∈ r.binaries, (BinaryRegistry.indexAll {} (c.binaries.map
      (·.name))).assigned[o.name]? = some o.index := by
    intro o ho
    refine BinaryRegistry.assigned_of_mem_answers (p := (o.name, o.index)) ?_
    rw [← hanswers]
    exact List.mem_map_of_mem ho
  refine ⟨?_, hinputs, ?_⟩
  · rw [← BinaryRegistry.map_fst_answers {} (c.binaries.map (·.name)), ← hanswers, List.map_map]
    rfl
  · intro o ho
    have ho := hindex o ho
    refine ⟨?_, ?_, ?_⟩
    · rw [Document.index?, hbinaries, ho]
    · intro o' ho'
      have ho' := hindex o' ho'
      constructor
      · intro hsame
        exact hnumbers.name_eq hfew ho (hsame ▸ ho')
      · intro hsame
        rw [hsame, ho'] at ho
        exact (Option.some.inj ho).symm
    · -- No other name has the index, so that no other transcript is observed under it.
      intro key n address
      have hnames := BinaryConfig.map_name_of_inputs hinputs
      rw [hrecords, Observation.last?, BinaryInput.filter_observationsAll (hnames ▸ ho)]
      · rfl
      · intro a ha
        exact hnumbers.name_eq hfew (hnames ▸ ha) ho

/-! ## Images with one stem -/

/-- Numbers of 32 bits, the byte of least weight first. -/
def littleWords (ns : List Nat) : List UInt8 :=
  ns.flatMap fun n => [n, n / 0x100, n / 0x10000, n / 0x1000000].map UInt8.ofNat

/-- An image that has the function `f` at the address 0x1000: its header, the headers of a symbol
table and of a name table, and these two. -/
def smallFile : ByteArray :=
  ⟨(littleWords
    ([0x464C457F, 0x10101, 0, 0, 0x280002, 1, 0, 0, 52, 0, 0x200034, 0x280000, 0x20003] ++
      List.replicate 10 0 ++ [0, 2, 0, 0, 172, 32, 2, 1, 4, 16] ++
      [0, 3, 0, 0, 204, 3, 0, 0, 1, 0] ++
      List.replicate 4 0 ++ [1, 0x1000, 4, 0x10012]) ++ [0, 102, 0]).toArray⟩

/-- The transcript of `stage.elf`, and that of any other image; they differ in an opcode. -/
def transcriptOf (p : Path) : String :=
  if p = ⟨"stage.elf"⟩ then "1000 <f>:\n/w/f.c:1\n1000:\tnop\n"
  else "1000 <f>:\n/w/f.c:1\n1000:\tret\n"

/-- Three images with one trace. -/
def threeImages : Workbench where
  files :=
    { entries := Table.build
        [(["stage.elf"], .file smallFile false), (["stage.axf"], .file smallFile false),
          (["bl1.elf"], .file smallFile false), (["t.log"], .file "1000 1 4\n".toUTF8 false)] }
  transcript p := .ok (transcriptOf p)
  lookup := none

/-- A configuration with the given images and the one trace. -/
def withImages (images : List String) : RunConfig where
  relativeKeys := true
  workspace := "/w"
  outputFile := "o.json"
  binaries := images.map fun image => { image, traces := ["t.log"] }

def smallImage : Image where
  sections := [⟨some "", false, 0, 0⟩, ⟨some "", false, 0, 32⟩, ⟨some "", false, 0, 3⟩]
  symbols := [⟨some "", false, false, 0, 0⟩, ⟨some "f", true, true, 4096, 4⟩]
  marksThumb := true

/-- What the bytes say: three sections and two symbols. -/
theorem ofBytes_smallFile : Image.ofBytes smallFile = .ok smallImage := by
  have hread : Elf.read? smallFile = some smallImage := by
    decide +kernel
  rw [Image.ofBytes, hread]

/-- What a run takes of an image. -/
def inputOf (image : String) : BinaryInput :=
  ⟨BinaryConfig.name { image }, transcriptOf ⟨image⟩, smallImage.functions.exclude [],
    TraceStore.ingest {} "1000 1 4\n"⟩

theorem input_threeImages {image : String}
    (h : image = "stage.elf" ∨ image = "stage.axf" ∨ image = "bl1.elf") :
    BinaryConfig.input threeImages { image, traces := ["t.log"] } = .ok (inputOf image) := by
  have hentry : threeImages.files.entry? [image] = some (.file smallFile false) := by
    rcases h with rfl | rfl | rfl <;>
      simp [threeImages, FileTree.entry?, Table.build, Std.ExtTreeMap.getElem_insert]
  have hplain : FileTree.isPlain image := by
    rcases h with rfl | rfl | rfl <;> decide +kernel
  have htrace : threeImages.files.entry? ["t.log"] = some (.file "1000 1 4\n".toUTF8 false) := by
    simp [threeImages, FileTree.entry?, Table.build]
  have hfile : threeImages.files.isFile ⟨image⟩ = true := FileTree.isFile_name hplain hentry
  have himage : Image.load threeImages.files ⟨image⟩ = .ok smallImage := by
    rw [Image.load, if_pos hfile, FileTree.read_name hplain hentry]
    exact ofBytes_smallFile
  have htraces : TraceStore.load threeImages.files ["t.log"] = .ok _ :=
    TraceStore.load_name (p := "t.log".toList.map .char) (by decide +kernel) htrace (by rfl)
      (by decide +kernel)
  exact BinaryConfig.input_eq_ok (b := { image, traces := ["t.log"] }) hfile htraces himage rfl rfl

theorem inputs_withImages (images : List String)
    (h : ∀ image ∈ images, image = "stage.elf" ∨ image = "stage.axf" ∨ image = "bl1.elf") :
    (withImages images).inputs threeImages = images.map inputOf := by
  rw [inputs, withImages, List.filterMap_map, ← List.filterMap_eq_map]
  refine List.filterMap_congr fun image himage => ?_
  rw [Function.comp, input_threeImages (h image himage)]
  rfl

theorem run_withImages (images : List String)
    (h : ∀ image ∈ images, image = "stage.elf" ∨ image = "stage.axf" ∨ image = "bl1.elf") :
    ∃ r, ((withImages images).run threeImages none).1 = .ok r := by
  refine run_succeeds rfl ?_
  intro b hb
  obtain ⟨image, himage, rfl⟩ := List.mem_map.1 hb
  exact ⟨_, input_threeImages (h image himage)⟩

theorem run_identifies_twoNames :
    (unreservedNames ((withImages ["stage.elf", "bl1.elf"]).binaries.map (·.name))).length ≤
        numberLimit ∧
      ∃ r, ((withImages ["stage.elf", "bl1.elf"]).run threeImages none).1 = .ok r ∧
        r.binaries.map (fun o => (o.name, o.index)) = [("stage", 100), ("bl1", 0)] ∧
        r.document.record? "f.c" 1 100 4096 = some ⟨"nop", 1⟩ ∧
        r.document.record? "f.c" 1 0 4096 = some ⟨"ret", 1⟩ := by
  have hfew : (unreservedNames ((withImages ["stage.elf", "bl1.elf"]).binaries.map
      (·.name))).length ≤ numberLimit := by
    decide +kernel
  have hinputs := inputs_withImages ["stage.elf", "bl1.elf"] (by simp)
  obtain ⟨r, hrun⟩ := run_withImages ["stage.elf", "bl1.elf"] (by simp)
  have hanswers : r.binaries.map (fun o => (o.name, o.index)) = [("stage", 100), ("bl1", 0)] :=
    (run_spec hrun).2.1.trans (by decide +kernel)
  obtain ⟨-, -, hidentifies⟩ := run_identifies hrun hfew
  have hrecord : ∀ name i, (name, i) ∈ [("stage", 100), ("bl1", 0)] →
      r.document.record? "f.c" 1 i 4096 = Observation.last? "f.c" 1 i 4096
        ((["stage.elf", "bl1.elf"].map inputOf |>.filter (·.name = name)).flatMap
          (·.observations ((withImages []).mapping ⟨"/w"⟩) i)) := by
    intro name i hmem
    rw [← hanswers] at hmem
    obtain ⟨o, ho, heq⟩ := List.mem_map.1 hmem
    cases heq
    rw [← hinputs]
    exact (hidentifies o ho).2.2 "f.c" 1 4096
  refine ⟨hfew, r, hrun, hanswers, ?_, ?_⟩
  · rw [hrecord "stage" 100 (by simp)]
    decide +kernel
  · rw [hrecord "bl1" 0 (by simp)]
    decide +kernel

/-- Two images with one stem are one binary to a run, and the opcode of the first, which is there
without the second, gives way to that of the second. -/
theorem run_confuses_stems :
    (withImages ["stage.elf", "stage.axf"]).check = .ok () ∧
      (withImages ["stage.elf", "stage.axf"]).binaries.map (·.path) =
        [⟨"stage.elf"⟩, ⟨"stage.axf"⟩] ∧
      (∃ r, ((withImages ["stage.elf"]).run threeImages none).1 = .ok r ∧
        r.binaries.map (·.index) = [100] ∧
        r.document.record? "f.c" 1 100 4096 = some ⟨"nop", 1⟩) ∧
      ∃ r, ((withImages ["stage.elf", "stage.axf"]).run threeImages none).1 = .ok r ∧
        r.binaries.map (·.index) = [100, 100] ∧
        r.document.record? "f.c" 1 100 4096 = some ⟨"ret", 1⟩ := by
  have hruns : ∀ images : List String,
      (∀ image ∈ images, image = "stage.elf" ∨ image = "stage.axf" ∨ image = "bl1.elf") →
        ∃ r, ((withImages images).run threeImages none).1 = .ok r ∧
          r.binaries.map (·.index) = (BinaryRegistry.answers {}
            ((withImages images).binaries.map (·.name))).map (·.2) ∧
          r.document.record? "f.c" 1 100 4096 = Observation.last? "f.c" 1 100 4096
            (BinaryInput.observationsAll ((withImages []).mapping ⟨"/w"⟩) {}
              (images.map inputOf)) := by
    intro images himages
    obtain ⟨r, hrun⟩ := run_withImages images himages
    obtain ⟨-, hanswers, -, hrecords⟩ := run_spec hrun
    rw [inputs_withImages images himages] at hrecords
    refine ⟨r, hrun, ?_, hrecords _ _ _ _⟩
    rw [← hanswers, List.map_map]
    rfl
  obtain ⟨r, hrun, hindices, hrecord⟩ := hruns ["stage.elf"] (by simp)
  obtain ⟨r', hrun', hindices', hrecord'⟩ := hruns ["stage.elf", "stage.axf"] (by simp)
  refine ⟨by decide +kernel, rfl, ⟨r, hrun, hindices.trans ?_, hrecord.trans ?_⟩,
    r', hrun', hindices'.trans ?_, hrecord'.trans ?_⟩
  all_goals decide +kernel

end RunConfig

end BinaryCoverage
