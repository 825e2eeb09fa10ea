import BinaryCoverage.Proofs.Correlation.Attribution
import BinaryCoverage.Proofs.Correlation.Identity
import BinaryCoverage.Proofs.Correlation.Placement
import BinaryCoverage.Proofs.Correlation.Total
import BinaryCoverage.Run.Basic
import Mathlib.Data.List.Forall2

/-!
# The entries of a run

A run takes its binaries one by one.  What it takes of a binary does not depend on those before it,
and what it notes of one is added to what is there already.  This file defines:

* `BinaryConfig.input`, `RunConfig.inputs` — what a run takes of a binary, and of all of them;
* `RunState.Enters` — a state has taken in one more binary;
* `BinaryInput.observationsAll` — what several transcripts observe, each under its own index;

and tells the outcomes, the registry and the records of a run that succeeds from its inputs
(`run_spec`).
-/

namespace BinaryCoverage

open Disassembly (Transcript)

/-! ## Inputs -/

namespace RunState

/-- What belongs to a binary is found alike in any state. -/
theorem fst_prepare (w : Workbench) (s t : RunState) (b : BinaryConfig) :
    (s.prepare w b).1 = (t.prepare w b).1 := by
  -- The state is handed through every test, and none of them looks at it.
  unfold prepare
  repeat' split
  all_goals rfl

/-- Preparing a binary reports on it, and leaves everything else to the steps that follow. -/
structure Reports (s t : RunState) : Prop where
  correlator : t.correlator = s.correlator
  search : t.search = s.search
  outcomes : t.outcomes = s.outcomes

theorem reports_prepare (w : Workbench) (s : RunState) (b : BinaryConfig) :
    Reports s (s.prepare w b).2 := by
  unfold prepare
  repeat' split
  all_goals exact ⟨rfl, rfl, rfl⟩

end RunState

/-- What a run takes of a binary; in any state it is the same. -/
def BinaryConfig.input (w : Workbench) (b : BinaryConfig) : Except Failure BinaryInput :=
  (RunState.prepare w ⟨{}, ⟨⟨""⟩, none⟩, [], []⟩ b).1.map fun x =>
    ⟨b.name, x.transcript, x.functions, x.traces⟩

namespace BinaryConfig

variable {w : Workbench} {b : BinaryConfig} {x : BinaryInput}

theorem input_eq (w : Workbench) (b : BinaryConfig) (s : RunState) :
    b.input w = (s.prepare w b).1.map fun x => ⟨b.name, x.transcript, x.functions, x.traces⟩ := by
  rw [input, RunState.fst_prepare w _ s b]

theorem name_of_input (h : b.input w = .ok x) : x.name = b.name := by
  rw [input] at h
  cases hprepared : (RunState.prepare w ⟨{}, ⟨⟨""⟩, none⟩, [], []⟩ b).1 with
  | error e =>
      rw [hprepared] at h
      cases h
  | ok y =>
      rw [hprepared] at h
      cases h
      rfl

theorem input_eq_ok {traces : TraceStore} {notices : List Notice} {image : Image}
    {patterns : List Pattern} {transcript : String} (hfile : w.files.isFile b.path)
    (htraces : TraceStore.load w.files b.traces = .ok (traces, notices))
    (himage : Image.load w.files b.path = .ok image)
    (hpatterns : b.exclusionPatterns = .ok patterns)
    (htranscript : w.transcript b.path = .ok transcript) :
    b.input w = .ok ⟨b.name, transcript, image.functions.exclude patterns, traces⟩ := by
  rw [input, RunState.prepare, if_pos hfile, htraces, himage, hpatterns, htranscript]
  rfl

end BinaryConfig

/-! ## One binary -/

/-- The record of the last observation of an address by a binary at a line. -/
def Observation.last? (key : String) (n binary : UInt32) (address : UInt64)
    (observations : List Observation) : Option InstructionRecord :=
  ((observations.filter (isAt key n binary address)).getLast?).map (·.record)

/-- Without an index there is nothing to place functions by. -/
theorem FallbackProgress.placeUnmapped_of_index_none {c : Correlator} (h : c.index = none)
    {v : SourceView} {functions : FunctionTable} {traces : TraceStore} {search : SourceSearch} :
    c.placeUnmapped v functions traces search = (none, { correlator := c, search }) := by
  unfold Correlator.placeUnmapped
  induction functions.unmapped with
  | nil =>
      rfl
  | cons f rest ih =>
      rw [attemptEach, step, h]
      exact ih

namespace RunState

variable {w : Workbench} {v : SourceView} {s t : RunState} {b : BinaryConfig} {x : BinaryInput}

/-- One more binary has been taken, under the index that the registry has for its name. -/
structure Enters (v : SourceView) (x : BinaryInput) (s t : RunState) : Prop where
  registry : t.correlator.registry = (s.correlator.registry.index x.name).2
  outcomes : ∃ o, t.outcomes = s.outcomes ++ [o] ∧ o.name = x.name ∧
    o.index = (s.correlator.registry.index x.name).1
  records : ∀ key n binary address, t.correlator.document.record? key n binary address =
    (Observation.last? key n binary address
      (x.observations v.mapping (s.correlator.registry.index x.name).1)).or
        (s.correlator.document.record? key n binary address)

theorem input_of_succeeds (hsucceeds : (binary w v s b).1 = none) : ∃ x, b.input w = .ok x := by
  rw [b.input_eq w s]
  rw [binary] at hsucceeds
  rcases hprepared : s.prepare w b with ⟨e | y, u⟩
  · rw [hprepared] at hsucceeds
    cases hsucceeds
  · exact ⟨_, rfl⟩

/-- A binary whose input is there is correlated, and then its functions without source lines are
placed. -/
theorem binary_of_input (h : b.input w = .ok x) :
    let p := (s.correlator.take v x).2
    let q := p.correlator.placeUnmapped v p.functions x.traces s.search
    (binary w v s b).1 = (s.correlator.take v x).1.or q.1 ∧
      ((binary w v s b).1 = none →
        (binary w v s b).2.correlator = q.2.correlator ∧
          ∃ o, (binary w v s b).2.outcomes = s.outcomes ++ [o] ∧ o.name = x.name ∧
            o.index = (q.2.correlator.registry.assigned[x.name]?).getD 0) := by
  have hreports := reports_prepare w s b
  rw [b.input_eq w s] at h
  rw [binary]
  rcases hprepared : s.prepare w b with ⟨e | y, u⟩
  · rw [hprepared] at h
    cases h
  · rw [hprepared] at h hreports
    cases h
    -- What has been reported so far is no part of what a correlation starts from.
    have htaken : u.correlator.correlate v b.name y.transcript y.functions y.traces =
        s.correlator.take v ⟨b.name, y.transcript, y.functions, y.traces⟩ := by
      rw [hreports.correlator]
      rfl
    dsimp only
    rw [htaken]
    rcases s.correlator.take v ⟨b.name, y.transcript, y.functions, y.traces⟩ with ⟨_ | e, p⟩
    · have hsearch : (u.note p.notices).search = s.search := hreports.search
      dsimp only
      rw [hsearch]
      rcases p.correlator.placeUnmapped v p.functions y.traces s.search with ⟨_ | e, q⟩
      · refine ⟨rfl, fun _ => ⟨rfl, _, congrArg (· ++ _) hreports.outcomes, rfl, rfl⟩⟩
      · exact ⟨rfl, nofun⟩
    · exact ⟨rfl, nofun⟩

theorem enters_binary (hsucceeds : (binary w v s b).1 = none) :
    ∃ x, b.input w = .ok x ∧ Enters v x s (binary w v s b).2 := by
  obtain ⟨x, hx⟩ := input_of_succeeds hsucceeds
  obtain ⟨hfails, hdone⟩ := binary_of_input (v := v) (s := s) hx
  obtain ⟨hcorrelator, o, houtcomes, hname, hindex⟩ := hdone hsucceeds
  rw [hsucceeds, eq_comm, Option.or_eq_none_iff] at hfails
  have hspec := s.correlator.take_spec v x
  have hkeeps := (s.correlator.take v x).2.correlator.keeps_placeUnmapped v
    (s.correlator.take v x).2.functions x.traces s.search
  have hregistry := hkeeps.registry.trans hspec.registry
  refine ⟨x, hx, ?_, ⟨o, houtcomes, hname, ?_⟩, ?_⟩
  · rw [hcorrelator, hregistry]
  · rw [hindex, hregistry, BinaryRegistry.assigned_index, if_pos rfl]
    rfl
  · -- Placing functions leaves the lines as they are, so all records are those of the transcript.
    intro key n binary address
    rw [hcorrelator, Document.record?, hkeeps.line]
    exact Correlator.record?_take hfails.1 key n binary address

/-- Without declarations a binary fails only where its input is missing. -/
theorem binary_succeeds (hv : v.declarations.Total) (hindex : s.correlator.index = none)
    (h : b.input w = .ok x) :
    (binary w v s b).1 = none ∧ (binary w v s b).2.correlator.index = none := by
  obtain ⟨hfails, hdone⟩ := binary_of_input (v := v) (s := s) h
  have hnone : (s.correlator.take v x).2.correlator.index = none := by
    have hlearns := (s.correlator.take_spec v x).index
    rw [hindex] at hlearns
    cases hlater : (s.correlator.take v x).2.correlator.index with
    | none =>
        rfl
    | some y =>
        rw [hlater] at hlearns
        cases hlearns
  -- Without an index no function is placed, and nothing else than the correlation could fail.
  rw [FallbackProgress.placeUnmapped_of_index_none hnone] at hfails hdone
  have hsucceeds : (binary w v s b).1 = none := by
    rw [hfails, s.correlator.take_succeeds hv x]
    rfl
  exact ⟨hsucceeds, (hdone hsucceeds).1 ▸ hnone⟩

end RunState

/-! ## All binaries -/

theorem Observation.last?_append (key : String) (n binary : UInt32) (address : UInt64)
    (xs ys : List Observation) :
    last? key n binary address (xs ++ ys) =
      (last? key n binary address ys).or (last? key n binary address xs) := by
  unfold last?
  rw [List.filter_append, List.getLast?_append, Option.map_or]

/-- What transcripts observe, each under the index of its binary. -/
def BinaryInput.observationsAll (m : SourceMapping) :
    BinaryRegistry → List BinaryInput → List Observation
  | _, [] => []
  | r, x :: rest =>
      x.observations m (r.index x.name).1 ++ observationsAll m (r.index x.name).2 rest

namespace RunState

variable {w : Workbench} {v : SourceView} {s t u : RunState} {x : BinaryInput}
  {rest : List BinaryInput}

/-- Several binaries have been taken, one after the other. -/
structure EntersAll (v : SourceView) (inputs : List BinaryInput) (s t : RunState) : Prop where
  registry : t.correlator.registry = s.correlator.registry.indexAll (inputs.map (·.name))
  outcomes : ∃ os : List BinaryOutcome, t.outcomes = s.outcomes ++ os ∧
    os.map (fun o => (o.name, o.index)) = s.correlator.registry.answers (inputs.map (·.name))
  records : ∀ key n binary address, t.correlator.document.record? key n binary address =
    (Observation.last? key n binary address
      (BinaryInput.observationsAll v.mapping s.correlator.registry inputs)).or
        (s.correlator.document.record? key n binary address)

theorem EntersAll.refl (v : SourceView) (s : RunState) : EntersAll v [] s s :=
  ⟨rfl, ⟨[], (List.append_nil _).symm, rfl⟩, fun _ _ _ _ => rfl⟩

theorem EntersAll.cons (h : Enters v x s t) (hrest : EntersAll v rest t u) :
    EntersAll v (x :: rest) s u := by
  obtain ⟨o, houtcomes, hname, hindex⟩ := h.outcomes
  obtain ⟨os, houtcomes', hos⟩ := hrest.outcomes
  refine ⟨?_, ⟨o :: os, ?_, ?_⟩, ?_⟩
  · rw [hrest.registry, h.registry]
    rfl
  · rw [houtcomes', houtcomes, List.append_assoc]
    rfl
  · rw [List.map_cons, hos, h.registry, hname, hindex]
    rfl
  · intro key n binary address
    rw [hrest.records, h.records, h.registry, BinaryInput.observationsAll, Observation.last?_append,
      Option.or_assoc]

theorem entersAll_binaries {binaries : List BinaryConfig}
    (hsucceeds : (attemptEach (binary w v) s binaries).1 = none) :
    ∃ inputs, List.Forall₂ (fun b x => BinaryConfig.input w b = .ok x) binaries inputs ∧
      EntersAll v inputs s (attemptEach (binary w v) s binaries).2 := by
  induction binaries generalizing s with
  | nil =>
      exact ⟨[], .nil, EntersAll.refl v s⟩
  | cons b rest ih =>
      -- All of them succeed, so the first does, and the others start from what it leaves.
      have hfirst := first_of_attemptEach_cons hsucceeds
      rw [attemptEach_cons_of_none hfirst] at hsucceeds ⊢
      obtain ⟨x, hx, henters⟩ := enters_binary hfirst
      obtain ⟨inputs, hinputs, hrest⟩ := ih hsucceeds
      exact ⟨x :: inputs, .cons hx hinputs, EntersAll.cons henters hrest⟩

end RunState

namespace BinaryConfig

variable {w : Workbench} {binaries : List BinaryConfig} {inputs : List BinaryInput}

theorem map_name_of_inputs
    (h : List.Forall₂ (fun b x => BinaryConfig.input w b = .ok x) binaries inputs) :
    inputs.map (·.name) = binaries.map (·.name) := by
  induction h with
  | nil =>
      rfl
  | cons hx _ ih =>
      rw [List.map_cons, List.map_cons, ih, name_of_input hx]

theorem filterMap_input_of_inputs
    (h : List.Forall₂ (fun b x => BinaryConfig.input w b = .ok x) binaries inputs) :
    binaries.filterMap (fun b => (b.input w).toOption) = inputs := by
  induction h with
  | nil =>
      rfl
  | cons hx _ ih =>
      rw [List.filterMap_cons, hx, ih]
      rfl

end BinaryConfig

/-! ## Runs -/

namespace RunConfig

variable {c : RunConfig} {w : Workbench} {elsewhere : Option Path} {r : RunResult}

/-- What a run takes of those of its binaries that are there. -/
def inputs (c : RunConfig) (w : Workbench) : List BinaryInput :=
  c.binaries.filterMap fun b => (b.input w).toOption

/-- The paths and the declarations of a run. -/
def view (c : RunConfig) (w : Workbench) (elsewhere : Option Path) : SourceView :=
  ⟨c.mapping (elsewhere.getD ⟨c.workspace⟩), w.declarations⟩

/-- What a run starts from. -/
def start (c : RunConfig) (w : Workbench) (elsewhere : Option Path) : RunState where
  correlator := { index := w.lookup.map fun _ => {} }
  search := { root := elsewhere.getD ⟨c.workspace⟩ }

/-- The state after all binaries, or after the first that fails. -/
def last (c : RunConfig) (w : Workbench) (elsewhere : Option Path) : Option Failure × RunState :=
  attemptEach (RunState.binary w (c.view w elsewhere)) (c.start w elsewhere) c.binaries

theorem run_eq (c : RunConfig) (w : Workbench) (elsewhere : Option Path) :
    c.run w elsewhere =
      match c.last w elsewhere with
      | (some e, s) => (.error e, s.notices)
      | (none, s) => (.ok ⟨s.correlator.finish c.sources c.metadata, s.outcomes⟩, s.notices) :=
  rfl

/-- A run that succeeds has taken all binaries in: they have the indices that a registry gives to
their names in order, and each record is that of the last observation. -/
theorem run_spec (hrun : (c.run w elsewhere).1 = .ok r) :
    List.Forall₂ (fun b x => BinaryConfig.input w b = .ok x) c.binaries (c.inputs w) ∧
      r.binaries.map (fun o => (o.name, o.index)) =
        BinaryRegistry.answers {} (c.binaries.map (·.name)) ∧
      r.document.provenance.binaries =
        (BinaryRegistry.indexAll {} (c.binaries.map (·.name))).assigned ∧
      ∀ key n binary address, r.document.record? key n binary address =
        Observation.last? key n binary address
          (BinaryInput.observationsAll (c.view w elsewhere).mapping {} (c.inputs w)) := by
  rw [run_eq] at hrun
  rcases hlast : c.last w elsewhere with ⟨_ | e, s⟩
  · rw [hlast] at hrun
    cases hrun
    obtain ⟨inputs, hinputs, henters⟩ := RunState.entersAll_binaries (congrArg Prod.fst hlast)
    change RunState.EntersAll _ _ _ (c.last w elsewhere).2 at henters
    rw [hlast] at henters
    obtain ⟨os, houtcomes, hos⟩ := henters.outcomes
    have hnames := BinaryConfig.map_name_of_inputs hinputs
    rw [RunConfig.inputs, BinaryConfig.filterMap_input_of_inputs hinputs]
    refine ⟨hinputs, ?_, ?_, ?_⟩
    · rw [← hnames]
      exact (congrArg _ houtcomes).trans hos
    · rw [← hnames]
      exact congrArg (·.assigned) henters.registry
    · intro key n binary address
      exact (henters.records key n binary address).trans Option.or_none
  · rw [hlast] at hrun
    cases hrun

/-- Without declarations a run succeeds if all that it takes is there. -/
theorem run_succeeds (hlookup : w.lookup = none)
    (hinputs : ∀ b ∈ c.binaries, ∃ x, BinaryConfig.input w b = .ok x) :
    ∃ r, (c.run w elsewhere).1 = .ok r := by
  have htotal : (c.view w elsewhere).declarations.Total := by
    intro p
    refine ⟨∅, ?_⟩
    simp only [view, Workbench.declarations, hlookup]
    rfl
  have hstart : (c.start w elsewhere).correlator.index = none := by
    simp only [start, hlookup]
    rfl
  -- The invariant is that there is no index, so that nothing is asked about any file.
  have hlast : (c.last w elsewhere).1 = none := by
    refine (attemptEach_invariant (·.correlator.index = none) c.binaries ?_ hstart).1
    intro s hs b hb
    obtain ⟨x, hx⟩ := hinputs b hb
    exact RunState.binary_succeeds htotal hs hx
  rw [run_eq]
  rcases hresult : c.last w elsewhere with ⟨_ | e, s⟩
  · exact ⟨_, rfl⟩
  · rw [hresult] at hlast
    cases hlast

end RunConfig

end BinaryCoverage
