import BinaryCoverage.Proofs.Report.Independence
import BinaryCoverage.Report.Summary
import Mathlib.Algebra.BigOperators.Group.List.Basic

/-!
# Summaries agree with reports

A summary counts the entries of a document without looking at any source; a report writes a row for
each of them, as long as the file is there.  This file defines:

* `CoverageCounts` — how many functions and lines there are, and how many are covered;
* `Record.counts` — the counts that the rows of a record come to;
* `Report.Matches` — a summary lists all files, and agrees with a report on those that are there;

and shows that the summary and the report of one document match (`emit_matches`).
-/

namespace BinaryCoverage

structure CoverageCounts where
  functionsFound : Nat
  functionsHit : Nat
  linesFound : Nat
  linesHit : Nat
  deriving DecidableEq, Repr

namespace CoverageCounts

instance : Zero CoverageCounts := ⟨⟨0, 0, 0, 0⟩⟩

instance : Add CoverageCounts where
  add a b :=
    { functionsFound := a.functionsFound + b.functionsFound
      functionsHit := a.functionsHit + b.functionsHit
      linesFound := a.linesFound + b.linesFound
      linesHit := a.linesHit + b.linesHit }

theorem add_def (a b : CoverageCounts) :
    a + b =
      { functionsFound := a.functionsFound + b.functionsFound
        functionsHit := a.functionsHit + b.functionsHit
        linesFound := a.linesFound + b.linesFound
        linesHit := a.linesHit + b.linesHit } := rfl

instance : AddCommMonoid CoverageCounts where
  add_assoc a b c := by
    simp only [add_def, Nat.add_assoc]
  add_comm a b := by
    simp only [add_def, Nat.add_comm]
  zero_add a := by
    rw [add_def]
    cases a
    congr <;> exact Nat.zero_add _
  add_zero a := rfl
  nsmul := nsmulRec

end CoverageCounts

def FileTotals.counts (n : FileTotals) : CoverageCounts :=
  ⟨n.functionsFound, n.functionsHit, n.linesFound, n.linesHit⟩

def FileSummary.counts (s : FileSummary) : CoverageCounts :=
  ⟨s.functionsFound, s.functionsHit, s.linesFound, s.linesHit⟩

theorem FileTotals.counts_sum (all : List FileTotals) :
    (sum all).counts = (all.map counts).sum := by
  rw [sum, count_foldl counts fun _ _ => rfl]
  exact zero_add _

/-! ## Rows that are counted -/

namespace Record

/-- The counts that rows come to: each row of a function or of a line is one, and says whether it is
covered. -/
def counts (rows : List String) : CoverageCounts :=
  let fields := rows.map String.toList
  let functions := (fields.filterMap (fields? "FNDA")).filterMap function?
  let lines := (fields.filterMap (fields? "DA")).filterMap line?
  { functionsFound := functions.length
    functionsHit := functions.countP (·.2)
    linesFound := lines.length
    linesHit := lines.countP (·.2) }

theorem filterMap_map_of_inverse {α : Type} {read? : List Char → Option α} {write : α → List Char}
    (hread : ∀ a, read? (write a) = some a) (as : List α) :
    (as.map write).filterMap read? = as := by
  rw [List.filterMap_map]
  exact (congrArg (as.filterMap ·) (funext hread)).trans List.filterMap_some

/-- The counts of a record are what its own rows come to. -/
theorem counts_rows (path : String) (c : FileCoverage) (points : List BranchPoint) :
    counts (rows path c points) = (c.totals path points).counts := by
  -- Only the rows with the tag of a section are read, and they are read back in full.
  have hfields : ∀ tag, ((rows path c points).map String.toList).filterMap (fields? tag) =
      (sections (c.content points) (c.totals path points)).flatMap fun s =>
        if s.tag = tag then s.fields else [] := by
    intro tag
    rw [rows_eq]
    exact filterMap_fields?_sections colon_notMem_tag tag
  have hfunctions : ((rows path c points).map String.toList).filterMap (fields? "FNDA") =
      (c.content points).functions.map functionFields := by
    simp [hfields, sections]
  have hlines : ((rows path c points).map String.toList).filterMap (fields? "DA") =
      (c.content points).lines.map lineFields := by
    simp [hfields, sections]
  have hcounted := countedBy_totals path c points
  dsimp only [counts]
  rw [hfunctions, hlines, filterMap_map_of_inverse function?_fields,
    filterMap_map_of_inverse line?_fields]
  rw [FileTotals.counts, hcounted.functionsFound, hcounted.functionsHit, hcounted.linesFound,
    hcounted.linesHit]

end Record

/-! ## Summaries -/

/-- What a record counts on the way is what a summary reads off its file. -/
theorem FileCoverage.counts_totals (c : FileCoverage) (path file : String)
    (points : List BranchPoint) :
    (c.totals path points).counts = (FileSummary.ofFile file c).counts := by
  rw [totals_eq]
  rfl

namespace DocumentSummary

variable (d : Document)

theorem map_file_files : (ofDocument d).files.map (·.file) = d.files.keys := by
  rw [ofDocument, ← Std.ExtTreeMap.map_fst_toList_eq_keys, List.map_map]
  rfl

theorem mem_files_iff {a : FileSummary} :
    a ∈ (ofDocument d).files ↔ ∃ c, d.file? a.file = some c ∧ a = FileSummary.ofFile a.file c := by
  simp only [ofDocument, List.mem_map, Prod.exists, Document.file?,
    Std.ExtTreeMap.mem_toList_iff_getElem?_eq_some]
  constructor
  · rintro ⟨key, c, hc, rfl⟩
    exact ⟨c, hc, rfl⟩
  · rintro ⟨c, hc, ha⟩
    exact ⟨a.file, c, hc, ha.symm⟩

theorem counts_total : (ofDocument d).total.counts = ((ofDocument d).files.map (·.counts)).sum := by
  rw [ofDocument, count_foldl FileSummary.counts fun _ _ => rfl]
  exact zero_add _

end DocumentSummary

/-! ## Reports and summaries -/

namespace Report

variable {t : FileTree} {workspace : Path} {limit : Option Nat} {d : Document} {r : Report}

/-- A summary lists all files of a document, and agrees with a report of the document on the files
that are there. -/
structure Matches (t : FileTree) (workspace : Path) (d : Document) (r : Report)
    (s : DocumentSummary) : Prop where
  keys : s.files.map (·.file) = d.files.keys
  /-- The keys come in order, and so none of them comes twice. -/
  ordered : d.files.keys.Pairwise (· < ·)
  total : s.total.counts = (s.files.map (·.counts)).sum
  /-- Each record of the report is that of a file which is there. -/
  files : r.files = (present t workspace d).map (·.totals)
  text : r.text = String.join ((present t workspace d).map (·.record))
  counts : ∀ f ∈ present t workspace d, ∃ a ∈ s.files,
    a.file = f.key ∧ a.counts = f.totals.counts ∧ a.counts = Record.counts f.rows
  /-- Every key is that of a record or of a skipped file. -/
  found : (present t workspace d).map (·.key) = d.files.keys.filter (· ∉ r.skipped)
  skipped : r.skipped = d.files.keys.filter fun key => !t.isFile (workspace.join ⟨key⟩)
  /-- The summary counts what the report does and what it skips. -/
  whole : s.total.counts =
    r.totals.counts + ((s.files.filter (·.file ∈ r.skipped)).map (·.counts)).sum

theorem counts_present {f : PresentFile} (hf : f ∈ present t workspace d) :
    ∃ a ∈ (DocumentSummary.ofDocument d).files,
      a.file = f.key ∧ a.counts = f.totals.counts ∧ a.counts = Record.counts f.rows := by
  have hfile : d.file? f.key = some f.coverage := (mem_present_iff.1 hf).1
  have hcounts : f.totals.counts = (FileSummary.ofFile f.key f.coverage).counts :=
    f.coverage.counts_totals f.shown f.key f.analysis.points
  refine ⟨FileSummary.ofFile f.key f.coverage, ?_, rfl, hcounts.symm, ?_⟩
  · apply (DocumentSummary.mem_files_iff d).2
    exact ⟨f.coverage, hfile, rfl⟩
  · rw [← hcounts]
    exact (Record.counts_rows f.shown f.coverage f.analysis.points).symm

theorem mem_skipped_iff (h : Assembles t workspace d r) {key : String} :
    key ∈ r.skipped ↔ key ∈ d.files.keys ∧ t.isFile (workspace.join ⟨key⟩) = false := by
  rw [h.skipped, List.mem_filter, Bool.not_eq_true']

/-- The files that a report does not skip give its records, one by one. -/
theorem map_counts_files (h : Assembles t workspace d r) :
    r.files.map (·.counts) =
      ((DocumentSummary.ofDocument d).files.filter (·.file ∉ r.skipped)).map (·.counts) := by
  -- Both sides are read off the entries of the document: a key is skipped where no file is there.
  let ofEntry := fun e : String × FileCoverage => FileSummary.ofFile e.1 e.2
  have hkept : ∀ e ∈ d.files.toList,
      decide (e.1 ∉ r.skipped) = t.isFile (workspace.join ⟨e.1⟩) := by
    intro e he
    have hkey : e.1 ∈ d.files.keys := by
      rw [← Std.ExtTreeMap.map_fst_toList_eq_keys]
      exact List.mem_map_of_mem he
    simp [mem_skipped_iff h, hkey]
  have hcounts : ∀ e f, present? t workspace e = some f → f.totals.counts = (ofEntry e).counts := by
    intro e f hf
    obtain ⟨text, -, rfl⟩ := Option.map_eq_some_iff.1 hf
    exact e.2.counts_totals _ e.1 _
  calc
    r.files.map (·.counts)
        = (present t workspace d).map fun f => f.totals.counts := by
          rw [h.files, List.map_map]
          rfl
    _ = (d.files.toList.filter fun e => t.isFile (workspace.join ⟨e.1⟩)).map
          fun e => (ofEntry e).counts := map_present hcounts
    _ = (d.files.toList.filter fun e => decide (e.1 ∉ r.skipped)).map
          fun e => (ofEntry e).counts := by
          rw [List.filter_congr hkept]
    _ = ((d.files.toList.map ofEntry).filter (·.file ∉ r.skipped)).map (·.counts) := by
          rw [List.filter_map, List.map_map]
          rfl

theorem matches_ofDocument (h : Assembles t workspace d r) :
    Matches t workspace d r (.ofDocument d) where
  keys := DocumentSummary.map_file_files d
  ordered := h.keys
  total := DocumentSummary.counts_total d
  files := h.files
  text := h.text
  counts := fun f hf => counts_present hf
  found := by
    rw [h.found]
    refine List.filter_congr ?_
    intro key hkey
    simp [mem_skipped_iff h, hkey]
  skipped := h.skipped
  whole := by
    have htotals : r.totals.counts = (r.files.map (·.counts)).sum := FileTotals.counts_sum r.files
    have hsplit := List.sum_map_filter_add_sum_map_filter_not
      (fun a : FileSummary => a.file ∈ r.skipped) (·.counts) (DocumentSummary.ofDocument d).files
    rw [DocumentSummary.counts_total, htotals, map_counts_files h, add_comm, hsplit]

/-- Every document has a report where there is no limit to what can be written, and wherever a report
comes to its end, the summary of the document matches it. -/
theorem emit_matches (t : FileTree) (workspace : Path) (d : Document) :
    (emit t workspace none d).1 = none ∧
    ∀ limit r, emit t workspace limit d = (none, r) →
      Matches t workspace d r (.ofDocument d) := by
  refine ⟨emit_unlimited t workspace d, ?_⟩
  intro limit r h
  exact matches_ofDocument (assembles_of_emit h)

/-- A document of two files, the second of which is nowhere. -/
def halfMissing : Document where
  files := Table.build [("f.c", BranchAnalysis.firstRun),
    ("g.c", (({} : FileCoverage).setFunction "g" 3 true).updateLine 4 id)]

theorem emit_matches_halfMissing :
    let r := (emit oneFile ⟨"/"⟩ none halfMissing).2
    emit oneFile ⟨"/"⟩ none halfMissing = (none, r) ∧
      Matches oneFile ⟨"/"⟩ halfMissing r (.ofDocument halfMissing) ∧ r.skipped = ["g.c"] ∧
      (DocumentSummary.ofDocument halfMissing).total.counts = ⟨1, 1, 3, 2⟩ ∧
      r.totals.counts + ⟨1, 1, 1, 0⟩ = ⟨1, 1, 3, 2⟩ := by
  intro r
  obtain ⟨hends, hmatches⟩ := emit_matches oneFile ⟨"/"⟩ halfMissing
  have hr : emit oneFile ⟨"/"⟩ none halfMissing = (none, r) := Prod.ext hends rfl
  have hsummary := hmatches none r hr
  have hpath : (Path.mk "/").join ⟨"f.c"⟩ = ⟨"/f.c"⟩ := by
    decide +kernel
  have hother : (Path.mk "/").join ⟨"g.c"⟩ = ⟨"/g.c"⟩ := by
    decide +kernel
  have hkeys : halfMissing.files.keys = ["f.c", "g.c"] := by
    decide +kernel
  have hfound : oneFile.isFile ⟨"/f.c"⟩ = true := by
    rw [FileTree.isFile_eq_isSome_source?, source?_oneFile]
    rfl
  have hskipped : r.skipped = ["g.c"] := by
    rw [hsummary.skipped, hkeys]
    simp [hpath, hother, hfound, isFile_oneFile_other]
  have htotal : (DocumentSummary.ofDocument halfMissing).total.counts = ⟨1, 1, 3, 2⟩ := by
    decide +kernel
  have hwhole := hsummary.whole
  rw [hskipped, htotal] at hwhole
  have hleft : (((DocumentSummary.ofDocument halfMissing).files.filter (·.file ∈ ["g.c"])).map
      (·.counts)).sum = ⟨1, 1, 1, 0⟩ := by
    decide +kernel
  rw [hleft] at hwhole
  exact ⟨hr, hsummary, hskipped, htotal, hwhole.symm⟩

end Report

end BinaryCoverage
