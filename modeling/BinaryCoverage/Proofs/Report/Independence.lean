import BinaryCoverage.Proofs.Branch.Monotone
import BinaryCoverage.Proofs.Files.Walk
import BinaryCoverage.Proofs.Report.Record
import BinaryCoverage.Report.Basic
import Mathlib.Data.String.Basic

/-!
# Reports are put together file by file

A report of many files is what each of them gives by itself, in the order of their keys.  This file
defines:

* `PresentFile` — a file that stands in the workspace, with all that its record is made from;
* `Report.present` — the files of a document that do;
* `Report.Assembles` — a report consists of the records of these files, and skips all others;
* `Record.ArmsHaveLines` — each row of an arm has a row of its line beside it;

and shows that files have no influence on each other's records (`emit_independent`).
-/

namespace BinaryCoverage

/-- The text of the file that a path leads to. -/
def FileTree.source? (t : FileTree) (p : Path) : Option String := (t.read p).toOption.map Text.ofBytes

theorem FileTree.isFile_eq_isSome_source? (t : FileTree) (p : Path) :
    t.isFile p = (t.source? p).isSome := by
  unfold isFile source? read
  rcases t.find p with e | ⟨l, ⟨bytes, executable⟩ | _ | target⟩ <;> rfl

/-- A file of a document that stands in the workspace. -/
structure PresentFile where
  key : String
  /-- The path that the record shows. -/
  shown : String
  text : String
  coverage : FileCoverage

namespace PresentFile

def analysis (f : PresentFile) : BranchAnalysis := .ofSource f.key f.text f.coverage

def rows (f : PresentFile) : List String := Record.rows f.shown f.coverage f.analysis.points

def record (f : PresentFile) : String := Record.ofRows f.rows

def content (f : PresentFile) : Record.Content := f.coverage.content f.analysis.points

def totals (f : PresentFile) : FileTotals := f.coverage.totals f.shown f.analysis.points

end PresentFile

/-! ## Arms and lines -/

namespace Record

/-- Each row of an arm has a row of the same line beside it. -/
def ArmsHaveLines (rows : List String) : Prop :=
  ∀ row ∈ rows, ∀ fields, fields? "BRDA" row.toList = some fields →
    ∃ n : UInt32, (arm? fields).map (·.1) = some n.toNat ∧
      ∃ row' ∈ rows, ((fields? "DA" row'.toList).bind line?).map (·.1) = some n

theorem colon_notMem_tag {content : Content} {n : FileTotals} :
    ∀ s ∈ sections content n, ':' ∉ s.tag.toList := by
  simp [sections]

theorem fields_of_arms {content : Content} {n : FileTotals} :
    ∀ s ∈ sections content n, s.tag = "BRDA" → s.fields = content.arms.map armFields := by
  simp [sections]

theorem lines_mem_sections {content : Content} {n : FileTotals} :
    ⟨"DA", content.lines.map lineFields⟩ ∈ sections content n := by
  simp [sections]

end Record

namespace BranchAnalysis

variable {file text : String} {c : FileCoverage} {p : BranchPoint}

/-- A branch point has a branch instruction, and so an entry of its line. -/
theorem exists_line_of_mem_points (hp : p ∈ (ofSource file text c).points) :
    ∃ (n : UInt32) (l : LineCoverage), c.lines[n]? = some l ∧ n.toNat = p.line := by
  rcases mem_points_ofMasked_iff.1 hp with ⟨line, kind, -, hjudge⟩
  unfold judge at hjudge
  split at hjudge
  · rename_i htransfers
    have hline : p.line = line := by
      cases harms : arms (MaskedSource.ofText text) c line kind with
      | error e =>
          simp [harms] at hjudge
      | ok flags =>
          rw [harms] at hjudge
          cases hjudge
          rfl
    rcases (Option.any_eq_true _ _).1 htransfers with ⟨l, hl, -⟩
    unfold FileCoverage.line? at hl
    split at hl
    · rename_i hsize
      exact ⟨UInt32.ofNat line, l, hl, by rw [hline, UInt32.toNat_ofNat_of_lt' hsize]⟩
    · cases hl
  · cases hjudge

theorem exists_line_of_mem_arms {a : Nat × Nat × Bool}
    (ha : a ∈ (c.content (ofSource file text c).points).arms) :
    ∃ l ∈ (c.content (ofSource file text c).points).lines, l.1.toNat = a.1 := by
  rcases List.mem_flatMap.1 ha with ⟨p, hp, hpa⟩
  rcases List.mem_map.1 hpa with ⟨⟨covered, arm⟩, -, rfl⟩
  rcases exists_line_of_mem_points hp with ⟨n, l, hl, hn⟩
  refine ⟨(n, l.covered), List.mem_map.2 ⟨(n, l), ?_, rfl⟩, hn⟩
  exact Std.ExtTreeMap.mem_toList_iff_getElem?_eq_some.2 hl

theorem armsHaveLines_rows (shown : String) :
    Record.ArmsHaveLines (Record.rows shown c (ofSource file text c).points) := by
  intro row hrow fields hfields
  rw [Record.rows_eq] at hrow ⊢
  rcases List.mem_append.1 hrow with hrow | hrow
  · rcases List.mem_flatMap.1 hrow with ⟨s, hs, hrow⟩
    rcases List.mem_map.1 hrow with ⟨own, hown, rfl⟩
    rw [Record.fields?_tagRow (Record.colon_notMem_tag s hs)] at hfields
    split at hfields
    · rename_i htag
      cases hfields
      rw [Record.fields_of_arms s hs htag] at hown
      rcases List.mem_map.1 hown with ⟨a, ha, rfl⟩
      rcases exists_line_of_mem_arms ha with ⟨l, hl, hline⟩
      refine ⟨l.1, ?_, Record.tagRow "DA" (Record.lineFields l), ?_, ?_⟩
      · rw [Record.arm?_fields, Option.map_some, hline]
      · exact List.mem_append_left _ (List.mem_flatMap.2
          ⟨_, Record.lines_mem_sections, List.mem_map_of_mem (List.mem_map_of_mem hl)⟩)
      · rw [Record.fields?_tagRow (by decide), if_pos rfl, Option.bind_some, Record.line?_fields,
          Option.map_some]
    · cases hfields
  · -- The two rows at the end belong to no section.
    have hend : ∀ row ∈ ["end_of_record", ""], Record.fields? "BRDA" row.toList = none := by
      decide
    rw [hend row hrow] at hfields
    cases hfields

theorem file_of_mem_diagnostics {g : Diagnostic} (hg : g ∈ (ofSource file text c).diagnostics) :
    g.file = file ∧ g.kind ≠ .missingSource := by
  rcases List.mem_map.1 (mem_diagnostics_ofJudgements_iff.1 hg) with ⟨⟨line, kind⟩, -, hjudge⟩
  dsimp only [judge] at hjudge
  split at hjudge
  · cases harms : arms (MaskedSource.ofText text) c line kind with
    | ok flags =>
        simp [harms] at hjudge
    | error e =>
        rw [harms] at hjudge
        cases hjudge
        exact ⟨rfl, DiagnosticKind.noConfusion⟩
  · cases hjudge
    exact ⟨rfl, DiagnosticKind.noConfusion⟩

end BranchAnalysis

/-! ## Files one by one -/

namespace Report

/-- The file of a document with a given key, if it stands in the workspace. -/
def present? (t : FileTree) (workspace : Path) (entry : String × FileCoverage) :
    Option PresentFile :=
  (t.source? (workspace.join ⟨entry.1⟩)).map fun text =>
    ⟨entry.1, (t.absolute (workspace.join ⟨entry.1⟩)).text, text, entry.2⟩

def present (t : FileTree) (workspace : Path) (d : Document) : List PresentFile :=
  d.files.toList.filterMap (present? t workspace)

/-- What a file of a document gives. -/
def entryOf (t : FileTree) (workspace : Path) (entry : String × FileCoverage) : ReportEntry :=
  match present? t workspace entry with
  | some f => .record f.totals f.record f.analysis.diagnostics
  | none => .missing entry.1 (workspace.join ⟨entry.1⟩)

variable {t : FileTree} {workspace : Path} {limit : Option Nat} {d : Document} {r : Report}
  {f : PresentFile} {entry : String × FileCoverage}

theorem ofFile_eq_ok (t : FileTree) (workspace : Path) (key : String) (c : FileCoverage) :
    ReportEntry.ofFile t workspace key c = .ok (entryOf t workspace (key, c)) := by
  have hfile := t.isFile_eq_isSome_source? (workspace.join ⟨key⟩)
  unfold ReportEntry.ofFile entryOf present?
  dsimp only
  rw [hfile, FileTree.source?]
  cases t.read (workspace.join ⟨key⟩) <;> rfl

/-- The equation of the recursion, which is too large to be derived. -/
theorem emitFrom_cons (size : Nat) (entry : String × FileCoverage)
    (rest : List (String × FileCoverage)) :
    emitFrom t workspace limit size (entry :: rest) =
      match ReportEntry.ofFile t workspace entry.1 entry.2 with
      | .error e => (some e, [])
      | .ok result =>
          let after := size + result.text.utf8ByteSize
          if fits limit after then
            ((emitFrom t workspace limit after rest).1,
              result :: (emitFrom t workspace limit after rest).2)
          else (some (.output .full), [result]) := by
  rfl

/-- A report that has come to its end has an entry for each file. -/
theorem emitFrom_snd {size : Nat} {entries : List (String × FileCoverage)}
    (h : (emitFrom t workspace limit size entries).1 = none) :
    (emitFrom t workspace limit size entries).2 = entries.map (entryOf t workspace) := by
  induction entries generalizing size with
  | nil =>
      rfl
  | cons entry rest ih =>
      rw [emitFrom_cons, ofFile_eq_ok] at h ⊢
      dsimp only at h ⊢
      split at h
      · rename_i hfits
        rw [if_pos hfits, List.map_cons, ih h]
      · cases h

theorem emitFrom_unlimited (size : Nat) (entries : List (String × FileCoverage)) :
    emitFrom t workspace none size entries = (none, entries.map (entryOf t workspace)) := by
  induction entries generalizing size with
  | nil =>
      rfl
  | cons entry rest ih =>
      rw [emitFrom_cons, ofFile_eq_ok]
      dsimp only
      rw [ih]
      rfl

/-- Where there is no limit to what can be written, every document has a report. -/
theorem emit_unlimited (t : FileTree) (workspace : Path) (d : Document) :
    (emit t workspace none d).1 = none :=
  congrArg Prod.fst (emitFrom_unlimited 0 d.files.toList)

theorem entries_of_emit (h : emit t workspace limit d = (none, r)) :
    r.entries = d.files.toList.map (entryOf t workspace) := by
  rcases Prod.mk.inj h with ⟨hnone, rfl⟩
  exact emitFrom_snd hnone

/-! ## The parts of a report -/

theorem present?_isSome (t : FileTree) (workspace : Path) (entry : String × FileCoverage) :
    (present? t workspace entry).isSome = t.isFile (workspace.join ⟨entry.1⟩) := by
  rw [present?, Option.isSome_map, FileTree.isFile_eq_isSome_source?]

theorem key_of_present? (h : present? t workspace entry = some f) : f.key = entry.1 := by
  rcases Option.map_eq_some_iff.1 h with ⟨text, -, rfl⟩
  rfl

theorem mem_present_iff :
    f ∈ present t workspace d ↔ d.file? f.key = some f.coverage ∧
      t.source? (workspace.join ⟨f.key⟩) = some f.text ∧
      f.shown = (t.absolute (workspace.join ⟨f.key⟩)).text := by
  simp only [present, List.mem_filterMap, present?, Option.map_eq_some_iff, Prod.exists,
    Std.ExtTreeMap.mem_toList_iff_getElem?_eq_some, Document.file?]
  constructor
  · rintro ⟨key, c, hc, text, htext, rfl⟩
    exact ⟨hc, htext, rfl⟩
  · rintro ⟨hc, htext, hshown⟩
    refine ⟨f.key, f.coverage, hc, f.text, htext, ?_⟩
    rw [← hshown]

theorem entryOf_of_some (h : present? t workspace entry = some f) :
    entryOf t workspace entry = .record f.totals f.record f.analysis.diagnostics := by
  unfold entryOf
  rw [h]

theorem entryOf_of_none (h : present? t workspace entry = none) :
    entryOf t workspace entry = .missing entry.1 (workspace.join ⟨entry.1⟩) := by
  unfold entryOf
  rw [h]

/-- What is kept of a list and what is made of it, told for each element by itself. -/
theorem filterMap_eq_map_filter {α β : Type} {f : α → Option β} {keep : α → Bool} {g : α → β}
    (h : ∀ a, f a = if keep a then some (g a) else none) (as : List α) :
    as.filterMap f = (as.filter keep).map g := by
  induction as with
  | nil =>
      rfl
  | cons a as ih =>
      rw [List.filterMap_cons, h, List.filter_cons, ih]
      cases keep a <;> rfl

/-- What is read off the files that are there, entry by entry. -/
theorem map_present {α : Type} {g : PresentFile → α} {g' : String × FileCoverage → α}
    (hg : ∀ entry f, present? t workspace entry = some f → g f = g' entry) :
    (present t workspace d).map g =
      (d.files.toList.filter fun e => t.isFile (workspace.join ⟨e.1⟩)).map g' := by
  rw [present, List.map_filterMap]
  refine filterMap_eq_map_filter (fun entry => ?_) d.files.toList
  rw [← present?_isSome]
  cases hpresent : present? t workspace entry with
  | none =>
      rfl
  | some f =>
      exact congrArg some (hg entry f hpresent)

theorem map_key_present :
    (present t workspace d).map (·.key) =
      d.files.keys.filter fun key => t.isFile (workspace.join ⟨key⟩) := by
  rw [map_present fun _ _ => key_of_present?, ← Std.ExtTreeMap.map_fst_toList_eq_keys,
    List.filter_map]
  rfl

theorem skipped_of_entries (h : r.entries = d.files.toList.map (entryOf t workspace)) :
    r.skipped = d.files.keys.filter fun key => !t.isFile (workspace.join ⟨key⟩) := by
  have hkey : ∀ entry, skippedKey? (entryOf t workspace entry) =
      if !t.isFile (workspace.join ⟨entry.1⟩) then some entry.1 else none := by
    intro entry
    rw [← present?_isSome]
    cases hpresent : present? t workspace entry with
    | none =>
        rw [entryOf_of_none hpresent]
        rfl
    | some f =>
        rw [entryOf_of_some hpresent]
        rfl
  rw [skipped, h, ← Std.ExtTreeMap.map_fst_toList_eq_keys, List.filter_map, List.filterMap_map]
  exact filterMap_eq_map_filter hkey d.files.toList

theorem files_of_entries (h : r.entries = d.files.toList.map (entryOf t workspace)) :
    r.files = (present t workspace d).map (·.totals) := by
  rw [files, h, present, List.filterMap_map, List.map_filterMap]
  refine List.filterMap_congr ?_
  intro entry _
  rw [Function.comp_apply]
  cases hpresent : present? t workspace entry with
  | none =>
      rw [entryOf_of_none hpresent]
      rfl
  | some f =>
      rw [entryOf_of_some hpresent]
      rfl

theorem text_of_entries (h : r.entries = d.files.toList.map (entryOf t workspace)) :
    r.text = String.join ((present t workspace d).map (·.record)) := by
  rw [text, h, present]
  induction d.files.toList with
  | nil =>
      rfl
  | cons entry rest ih =>
      rw [List.map_cons, List.map_cons, String.join_cons, ih, List.filterMap_cons]
      cases hpresent : present? t workspace entry with
      | none =>
          rw [entryOf_of_none hpresent]
          exact String.empty_append
      | some f =>
          rw [entryOf_of_some hpresent, List.map_cons, String.join_cons]
          rfl

theorem file_of_mem_entryOf {g : Diagnostic} (hg : g ∈ (entryOf t workspace entry).diagnostics) :
    g.file = entry.1 := by
  cases hpresent : present? t workspace entry with
  | none =>
      rw [entryOf_of_none hpresent] at hg
      rw [List.mem_singleton.1 hg]
  | some f =>
      rw [entryOf_of_some hpresent] at hg
      rw [← key_of_present? hpresent]
      exact (BranchAnalysis.file_of_mem_diagnostics hg).1

/-- The diagnostics that name a file are those of its entry. -/
theorem filter_diagnostics_of_entries (h : r.entries = d.files.toList.map (entryOf t workspace))
    (hentry : entry ∈ d.files.toList) :
    r.diagnostics.filter (·.file = entry.1) = (entryOf t workspace entry).diagnostics := by
  have hother : ∀ e : String × FileCoverage, e.1 ≠ entry.1 →
      (entryOf t workspace e).diagnostics.filter (·.file = entry.1) = [] := by
    intro e he
    refine List.filter_eq_nil_iff.2 ?_
    intro g hg
    rw [file_of_mem_entryOf hg]
    simpa using he
  have hsame : (entryOf t workspace entry).diagnostics.filter (·.file = entry.1) =
      (entryOf t workspace entry).diagnostics := by
    refine List.filter_eq_self.2 ?_
    intro g hg
    simpa using file_of_mem_entryOf hg
  -- No key comes twice, so that the entries before and after this one are those of other files.
  have hdistinct : d.files.toList.Pairwise fun a b => a.1 ≠ b.1 := by
    refine d.files.distinct_keys_toList.imp ?_
    intro a b hne hab
    exact hne (Std.LawfulEqCmp.compare_eq_iff_eq.2 hab)
  rcases List.mem_iff_append.1 hentry with ⟨before, after, hfiles⟩
  rw [hfiles, List.pairwise_append, List.pairwise_cons] at hdistinct
  rcases hdistinct with ⟨-, ⟨hafter, -⟩, hbefore⟩
  have hfirst : before.flatMap (fun e =>
      (entryOf t workspace e).diagnostics.filter (·.file = entry.1)) = [] := by
    refine List.flatMap_eq_nil_iff.2 ?_
    intro e he
    exact hother e (hbefore e he entry (List.mem_cons_self ..))
  have hlast : after.flatMap (fun e =>
      (entryOf t workspace e).diagnostics.filter (·.file = entry.1)) = [] := by
    refine List.flatMap_eq_nil_iff.2 ?_
    intro e he
    exact hother e (hafter e he).symm
  rw [diagnostics, h, List.flatMap_map, List.filter_flatMap, hfiles, List.flatMap_append,
    List.flatMap_cons, hfirst, hlast, hsame, List.nil_append, List.append_nil]

/-- One diagnostic tells of each file that is not there, and no other one does. -/
theorem filter_missing_of_entries (h : r.entries = d.files.toList.map (entryOf t workspace)) :
    (r.diagnostics.filter (·.kind = .missingSource)).map (·.file) = r.skipped := by
  have hone : ∀ e, ((entryOf t workspace e).diagnostics.filter (·.kind = .missingSource)).map
      (·.file) = (skippedKey? (entryOf t workspace e)).toList := by
    intro e
    cases hpresent : present? t workspace e with
    | none =>
        rw [entryOf_of_none hpresent]
        rfl
    | some f =>
        have hnone : f.analysis.diagnostics.filter (·.kind = .missingSource) = [] := by
          refine List.filter_eq_nil_iff.2 ?_
          intro g hg
          simpa using (BranchAnalysis.file_of_mem_diagnostics hg).2
        rw [entryOf_of_some hpresent, ReportEntry.diagnostics, hnone]
        rfl
  rw [diagnostics, skipped, h, List.flatMap_map, List.filter_flatMap, List.map_flatMap,
    List.filterMap_eq_flatMap_toList, List.flatMap_map]
  exact List.flatMap_congr fun e _ => hone e

end Report

/-! ## Sums -/

/-- Each count is the sum of the counts of its kind. -/
structure FileTotals.IsSumOf (total : FileTotals) (all : List FileTotals) : Prop where
  functionsFound : total.functionsFound = (all.map (·.functionsFound)).sum
  functionsHit : total.functionsHit = (all.map (·.functionsHit)).sum
  branchesFound : total.branchesFound = (all.map (·.branchesFound)).sum
  branchesHit : total.branchesHit = (all.map (·.branchesHit)).sum
  linesFound : total.linesFound = (all.map (·.linesFound)).sum
  linesHit : total.linesHit = (all.map (·.linesHit)).sum

/-- What is added up one by one is counted one by one. -/
theorem count_foldl {α β : Type} [AddMonoid β] {add : α → α → α} (count : α → β)
    (hadd : ∀ a b, count (add a b) = count a + count b) (all : List α) (start : α) :
    count (all.foldl add start) = count start + (all.map count).sum := by
  induction all generalizing start with
  | nil =>
      exact (add_zero _).symm
  | cons a all ih =>
      rw [List.foldl_cons, ih, hadd, List.map_cons, List.sum_cons, add_assoc]

theorem FileTotals.isSumOf_sum (all : List FileTotals) : (sum all).IsSumOf all := by
  have hsum : ∀ count : FileTotals → Nat, (∀ a b, count (a.add b) = count a + count b) →
      count { path := "total" } = 0 → count (sum all) = (all.map count).sum := by
    intro count hadd hstart
    rw [sum, count_foldl count hadd, hstart, Nat.zero_add]
  exact ⟨hsum _ (fun _ _ => rfl) rfl, hsum _ (fun _ _ => rfl) rfl, hsum _ (fun _ _ => rfl) rfl,
    hsum _ (fun _ _ => rfl) rfl, hsum _ (fun _ _ => rfl) rfl, hsum _ (fun _ _ => rfl) rfl⟩

/-! ## Independence -/

namespace Report

variable {t : FileTree} {workspace : Path} {limit : Option Nat} {d : Document} {r : Report}
  {f : PresentFile}

/-- A report consists of what the files in the workspace give, and skips the other ones. -/
structure Assembles (t : FileTree) (workspace : Path) (d : Document) (r : Report) : Prop where
  /-- The keys come in order, and so none of them comes twice. -/
  keys : d.files.keys.Pairwise (· < ·)
  found : (present t workspace d).map (·.key) =
    d.files.keys.filter fun key => t.isFile (workspace.join ⟨key⟩)
  skipped : r.skipped = d.files.keys.filter fun key => !t.isFile (workspace.join ⟨key⟩)
  files : r.files = (present t workspace d).map (·.totals)
  text : r.text = String.join ((present t workspace d).map (·.record))
  /-- Each skipped file has one diagnostic of its kind, and no other file has one. -/
  missing : (r.diagnostics.filter (·.kind = .missingSource)).map (·.file) = r.skipped
  diagnostics : ∀ f ∈ present t workspace d,
    r.diagnostics.filter (·.file = f.key) = f.analysis.diagnostics
  counted : ∀ f ∈ present t workspace d, f.content.CountedBy f.totals
  totals : r.totals.IsSumOf r.files
  arms : ∀ f ∈ present t workspace d, Record.ArmsHaveLines f.rows
  /-- Where no name breaks a row, that is also what the text says. -/
  arms_read : ∀ f ∈ present t workspace d, Record.Unbroken f.shown f.coverage →
    ∃ content, Record.content? f.record = some content ∧
      ∀ a ∈ content.arms, ∃ l ∈ content.lines, l.1.toNat = a.1

/-- The part of a report that tells of a file. -/
structure Includes (r : Report) (f : PresentFile) : Prop where
  text : ∃ before after, r.text = before ++ f.record ++ after
  totals : f.totals ∈ r.files
  diagnostics : r.diagnostics.filter (·.file = f.key) = f.analysis.diagnostics

theorem Assembles.includes (h : Assembles t workspace d r) (hf : f ∈ present t workspace d) :
    r.Includes f where
  text := by
    rcases List.mem_iff_append.1 hf with ⟨before, after, hsplit⟩
    refine ⟨String.join (before.map (·.record)), String.join (after.map (·.record)), ?_⟩
    rw [h.text, hsplit, List.map_append, List.map_cons, String.join_append, String.join_cons,
      String.append_assoc]
  totals := by
    rw [h.files]
    exact List.mem_map_of_mem hf
  diagnostics := h.diagnostics f hf

theorem assembles_of_emit (h : emit t workspace limit d = (none, r)) :
    Assembles t workspace d r := by
  have hentries := entries_of_emit h
  refine
    { keys := ?_
      found := map_key_present
      skipped := skipped_of_entries hentries
      files := files_of_entries hentries
      text := text_of_entries hentries
      missing := filter_missing_of_entries hentries
      diagnostics := ?_
      counted := fun f _ => Record.countedBy_totals f.shown f.coverage f.analysis.points
      totals := FileTotals.isSumOf_sum r.files
      arms := fun f _ => BranchAnalysis.armsHaveLines_rows f.shown
      arms_read := ?_ }
  · refine Std.ExtTreeMap.ordered_keys.imp ?_
    intro a b hab
    exact compare_lt_iff_lt.1 hab
  · intro f hf
    rcases List.mem_filterMap.1 hf with ⟨entry, hentry, hpresent⟩
    rw [key_of_present? hpresent, filter_diagnostics_of_entries hentries hentry,
      entryOf_of_some hpresent]
    rfl
  · intro f _ hunbroken
    exact ⟨f.content, Record.content?_record hunbroken f.analysis.points,
      fun a ha => BranchAnalysis.exists_line_of_mem_arms ha⟩

/-- A report is put together from the records of the files in the workspace, and the record of a file
is the same in every report that finds the same text at the same place, whatever the other files
are. -/
theorem emit_independent (h : emit t workspace limit d = (none, r)) :
    Assembles t workspace d r ∧
      ∀ t' workspace' limit' d' r', emit t' workspace' limit' d' = (none, r') →
        ∀ f ∈ present t workspace d, d'.file? f.key = d.file? f.key →
          t'.source? (workspace'.join ⟨f.key⟩) = t.source? (workspace.join ⟨f.key⟩) →
          t'.absolute (workspace'.join ⟨f.key⟩) = t.absolute (workspace.join ⟨f.key⟩) →
          r.Includes f ∧ r'.Includes f := by
  have hassembles := assembles_of_emit h
  refine ⟨hassembles, ?_⟩
  intro t' workspace' limit' d' r' h' f hf hcoverage hsource hshown
  have hf' : f ∈ present t' workspace' d' := by
    rw [mem_present_iff, hcoverage, hsource, hshown]
    exact mem_present_iff.1 hf
  exact ⟨hassembles.includes hf, (assembles_of_emit h').includes hf'⟩

/-- A folder with one file. -/
def oneFile : FileTree where
  entries := (∅ : Table Path.Location FileEntry).insert ["f.c"]
    (.file BranchAnalysis.bothArms.toUTF8 false)

def withMissing : Document where
  files := Table.build [("f.c", BranchAnalysis.firstRun), ("g.c", {})]

def withoutMissing : Document where
  files := Table.build [("f.c", BranchAnalysis.firstRun)]

def onlyFile : PresentFile := ⟨"f.c", "/f.c", BranchAnalysis.bothArms, BranchAnalysis.firstRun⟩

theorem source?_oneFile : oneFile.source? ⟨"/f.c"⟩ = some BranchAnalysis.bothArms := by
  have hlocate : oneFile.locate true ⟨"/f.c"⟩ = .ok ["f.c"] := by
    have hpieces : (Path.mk "/f.c").pieces = [[], "f.c".toList] := by
      decide +kernel
    have hentry : oneFile.entry? ["f.c"] =
        some (.file BranchAnalysis.bothArms.toUTF8 false) := by
      decide +kernel
    unfold FileTree.locate
    rw [if_neg (by decide), if_neg (by decide), if_neg (by decide +kernel), hpieces,
      FileTree.walk_silent _ _ _ _ (by decide)]
    exact FileTree.walk_file _ _ _ _ (by decide) (by decide) (by decide +kernel) hentry
  unfold FileTree.source? FileTree.read FileTree.find
  rw [hlocate]
  decide +kernel

theorem isFile_oneFile_other : oneFile.isFile ⟨"/g.c"⟩ = false := by
  have hlocate : oneFile.locate true ⟨"/g.c"⟩ = .ok ["g.c"] := by
    have hpieces : (Path.mk "/g.c").pieces = [[], "g.c".toList] := by
      decide +kernel
    unfold FileTree.locate
    rw [if_neg (by decide), if_neg (by decide), if_neg (by decide +kernel), hpieces,
      FileTree.walk_silent _ _ _ _ (by decide)]
    exact FileTree.walk_missing _ _ _ _ (by decide) (by decide) (by decide +kernel)
      (by decide +kernel) rfl
  unfold FileTree.isFile FileTree.find
  rw [hlocate]
  decide +kernel

theorem emit_independent_oneMissing :
    let r := (emit oneFile ⟨"/"⟩ none withMissing).2
    let r' := (emit oneFile ⟨"/"⟩ none withoutMissing).2
    emit oneFile ⟨"/"⟩ none withMissing = (none, r) ∧
      emit oneFile ⟨"/"⟩ none withoutMissing = (none, r') ∧
      onlyFile.content.arms = [(1, 0, true), (1, 1, false)] ∧
      Assembles oneFile ⟨"/"⟩ withMissing r ∧ r.skipped = ["g.c"] ∧
      r.Includes onlyFile ∧ r'.Includes onlyFile := by
  intro r r'
  have hr : emit oneFile ⟨"/"⟩ none withMissing = (none, r) :=
    Prod.ext (emit_unlimited _ _ _) rfl
  have hr' : emit oneFile ⟨"/"⟩ none withoutMissing = (none, r') :=
    Prod.ext (emit_unlimited _ _ _) rfl
  have hpath : (Path.mk "/").join ⟨"f.c"⟩ = ⟨"/f.c"⟩ := by
    decide +kernel
  have hother : (Path.mk "/").join ⟨"g.c"⟩ = ⟨"/g.c"⟩ := by
    decide +kernel
  have hfile : withMissing.file? "f.c" = some BranchAnalysis.firstRun := by
    decide +kernel
  have hfile' : withoutMissing.file? "f.c" = some BranchAnalysis.firstRun := by
    decide +kernel
  have hpresent : onlyFile ∈ present oneFile ⟨"/"⟩ withMissing := by
    refine mem_present_iff.2 ⟨hfile, ?_, ?_⟩
    · rw [onlyFile, hpath]
      exact source?_oneFile
    · decide +kernel
  have hkeys : withMissing.files.keys = ["f.c", "g.c"] := by
    decide +kernel
  rcases emit_independent hr with ⟨hassembles, hindependent⟩
  have hfound : oneFile.isFile ⟨"/f.c"⟩ = true := by
    rw [FileTree.isFile_eq_isSome_source?, source?_oneFile]
    rfl
  have hskipped : r.skipped = ["g.c"] := by
    rw [hassembles.skipped, hkeys]
    simp [hpath, hother, hfound, isFile_oneFile_other]
  have hincludes := hindependent _ _ _ _ _ hr' onlyFile hpresent (hfile'.trans hfile.symm) rfl rfl
  exact ⟨hr, hr', by decide +kernel, hassembles, hskipped, hincludes⟩

end Report

end BinaryCoverage
