import BinaryCoverage.Proofs.Json.Record
import BinaryCoverage.Proofs.Report.Reading
import BinaryCoverage.Proofs.Table

/-!
# What a record says

The record of a file consists of sections, and is read as what these were made of whatever the names
in it look like, as long as they hold no line feed.  This file defines:

* `FileCoverage.content` — the content that the record of a file is meant to have;
* `Record.sections` — the rows of a record by their tags;
* `Record.Content.CountedBy` — counts that agree with the rows.
-/

namespace BinaryCoverage

open Text (decimal)

namespace FileCoverage

/-- What the record of a file says; the arms of each point are numbered from zero, in order. -/
def content (c : FileCoverage) (points : List BranchPoint) : Record.Content where
  declarations := c.functions.toList.map fun (name, f) => (name, f.declaredAt)
  functions := c.functions.toList.map fun (name, f) => (name, f.covered)
  arms := points.flatMap fun p => p.arms.zipIdx.map fun (covered, arm) => (p.line, arm, covered)
  lines := c.lines.toList.map fun (line, l) => (line, l.covered)

end FileCoverage

/-! ## Counting on the way -/

namespace Record

theorem writeAll_eq {α : Type} (rowsOf : α → List String) (count : FileTotals → α → FileTotals)
    (n : FileTotals) (as : List α) :
    writeAll rowsOf count n as = (as.flatMap rowsOf, as.foldl count n) := by
  induction as generalizing n with
  | nil =>
      rfl
  | cons a rest ih =>
      rw [writeAll, ih]
      rfl

/-- Where each item counts as so many flags, a run over items counts all their flags, wherever
the counts are put. -/
theorem foldl_count {α : Type} {count : FileTotals → α → FileTotals}
    (put : Nat → Nat → FileTotals) (flags : α → List Bool)
    (hcount : ∀ found hit a, count (put found hit) a =
      put (found + (flags a).length) (hit + (flags a).count true))
    (found hit : Nat) (as : List α) :
    as.foldl count (put found hit) =
      put (found + (as.flatMap flags).length) (hit + (as.flatMap flags).count true) := by
  induction as generalizing found hit with
  | nil =>
      rfl
  | cons a rest ih =>
      rw [List.foldl_cons, hcount, ih, List.flatMap_cons, List.length_append, List.count_append,
        Nat.add_assoc, Nat.add_assoc]

end Record

namespace FileTotals

theorem foldl_countFunction (n : FileTotals) (entries : List (String × FunctionCoverage)) :
    entries.foldl countFunction n =
      { n with
        functionsFound := n.functionsFound + (entries.map (·.2.covered)).length
        functionsHit := n.functionsHit + (entries.map (·.2.covered)).count true } := by
  rw [List.map_eq_flatMap]
  refine Record.foldl_count
    (fun found hit => { n with functionsFound := found, functionsHit := hit })
    (fun entry => [entry.2.covered]) ?_ n.functionsFound n.functionsHit entries
  intro found hit entry
  cases hcovered : entry.2.covered <;> simp [countFunction, hcovered]

theorem foldl_countBranch (n : FileTotals) (points : List BranchPoint) :
    points.foldl countBranch n =
      { n with
        branchesFound := n.branchesFound + (points.flatMap (·.arms)).length
        branchesHit := n.branchesHit + (points.flatMap (·.arms)).count true } :=
  Record.foldl_count (fun found hit => { n with branchesFound := found, branchesHit := hit })
    (·.arms) (fun _ _ _ => rfl) n.branchesFound n.branchesHit points

theorem foldl_countLine (n : FileTotals) (entries : List (UInt32 × LineCoverage)) :
    entries.foldl countLine n =
      { n with
        linesFound := n.linesFound + (entries.map (·.2.covered)).length
        linesHit := n.linesHit + (entries.map (·.2.covered)).count true } := by
  rw [List.map_eq_flatMap]
  refine Record.foldl_count (fun found hit => { n with linesFound := found, linesHit := hit })
    (fun entry => [entry.2.covered]) ?_ n.linesFound n.linesHit entries
  intro found hit entry
  cases hcovered : entry.2.covered <;> simp [countLine, hcovered]

end FileTotals

theorem Table.count_covered {κ α : Type} [Ord κ] [Std.TransOrd κ] (t : Table κ α)
    (covered : α → Bool) :
    (t.toList.map fun e => covered e.2).count true = (t.values.filter covered).length := by
  rw [values_eq, List.filter_map, List.length_map, ← List.countP_eq_length_filter,
    List.count_eq_countP, List.countP_map]
  simp [Function.comp_def]

/-- What has been counted on the way is how many entries and arms there are, and how many of them
are covered. -/
theorem FileCoverage.totals_eq (c : FileCoverage) (path : String) (points : List BranchPoint) :
    c.totals path points =
      { path
        functionsFound := c.functions.size
        functionsHit := (c.functions.values.filter (·.covered)).length
        branchesFound := (points.flatMap (·.arms)).length
        branchesHit := (points.flatMap (·.arms)).count true
        linesFound := c.lines.size
        linesHit := (c.lines.values.filter (·.covered)).length } := by
  simp [totals, Record.write, Record.writeAll_eq, FileTotals.foldl_countFunction,
    FileTotals.foldl_countBranch, FileTotals.foldl_countLine, Table.count_covered]

@[simp]
theorem FileCoverage.path_totals (c : FileCoverage) (path : String) (points : List BranchPoint) :
    (c.totals path points).path = path := by
  rw [totals_eq]

/-! ## The rows of a record -/

namespace Record

/-- The rows of a record with a given content and given counts, all but the last two. -/
def sections (content : Content) (n : FileTotals) : List Section :=
  [⟨"TN", [[]]⟩, ⟨"SF", [n.path.toList]⟩,
    ⟨"FN", content.declarations.map declarationFields⟩,
    ⟨"FNDA", content.functions.map functionFields⟩,
    ⟨"FNF", [decimal n.functionsFound]⟩, ⟨"FNH", [decimal n.functionsHit]⟩,
    ⟨"BRDA", content.arms.map armFields⟩,
    ⟨"BRF", [decimal n.branchesFound]⟩, ⟨"BRH", [decimal n.branchesHit]⟩,
    ⟨"DA", content.lines.map lineFields⟩,
    ⟨"LF", [decimal n.linesFound]⟩, ⟨"LH", [decimal n.linesHit]⟩]

theorem toList_numeral (n : Nat) : (numeral n).toList = decimal n := String.toList_ofList

theorem toList_flag (covered : Bool) : (flag covered).toList = flagField covered := by
  cases covered <;> rfl

theorem declarationRow_eq (entry : String × FunctionCoverage) :
    declarationRow entry = tagRow "FN" (declarationFields (entry.1, entry.2.declaredAt)) := by
  apply String.toList_inj.1
  simp [toString, declarationRow, toList_tagRow, declarationFields, toList_numeral]

theorem functionRow_eq (entry : String × FunctionCoverage) :
    functionRow entry = tagRow "FNDA" (functionFields (entry.1, entry.2.covered)) := by
  apply String.toList_inj.1
  simp [toString, functionRow, toList_tagRow, functionFields, toList_flag]

theorem lineRow_eq (entry : UInt32 × LineCoverage) :
    lineRow entry = tagRow "DA" (lineFields (entry.1, entry.2.covered)) := by
  apply String.toList_inj.1
  simp [toString, lineRow, toList_tagRow, lineFields, toList_numeral, toList_flag]

theorem armRows_eq (line arm : Nat) (arms : List Bool) :
    armRows line arm arms = (arms.zipIdx arm).map fun (covered, arm) =>
      tagRow "BRDA" (armFields (line, arm, covered)) := by
  induction arms generalizing arm with
  | nil =>
      rfl
  | cons covered rest ih =>
      have hfirst : s!"BRDA:{numeral line},0,{numeral arm},{flag covered}" =
          tagRow "BRDA" (armFields (line, arm, covered)) := by
        apply String.toList_inj.1
        simp [toString, toList_tagRow, armFields, toList_numeral, toList_flag]
      rw [armRows, ih, List.zipIdx_cons, List.map_cons, hfirst]

theorem branchRows_eq (point : BranchPoint) :
    branchRows point = point.arms.zipIdx.map fun (covered, arm) =>
      tagRow "BRDA" (armFields (point.line, arm, covered)) :=
  armRows_eq point.line 0 point.arms

theorem countRows_eq (found hit : String) (m n : Nat) :
    countRows found hit m n = [tagRow found (decimal m), tagRow hit (decimal n)] := by
  simp [toString, countRows, tagRow, numeral]

/-- The counts that are written after each kind of rows are those of the whole record. -/
theorem rows_of_totals (path : String) (c : FileCoverage) (points : List BranchPoint) :
    rows path c points =
      let n := c.totals path points
      ["TN:", s!"SF:{path}"] ++ c.functions.toList.map declarationRow ++
        c.functions.toList.map functionRow ++
        countRows "FNF" "FNH" n.functionsFound n.functionsHit ++
        points.flatMap branchRows ++
        countRows "BRF" "BRH" n.branchesFound n.branchesHit ++
        c.lines.toList.map lineRow ++
        countRows "LF" "LH" n.linesFound n.linesHit ++ ["end_of_record", ""] := by
  simp only [rows, FileCoverage.totals, write, writeAll_eq, FileTotals.foldl_countFunction,
    FileTotals.foldl_countBranch, FileTotals.foldl_countLine, ← List.map_eq_flatMap]

theorem rows_eq (path : String) (c : FileCoverage) (points : List BranchPoint) :
    rows path c points =
      (sections (c.content points) (c.totals path points)).flatMap Section.rows ++
        ["end_of_record", ""] := by
  have hname : "TN:" = tagRow "TN" [] := by
    decide
  have hpath : s!"SF:{path}" = tagRow "SF" (c.totals path points).path.toList := by
    simp [toString, tagRow]
  have hdeclarations : c.functions.toList.map declarationRow =
      Section.rows ⟨"FN", (c.content points).declarations.map declarationFields⟩ := by
    rw [funext declarationRow_eq]
    simp [Section.rows, FileCoverage.content]
  have hfunctions : c.functions.toList.map functionRow =
      Section.rows ⟨"FNDA", (c.content points).functions.map functionFields⟩ := by
    rw [funext functionRow_eq]
    simp [Section.rows, FileCoverage.content]
  have hbranches : points.flatMap branchRows =
      Section.rows ⟨"BRDA", (c.content points).arms.map armFields⟩ := by
    rw [funext branchRows_eq]
    simp [Section.rows, FileCoverage.content, List.map_flatMap, Function.comp_def]
  have hlines : c.lines.toList.map lineRow =
      Section.rows ⟨"DA", (c.content points).lines.map lineFields⟩ := by
    rw [funext lineRow_eq]
    simp [Section.rows, FileCoverage.content]
  rw [rows_of_totals]
  dsimp only
  rw [hname, hpath, hdeclarations, hfunctions, hbranches, hlines]
  simp [sections, countRows_eq, Section.rows]

/-- Neither the path nor a name of a function holds a line feed. -/
structure Unbroken (path : String) (c : FileCoverage) : Prop where
  path : '\n' ∉ path.toList
  names : ∀ entry ∈ c.functions.toList, '\n' ∉ entry.1.toList

theorem mapM_of_eq_map {α : Type} {read? : List Char → Option α} {write : α → List Char}
    {rows : List (List Char)} {as : List α} (hrows : rows = as.map write)
    (hread : ∀ a, read? (write a) = some a) : rows.mapM read? = some as := by
  rw [hrows]
  exact Json.mapM_map_of_inverse fun a _ => hread a

section Unbroken

variable {path : String} {c : FileCoverage} (h : Unbroken path c) (points : List BranchPoint)
include h

theorem separable_sections :
    ∀ s ∈ sections (c.content points) (c.totals path points), s.Separable := by
  have hdecimal : ∀ n, '\n' ∉ decimal n := fun n => Text.notMem_decimal (by decide)
  have hflag : ∀ covered, '\n' ∉ flagField covered := by
    decide
  have hdeclarations : ∀ d ∈ (c.content points).declarations, '\n' ∉ declarationFields d := by
    intro d hd
    obtain ⟨entry, hentry, rfl⟩ := List.mem_map.1 hd
    simp [declarationFields, hdecimal, h.names entry hentry]
  have hfunctions : ∀ f ∈ (c.content points).functions, '\n' ∉ functionFields f := by
    intro f hf
    obtain ⟨entry, hentry, rfl⟩ := List.mem_map.1 hf
    simp [functionFields, hflag, h.names entry hentry]
  have harms : ∀ a, '\n' ∉ armFields a := by
    simp [armFields, hdecimal, hflag]
  have hlines : ∀ l, '\n' ∉ lineFields l := by
    simp [lineFields, hdecimal, hflag]
  have hpath : '\n' ∉ (c.totals path points).path.toList := by
    rw [FileCoverage.path_totals]
    exact h.path
  have htags : ∀ s ∈ sections (c.content points) (c.totals path points),
      ':' ∉ s.tag.toList ∧ '\n' ∉ s.tag.toList := by
    simp [sections]
  have hfields : ∀ s ∈ sections (c.content points) (c.totals path points),
      ∀ fields ∈ s.fields, '\n' ∉ fields := by
    simp only [sections, List.forall_mem_cons, List.forall_mem_map, List.not_mem_nil, not_false_iff,
      IsEmpty.forall_iff, implies_true, true_and, and_true]
    exact ⟨hpath, hdeclarations, hfunctions, hdecimal _, hdecimal _, fun a _ => harms a,
      hdecimal _, hdecimal _, fun l _ => hlines l, hdecimal _, hdecimal _⟩
  intro s hs
  exact ⟨(htags s hs).1, (htags s hs).2, hfields s hs⟩

theorem tagged_record (tag : String) :
    tagged tag (c.record path points) =
      (sections (c.content points) (c.totals path points)).flatMap fun s =>
        if s.tag = tag then s.fields else [] := by
  unfold FileCoverage.record
  rw [rows_eq]
  exact tagged_ofRows (separable_sections h points) tag

theorem content?_record : content? (c.record path points) = some (c.content points) := by
  have hdeclarations : (tagged "FN" (c.record path points)).mapM declaration? =
      some (c.content points).declarations :=
    mapM_of_eq_map (by simp [tagged_record h, sections]) declaration?_fields
  have hfunctions : (tagged "FNDA" (c.record path points)).mapM function? =
      some (c.content points).functions :=
    mapM_of_eq_map (by simp [tagged_record h, sections]) function?_fields
  have harms : (tagged "BRDA" (c.record path points)).mapM arm? =
      some (c.content points).arms :=
    mapM_of_eq_map (by simp [tagged_record h, sections]) arm?_fields
  have hlines : (tagged "DA" (c.record path points)).mapM line? =
      some (c.content points).lines :=
    mapM_of_eq_map (by simp [tagged_record h, sections]) line?_fields
  simp [content?, hdeclarations, hfunctions, harms, hlines]

theorem totals?_record : totals? (c.record path points) = some (c.totals path points) := by
  have honly : ∀ {tag : String} {fields : List Char},
      tagged tag (c.record path points) = [fields] →
      only? tag (c.record path points) = some fields := by
    intro tag fields htagged
    simp [only?, htagged]
  have hpath : only? "SF" (c.record path points) = some path.toList :=
    honly (by simp [tagged_record h, sections])
  have hfunctionsFound : only? "FNF" (c.record path points) =
      some (decimal (c.totals path points).functionsFound) :=
    honly (by simp [tagged_record h, sections])
  have hfunctionsHit : only? "FNH" (c.record path points) =
      some (decimal (c.totals path points).functionsHit) :=
    honly (by simp [tagged_record h, sections])
  have hbranchesFound : only? "BRF" (c.record path points) =
      some (decimal (c.totals path points).branchesFound) :=
    honly (by simp [tagged_record h, sections])
  have hbranchesHit : only? "BRH" (c.record path points) =
      some (decimal (c.totals path points).branchesHit) :=
    honly (by simp [tagged_record h, sections])
  have hlinesFound : only? "LF" (c.record path points) =
      some (decimal (c.totals path points).linesFound) :=
    honly (by simp [tagged_record h, sections])
  have hlinesHit : only? "LH" (c.record path points) =
      some (decimal (c.totals path points).linesHit) :=
    honly (by simp [tagged_record h, sections])
  simp [totals?, hpath, hfunctionsFound, hfunctionsHit, hbranchesFound, hbranchesHit, hlinesFound,
    hlinesHit, Text.digits?_decimal]
  rw [FileCoverage.totals_eq]

end Unbroken

/-! ## Counts -/

/-- Counts that agree with the rows: how many there are, and how many say that they are covered. -/
structure Content.CountedBy (content : Content) (n : FileTotals) : Prop where
  declarations : n.functionsFound = content.declarations.length
  functionsFound : n.functionsFound = content.functions.length
  functionsHit : n.functionsHit = content.functions.countP (·.2)
  branchesFound : n.branchesFound = content.arms.length
  branchesHit : n.branchesHit = content.arms.countP (·.2.2)
  linesFound : n.linesFound = content.lines.length
  linesHit : n.linesHit = content.lines.countP (·.2)

theorem countedBy_totals (path : String) (c : FileCoverage) (points : List BranchPoint) :
    (c.content points).CountedBy (c.totals path points) where
  declarations := by
    simp [FileCoverage.content, FileCoverage.totals_eq]
  functionsFound := by
    simp [FileCoverage.content, FileCoverage.totals_eq]
  functionsHit := by
    simp [FileCoverage.content, FileCoverage.totals_eq, ← Table.count_covered,
      List.count_eq_countP, List.countP_map, Function.comp_def]
  branchesFound := by
    simp [FileCoverage.content, FileCoverage.totals_eq, List.length_flatMap]
  branchesHit := by
    have harms : ∀ p : BranchPoint, p.arms.countP (fun covered => covered) =
        (p.arms.zipIdx.map fun (covered, arm) => (p.line, arm, covered)).countP (·.2.2) := by
      intro p
      -- The numbers of the arms do not matter to their count.
      have hplain : (p.arms.zipIdx.map Prod.fst).countP (fun covered => covered) =
          p.arms.countP fun covered => covered := by
        rw [List.zipIdx_map_fst]
      rw [List.countP_map] at hplain
      simpa [List.countP_map, Function.comp_def] using hplain.symm
    simp [FileCoverage.content, FileCoverage.totals_eq, List.count_eq_countP, List.countP_flatMap,
      harms, Function.comp_def]
  linesFound := by
    simp [FileCoverage.content, FileCoverage.totals_eq]
  linesHit := by
    simp [FileCoverage.content, FileCoverage.totals_eq, ← Table.count_covered,
      List.count_eq_countP, List.countP_map, Function.comp_def]

/-- The two rows of a function say all that is known of it. -/
theorem functions_eq_of_content {c c' : FileCoverage} {points points' : List BranchPoint}
    (hdeclarations : (c.content points).declarations = (c'.content points').declarations)
    (hfunctions : (c.content points).functions = (c'.content points').functions) :
    c.functions = c'.functions := by
  have hrows := congrArg₂ List.zip hdeclarations hfunctions
  simp only [FileCoverage.content, List.zip_map'] at hrows
  have hentries : c.functions.toList = c'.functions.toList := by
    refine List.map_injective_iff.2 ?_ hrows
    rintro ⟨name, f⟩ ⟨name', f'⟩ hentry
    cases f
    cases f'
    simp_all
  rw [← Table.build_toList c.functions, hentries, Table.build_toList]

end Record

/-- A record is read as the functions, arms and lines of the file, its counts are those of the rows,
and two files with one record agree in all that is read from it. -/
theorem FileCoverage.record_reads_back (path : String) (c : FileCoverage)
    (points : List BranchPoint) (h : Record.Unbroken path c) :
    Record.content? (c.record path points) = some (c.content points) ∧
    Record.totals? (c.record path points) = some (c.totals path points) ∧
    (c.content points).CountedBy (c.totals path points) ∧
    (c.totals path points).functionsHit ≤ (c.totals path points).functionsFound ∧
    (c.totals path points).branchesHit ≤ (c.totals path points).branchesFound ∧
    (c.totals path points).linesHit ≤ (c.totals path points).linesFound ∧
    ∀ path' c' points', Record.Unbroken path' c' →
      c'.record path' points' = c.record path points →
      path' = path ∧ c'.functions = c.functions ∧ c'.content points' = c.content points := by
  have hcontent := Record.content?_record h points
  have htotals := Record.totals?_record h points
  have hcounted := Record.countedBy_totals path c points
  refine ⟨hcontent, htotals, hcounted, ?_, ?_, ?_, ?_⟩
  · rw [hcounted.functionsFound, hcounted.functionsHit]
    exact List.countP_le_length
  · rw [hcounted.branchesFound, hcounted.branchesHit]
    exact List.countP_le_length
  · rw [hcounted.linesFound, hcounted.linesHit]
    exact List.countP_le_length
  · intro path' c' points' h' hrecord
    have hcontent' := Record.content?_record h' points'
    have htotals' := Record.totals?_record h' points'
    rw [hrecord, hcontent] at hcontent'
    rw [hrecord, htotals] at htotals'
    have hsame : c'.content points' = c.content points := (Option.some.inj hcontent').symm
    have hpath : path' = path := by
      have hpaths := congrArg FileTotals.path (Option.some.inj htotals').symm
      rwa [path_totals, path_totals] at hpaths
    exact ⟨hpath, Record.functions_eq_of_content (congrArg (·.declarations) hsame)
      (congrArg (·.functions) hsame), hsame⟩

/-- Names that look like rows and fields. -/
def FileCoverage.awkward : FileCoverage where
  functions := Table.build [("DA:1,1", { covered := true, declaredAt := 3 }), ("f(int, int)", {})]
  lines := Table.build [(1, { covered := true }), (2, {})]

/-- The same file with an instruction, of which the record says nothing. -/
def FileCoverage.awkwardTraced : FileCoverage :=
  { FileCoverage.awkward with
    lines := FileCoverage.awkward.lines.insert 2
      { records := Table.build [(1, Table.build [(16, ⟨"ret", 0⟩)])] } }

theorem FileCoverage.record_reads_back_awkward :
    let points : List BranchPoint := [⟨4, .conditional, [true, false]⟩, ⟨6, .selection, []⟩]
    let text := FileCoverage.awkward.record "/a,b:c" points
    Record.Unbroken "/a,b:c" .awkward ∧
    (Record.content? text).map (·.functions) = some [("DA:1,1", true), ("f(int, int)", false)] ∧
    (Record.content? text).map (·.arms) = some [(4, 0, true), (4, 1, false)] ∧
    (Record.totals? text).map (·.path) = some "/a,b:c" ∧
    FileCoverage.awkwardTraced.content points = FileCoverage.awkward.content points := by
  intro points text
  have hunbroken : Record.Unbroken "/a,b:c" .awkward := ⟨by decide, by decide +kernel⟩
  have htraced : Record.Unbroken "/a,b:c" .awkwardTraced := ⟨by decide, by decide +kernel⟩
  have hrecord : FileCoverage.awkwardTraced.record "/a,b:c" points = text := by
    decide +kernel
  obtain ⟨hcontent, htotals, -, -, -, -, hsame⟩ :=
    record_reads_back "/a,b:c" .awkward points hunbroken
  refine ⟨hunbroken, ?_, ?_, ?_, (hsame "/a,b:c" .awkwardTraced points htraced hrecord).2.2⟩
  · rw [hcontent, Option.map_some]
    decide +kernel
  · rw [hcontent, Option.map_some]
    decide +kernel
  · rw [htotals, Option.map_some]
    rfl

end BinaryCoverage
