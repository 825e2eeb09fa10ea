import BinaryCoverage.Proofs.Text.Lines
import BinaryCoverage.Proofs.Text.Number
import BinaryCoverage.Report.Record

/-!
# Records read back

A row is split at its first colon into its tag and its fields, and these are split at commas, where
the name of a function is everything after the first comma.  This file defines:

* `Record.Content` — what the rows of a record say;
* `Record.content?`, `Record.totals?` — the content and the counts that a text is read as;
* `Record.Section` — rows that share a tag.

The rows of a text that is made of sections are found again by their tags.
-/

namespace BinaryCoverage

open Text (splitOnce? decimal digits? word32?)

namespace Record

/-- What the rows of a record say, each kind of row in order. -/
structure Content where
  /-- Each function with its declaration line. -/
  declarations : List (String × UInt32)
  /-- Each function with whether it is covered. -/
  functions : List (String × Bool)
  /-- The line of a branch, the number of an arm in it and whether the arm is covered. -/
  arms : List (Nat × Nat × Bool)
  /-- Each line with whether it is covered. -/
  lines : List (UInt32 × Bool)

/-! ## Reading -/

/-- The fields of a row that has the given tag. -/
def fields? (tag : String) (row : List Char) : Option (List Char) :=
  (splitOnce? [':'] row).bind fun (before, after) => if before = tag.toList then some after else none

/-- The fields of the rows of a text that have the given tag. -/
def tagged (tag : String) (text : String) : List (List Char) :=
  (Text.pieces (· == '\n') text.toList).filterMap (fields? tag)

def flag? : List Char → Option Bool
  | ['0'] => some false
  | ['1'] => some true
  | _ => none

def declaration? (fields : List Char) : Option (String × UInt32) := do
  let (line, name) ← splitOnce? [','] fields
  some (String.ofList name, ← word32? 10 line)

def function? (fields : List Char) : Option (String × Bool) := do
  let (covered, name) ← splitOnce? [','] fields
  some (String.ofList name, ← flag? covered)

def arm? (fields : List Char) : Option (Nat × Nat × Bool) := do
  let (line, fields) ← splitOnce? [','] fields
  let (_, fields) ← splitOnce? [','] fields
  let (arm, covered) ← splitOnce? [','] fields
  some (← digits? 10 line, ← digits? 10 arm, ← flag? covered)

def line? (fields : List Char) : Option (UInt32 × Bool) := do
  let (line, covered) ← splitOnce? [','] fields
  some (← word32? 10 line, ← flag? covered)

/-- Each row with one of the four tags has to be well formed. -/
def content? (text : String) : Option Content := do
  some {
    declarations := ← (tagged "FN" text).mapM declaration?
    functions := ← (tagged "FNDA" text).mapM function?
    arms := ← (tagged "BRDA" text).mapM arm?
    lines := ← (tagged "DA" text).mapM line? }

/-- The fields of the one row that has the given tag. -/
def only? (tag : String) (text : String) : Option (List Char) :=
  match tagged tag text with
  | [fields] => some fields
  | _ => none

def totals? (text : String) : Option FileTotals := do
  some {
    path := String.ofList (← only? "SF" text)
    functionsFound := ← digits? 10 (← only? "FNF" text)
    functionsHit := ← digits? 10 (← only? "FNH" text)
    branchesFound := ← digits? 10 (← only? "BRF" text)
    branchesHit := ← digits? 10 (← only? "BRH" text)
    linesFound := ← digits? 10 (← only? "LF" text)
    linesHit := ← digits? 10 (← only? "LH" text) }

/-! ## Fields as written -/

def flagField (covered : Bool) : List Char := if covered then ['1'] else ['0']

def declarationFields (d : String × UInt32) : List Char := decimal d.2.toNat ++ ',' :: d.1.toList

def functionFields (f : String × Bool) : List Char := flagField f.2 ++ ',' :: f.1.toList

def armFields (a : Nat × Nat × Bool) : List Char :=
  decimal a.1 ++ ',' :: (['0'] ++ ',' :: (decimal a.2.1 ++ ',' :: flagField a.2.2))

def lineFields (l : UInt32 × Bool) : List Char := decimal l.1.toNat ++ ',' :: flagField l.2

theorem flag?_flagField (covered : Bool) : flag? (flagField covered) = some covered := by
  cases covered <;> rfl

theorem comma_notMem_decimal (n : Nat) : ',' ∉ decimal n := Text.notMem_decimal (by decide)

theorem declaration?_fields (d : String × UInt32) :
    declaration? (declarationFields d) = some d := by
  have hsplit := Text.splitOnce?_append_cons (comma_notMem_decimal d.2.toNat) d.1.toList
  simp [declaration?, declarationFields, hsplit, Text.word32?_decimal]

theorem function?_fields (f : String × Bool) : function? (functionFields f) = some f := by
  have hflag : ',' ∉ flagField f.2 := by
    cases f.2 <;> decide
  have hsplit := Text.splitOnce?_append_cons hflag f.1.toList
  simp [function?, functionFields, hsplit, flag?_flagField]

theorem arm?_fields (a : Nat × Nat × Bool) : arm? (armFields a) = some a := by
  have hthird := Text.splitOnce?_append_cons (comma_notMem_decimal a.2.1) (flagField a.2.2)
  have hzero : ',' ∉ ['0'] := by
    decide
  have hsecond := Text.splitOnce?_append_cons hzero (decimal a.2.1 ++ ',' :: flagField a.2.2)
  have hfirst := Text.splitOnce?_append_cons (comma_notMem_decimal a.1)
    (['0'] ++ ',' :: (decimal a.2.1 ++ ',' :: flagField a.2.2))
  simp only [arm?, armFields, hfirst, hsecond, hthird, Option.bind_eq_bind, Option.bind_some,
    Text.digits?_decimal, flag?_flagField]

theorem line?_fields (l : UInt32 × Bool) : line? (lineFields l) = some l := by
  have hsplit := Text.splitOnce?_append_cons (comma_notMem_decimal l.1.toNat) (flagField l.2)
  simp [line?, lineFields, hsplit, Text.word32?_decimal, flag?_flagField]

/-! ## Rows by tag -/

def tagRow (tag : String) (fields : List Char) : String := tag ++ ":" ++ String.ofList fields

theorem toList_tagRow (tag : String) (fields : List Char) :
    (tagRow tag fields).toList = tag.toList ++ ':' :: fields := by
  simp [tagRow]

theorem fields?_tagRow {tag : String} (h : ':' ∉ tag.toList) (wanted : String)
    (fields : List Char) :
    fields? wanted (tagRow tag fields).toList = if tag = wanted then some fields else none := by
  have hsplit := Text.splitOnce?_append_cons h fields
  simp [fields?, toList_tagRow, hsplit, String.toList_inj]

/-- The rows that share a tag. -/
structure Section where
  tag : String
  fields : List (List Char)

namespace Section

def rows (s : Section) : List String := s.fields.map (tagRow s.tag)

/-- The tag can be told from the fields, and the rows from each other. -/
structure Separable (s : Section) : Prop where
  colon : ':' ∉ s.tag.toList
  tag_newline : '\n' ∉ s.tag.toList
  newline : ∀ fields ∈ s.fields, '\n' ∉ fields

theorem Separable.rows_newline {s : Section} (h : s.Separable) :
    ∀ row ∈ s.rows, '\n' ∉ row.toList := by
  intro row hrow
  obtain ⟨fields, hfields, rfl⟩ := List.mem_map.1 hrow
  simp [toList_tagRow, h.tag_newline, h.newline fields hfields]

theorem filterMap_fields? {s : Section} (hcolon : ':' ∉ s.tag.toList) (tag : String) :
    (s.rows.map String.toList).filterMap (fields? tag) =
      if s.tag = tag then s.fields else [] := by
  have hrows : (s.rows.map String.toList).filterMap (fields? tag) =
      s.fields.filterMap fun fields => if s.tag = tag then some fields else none := by
    unfold rows
    rw [List.map_map, List.filterMap_map]
    exact congrArg (s.fields.filterMap ·) (funext (fields?_tagRow hcolon tag))
  rw [hrows]
  split <;> simp

end Section

/-- The last two rows of a record have no tag. -/
theorem filterMap_fields?_sections {sections : List Section}
    (h : ∀ s ∈ sections, ':' ∉ s.tag.toList) (tag : String) :
    ((sections.flatMap Section.rows ++ ["end_of_record", ""]).map String.toList).filterMap
        (fields? tag) = sections.flatMap fun s => if s.tag = tag then s.fields else [] := by
  have hend : (["end_of_record", ""].map String.toList).filterMap (fields? tag) = [] := by
    rfl
  rw [List.map_append, List.filterMap_append, hend, List.append_nil, List.map_flatMap,
    List.filterMap_flatMap]
  exact List.flatMap_congr fun s hs => Section.filterMap_fields? (h s hs) tag

theorem tagged_ofRows {sections : List Section} (h : ∀ s ∈ sections, s.Separable) (tag : String) :
    tagged tag (ofRows (sections.flatMap Section.rows ++ ["end_of_record", ""])) =
      sections.flatMap fun s => if s.tag = tag then s.fields else [] := by
  have htext : (ofRows (sections.flatMap Section.rows ++ ["end_of_record", ""])).toList =
      ((sections.flatMap Section.rows ++ ["end_of_record", ""]).map String.toList).flatMap
        (· ++ ['\n']) := by
    simp [ofRows, String.toList_join, List.flatMap_map]
  have hnewline : ∀ row ∈ (sections.flatMap Section.rows ++ ["end_of_record", ""]).map
      String.toList, '\n' ∉ row := by
    intro row hrow
    obtain ⟨text, htext, rfl⟩ := List.mem_map.1 hrow
    rcases List.mem_append.1 htext with htext | htext
    · obtain ⟨s, hs, hin⟩ := List.mem_flatMap.1 htext
      exact (h s hs).rows_newline text hin
    · have hend : ∀ row ∈ ["end_of_record", ""], '\n' ∉ row.toList := by
        decide
      exact hend text htext
  -- After the last newline the split leaves an empty piece, which has no tag.
  have hlast : [[]].filterMap (fields? tag) = [] := by
    rfl
  unfold tagged
  rw [htext, Text.pieces_flatMap_newline hnewline, List.filterMap_append, hlast, List.append_nil]
  exact filterMap_fields?_sections (fun s hs => (h s hs).colon) tag

end Record

end BinaryCoverage
