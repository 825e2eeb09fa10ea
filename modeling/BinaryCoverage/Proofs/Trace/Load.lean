import BinaryCoverage.Proofs.Files.Walk
import BinaryCoverage.Trace.Load

/-!
# Loading one trace

A pattern without wildcards that is the name of a file selects that file and no other.
-/

namespace BinaryCoverage

variable {t : FileTree} {name : String}

namespace Glob

theorem childOf_home (name : List Char) : childOf ⟨"."⟩ name = Path.ofChars name :=
  if_pos (by decide)

/-- A name without wildcards is looked for at home, and nowhere else. -/
theorem paths_of_literal {p : NamePattern} {cs : List Char} (hliteral : p.literal? = some cs)
    (hdots : cs ≠ ['.'] ∧ cs ≠ ['.', '.']) (hstands : stands t (Path.ofChars cs)) :
    Glob.paths t ⟨false, [p], false⟩ = [Path.ofChars cs] := by
  have hfuel : depthLimit t ⟨false, [p], false⟩ =
      (depthLimit t ⟨false, [p], false⟩ - 1) + 1 := by
    unfold depthLimit
    simp
    omega
  unfold paths
  rw [hfuel, under]
  simp [hliteral, childOf_home, hdots, hstands, result]

/-- The name of a file at home, as a pattern, stands for that file. -/
theorem paths_of_name {bytes : ByteArray} {executable : Bool} {p : NamePattern}
    (hname : FileTree.isPlain name)
    (hentry : t.entry? (t.home ++ [name]) = some (.file bytes executable))
    (hliteral : p.literal? = some name.toList) : Glob.paths t ⟨false, [p], false⟩ = [⟨name⟩] := by
  have hpath : Path.ofChars name.toList = ⟨name⟩ := by
    rw [Path.ofChars, String.ofList_toList]
  rw [← hpath]
  refine Glob.paths_of_literal hliteral ?_ ?_
  · obtain ⟨hsilent, hup, -⟩ := FileTree.isPlain_iff.1 hname
    refine ⟨?_, hup⟩
    intro hdot
    rw [hdot] at hsilent
    exact hsilent rfl
  · rw [hpath, Glob.stands, FileTree.locate_name hname hentry]
    dsimp only
    rw [hentry]
    rfl

end Glob

namespace TraceStore

/-- The trace in a file that the pattern names. -/
theorem load_name {body : String} {executable : Bool} {p : NamePattern}
    (hname : FileTree.isPlain name)
    (hentry : t.entry? (t.home ++ [name]) = some (.file body.toUTF8 executable))
    (hglob : Glob.read? name = some ⟨false, [p], false⟩)
    (hliteral : p.literal? = some name.toList) :
    load t [name] = .ok (({} : TraceStore).ingest body, notices name body) := by
  have hpaths : Glob.paths t ⟨false, [p], false⟩ = [⟨name⟩] :=
    Glob.paths_of_name hname hentry hliteral
  have hfound : selectAll t ∅ [name] =
      .ok (Table.putWith (fun old _ => old) ∅ (Path.components ⟨name⟩) ⟨name⟩) := by
    rw [selectAll, select, hglob]
    dsimp only
    rw [hpaths, List.filter_cons_of_pos (FileTree.isFile_name hname hentry)]
    rfl
  rw [load, loadThrough, hfound]
  have hbody := FileTree.readText_name hname hentry
  -- The table has one entry, which is the whole of its values.
  change Except.ok (ingestFile t.readText {} ⟨name⟩, fileNotices t.readText ⟨name⟩ ++ []) = _
  rw [ingestFile, fileNotices, hbody, List.append_nil]

end TraceStore

end BinaryCoverage
