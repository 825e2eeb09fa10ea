import BinaryCoverage.Proofs.Correlation.Reachable

/-!
# Merging the documents of two runs

Each run numbers its binaries by itself, so that binaries of different runs may have the same
index; their instructions then come to stand in one place.  This file defines:

* `Document.KeptApart` — merging leaves to each binary what it had in its own document;
* `Document.DistinctIndices` — no two binaries of a document have the same index;
* `Document.numberedNames` — the binaries without a reserved index;

and shows when documents of different binaries are kept apart (`merge_keptApart_iff`): only when
no more than one of the two runs has had to number a binary.
-/

namespace BinaryCoverage

namespace Document

def binaryNames (d : Document) : List String := d.provenance.binaries.keys

def numberedNames (d : Document) : List String := d.binaryNames.filter fun name => ¬ IsReserved name

def DistinctIndices (d : Document) : Prop :=
  ∀ a b i, d.index? a = some i → d.index? b = some i → a = b

structure KeptApart (d e : Document) : Prop where
  ofFirst : ∀ name ∈ d.binaryNames, ∀ key n address,
    (d.merge e).recordOf? name key n address = d.recordOf? name key n address
  ofSecond : ∀ name ∈ e.binaryNames, ∀ key n address,
    (d.merge e).recordOf? name key n address = e.recordOf? name key n address
  distinct : (d.merge e).DistinctIndices
  /-- Nothing of the first document is overwritten. -/
  kept : ∀ key n binary address r, d.record? key n binary address = some r →
    (d.merge e).record? key n binary address = some r

theorem mem_binaryNames_iff {d : Document} {name : String} :
    name ∈ d.binaryNames ↔ ∃ i, d.index? name = some i := by
  unfold binaryNames index?
  rw [Std.ExtTreeMap.mem_keys, Std.ExtTreeMap.mem_iff_isSome_getElem?, Option.isSome_iff_exists]

theorem mem_numberedNames_iff {d : Document} {name : String} :
    name ∈ d.numberedNames ↔ name ∈ d.binaryNames ∧ ¬ IsReserved name := by
  simp [numberedNames]

/-! ## Distinct indices -/

section Distinct

variable {d e : Document}

theorem index?_eq_none_of_disjoint (hdisjoint : ∀ name ∈ d.binaryNames, name ∉ e.binaryNames)
    {name : String} {i : UInt32} (h : e.index? name = some i) : d.index? name = none := by
  cases hd : d.index? name with
  | none =>
      rfl
  | some j =>
      exact absurd (mem_binaryNames_iff.2 ⟨i, h⟩) (hdisjoint name (mem_binaryNames_iff.2 ⟨j, hd⟩))

/-- With distinct indices, binaries of the two documents have no index in common. -/
theorem no_common_index (hdisjoint : ∀ name ∈ d.binaryNames, name ∉ e.binaryNames)
    (hdistinct : (d.merge e).DistinctIndices) {a b : String} {i : UInt32}
    (ha : d.index? a = some i) (hb : e.index? b = some i) : False := by
  -- The merged document names both, so that the two names would have to be the same.
  have hnone := index?_eq_none_of_disjoint hdisjoint hb
  have hab : a = b := hdistinct a b i (by rw [index?_merge, ha]; rfl)
    (by rw [index?_merge, hnone, hb]; rfl)
  rw [hab, hnone] at ha
  cases ha

/-- The second document has nothing where a binary of the first one has its records. -/
theorem record?_second_eq_none (he : e.Finished)
    (hdisjoint : ∀ name ∈ d.binaryNames, name ∉ e.binaryNames)
    (hdistinct : (d.merge e).DistinctIndices) {a : String} {i : UInt32}
    (ha : d.index? a = some i) (key : String) (n : UInt32) (address : UInt64) :
    e.record? key n i address = none := by
  cases hr : e.record? key n i address with
  | none =>
      rfl
  | some r =>
      rcases he.named hr with ⟨b, hb⟩
      exact (no_common_index hdisjoint hdistinct ha hb).elim

theorem record?_first_eq_none (hd : d.Finished)
    (hdisjoint : ∀ name ∈ d.binaryNames, name ∉ e.binaryNames)
    (hdistinct : (d.merge e).DistinctIndices) {b : String} {i : UInt32}
    (hb : e.index? b = some i) (key : String) (n : UInt32) (address : UInt64) :
    d.record? key n i address = none := by
  cases hr : d.record? key n i address with
  | none =>
      rfl
  | some r =>
      rcases hd.named hr with ⟨a, ha⟩
      exact (no_common_index hdisjoint hdistinct ha hb).elim

theorem keptApart_of_distinct (hd : d.Finished) (he : e.Finished)
    (hdisjoint : ∀ name ∈ d.binaryNames, name ∉ e.binaryNames)
    (hdistinct : (d.merge e).DistinctIndices) : d.KeptApart e where
  ofFirst name hname key n address := by
    rcases mem_binaryNames_iff.1 hname with ⟨i, hi⟩
    have hnone := record?_second_eq_none he hdisjoint hdistinct hi key n address
    simp [recordOf?, index?_merge, hi, record?_merge, hnone]
  ofSecond name hname key n address := by
    rcases mem_binaryNames_iff.1 hname with ⟨i, hi⟩
    have hnone := record?_first_eq_none hd hdisjoint hdistinct hi key n address
    have hfirst := index?_eq_none_of_disjoint hdisjoint hi
    simp [recordOf?, index?_merge, hfirst, hi, record?_merge, hnone]
  distinct := hdistinct
  kept key n binary address r hr := by
    rcases hd.named hr with ⟨a, ha⟩
    have hnone := record?_second_eq_none he hdisjoint hdistinct ha key n address
    rw [record?_merge, hnone, hr]
    rfl

theorem keptApart_iff_distinct (hd : d.Finished) (he : e.Finished)
    (hdisjoint : ∀ name ∈ d.binaryNames, name ∉ e.binaryNames) :
    d.KeptApart e ↔ (d.merge e).DistinctIndices := by
  constructor
  · intro h
    exact h.distinct
  · exact keptApart_of_distinct hd he hdisjoint

end Distinct

/-! ## Numbers that both runs give -/

section Numbered

variable {d e : Document} {names names' : List String}

theorem mem_numberedNames_iff_mem (h : Numbering d.provenance.binaries names) (name : String) :
    name ∈ d.numberedNames ↔ name ∈ names := by
  rw [mem_numberedNames_iff, mem_binaryNames_iff]
  constructor
  · rintro ⟨⟨i, hi⟩, hname⟩
    rcases h.cases_of_getElem? hi with hreserved | ⟨hmem, _⟩
    · exact absurd (by rw [IsReserved, hreserved]; rfl) hname
    · exact hmem
  · intro hmem
    have hname := h.unreserved name hmem
    refine ⟨⟨numberedIndex (names.idxOf name), ?_⟩, hname⟩
    rw [index?, h.numbered name hname, if_pos hmem]

theorem length_numberedNames (h : Numbering d.provenance.binaries names) :
    d.numberedNames.length = names.length := by
  have hnodup : d.numberedNames.Nodup := (Std.ExtTreeMap.nodup_keys).filter _
  exact ((List.perm_ext_iff_of_nodup hnodup h.nodup).2 (mem_numberedNames_iff_mem h)).length_eq

theorem numberedNames_eq_nil_iff (h : Numbering d.provenance.binaries names) :
    d.numberedNames = [] ↔ names = [] := by
  rw [← List.length_eq_zero_iff, length_numberedNames h, List.length_eq_zero_iff]

/-- The first name that each run numbers has the same number. -/
theorem not_distinct_of_numbered (h : Numbering d.provenance.binaries names)
    (h' : Numbering e.provenance.binaries names')
    (hdisjoint : ∀ name ∈ d.binaryNames, name ∉ e.binaryNames) (hnames : names ≠ [])
    (hnames' : names' ≠ []) : ¬ (d.merge e).DistinctIndices := by
  intro hdistinct
  rcases List.exists_cons_of_ne_nil hnames with ⟨a, rest, rfl⟩
  rcases List.exists_cons_of_ne_nil hnames' with ⟨b, rest', rfl⟩
  -- Both runs begin to number at the same place.
  have ha : d.index? a = some (numberedIndex 0) := by
    rw [index?, h.numbered a (h.unreserved a (by simp))]
    simp
  have hb : e.index? b = some (numberedIndex 0) := by
    rw [index?, h'.numbered b (h'.unreserved b (by simp))]
    simp
  exact no_common_index hdisjoint hdistinct ha hb

theorem distinct_of_numbered (h : Numbering d.provenance.binaries names)
    (h' : Numbering e.provenance.binaries names') (hlength : names.length ≤ numberLimit)
    (hlength' : names'.length ≤ numberLimit) (hone : names = [] ∨ names' = []) :
    (d.merge e).DistinctIndices := by
  -- One of the runs has numbered nothing, so no place is taken in both.
  have hcross : ∀ a b i, d.index? a = some i → e.index? b = some i → a = b := by
    intro a b i ha hb
    rcases h.eq_or_place_eq h' hlength hlength' ha hb with hab | ⟨hmem, hmem', _⟩
    · exact hab
    · rcases hone with rfl | rfl
      · cases hmem
      · cases hmem'
  intro a b i ha hb
  rw [index?_merge, Option.or_eq_some_iff] at ha hb
  rcases ha with ha | ⟨_, ha⟩
  · rcases hb with hb | ⟨_, hb⟩
    · exact h.name_eq hlength ha hb
    · exact hcross a b i ha hb
  · rcases hb with hb | ⟨_, hb⟩
    · exact (hcross b a i hb ha).symm
    · exact h'.name_eq hlength' ha hb

end Numbered

/-- Documents of different binaries are kept apart when all indices differ, which they do only
when no more than one of the runs has numbered a binary. -/
theorem merge_keptApart_iff {d e : Document} (hd : d.Finished) (he : e.Finished)
    (hdisjoint : ∀ name ∈ d.binaryNames, name ∉ e.binaryNames) :
    (d.KeptApart e ↔ (d.merge e).DistinctIndices) ∧
      (d.numberedNames.length ≤ numberLimit → e.numberedNames.length ≤ numberLimit →
        (d.KeptApart e ↔ d.numberedNames = [] ∨ e.numberedNames = [])) := by
  refine ⟨keptApart_iff_distinct hd he hdisjoint, ?_⟩
  rcases hd.numbering with ⟨names, h⟩
  rcases he.numbering with ⟨names', h'⟩
  rw [keptApart_iff_distinct hd he hdisjoint, length_numberedNames h, length_numberedNames h',
    numberedNames_eq_nil_iff h, numberedNames_eq_nil_iff h']
  intro hlength hlength'
  constructor
  · intro hdistinct
    by_contra hboth
    rw [not_or] at hboth
    exact not_distinct_of_numbered h h' hdisjoint hboth.1 hboth.2 hdistinct
  · exact distinct_of_numbered h h' hlength hlength'

/-- The document of a run on one binary that has one instruction. -/
def ofInstruction (name opcode trace : String) : Document :=
  let v : SourceView := ⟨⟨⟨"/w"⟩, ⟨"tree"⟩, true⟩, ⟨{}, fun _ => .ok ∅⟩⟩
  let transcript := "00001000 <f>:\nf():\n/w/f.c:1\n 1000:\t" ++ opcode ++ "\n"
  let functions := FunctionTable.ofSymbols [⟨"f", 4096, 4100, false⟩]
  let b : BinaryInput := ⟨name, transcript, functions, TraceStore.ingest {} trace⟩
  (({} : Correlator).take v b).2.correlator.finish [] none

theorem finished_ofInstruction (name opcode trace : String) :
    (ofInstruction name opcode trace).Finished :=
  ⟨_, [], none, .take _ _ (.fresh none), rfl⟩

theorem merge_keptApart_reserved :
    let d := ofInstruction "bl1" "nop" "1000 1 4"
    let e := ofInstruction "boot" "ret" "1000 2 4"
    d.Finished ∧ e.Finished ∧ (∀ name ∈ d.binaryNames, name ∉ e.binaryNames) ∧ d.KeptApart e := by
  have hd := finished_ofInstruction "bl1" "nop" "1000 1 4"
  have he := finished_ofInstruction "boot" "ret" "1000 2 4"
  refine ⟨hd, he, by decide +kernel, ?_⟩
  refine ((merge_keptApart_iff hd he ?_).2 ?_ ?_).2 (Or.inl ?_) <;> decide +kernel

/-- Both runs give 100 to their binary, and the instruction of the second one replaces that of the
first one. -/
theorem merge_overwrites_first :
    let d := ofInstruction "alpha" "nop" "1000 1 4"
    let e := ofInstruction "beta" "ret" "1000 2 4"
    d.Finished ∧ e.Finished ∧ (∀ name ∈ d.binaryNames, name ∉ e.binaryNames) ∧
      d.recordOf? "alpha" "f.c" 1 4096 = some ⟨"nop", 1⟩ ∧
      (d.merge e).recordOf? "alpha" "f.c" 1 4096 = some ⟨"ret", 2⟩ ∧ ¬ d.KeptApart e := by
  intro d e
  have hown : d.recordOf? "alpha" "f.c" 1 4096 = some ⟨"nop", 1⟩ := by
    decide +kernel
  have hmerged : (d.merge e).recordOf? "alpha" "f.c" 1 4096 = some ⟨"ret", 2⟩ := by
    decide +kernel
  refine ⟨finished_ofInstruction _ _ _, finished_ofInstruction _ _ _, by decide +kernel, hown,
    hmerged, ?_⟩
  intro h
  have hkept := h.ofFirst "alpha" (by decide +kernel) "f.c" 1 4096
  rw [hown, hmerged] at hkept
  exact absurd hkept (by decide)

end Document

end BinaryCoverage
