import BinaryCoverage.Proofs.Coverage.Merge

/-!
# Laws of merging

Merging is associative, and a document merged with itself stays as it is.  In which order two
documents are merged shows only where both know something of one instruction, of one function or
of one binary, and in what is passed through.  This file defines:

* `Provenance.Holds` — a source is among others, as data;
* `Document.SameOutline` — documents with the same entries and flags;
* `Document.declaredAt?` — the declaration line that a document gives a function;
* `Document.LinesConflict` — two documents know different declaration lines.
-/

namespace BinaryCoverage

/-! ## Functions, lines and files -/

namespace FunctionCoverage

instance : Std.Associative merge where
  assoc f g h := by
    rcases f with ⟨covered, line⟩
    rcases g with ⟨covered', line'⟩
    -- The first line that is known is the same, however the three are grouped.
    by_cases hline : line = 0 <;> by_cases hline' : line' = 0 <;>
      simp [merge, declare, hline, hline', Bool.or_assoc]

instance : Std.IdempotentOp merge where
  idempotent f := by
    simp [merge, declare]

/-- Which of two functions comes first shows in the line alone, where both lines are known. -/
theorem declaredAt_merge_comm_iff (f g : FunctionCoverage) :
    (f.merge g).declaredAt = (g.merge f).declaredAt ↔
      ¬ (f.declaredAt ≠ 0 ∧ g.declaredAt ≠ 0 ∧ f.declaredAt ≠ g.declaredAt) := by
  by_cases hf : f.declaredAt = 0 <;> by_cases hg : g.declaredAt = 0 <;>
    simp [merge, declare, hf, hg]

theorem merge_comm_of_declaredAt {f g : FunctionCoverage}
    (h : (f.merge g).declaredAt = (g.merge f).declaredAt) : f.merge g = g.merge f := by
  have hcovered : (f.merge g).covered = (g.merge f).covered := by
    simp [merge, covered_declare, Bool.or_comm]
  cases hf : f.merge g
  cases hg : g.merge f
  simp_all

end FunctionCoverage

namespace LineCoverage

instance : Std.Associative merge where
  assoc l m n := by
    unfold merge
    rw [mk.injEq]
    dsimp only
    exact ⟨Bool.or_assoc _ _ _, Std.Associative.assoc l.records m.records n.records⟩

instance : Std.IdempotentOp merge where
  idempotent l := by
    rcases l with ⟨covered, records⟩
    unfold merge
    rw [mk.injEq]
    exact ⟨Bool.or_self covered, Std.IdempotentOp.idempotent records⟩

/-- Lines without a common binary have no records to choose between. -/
theorem merge_comm_of_disjoint {l m : LineCoverage}
    (h : ∀ binary, l.hasBinary binary → ¬ m.hasBinary binary) : l.merge m = m.merge l := by
  unfold merge
  rw [mk.injEq]
  refine ⟨Bool.or_comm _ _, Table.unionWith_comm ?_⟩
  intro binary r r' hr hr'
  refine absurd ?_ (h binary ?_)
  · simp [hasBinary, Std.ExtTreeMap.mem_iff_isSome_getElem?, hr']
  · simp [hasBinary, Std.ExtTreeMap.mem_iff_isSome_getElem?, hr]

end LineCoverage

namespace FileCoverage

theorem merge_comm_of_entries {c d : FileCoverage}
    (hfunctions : ∀ (name : String) f g, c.functions[name]? = some f → d.functions[name]? = some g →
      f.merge g = g.merge f)
    (hlines : ∀ (n : UInt32) l m, c.lines[n]? = some l → d.lines[n]? = some m →
      l.merge m = m.merge l) : c.merge d = d.merge c := by
  unfold merge
  rw [mk.injEq]
  exact ⟨Table.unionWith_comm hfunctions, Table.unionWith_comm hlines⟩

instance : Std.Associative merge where
  assoc c d e := by
    unfold merge
    rw [mk.injEq]
    dsimp only
    exact ⟨Std.Associative.assoc c.functions d.functions e.functions,
      Std.Associative.assoc c.lines d.lines e.lines⟩

instance : Std.IdempotentOp merge where
  idempotent c := by
    rcases c with ⟨functions, lines⟩
    unfold merge
    rw [mk.injEq]
    exact ⟨Std.IdempotentOp.idempotent functions, Std.IdempotentOp.idempotent lines⟩

end FileCoverage

/-! ## Sources -/

namespace Provenance

variable {s t u : List Payload} {a b : Payload}

/-- The source is there, perhaps with zeros of the other sign. -/
def Holds (s : List Payload) (a : Payload) : Prop := ∃ b ∈ s, b.json.same a.json

theorem addSource_of_holds (h : Holds s a) : addSource s a = s := by
  unfold addSource
  rw [if_pos (List.any_eq_true.2 h)]

theorem addSource_of_not_holds (h : ¬ Holds s a) : addSource s a = s ++ [a] := by
  unfold addSource
  rw [if_neg (fun hany => h (List.any_eq_true.1 hany))]

theorem holds_of_mem (h : a ∈ s) : Holds s a :=
  ⟨a, h, by simp [Json.same]⟩

theorem holds_append_iff : Holds (s ++ t) a ↔ Holds s a ∨ Holds t a := by
  unfold Holds
  simp only [List.mem_append, or_and_right, exists_or]

/-- What is there as data may be any of several sources that are the same. -/
theorem Holds.of_same (h : Holds s a) (hsame : a.json.same b.json) : Holds s b := by
  rcases h with ⟨c, hc, hca⟩
  refine ⟨c, hc, ?_⟩
  simp only [Json.same, decide_eq_true_eq] at hca hsame ⊢
  exact hca.trans hsame

theorem holds_addSource_iff : Holds (addSource s a) b ↔ Holds s b ∨ a.json.same b.json := by
  by_cases ha : Holds s a
  · rw [addSource_of_holds ha]
    refine ⟨Or.inl, ?_⟩
    rintro (hb | hsame)
    · exact hb
    · exact ha.of_same hsame
  · rw [addSource_of_not_holds ha, holds_append_iff]
    simp [Holds]

/-- Sources that are appended are there, and nothing else that was not. -/
theorem holds_foldl_iff : Holds (t.foldl addSource s) a ↔ Holds s a ∨ Holds t a := by
  induction t generalizing s with
  | nil =>
      simp [Holds]
  | cons b t ih =>
      rw [List.foldl_cons, ih, holds_addSource_iff, or_assoc]
      simp [Holds]

/-- A source may be appended to what is appended, or to all. -/
theorem foldl_addSource (s t : List Payload) (a : Payload) :
    (addSource t a).foldl addSource s = addSource (t.foldl addSource s) a := by
  by_cases ha : Holds t a
  · rw [addSource_of_holds ha, addSource_of_holds (holds_foldl_iff.2 (Or.inr ha))]
  · rw [addSource_of_not_holds ha, List.foldl_append]
    rfl

theorem foldl_foldl (s t u : List Payload) :
    u.foldl addSource (t.foldl addSource s) = (u.foldl addSource t).foldl addSource s := by
  induction u generalizing t with
  | nil =>
      rfl
  | cons a u ih =>
      rw [List.foldl_cons, List.foldl_cons, ← ih, foldl_addSource]

theorem foldl_of_holds (h : ∀ a ∈ t, Holds s a) : t.foldl addSource s = s := by
  induction t with
  | nil =>
      rfl
  | cons a t ih =>
      rw [List.foldl_cons, addSource_of_holds (h a (by simp))]
      exact ih fun b hb => h b (by simp [hb])

instance : Std.Associative merge where
  assoc p q r := by
    unfold merge
    rw [mk.injEq]
    dsimp only
    exact ⟨foldl_foldl p.sources q.sources r.sources, rfl,
      Std.Associative.assoc p.binaries q.binaries r.binaries⟩

instance : Std.IdempotentOp merge where
  idempotent p := by
    rcases p with ⟨sources, metadata, binaries⟩
    unfold merge
    rw [mk.injEq]
    -- A list may hold a source twice; none of them is appended again.
    exact ⟨foldl_of_holds fun _ => holds_of_mem, rfl, Std.IdempotentOp.idempotent binaries⟩

end Provenance

/-! ## Documents -/

namespace Document

instance : Std.Associative merge where
  assoc d e f := by
    unfold merge
    rw [mk.injEq]
    dsimp only
    exact ⟨Std.Associative.assoc d.files e.files f.files,
      Std.Associative.assoc d.provenance e.provenance f.provenance⟩

instance : Std.IdempotentOp merge where
  idempotent d := by
    rcases d with ⟨files, provenance⟩
    unfold merge
    rw [mk.injEq]
    exact ⟨Std.IdempotentOp.idempotent files, Std.IdempotentOp.idempotent provenance⟩

/-- The documents have the same files, functions, lines, binaries and addresses, and the same of
the functions and lines are covered. -/
structure SameOutline (d e : Document) : Prop where
  file (key : String) : (d.file? key).isSome ↔ (e.file? key).isSome
  function (key name : String) : (d.function? key name).isSome ↔ (e.function? key name).isSome
  functionCovered (key name : String) :
    d.isFunctionCovered key name ↔ e.isFunctionCovered key name
  line (key : String) (n : UInt32) : (d.line? key n).isSome ↔ (e.line? key n).isSome
  lineCovered (key : String) (n : UInt32) : d.isLineCovered key n ↔ e.isLineCovered key n
  binary (key : String) (n binary : UInt32) :
    (d.line? key n).any (·.hasBinary binary) ↔ (e.line? key n).any (·.hasBinary binary)
  address (key : String) (n binary : UInt32) (address : UInt64) :
    (d.record? key n binary address).isSome ↔ (e.record? key n binary address).isSome

theorem sameOutline_merge_comm (d e : Document) : (d.merge e).SameOutline (e.merge d) where
  file key := by
    rw [isSome_file?_merge, isSome_file?_merge, or_comm]
  function key name := by
    rw [isSome_function?_merge, isSome_function?_merge, or_comm]
  functionCovered key name := by
    rw [isFunctionCovered_merge, isFunctionCovered_merge, or_comm]
  line key n := by
    rw [isSome_line?_merge, isSome_line?_merge, or_comm]
  lineCovered key n := by
    rw [isLineCovered_merge, isLineCovered_merge, or_comm]
  binary key n binary := by
    rw [hasBinary_merge, hasBinary_merge, or_comm]
  address key n binary address := by
    -- Which record is kept depends on the order, but not whether there is one.
    rw [record?_merge, record?_merge]
    cases d.record? key n binary address <;> cases e.record? key n binary address <;> simp

/-! ## Declaration lines -/

def declaredAt? (d : Document) (key name : String) : Option UInt32 :=
  (d.function? key name).map (·.declaredAt)

/-- Both documents know a declaration line of the function, and not the same one. -/
def LinesConflict (d e : Document) (key name : String) : Prop :=
  ∃ m ∈ d.declaredAt? key name, ∃ n ∈ e.declaredAt? key name, m ≠ 0 ∧ n ≠ 0 ∧ m ≠ n

theorem declaredAt?_merge_comm_iff (d e : Document) (key name : String) :
    (d.merge e).declaredAt? key name = (e.merge d).declaredAt? key name ↔
      ¬ d.LinesConflict e key name := by
  unfold LinesConflict declaredAt?
  rw [function?_merge, function?_merge]
  cases d.function? key name with
  | none =>
      simp
  | some f =>
      cases e.function? key name with
      | none =>
          simp
      | some g =>
          simpa using f.declaredAt_merge_comm_iff g

/-- Where no binary is on one line of both documents and no declaration lines conflict, the files
do not depend on which document comes first. -/
theorem files_merge_comm {d e : Document}
    (hbinaries : ∀ key n binary, (d.line? key n).any (·.hasBinary binary) →
      ¬ (e.line? key n).any (·.hasBinary binary))
    (hlines : ∀ key name, ¬ d.LinesConflict e key name) :
    (d.merge e).files = (e.merge d).files := by
  refine Table.unionWith_comm ?_
  intro key c c' hc hc'
  refine FileCoverage.merge_comm_of_entries ?_ ?_
  · intro name f g hf hg
    have hdf : d.function? key name = some f := by
      simp [function?, file?, hc, hf]
    have heg : e.function? key name = some g := by
      simp [function?, file?, hc', hg]
    have hdeclared := (declaredAt?_merge_comm_iff d e key name).2 (hlines key name)
    unfold declaredAt? at hdeclared
    rw [function?_merge, function?_merge, hdf, heg] at hdeclared
    exact FunctionCoverage.merge_comm_of_declaredAt (Option.some.inj hdeclared)
  · intro n l m hl hm
    have hdl : d.line? key n = some l := by
      simp [line?, file?, hc, hl]
    have hem : e.line? key n = some m := by
      simp [line?, file?, hc', hm]
    refine LineCoverage.merge_comm_of_disjoint ?_
    intro binary hbinary
    simpa [hem] using hbinaries key n binary (by simpa [hdl] using hbinary)

/-- Documents may be merged in any groups, with repetitions, and, up to what the later of two
says in place of the earlier one, in either order. -/
theorem merge_laws (d e f : Document) :
    (d.merge e).merge f = d.merge (e.merge f) ∧ d.merge d = d ∧
      (d.merge e).SameOutline (e.merge d) ∧
      ∀ key name, (d.merge e).declaredAt? key name = (e.merge d).declaredAt? key name ↔
        ¬ d.LinesConflict e key name :=
  ⟨Std.Associative.assoc d e f, Std.IdempotentOp.idempotent d, sameOutline_merge_comm d e,
    declaredAt?_merge_comm_iff d e⟩

end Document

end BinaryCoverage
