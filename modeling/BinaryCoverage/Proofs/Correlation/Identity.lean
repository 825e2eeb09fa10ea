import BinaryCoverage.Proofs.Correlation.Exactness
import BinaryCoverage.Proofs.Correlation.Merging
import Mathlib.Logic.ExistsUnique

/-!
# Identities of binaries

As long as the numbers do not run out, a binary is known by its index: names and indices stand for
each other, in a registry and in the document of a run.  This file defines:

* `BinaryRegistry.answers` — the indices that names are given one after the other;
* `BinaryRegistry.Identifies` — names are given indices of their own, reserved or in order;
* `Document.Identified` — the binaries of all instructions are named by one name each;

and shows that both hold with fewer names than numbers (`identifies_and_identified`).
-/

namespace BinaryCoverage

/-! ## Answers of a registry -/

namespace BinaryRegistry

def answers : BinaryRegistry → List String → List (String × UInt32)
  | _, [] => []
  | r, name :: rest => (name, (r.index name).1) :: answers (r.index name).2 rest

structure Identifies (names : List String) (answers : List (String × UInt32)) : Prop where
  complete : answers.map (·.1) = names
  unique : ∀ p ∈ answers, ∀ q ∈ answers, p.1 = q.1 ↔ p.2 = q.2
  reserved : ∀ p ∈ answers, ∀ i, wellKnownBinaries.lookup p.1 = some i → p.2 = i
  /-- The names that are not reserved are numbered in order of first use. -/
  numbered : ∀ p ∈ answers, ∀ k : Nat, (unreservedNames names)[k]? = some p.1 →
    p.2.toNat = 100 + k

theorem map_fst_answers (r : BinaryRegistry) (names : List String) :
    (r.answers names).map (·.1) = names := by
  induction names generalizing r with
  | nil =>
      rfl
  | cons name rest ih =>
      rw [answers, List.map_cons, ih]

/-- The last registry still has each index that was given on the way. -/
theorem assigned_of_mem_answers {r : BinaryRegistry} {names : List String} {p : String × UInt32}
    (hp : p ∈ r.answers names) : (r.indexAll names).assigned[p.1]? = some p.2 := by
  induction names generalizing r with
  | nil =>
      cases hp
  | cons name rest ih =>
      rcases List.mem_cons.1 hp with rfl | hp
      · exact r.assigned_indexAll_cons name rest
      · exact ih hp

theorem identifies_answers {names : List String}
    (hfew : (unreservedNames names).length < numberLimit) :
    Identifies names (answers {} names) := by
  have hnumbers := (numbers_indexAll names).numbering
  refine ⟨map_fst_answers {} names, ?_, ?_, ?_⟩
  · intro p hp q hq
    have hpi := assigned_of_mem_answers hp
    have hqi := assigned_of_mem_answers hq
    constructor
    · intro hname
      rw [hname, hqi] at hpi
      exact (Option.some.inj hpi).symm
    · intro hindex
      rw [hindex] at hpi
      exact hnumbers.name_eq (Nat.le_of_lt hfew) hpi hqi
  · intro p hp i hi
    have hreserved : IsReserved p.1 := by
      rw [IsReserved, hi]
      rfl
    have hlookup := hnumbers.reserved p.1 p.2 hreserved (assigned_of_mem_answers hp)
    rw [hi] at hlookup
    exact (Option.some.inj hlookup).symm
  · intro p hp k hk
    -- The names are numbered by their places, and each stands in one place only.
    rcases List.getElem?_eq_some_iff.1 hk with ⟨hlength, hname⟩
    have hmem : p.1 ∈ unreservedNames names := hname ▸ List.getElem_mem hlength
    have hplace : (unreservedNames names).idxOf p.1 = k := by
      rw [← hname]
      exact hnumbers.nodup.idxOf_getElem k hlength
    have hindex := hnumbers.numbered p.1 (hnumbers.unreserved p.1 hmem)
    rw [if_pos hmem, hplace, assigned_of_mem_answers hp] at hindex
    rw [Option.some.inj hindex]
    exact toNat_numberedIndex (by omega)

end BinaryRegistry

/-! ## Documents of a run -/

namespace Correlator

/-- Only the names that are taken decide on the registry. -/
theorem registry_performAll (c : Correlator) (ops : List Operation) :
    (c.performAll ops).registry = c.registry.indexAll (ops.filterMap Operation.name?) := by
  induction ops generalizing c with
  | nil =>
      rfl
  | cons op ops ih =>
      refine (ih (c.perform op)).trans ?_
      cases op with
      | take v b =>
          rw [perform, (c.take_spec v b).registry]
          rfl
      | placeUnmapped v functions traces search =>
          rw [perform, (c.keeps_placeUnmapped v functions traces search).registry]
          rfl

theorem numbers_performAll (index : Option DeclarationIndex) (ops : List Operation) :
    (({ index } : Correlator).performAll ops).registry.Numbers
      (unreservedNames (ops.filterMap Operation.name?)) := by
  rw [registry_performAll]
  exact BinaryRegistry.numbers_indexAll _

end Correlator

structure Document.Identified (d : Document) : Prop where
  distinct : d.DistinctIndices
  named : ∀ key n binary, (d.line? key n).any (·.hasBinary binary) →
    ∃! name, d.index? name = some binary

theorem Correlator.identified_finish {index : Option DeclarationIndex} {ops : List Operation}
    (hfew : (unreservedNames (ops.filterMap Operation.name?)).length < numberLimit)
    (sources : List Payload) (metadata : Option Payload) :
    ((({ index } : Correlator).performAll ops).finish sources metadata).Identified := by
  have hnumbers := numbers_performAll index ops
  have hindexed := (reachable_performAll (.fresh index) ops).indexed
  have hdistinct : ((({ index } : Correlator).performAll ops).finish sources
      metadata).DistinctIndices := by
    intro a b i ha hb
    exact hnumbers.numbering.name_eq (Nat.le_of_lt hfew) ha hb
  refine ⟨hdistinct, ?_⟩
  intro key n binary hbinary
  rcases hindexed.named key n binary hbinary with ⟨name, hname⟩
  exact ⟨name, hname, fun other hother => hdistinct other name binary hother hname⟩

/-- With fewer names than there are numbers, the names of a run and their indices stand for each
other, and so they do in its document, where every binary that has a line has a name. -/
theorem identifies_and_identified :
    (∀ names : List String, (unreservedNames names).length < numberLimit →
      BinaryRegistry.Identifies names (BinaryRegistry.answers {} names)) ∧
    ∀ (index : Option DeclarationIndex) (ops : List Operation) (sources : List Payload)
      (metadata : Option Payload),
      (unreservedNames (ops.filterMap Operation.name?)).length < numberLimit →
        ((({ index } : Correlator).performAll ops).finish sources metadata).Identified := by
  refine ⟨fun names hfew => BinaryRegistry.identifies_answers hfew, ?_⟩
  intro index ops sources metadata hfew
  exact Correlator.identified_finish hfew sources metadata

/-- Two binaries with a common inlined function are taken, and the second one is taken again. -/
def sharedTwice : List Operation :=
  (Correlator.sharedInline ++ Correlator.sharedInline.drop 1).map fun (declarations, b) =>
    .take ⟨⟨⟨"/w"⟩, ⟨"tree"⟩, true⟩, declarations⟩ b

theorem identifies_and_identified_sharedTwice :
    let names := ["boot", "bl1", "flash", "boot", "mcp_ram"]
    let d := (({} : Correlator).performAll sharedTwice).finish [] none
    (unreservedNames names).length < numberLimit ∧
      BinaryRegistry.answers {} names =
        [("boot", 100), ("bl1", 0), ("flash", 101), ("boot", 100), ("mcp_ram", 13)] ∧
      BinaryRegistry.Identifies names (BinaryRegistry.answers {} names) ∧
      (unreservedNames (sharedTwice.filterMap Operation.name?)).length < numberLimit ∧
      (d.line? "h.h" 7).any (·.hasBinary 100) = true ∧ d.index? "boot" = some 100 ∧
      d.Identified := by
  intro names d
  have hnames : (unreservedNames names).length < numberLimit := by
    decide +kernel
  have hops : (unreservedNames (sharedTwice.filterMap Operation.name?)).length < numberLimit := by
    decide +kernel
  exact ⟨hnames, by decide +kernel, identifies_and_identified.1 names hnames, hops,
    by decide +kernel, by decide +kernel, identifies_and_identified.2 none sharedTwice [] none hops⟩

end BinaryCoverage
