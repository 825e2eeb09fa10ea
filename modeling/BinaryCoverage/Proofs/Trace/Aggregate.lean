import BinaryCoverage.Proofs.Table
import BinaryCoverage.Trace.Store
import Mathlib.Algebra.GroupWithZero.Nat
import Mathlib.Data.List.Perm.Basic
import Mathlib.Data.List.Sort

/-!
# What a trace store adds up

A store is fed with the bodies of traces and with single records, one after the other.  This file
defines:

* `TraceStore.Feed` — a body or a record, with the lines and the records that it brings;
* `TraceStore.isMalformed` — a line is neither blank nor a record;
* `TraceStore.Sums` — a store holds what a list of records adds up to;

and shows that a store holds the sums of all records that it has been fed, that their order matters
for sizes only, and that malformed lines leave no trace but their number (`fed_sums`).
-/

namespace BinaryCoverage

/-! ## Lines -/

theorem Text.pieces_of_forall {sep : Char → Bool} {cs : List Char} (h : ∀ c ∈ cs, sep c = true) :
    ∀ w ∈ pieces sep cs, w = [] := by
  induction cs with
  | nil =>
      simp [pieces]
  | cons c cs ih =>
      have hfirst : sep c = true := h c List.mem_cons_self
      rw [pieces, if_pos hfirst]
      intro w hw
      rcases List.mem_cons.1 hw with rfl | hw
      · rfl
      · exact ih (fun d hd => h d (List.mem_cons_of_mem c hd)) w hw

theorem Text.words_of_isBlankText {cs : List Char} (h : isBlankText cs) : words cs = [] := by
  rw [words, List.filter_eq_nil_iff]
  intro w hw
  have hempty := pieces_of_forall (List.all_eq_true.1 h) w hw
  simp [hempty]

namespace TraceStore

/-- The record in a line, if it is one. -/
def record? (line : List Char) : Option TraceRecord := (TraceRecord.ofChars line).toOption

/-- A line is neither blank nor a record. -/
def isMalformed (line : List Char) : Bool := !Text.isBlankText line && (record? line).isNone

theorem record?_of_isBlankText {line : List Char} (h : Text.isBlankText line) :
    record? line = none := by
  rw [record?, TraceRecord.ofChars, Text.words_of_isBlankText h]
  rfl

/-! ## Feeds -/

/-- What a store takes in at once: the body of a trace, or a record. -/
inductive Feed where
  | body (text : String)
  | record (r : TraceRecord)

namespace Feed

def lines : Feed → List (List Char)
  | body text => Text.lines text.toList
  | record _ => []

/-- The records that come as such. -/
def singles : Feed → List TraceRecord
  | body _ => []
  | record r => [r]

/-- All records, those in lines and those that come as such. -/
def records (f : Feed) : List TraceRecord := f.lines.filterMap record? ++ f.singles

/-- A feed is another one with the malformed lines taken out of its body. -/
inductive Prunes : Feed → Feed → Prop where
  | body {text text' : String}
      (h : Text.lines text'.toList = (Text.lines text.toList).filter (!isMalformed ·)) :
      Prunes (.body text) (.body text')
  | record (r : TraceRecord) : Prunes (.record r) (.record r)

end Feed

def feed (s : TraceStore) : Feed → TraceStore
  | .body text => s.ingest text
  | .record r => s.add r

def feedAll (s : TraceStore) (feeds : List Feed) : TraceStore := feeds.foldl feed s

/-- The store that has been fed with nothing else. -/
def fed (feeds : List Feed) : TraceStore := ({} : TraceStore).feedAll feeds

/-! ## Sums -/

/-- The records of an address, in order. -/
def recordsAt (records : List TraceRecord) (address : UInt64) : List TraceRecord :=
  records.filter (·.address = address)

/-- A store holds what records add up to: an address for every record, with the sum of the counts,
as far as it can be written, and the last size. -/
structure Sums (s : TraceStore) (records : List TraceRecord) : Prop where
  contains_iff : ∀ address, s.contains address ↔ ∃ r ∈ records, r.address = address
  count_eq : ∀ address, (s.count address).toNat =
    min (UInt64.size - 1) ((recordsAt records address).map (·.count.toNat)).sum
  size_eq : ∀ address, (s.get? address).map (·.size) =
    (recordsAt records address).getLast?.map (·.size)
  address_eq : ∀ address r, s.get? address = some r → r.address = address

theorem toNat_addSaturating (a b : UInt64) :
    (addSaturating a b).toNat = min (UInt64.size - 1) (a.toNat + b.toNat) := by
  unfold addSaturating
  split
  · rename_i hfits
    rw [UInt64.toNat_add, Nat.mod_eq_of_lt hfits]
    exact (Nat.min_eq_right (Nat.le_pred_of_lt hfits)).symm
  · rename_i hover
    have hgreatest : (UInt64.ofNat (UInt64.size - 1)).toNat = UInt64.size - 1 := rfl
    rw [hgreatest, Nat.min_eq_left]
    exact Nat.le_trans (by decide) (Nat.not_lt.1 hover)

theorem get?_add (s : TraceStore) (r : TraceRecord) (address : UInt64) :
    (s.add r).get? address =
      if r.address = address then some ((s.get? address).elim r (accumulate · r))
      else s.get? address := by
  unfold get? add
  rw [Table.getElem?_putWith_eq]
  cases s.hits[address]? <;> rfl

theorem contains_eq_isSome (s : TraceStore) (address : UInt64) :
    s.contains address = (s.get? address).isSome :=
  Std.ExtTreeMap.contains_eq_isSome_getElem?

theorem toNat_count_add (s : TraceStore) (r : TraceRecord) (address : UInt64) :
    ((s.add r).count address).toNat =
      if r.address = address then min (UInt64.size - 1) ((s.count address).toNat + r.count.toNat)
      else (s.count address).toNat := by
  have hcount : ∀ t : TraceStore, t.count address = (t.get? address).elim 0 (·.count) :=
    fun _ => rfl
  rw [hcount, hcount, get?_add]
  split
  · cases s.get? address with
    | none =>
        have hfits := r.count.toNat_lt_size
        dsimp only [Option.elim]
        rw [UInt64.toNat_zero]
        omega
    | some old =>
        exact toNat_addSaturating old.count r.count
  · rfl

namespace Sums

variable {s t : TraceStore} {records records' : List TraceRecord}

theorem empty : ({} : TraceStore).Sums [] where
  contains_iff address := by
    simp [contains]
  count_eq address := by
    simp [count, recordsAt]
  size_eq address := by
    simp [get?, recordsAt]
  address_eq address r h := by
    simp [get?] at h

theorem recordsAt_append_singleton (records : List TraceRecord) (r : TraceRecord)
    (address : UInt64) :
    recordsAt (records ++ [r]) address =
      recordsAt records address ++ if r.address = address then [r] else [] := by
  simp [recordsAt, List.filter_append, List.filter_singleton]

/-- One more record. -/
theorem add (h : s.Sums records) (r : TraceRecord) : (s.add r).Sums (records ++ [r]) where
  contains_iff address := by
    have hold := h.contains_iff address
    rw [contains_eq_isSome] at hold ⊢
    rw [get?_add]
    by_cases hr : r.address = address
    · simp [hr]
    · simpa [hr] using hold
  count_eq address := by
    rw [toNat_count_add, recordsAt_append_singleton, h.count_eq address]
    split
    · -- A sum that has stopped at the greatest word stays there.
      rw [List.map_append, List.sum_append, List.map_singleton, List.sum_singleton]
      omega
    · rw [List.append_nil]
  size_eq address := by
    rw [get?_add, recordsAt_append_singleton]
    split
    · rw [List.getLast?_append_of_ne_nil _ (List.cons_ne_nil r [])]
      cases s.get? address <;> rfl
    · rw [List.append_nil]
      exact h.size_eq address
  address_eq address x hx := by
    rw [get?_add] at hx
    split at hx
    · rename_i hr
      cases hold : s.get? address with
      | none =>
          rw [hold] at hx
          cases hx
          exact hr
      | some old =>
          rw [hold] at hx
          cases hx
          exact h.address_eq address old hold
    · exact h.address_eq address x hx

theorem addLine (h : s.Sums records) (line : List Char) :
    (s.addLine line).Sums (records ++ (record? line).toList) := by
  unfold TraceStore.addLine
  split
  · rename_i hblank
    rw [record?_of_isBlankText hblank]
    simpa using h
  · unfold record?
    cases TraceRecord.ofChars line with
    | error fault =>
        -- Only the number of rejected lines changes, of which the sums say nothing.
        rw [Except.toOption, Option.toList_none, List.append_nil]
        exact ⟨h.contains_iff, h.count_eq, h.size_eq, h.address_eq⟩
    | ok r =>
        exact h.add r

theorem addLines (h : s.Sums records) (lines : List (List Char)) :
    (lines.foldl TraceStore.addLine s).Sums (records ++ lines.filterMap record?) := by
  induction lines generalizing s records with
  | nil =>
      simpa using h
  | cons line lines ih =>
      have hmore := ih (h.addLine line)
      rw [List.append_assoc] at hmore
      cases hrecord : record? line <;> simpa [hrecord] using hmore

theorem feed (h : s.Sums records) (f : Feed) : (s.feed f).Sums (records ++ f.records) := by
  cases f with
  | body text =>
      rw [Feed.records, Feed.singles, List.append_nil]
      exact h.addLines (Text.lines text.toList)
  | record r =>
      exact h.add r

theorem feedAll (h : s.Sums records) (feeds : List Feed) :
    (s.feedAll feeds).Sums (records ++ feeds.flatMap Feed.records) := by
  induction feeds generalizing s records with
  | nil =>
      rw [List.flatMap_nil, List.append_nil]
      exact h
  | cons f feeds ih =>
      have hmore := ih (h.feed f)
      rw [List.append_assoc] at hmore
      exact hmore

/-- The records tell all that a store has to say about addresses. -/
theorem hits_eq (h : s.Sums records) (h' : t.Sums records) : s.hits = t.hits := by
  ext1 address
  change s.get? address = t.get? address
  have hcontains : (s.get? address).isSome = (t.get? address).isSome := by
    rw [← contains_eq_isSome, ← contains_eq_isSome, Bool.eq_iff_iff, h.contains_iff,
      h'.contains_iff]
  have hcount : s.count address = t.count address := by
    rw [← UInt64.toNat_inj, h.count_eq, h'.count_eq]
  have hsize := (h.size_eq address).trans (h'.size_eq address).symm
  have hcountOf : ∀ (u : TraceStore) r, u.get? address = some r → r.count = u.count address := by
    intro u r hr
    have hfound : u.count address = (u.get? address).elim 0 (·.count) := rfl
    rw [hfound, hr]
    rfl
  cases hs : s.get? address with
  | none =>
      rw [hs] at hcontains
      exact (Option.not_isSome_iff_eq_none.1 (by simp [← hcontains])).symm
  | some r =>
      cases ht : t.get? address with
      | none =>
          rw [hs, ht] at hcontains
          cases hcontains
      | some r' =>
          -- Two records of one address with one count and one size are the same.
          rw [hs, ht, Option.map_some, Option.map_some, Option.some_inj] at hsize
          have haddress := (h.address_eq address r hs).trans (h'.address_eq address r' ht).symm
          have hcounts := (hcountOf s r hs).trans (hcount.trans (hcountOf t r' ht).symm)
          rcases r with ⟨a, n, k⟩
          rcases r' with ⟨a', n', k'⟩
          dsimp only at haddress hcounts hsize
          rw [haddress, hcounts, hsize]

theorem mem_addresses_iff (h : s.Sums records) {address : UInt64} :
    address ∈ s.addresses ↔ ∃ r ∈ records, r.address = address := by
  rw [addresses, Std.ExtTreeMap.mem_keys, ← h.contains_iff]
  exact Std.ExtTreeMap.contains_iff_mem.symm

/-- The order of the records matters for sizes only. -/
theorem of_perm (h : s.Sums records) (h' : t.Sums records') (hperm : records'.Perm records) :
    t.addresses = s.addresses ∧ ∀ address, t.count address = s.count address := by
  constructor
  · -- Both lists are in the order of the addresses, so that their members tell them.
    have hantisymm : Std.Antisymm fun a b : UInt64 => compare a b = .lt :=
      ⟨fun _ _ hlt hgt => absurd hgt (Std.OrientedCmp.not_lt_of_lt hlt)⟩
    have hirrefl : Std.Irrefl fun a b : UInt64 => compare a b = .lt := ⟨by simp⟩
    refine List.Pairwise.eq_of_mem_iff t.hits.ordered_keys s.hits.ordered_keys ?_
    intro address
    refine h'.mem_addresses_iff.trans (Iff.trans ?_ h.mem_addresses_iff.symm)
    simp only [hperm.mem_iff]
  · intro address
    have hat := (hperm.filter (·.address = address)).map (·.count.toNat)
    rw [← UInt64.toNat_inj, h.count_eq, h'.count_eq, recordsAt, recordsAt, hat.sum_nat]

end Sums

/-! ## Malformed lines -/

theorem rejected_addLine (s : TraceStore) (line : List Char) :
    (s.addLine line).rejected = s.rejected + if isMalformed line then 1 else 0 := by
  unfold addLine isMalformed record?
  cases Text.isBlankText line with
  | true =>
      rfl
  | false =>
      cases TraceRecord.ofChars line <;> rfl

theorem rejected_addLines (s : TraceStore) (lines : List (List Char)) :
    (lines.foldl addLine s).rejected = s.rejected + lines.countP isMalformed := by
  induction lines generalizing s with
  | nil =>
      rfl
  | cons line lines ih =>
      calc
        (lines.foldl addLine (s.addLine line)).rejected
            = s.rejected + (if isMalformed line then 1 else 0) + lines.countP isMalformed := by
              rw [ih, rejected_addLine]
        _ = s.rejected + (line :: lines).countP isMalformed := by
              rw [List.countP_cons, Nat.add_assoc, Nat.add_comm (lines.countP isMalformed)]

theorem rejected_feedAll (s : TraceStore) (feeds : List Feed) :
    (s.feedAll feeds).rejected = s.rejected + (feeds.flatMap Feed.lines).countP isMalformed := by
  induction feeds generalizing s with
  | nil =>
      rfl
  | cons f feeds ih =>
      have hfirst : (s.feed f).rejected = s.rejected + f.lines.countP isMalformed := by
        cases f with
        | body text =>
            exact s.rejected_addLines (Text.lines text.toList)
        | record r =>
            rfl
      calc
        ((s.feed f).feedAll feeds).rejected
            = s.rejected + f.lines.countP isMalformed +
                (feeds.flatMap Feed.lines).countP isMalformed := by
              rw [ih, hfirst]
        _ = s.rejected + ((f :: feeds).flatMap Feed.lines).countP isMalformed := by
              rw [List.flatMap_cons, List.countP_append, Nat.add_assoc]

/-! ## Feeds in another order, and without malformed lines -/

/-- The records of several feeds are those of their lines and those that come as such. -/
theorem perm_records (feeds : List Feed) :
    (feeds.flatMap Feed.records).Perm
      ((feeds.flatMap Feed.lines).filterMap record? ++ feeds.flatMap Feed.singles) := by
  rw [List.filterMap_flatMap]
  exact (List.flatMap_append_perm feeds (·.lines.filterMap record?) Feed.singles).symm

theorem perm_records_of_perm {feeds feeds' : List Feed}
    (hlines : (feeds'.flatMap Feed.lines).Perm (feeds.flatMap Feed.lines))
    (hsingles : (feeds'.flatMap Feed.singles).Perm (feeds.flatMap Feed.singles)) :
    (feeds'.flatMap Feed.records).Perm (feeds.flatMap Feed.records) := by
  calc
    (feeds'.flatMap Feed.records).Perm
        ((feeds'.flatMap Feed.lines).filterMap record? ++ feeds'.flatMap Feed.singles) :=
          perm_records feeds'
    List.Perm _ ((feeds.flatMap Feed.lines).filterMap record? ++ feeds.flatMap Feed.singles) :=
          (hlines.filterMap record?).append hsingles
    List.Perm _ (feeds.flatMap Feed.records) := (perm_records feeds).symm

/-- A malformed line is no record, so that records stay where malformed lines go. -/
theorem filterMap_record?_filter (lines : List (List Char)) :
    (lines.filter (!isMalformed ·)).filterMap record? = lines.filterMap record? := by
  rw [List.filterMap_filter]
  congr 1
  funext line
  cases hrecord : record? line <;> simp [isMalformed, hrecord]

theorem Feed.Prunes.records_eq {f f' : Feed} (h : f.Prunes f') : f'.records = f.records := by
  cases h with
  | body h =>
      rw [Feed.records, Feed.records, Feed.lines, Feed.lines, h, filterMap_record?_filter]
      rfl
  | record r =>
      rfl

theorem Feed.Prunes.countP_eq_zero {f f' : Feed} (h : f.Prunes f') :
    f'.lines.countP isMalformed = 0 := by
  cases h with
  | body h =>
      rw [Feed.lines, h, List.countP_eq_zero]
      intro line hline
      simpa using (List.mem_filter.1 hline).2
  | record r =>
      rfl

theorem records_of_prunes {feeds pruned : List Feed} (h : List.Forall₂ Feed.Prunes feeds pruned) :
    pruned.flatMap Feed.records = feeds.flatMap Feed.records ∧
      (pruned.flatMap Feed.lines).countP isMalformed = 0 := by
  induction h with
  | nil =>
      exact ⟨rfl, rfl⟩
  | cons hfirst _ ih =>
      rw [List.flatMap_cons, List.flatMap_cons, List.flatMap_cons, List.countP_append,
        hfirst.records_eq, hfirst.countP_eq_zero, ih.1, ih.2]
      exact ⟨rfl, rfl⟩

theorem sums_fed (feeds : List Feed) : (fed feeds).Sums (feeds.flatMap Feed.records) :=
  Sums.empty.feedAll feeds

theorem rejected_fed (feeds : List Feed) :
    (fed feeds).rejected = (feeds.flatMap Feed.lines).countP isMalformed :=
  (rejected_feedAll {} feeds).trans (Nat.zero_add _)

/-- A store holds the sums of all records that it has been fed and counts the malformed lines.  The
same lines and records in any other order, and in other bodies, give the same addresses and counts;
without their malformed lines the bodies give the same store but for the number of these. -/
theorem fed_sums (feeds : List Feed) :
    (fed feeds).Sums (feeds.flatMap Feed.records) ∧
      (fed feeds).rejected = (feeds.flatMap Feed.lines).countP isMalformed ∧
      (∀ feeds' : List Feed, (feeds'.flatMap Feed.lines).Perm (feeds.flatMap Feed.lines) →
        (feeds'.flatMap Feed.singles).Perm (feeds.flatMap Feed.singles) →
          (fed feeds').addresses = (fed feeds).addresses ∧
          (∀ address, (fed feeds').count address = (fed feeds).count address) ∧
          (fed feeds').rejected = (fed feeds).rejected) ∧
      ∀ pruned : List Feed, List.Forall₂ Feed.Prunes feeds pruned →
        fed pruned = { fed feeds with rejected := 0 } := by
  refine ⟨sums_fed feeds, rejected_fed feeds, ?_, ?_⟩
  · intro feeds' hlines hsingles
    have hsame := (sums_fed feeds).of_perm (sums_fed feeds') (perm_records_of_perm hlines hsingles)
    refine ⟨hsame.1, hsame.2, ?_⟩
    rw [rejected_fed, rejected_fed, hlines.countP_eq]
  · intro pruned hpruned
    obtain ⟨hrecords, hnone⟩ := records_of_prunes hpruned
    have hhits : (fed pruned).hits = (fed feeds).hits :=
      (hrecords ▸ sums_fed pruned).hits_eq (sums_fed feeds)
    have hzero : (fed pruned).rejected = 0 := (rejected_fed pruned).trans hnone
    calc
      fed pruned = ⟨(fed pruned).hits, (fed pruned).rejected⟩ := rfl
      _ = ⟨(fed feeds).hits, 0⟩ := by rw [hhits, hzero]

/-- Two bodies and a record, with counts beyond the greatest word and malformed lines. -/
def overflowing : List Feed :=
  [.body "0x10 18446744073709551615 4\nnot a record\n\n20 3 2\n", .record ⟨16, 5, 2⟩,
    .body "abc notanumber\n0X20 4 8"]

theorem fed_sums_overflowing :
    let permuted : List Feed :=
      [.body "20 3 2\r\nabc notanumber\r\n\r\n", .body "0X20 4 8\nnot a record", .record ⟨16, 5, 2⟩,
        .body "0x10 18446744073709551615 4"]
    let pruned : List Feed :=
      [.body "0x10 18446744073709551615 4\n\n20 3 2\n", .record ⟨16, 5, 2⟩, .body "0X20 4 8"]
    (fed overflowing).hits.toList =
        [(16, ⟨16, 18446744073709551615, 2⟩), (32, ⟨32, 7, 8⟩)] ∧
      (fed overflowing).rejected = 2 ∧
      (permuted.flatMap Feed.lines).Perm (overflowing.flatMap Feed.lines) ∧
      (permuted.flatMap Feed.singles).Perm (overflowing.flatMap Feed.singles) ∧
      (fed permuted).addresses = (fed overflowing).addresses ∧
      (∀ address, (fed permuted).count address = (fed overflowing).count address) ∧
      List.Forall₂ Feed.Prunes overflowing pruned ∧
      fed pruned = { fed overflowing with rejected := 0 } := by
  intro permuted pruned
  have hlines : (permuted.flatMap Feed.lines).Perm (overflowing.flatMap Feed.lines) := by
    decide +kernel
  have hsingles : (permuted.flatMap Feed.singles).Perm (overflowing.flatMap Feed.singles) := by
    decide
  have hpruned : List.Forall₂ Feed.Prunes overflowing pruned :=
    .cons (.body (by decide +kernel)) (.cons (.record _) (.cons (.body (by decide +kernel)) .nil))
  have hsame := (fed_sums overflowing).2.2.1 permuted hlines hsingles
  exact ⟨by decide +kernel, by decide +kernel, hlines, hsingles, hsame.1, hsame.2.1, hpruned,
    (fed_sums overflowing).2.2.2 pruned hpruned⟩

end TraceStore

end BinaryCoverage
