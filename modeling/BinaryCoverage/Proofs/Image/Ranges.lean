import BinaryCoverage.Image.Ranges

/-!
# What ranges cover

Markers are put in order and cut into stretches of one kind, each up to the next marker of another
kind.  This file defines:

* `RangeMarker.Arranges` — a list holds given markers in the order in which they are read;
* `lastUpTo?` — the last marker at or below an address;
* `Delimits` — ranges are those that ordered markers delimit, address by address;

and shows that the ranges of any markers are so delimited, and that the order in which the markers
are given matters only where code and data begin at one address (`delimits_rangesOf`).
-/

namespace BinaryCoverage

/-! ## Markers in order -/

namespace RangeMarker

/-- A list holds the given markers by address, section ends first at an address and the others
there in the given order. -/
structure Arranges (markers sorted : List RangeMarker) : Prop where
  perm : sorted.Perm markers
  ordered : sorted.Pairwise fun a b =>
    a.address < b.address ∨ (a.address = b.address ∧ (b.kind = .sectionEnd → a.kind = .sectionEnd))
  stable : ∀ address,
    sorted.filter (fun m => m.address = address ∧ m.kind ≠ .sectionEnd) =
      markers.filter fun m => m.address = address ∧ m.kind ≠ .sectionEnd

theorem precedes_iff {a b : RangeMarker} :
    a.precedes b = true ↔ a.address < b.address ∨
      (a.address = b.address ∧ (b.kind = .sectionEnd → a.kind = .sectionEnd)) := by
  simp only [precedes, Bool.or_eq_true, Bool.and_eq_true, decide_eq_true_eq, beq_iff_eq]
  grind

theorem precedes_trans (a b c : RangeMarker) (hab : a.precedes b = true)
    (hbc : b.precedes c = true) : a.precedes c = true := by
  rw [precedes_iff] at hab hbc ⊢
  rcases hab with hlt | ⟨heq, hend⟩
  · rcases hbc with hlt' | ⟨heq', _⟩
    · exact Or.inl (UInt64.lt_trans hlt hlt')
    · exact Or.inl (heq' ▸ hlt)
  · rcases hbc with hlt' | ⟨heq', hend'⟩
    · exact Or.inl (heq ▸ hlt')
    · exact Or.inr ⟨heq.trans heq', hend ∘ hend'⟩

theorem precedes_total (a b : RangeMarker) : (a.precedes b || b.precedes a) = true := by
  rw [Bool.or_eq_true, precedes_iff, precedes_iff]
  by_cases heq : a.address = b.address
  · by_cases ha : a.kind = .sectionEnd
    · exact Or.inl (Or.inr ⟨heq, fun _ => ha⟩)
    · exact Or.inr (Or.inr ⟨heq.symm, fun h => absurd h ha⟩)
  · rcases UInt64.lt_or_lt_of_ne heq with hlt | hgt
    · exact Or.inl (Or.inl hlt)
    · exact Or.inr (Or.inl hgt)

theorem pairwise_sort (markers : List RangeMarker) :
    (sort markers).Pairwise fun a b => a.precedes b = true :=
  List.pairwise_mergeSort precedes_trans precedes_total markers

theorem arranges_sort (markers : List RangeMarker) : Arranges markers (sort markers) where
  perm := markers.mergeSort_perm precedes
  ordered := (pairwise_sort markers).imp precedes_iff.1
  stable address := by
    -- The markers in question precede each other, so that they come out of sorting as a sublist.
    have hties : (markers.filter fun m => m.address = address ∧ m.kind ≠ .sectionEnd).Pairwise
        fun a b => a.precedes b = true := by
      refine List.pairwise_of_forall_mem_list ?_
      intro a ha b hb
      simp only [List.mem_filter, decide_eq_true_eq] at ha hb
      exact precedes_iff.2 (Or.inr ⟨ha.2.1.trans hb.2.1.symm, fun h => absurd h hb.2.2⟩)
    have hsublist := List.sublist_mergeSort precedes_trans precedes_total hties List.filter_sublist
    have hwithin := hsublist.filter fun m => m.address = address ∧ m.kind ≠ .sectionEnd
    rw [List.filter_filter] at hwithin
    simp only [Bool.and_self] at hwithin
    have hlength := ((markers.mergeSort_perm precedes).filter
      fun m => m.address = address ∧ m.kind ≠ .sectionEnd).length_eq
    exact (hwithin.eq_of_length hlength.symm).symm

/-- Sorting undoes any permutation where no address has markers of both kinds of range. -/
theorem sort_eq_of_perm {markers markers' : List RangeMarker} (hperm : markers'.Perm markers)
    (hapart : ∀ a ∈ markers, ∀ b ∈ markers, a.kind = .code → b.kind = .data →
      a.address ≠ b.address) : sort markers' = sort markers := by
  have hsorted := markers.mergeSort_perm precedes
  have hsorted' := (markers'.mergeSort_perm precedes).trans hperm
  refine List.Perm.eq_of_pairwise ?_ (pairwise_sort markers') (pairwise_sort markers)
    (hsorted'.trans hsorted.symm)
  intro a b ha hb hab hba
  have ha' := hsorted'.mem_iff.1 ha
  have hb' := hsorted.mem_iff.1 hb
  have hcode := hapart a ha' b hb'
  have hdata := hapart b hb' a ha'
  rw [precedes_iff] at hab hba
  -- Two markers that precede each other stand at one address, and then they are of one kind.
  rcases a with ⟨address, kind⟩
  rcases b with ⟨address', kind'⟩
  have haddress : address = address' := by
    grind
  cases kind <;> cases kind' <;> simp_all

/-- Sorting results in any list of the markers that is in order, where no address has markers of
both kinds of range. -/
theorem sort_eq_of_pairwise {markers sorted : List RangeMarker} (hperm : sorted.Perm markers)
    (hordered : sorted.Pairwise fun a b => a.precedes b = true)
    (hapart : ∀ a ∈ markers, ∀ b ∈ markers, a.kind = .code → b.kind = .data →
      a.address ≠ b.address) : sort markers = sorted := by
  rw [← sort_eq_of_perm hperm hapart]
  exact List.mergeSort_of_pairwise hordered

end RangeMarker

/-! ## Markers and addresses -/

/-- The last marker at or below an address. -/
def lastUpTo? (markers : List RangeMarker) (address : UInt64) : Option RangeMarker :=
  (markers.filter (·.address ≤ address)).getLast?

/-- The last marker at or below an address has a kind, and some marker above has another. -/
def InStretch (markers : List RangeMarker) (kind : MarkerKind) (address : UInt64) : Prop :=
  (∃ m, lastUpTo? markers address = some m ∧ m.kind = kind) ∧
    ∃ m ∈ markers, address < m.address ∧ m.kind ≠ kind

theorem lastUpTo?_cons (m : RangeMarker) (rest : List RangeMarker) (address : UInt64) :
    lastUpTo? (m :: rest) address =
      (lastUpTo? rest address).or (if m.address ≤ address then some m else none) := by
  unfold lastUpTo?
  rw [List.filter_cons]
  split
  · rename_i hle
    rw [List.getLast?_cons, if_pos (by simpa using hle)]
    cases (rest.filter (·.address ≤ address)).getLast? <;> rfl
  · rename_i hgt
    rw [if_neg (by simpa using hgt), Option.or_none]

theorem lastUpTo?_eq_none {markers : List RangeMarker} {address : UInt64}
    (h : ∀ m ∈ markers, address < m.address) : lastUpTo? markers address = none := by
  have hnone : markers.filter (·.address ≤ address) = [] := by
    rw [List.filter_eq_nil_iff]
    intro m hm
    simpa using h m hm
  rw [lastUpTo?, hnone, List.getLast?_nil]

theorem mem_of_lastUpTo? {markers : List RangeMarker} {address : UInt64} {m : RangeMarker}
    (h : lastUpTo? markers address = some m) : m ∈ markers ∧ m.address ≤ address := by
  have hmem := List.mem_of_getLast? h
  simpa using hmem

theorem le_of_lastUpTo? {markers : List RangeMarker} {address : UInt64} {m x : RangeMarker}
    (hsorted : markers.Pairwise fun a b => a.address ≤ b.address)
    (h : lastUpTo? markers address = some m) (hx : x ∈ markers) (hle : x.address ≤ address) :
    x.address ≤ m.address := by
  obtain ⟨before, hbefore⟩ := List.getLast?_eq_some_iff.1 h
  have hmem : x ∈ before ++ [m] := by
    rw [← hbefore]
    exact List.mem_filter.2 ⟨hx, by simpa using hle⟩
  have hordered := hsorted.filter (·.address ≤ address)
  rw [hbefore, List.pairwise_append] at hordered
  rcases List.mem_append.1 hmem with hx' | hx'
  · exact hordered.2.2 x hx' m List.mem_cons_self
  · rw [List.mem_singleton] at hx'
    exact hx' ▸ UInt64.le_refl m.address

section Stretch

variable {m x : RangeMarker} {rest : List RangeMarker} {kind : MarkerKind} {address : UInt64}

/-- Up to a marker of another kind an address is in the stretch of the marker before it. -/
theorem inStretch_cons_cons_of_lt (hrest : ∀ y ∈ rest, x.address ≤ y.address)
    (hkind : x.kind ≠ m.kind) (hlt : address < x.address) :
    InStretch (m :: x :: rest) kind address ↔ m.kind = kind ∧ m.address ≤ address := by
  have hnone : lastUpTo? (x :: rest) address = none := by
    refine lastUpTo?_eq_none ?_
    intro y hy
    rcases List.mem_cons.1 hy with rfl | hy
    · exact hlt
    · exact UInt64.lt_of_lt_of_le hlt (hrest y hy)
  have hlast : lastUpTo? (m :: x :: rest) address =
      if m.address ≤ address then some m else none := by
    rw [lastUpTo?_cons, hnone, Option.none_or]
  rw [InStretch, hlast]
  constructor
  · rintro ⟨⟨y, hy, hy'⟩, _⟩
    split at hy
    · cases hy
      exact ⟨hy', ‹_›⟩
    · cases hy
  · rintro ⟨rfl, hle⟩
    -- The next marker closes the stretch.
    exact ⟨⟨m, if_pos hle, rfl⟩, x, by simp, hlt, hkind⟩

/-- From a marker on, what comes before it makes no difference. -/
theorem inStretch_cons_cons_of_le (hle : m.address ≤ x.address) (hx : x.address ≤ address) :
    InStretch (m :: x :: rest) kind address ↔ InStretch (x :: rest) kind address := by
  have hlast : lastUpTo? (m :: x :: rest) address = lastUpTo? (x :: rest) address := by
    rw [lastUpTo?_cons m, lastUpTo?_cons x, if_pos hx]
    cases lastUpTo? rest address <;> rfl
  have hbelow : ¬ address < m.address :=
    UInt64.not_lt.2 (UInt64.le_trans hle hx)
  unfold InStretch
  rw [hlast]
  simp [hbelow]

/-- A marker of the kind of the one before it makes no difference. -/
theorem inStretch_cons_cons_of_kind (hle : m.address ≤ x.address)
    (hrest : ∀ y ∈ rest, x.address ≤ y.address) (hkind : x.kind = m.kind) :
    InStretch (m :: x :: rest) kind address ↔ InStretch (m :: rest) kind address := by
  by_cases hx : x.address ≤ address
  · -- Only the kind of the last marker counts, and that is the same without `x`.
    have hm : m.address ≤ address := UInt64.le_trans hle hx
    rw [inStretch_cons_cons_of_le hle hx]
    unfold InStretch
    rw [lastUpTo?_cons, lastUpTo?_cons, if_pos hx, if_pos hm]
    cases lastUpTo? rest address <;> simp [hkind, UInt64.not_lt.2 hx, UInt64.not_lt.2 hm]
  · -- The last marker is `m`, if any, so that `x` is above and not of another kind.
    have hrest' : lastUpTo? rest address = none := by
      refine lastUpTo?_eq_none ?_
      intro y hy
      exact UInt64.lt_of_lt_of_le (UInt64.not_le.1 hx) (hrest y hy)
    unfold InStretch
    rw [lastUpTo?_cons, lastUpTo?_cons, lastUpTo?_cons, hrest', if_neg hx]
    simp only [Option.none_or, List.mem_cons, exists_eq_or_imp, hkind]
    grind

end Stretch

/-! ## Ranges -/

/-- The kind of marker that begins a range. -/
def RangeKind.marker : RangeKind → MarkerKind
  | .code => .code
  | .data => .data

/-- Whether an address lies in one of the ranges of a kind. -/
def covers (ranges : List AddressRange) (kind : RangeKind) (address : UInt64) : Bool :=
  ranges.any fun r => r.kind = kind && r.contains address

/-- A range goes from a marker of its kind up to right before a marker of another kind. -/
structure AddressRange.Spans (r : AddressRange) (markers : List RangeMarker) : Prop where
  nonempty : r.first ≤ r.last
  opened : ∃ m ∈ markers, m.address = r.first ∧ m.kind = r.kind.marker
  closed : ∃ m ∈ markers, m.address.toNat = r.last.toNat + 1 ∧ m.kind ≠ r.kind.marker

/-- Ranges are those that ordered markers delimit. -/
structure Delimits (sorted : List RangeMarker) (ranges : List AddressRange) : Prop where
  spans : ∀ r ∈ ranges, r.Spans sorted
  /-- Each range ends before the next one begins. -/
  apart : ranges.Pairwise fun r s => r.last < s.first
  code : ∀ address, inCode ranges address ↔ InStretch sorted .code address
  data : ∀ address, covers ranges .data address ↔ InStretch sorted .data address

theorem opens?_eq_some_iff {kind : MarkerKind} {k : RangeKind} :
    kind.opens? = some k ↔ kind = k.marker := by
  cases kind <;> cases k <;> simp [MarkerKind.opens?, RangeKind.marker]

/-- Right before an address that is not the least one there is another address. -/
theorem toNat_sub_one {start stop : UInt64} (h : start < stop) :
    stop.toNat = (stop - 1).toNat + 1 := by
  rw [UInt64.lt_iff_toNat_lt] at h
  have hone : (1 : UInt64) ≤ stop := by
    rw [UInt64.le_iff_toNat_le, UInt64.toNat_one]
    omega
  rw [UInt64.toNat_sub_of_le stop 1 hone, UInt64.toNat_one]
  omega

theorem of_rangeBetween? {start stop : UInt64} {kind : MarkerKind} {r : AddressRange}
    (h : rangeBetween? start kind stop = some r) :
    kind = r.kind.marker ∧ r.first = start ∧ r.first ≤ r.last ∧
      stop.toNat = r.last.toNat + 1 := by
  unfold rangeBetween? at h
  split at h
  · cases h
  · rename_i k hkind
    split at h
    · rename_i hlt
      cases h
      have hstop := toNat_sub_one hlt
      rw [UInt64.lt_iff_toNat_lt] at hlt
      refine ⟨opens?_eq_some_iff.1 hkind, rfl, ?_, hstop⟩
      rw [UInt64.le_iff_toNat_le]
      dsimp only
      omega
    · cases h

theorem covers_rangeBetween? {start stop : UInt64} {kind : MarkerKind} {k : RangeKind}
    {address : UInt64} :
    covers (rangeBetween? start kind stop).toList k address ↔
      kind = k.marker ∧ start ≤ address ∧ address < stop := by
  cases hkind : kind.opens? with
  | none =>
      have hne : kind ≠ k.marker := by
        intro h
        rw [opens?_eq_some_iff.2 h] at hkind
        cases hkind
      simp [rangeBetween?, hkind, covers, hne]
  | some k' =>
      have hmarker : kind = k.marker ↔ k' = k := by
        rw [← opens?_eq_some_iff, hkind, Option.some_inj]
      rw [hmarker]
      by_cases hlt : start < stop
      · have hstop := toNat_sub_one hlt
        simp only [rangeBetween?, hkind, hlt, if_true, Option.toList_some, covers, List.any_cons,
          List.any_nil, Bool.or_false, AddressRange.contains, Bool.and_eq_true, decide_eq_true_eq,
          UInt64.le_iff_toNat_le, UInt64.lt_iff_toNat_lt]
        constructor
        · rintro ⟨hk, hfirst, hlast⟩
          exact ⟨hk, hfirst, by omega⟩
        · rintro ⟨hk, hfirst, hlast⟩
          exact ⟨hk, hfirst, by omega⟩
      · have hempty : ¬ (start ≤ address ∧ address < stop) := by
          rintro ⟨hle, hlt'⟩
          exact hlt (UInt64.lt_of_le_of_lt hle hlt')
        simp [rangeBetween?, hkind, hlt, covers, hempty]

theorem AddressRange.Spans.mono {r : AddressRange} {markers markers' : List RangeMarker}
    (h : r.Spans markers) (hsub : ∀ m ∈ markers, m ∈ markers') : r.Spans markers' where
  nonempty := h.nonempty
  opened := h.opened.imp fun m hm => ⟨hsub m hm.1, hm.2⟩
  closed := h.closed.imp fun m hm => ⟨hsub m hm.1, hm.2⟩

theorem covers_append (ranges ranges' : List AddressRange) (kind : RangeKind) (address : UInt64) :
    covers (ranges ++ ranges') kind address ↔
      covers ranges kind address ∨ covers ranges' kind address := by
  rw [covers, List.any_append, Bool.or_eq_true]
  rfl

/-! ## Ranges of ordered markers -/

section From

variable {start : UInt64} {kind : MarkerKind} {ms : List RangeMarker}

theorem spans_rangesFrom {r : AddressRange} (hr : r ∈ rangesFrom start kind ms) :
    r.Spans (⟨start, kind⟩ :: ms) := by
  induction ms generalizing start kind with
  | nil =>
      cases hr
  | cons m rest ih =>
      rw [rangesFrom] at hr
      split at hr
      · exact (ih hr).mono fun x hx => by
          rcases List.mem_cons.1 hx with rfl | hx
          · exact List.mem_cons_self
          · exact List.mem_cons_of_mem _ (List.mem_cons_of_mem _ hx)
      · rename_i hkind
        rcases List.mem_append.1 hr with hfirst | hrest
        · obtain ⟨hown, hstart, hle, hstop⟩ := of_rangeBetween? (Option.mem_toList.1 hfirst)
          exact ⟨hle, ⟨_, List.mem_cons_self, hstart.symm, hown⟩, m, by simp, hstop, hown ▸ hkind⟩
        · exact (ih hrest).mono fun x hx => List.mem_cons_of_mem _ hx

variable (hsorted : (⟨start, kind⟩ :: ms).Pairwise fun a b => a.address ≤ b.address)
include hsorted

theorem start_le_of_mem_rangesFrom {r : AddressRange} (hr : r ∈ rangesFrom start kind ms) :
    start ≤ r.first := by
  obtain ⟨m, hm, hfirst, _⟩ := (spans_rangesFrom hr).opened
  rcases List.mem_cons.1 hm with rfl | hm
  · exact hfirst ▸ UInt64.le_refl start
  · exact hfirst ▸ (List.pairwise_cons.1 hsorted).1 m hm

theorem pairwise_rangesFrom :
    (rangesFrom start kind ms).Pairwise fun r s => r.last < s.first := by
  induction ms generalizing start kind with
  | nil =>
      exact List.Pairwise.nil
  | cons m rest ih =>
      have hrest := (List.pairwise_cons.1 hsorted).2
      rw [rangesFrom]
      split
      · refine ih ?_
        exact hsorted.sublist ((List.sublist_cons_self m rest).cons_cons _)
      · rw [List.pairwise_append]
        refine ⟨?_, ih hrest, ?_⟩
        · cases rangeBetween? start kind m.address <;> simp
        · -- What is opened at `m` or later begins behind the range that `m` closes.
          intro r hr s hs
          obtain ⟨-, -, -, hstop⟩ := of_rangeBetween? (Option.mem_toList.1 hr)
          have hlater := start_le_of_mem_rangesFrom hrest hs
          rw [UInt64.le_iff_toNat_le] at hlater
          rw [UInt64.lt_iff_toNat_lt]
          omega

theorem covers_rangesFrom_iff (k : RangeKind) (address : UInt64) :
    covers (rangesFrom start kind ms) k address ↔
      InStretch (⟨start, kind⟩ :: ms) k.marker address := by
  induction ms generalizing start kind with
  | nil =>
      -- A lone marker has nothing above that could close its stretch.
      have hopen : ¬ InStretch [⟨start, kind⟩] k.marker address := by
        rintro ⟨⟨x, hx, _⟩, y, hy, hlt, _⟩
        obtain ⟨hmem, hle⟩ := mem_of_lastUpTo? hx
        rw [List.mem_singleton] at hmem hy
        subst hmem hy
        exact UInt64.not_lt.2 hle hlt
      simp [rangesFrom, covers, hopen]
  | cons m rest ih =>
      obtain ⟨hstart, hrest⟩ := List.pairwise_cons.1 hsorted
      have hle : start ≤ m.address := hstart m List.mem_cons_self
      have hlater := (List.pairwise_cons.1 hrest).1
      rw [rangesFrom]
      split
      · rename_i hkind
        have hskip : (⟨start, kind⟩ :: rest).Pairwise fun a b => a.address ≤ b.address :=
          hsorted.sublist ((List.sublist_cons_self m rest).cons_cons _)
        rw [ih hskip]
        exact (inStretch_cons_cons_of_kind hle hlater hkind).symm
      · rename_i hkind
        rw [covers_append, covers_rangeBetween?, ih hrest]
        by_cases hlt : address < m.address
        · -- Below `m` only the range that `m` closes counts.
          have hbelow : ¬ InStretch (m :: rest) k.marker address := by
            rintro ⟨⟨x, hx, _⟩, _⟩
            obtain ⟨hmem, hxle⟩ := mem_of_lastUpTo? hx
            rcases List.mem_cons.1 hmem with rfl | hmem
            · exact UInt64.not_lt.2 hxle hlt
            · exact UInt64.not_lt.2 (UInt64.le_trans (hlater x hmem) hxle) hlt
          rw [inStretch_cons_cons_of_lt hlater hkind hlt]
          simp [hbelow, hlt]
        · -- From `m` on that range is over.
          rw [inStretch_cons_cons_of_le hle (UInt64.not_lt.1 hlt)]
          simp [hlt]

end From

/-! ## Ranges of any markers -/

theorem RangeMarker.pairwise_address_sort (markers : List RangeMarker) :
    (sort markers).Pairwise fun a b => a.address ≤ b.address := by
  refine (arranges_sort markers).ordered.imp ?_
  rintro a b (hlt | ⟨heq, _⟩)
  · exact UInt64.le_of_lt hlt
  · exact heq ▸ UInt64.le_refl a.address

theorem delimits_sort (markers : List RangeMarker) :
    Delimits (RangeMarker.sort markers) (rangesOf markers) := by
  have hsorted := RangeMarker.pairwise_address_sort markers
  unfold rangesOf
  cases hsort : RangeMarker.sort markers with
  | nil =>
      refine ⟨nofun, List.Pairwise.nil, ?_, ?_⟩ <;>
        simp [inCode, covers, InStretch, lastUpTo?]
  | cons m rest =>
      rw [hsort] at hsorted
      exact
        { spans := fun r hr => spans_rangesFrom hr
          apart := pairwise_rangesFrom hsorted
          code := covers_rangesFrom_iff hsorted .code
          data := covers_rangesFrom_iff hsorted .data }

/-- The ranges of markers are those that the markers delimit when they are put in order.  The order
in which they are given makes no difference if no address has markers of both code and data. -/
theorem delimits_rangesOf (markers : List RangeMarker) :
    RangeMarker.Arranges markers (RangeMarker.sort markers) ∧
      Delimits (RangeMarker.sort markers) (rangesOf markers) ∧
      ((∀ a ∈ markers, ∀ b ∈ markers, a.kind = .code → b.kind = .data → a.address ≠ b.address) →
        ∀ markers' : List RangeMarker, markers'.Perm markers →
          rangesOf markers' = rangesOf markers) := by
  refine ⟨RangeMarker.arranges_sort markers, delimits_sort markers, ?_⟩
  intro hapart markers' hperm
  rw [rangesOf, rangesOf, RangeMarker.sort_eq_of_perm hperm hapart]

/-- Code and data in one section, and another section that begins where the first one ends. -/
def adjacentMarkers : List RangeMarker :=
  [⟨30, .code⟩, ⟨10, .code⟩, ⟨20, .data⟩, ⟨30, .sectionEnd⟩, ⟨40, .sectionEnd⟩]

theorem delimits_rangesOf_adjacent :
    rangesOf adjacentMarkers = [⟨10, 19, .code⟩, ⟨20, 29, .data⟩, ⟨30, 39, .code⟩] ∧
      (∀ a ∈ adjacentMarkers, ∀ b ∈ adjacentMarkers, a.kind = .code → b.kind = .data →
        a.address ≠ b.address) ∧
      adjacentMarkers.reverse.Perm adjacentMarkers ∧
      rangesOf adjacentMarkers.reverse = rangesOf adjacentMarkers := by
  have hapart : ∀ a ∈ adjacentMarkers, ∀ b ∈ adjacentMarkers, a.kind = .code → b.kind = .data →
      a.address ≠ b.address := by
    decide
  have hsort : RangeMarker.sort adjacentMarkers =
      [⟨10, .code⟩, ⟨20, .data⟩, ⟨30, .sectionEnd⟩, ⟨30, .code⟩, ⟨40, .sectionEnd⟩] :=
    RangeMarker.sort_eq_of_pairwise (by decide) (by decide) hapart
  have hranges : rangesOf adjacentMarkers =
      [⟨10, 19, .code⟩, ⟨20, 29, .data⟩, ⟨30, 39, .code⟩] := by
    rw [rangesOf, hsort]
    decide
  have hperm : adjacentMarkers.reverse.Perm adjacentMarkers := by
    decide
  exact ⟨hranges, hapart, hperm, (delimits_rangesOf adjacentMarkers).2.2 hapart _ hperm⟩

end BinaryCoverage
