import BinaryCoverage.Image.Basic
import BinaryCoverage.Proofs.Image.Ranges
import Mathlib.Tactic.ByContra

/-!
# Code lies in executable sections

A mapping symbol opens a range of code, and the end of its section closes it.  This file defines:

* `ImageSection.Holds` — an address belongs to a section;
* `ImageSymbol.marksCode` — a symbol says that code begins at its value;
* `Image.InExecutable` — an address belongs to an executable section;

and shows that code stays in the sections of its symbols (`Image.inExecutable_of_inCode`).
-/

namespace BinaryCoverage

/-- An address belongs to a section, which may go beyond the greatest address. -/
def ImageSection.Holds (x : ImageSection) (address : UInt64) : Prop :=
  x.start.toNat ≤ address.toNat ∧ address.toNat < x.start.toNat + x.size.toNat

instance (x : ImageSection) (address : UInt64) : Decidable (x.Holds address) :=
  inferInstanceAs (Decidable (_ ∧ _))

/-- Whether a mapping symbol says that code begins at its value. -/
def ImageSymbol.marksCode (s : ImageSymbol) : Bool :=
  s.name.bind MarkerKind.ofSymbol? = some .code

namespace Image

def InExecutable (i : Image) (address : UInt64) : Prop :=
  ∃ x ∈ i.sections, x.executable ∧ x.Holds address

instance (i : Image) (address : UInt64) : Decidable (i.InExecutable address) :=
  inferInstanceAs (Decidable (∃ x ∈ i.sections, x.executable ∧ x.Holds address))

theorem toNat_stretchEnd {start size : UInt64} (h : start.toNat + size.toNat < UInt64.size) :
    (stretchEnd start size).toNat = start.toNat + size.toNat := by
  rw [stretchEnd, if_pos h, UInt64.toNat_add]
  exact Nat.mod_eq_of_lt h

theorem exists_symbol_of_code {i : Image} {m : RangeMarker} (hm : m ∈ i.markers)
    (hkind : m.kind = .code) : ∃ s ∈ i.symbols, s.marksCode ∧ s.value = m.address := by
  rcases List.mem_append.1 hm with hsymbol | hend
  · obtain ⟨s, hs, hmarker⟩ := List.mem_filterMap.1 hsymbol
    simp only [marker?, Option.bind_eq_bind, Option.bind_eq_some_iff, Option.some_inj] at hmarker
    obtain ⟨name, hname, kind, hofSymbol, rfl⟩ := hmarker
    dsimp only at hkind
    subst hkind
    exact ⟨s, hs, by simp [ImageSymbol.marksCode, hname, hofSymbol], rfl⟩
  · obtain ⟨x, _, rfl⟩ := List.mem_map.1 hend
    cases hkind

theorem sectionEnd_mem_markers {i : Image} {x : ImageSection} (hx : x ∈ i.sections)
    (hexecutable : x.executable) (hsize : 0 < x.size) :
    ⟨stretchEnd x.start x.size, .sectionEnd⟩ ∈ i.markers := by
  refine List.mem_append_right _ (List.mem_map.2 ⟨⟨x.name.getD "", x.start, x.size⟩, ?_, rfl⟩)
  exact List.mem_map.2 ⟨x, List.mem_filter.2 ⟨hx, by simp [hexecutable, hsize]⟩, rfl⟩

/-- Where every symbol that marks code stands in an executable section, all code does. -/
theorem inExecutable_of_inCode {i : Image}
    (hsymbols : ∀ s ∈ i.symbols, s.marksCode → i.InExecutable s.value) {address : UInt64}
    (h : inCode i.ranges address) : i.InExecutable address := by
  have hdelimits := delimits_sort i.markers
  obtain ⟨⟨m, hlast, hkind⟩, -⟩ := (hdelimits.code address).1 h
  obtain ⟨hmem, hle⟩ := mem_of_lastUpTo? hlast
  have hperm := (RangeMarker.arranges_sort i.markers).perm
  obtain ⟨s, hs, hcode, hvalue⟩ := exists_symbol_of_code (hperm.mem_iff.1 hmem) hkind
  obtain ⟨x, hx, hexecutable, hstart, hstop⟩ := hsymbols s hs hcode
  refine ⟨x, hx, hexecutable, ?_⟩
  rw [hvalue] at hstart hstop
  rw [UInt64.le_iff_toNat_le] at hle
  refine ⟨Nat.le_trans hstart hle, ?_⟩
  -- Otherwise the end of the section would be a later marker at or below the address.
  by_contra hbeyond
  have haddress := address.toNat_lt_size
  have hfits : x.start.toNat + x.size.toNat < UInt64.size := by
    omega
  have hstretch := toNat_stretchEnd hfits
  have hsize : 0 < x.size := by
    rw [UInt64.lt_iff_toNat_lt, UInt64.toNat_zero]
    omega
  have hend := hperm.mem_iff.2 (sectionEnd_mem_markers hx hexecutable hsize)
  have hbelow : stretchEnd x.start x.size ≤ address := by
    rw [UInt64.le_iff_toNat_le]
    omega
  have hbefore := le_of_lastUpTo? (RangeMarker.pairwise_address_sort i.markers) hlast hend hbelow
  rw [UInt64.le_iff_toNat_le] at hbefore
  dsimp only at hbefore
  omega

/-- Two sections that touch, a third one over the second, and one up to the greatest address and
beyond, with code in each of them and data at the end of the second. -/
def touchingSections : Image where
  sections :=
    [⟨some ".text", true, 4096, 16⟩, ⟨some ".init", true, 4112, 8⟩, ⟨some ".over", true, 4116, 12⟩,
      ⟨some ".top", true, 18446744073709551600, 64⟩, ⟨some ".data", false, 4128, 8⟩]
  symbols :=
    [⟨some "$x", false, true, 4096, 0⟩, ⟨some "$x.1", false, true, 4112, 0⟩,
      ⟨some "$d", false, true, 4118, 0⟩, ⟨some "$a", false, true, 4122, 0⟩,
      ⟨some "$x", false, true, 18446744073709551600, 0⟩]
  marksThumb := false

theorem inExecutable_of_inCode_touching :
    (∀ s ∈ touchingSections.symbols, s.marksCode → touchingSections.InExecutable s.value) ∧
      inCode touchingSections.ranges 4127 = true ∧
      inCode touchingSections.ranges 4128 = false ∧
      inCode touchingSections.ranges 18446744073709551614 = true ∧
      touchingSections.InExecutable 4127 ∧
      touchingSections.InExecutable 18446744073709551614 := by
  have hsymbols : ∀ s ∈ touchingSections.symbols, s.marksCode →
      touchingSections.InExecutable s.value := by
    decide
  have hsort : RangeMarker.sort touchingSections.markers =
      [⟨4096, .code⟩, ⟨4112, .sectionEnd⟩, ⟨4112, .code⟩, ⟨4118, .data⟩, ⟨4120, .sectionEnd⟩,
        ⟨4122, .code⟩, ⟨4128, .sectionEnd⟩, ⟨18446744073709551600, .code⟩,
        ⟨18446744073709551615, .sectionEnd⟩] :=
    RangeMarker.sort_eq_of_pairwise (by decide) (by decide) (by decide)
  have hranges : touchingSections.ranges =
      [⟨4096, 4111, .code⟩, ⟨4112, 4117, .code⟩, ⟨4118, 4119, .data⟩, ⟨4122, 4127, .code⟩,
        ⟨18446744073709551600, 18446744073709551614, .code⟩] := by
    rw [ranges, rangesOf, hsort]
    decide
  have hover : inCode touchingSections.ranges 4127 = true := by
    rw [hranges]
    decide
  have hbeyond : inCode touchingSections.ranges 4128 = false := by
    rw [hranges]
    decide
  have htop : inCode touchingSections.ranges 18446744073709551614 = true := by
    rw [hranges]
    decide
  exact ⟨hsymbols, hover, hbeyond, htop, inExecutable_of_inCode hsymbols hover,
    inExecutable_of_inCode hsymbols htop⟩

end Image

end BinaryCoverage
