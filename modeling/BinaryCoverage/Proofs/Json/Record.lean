import BinaryCoverage.Proofs.Json.Depth
import Mathlib.Data.List.Nodup

/-!
# Decoders that take back what is written

Decoders are put together from those of parts, and so is the fact that one takes back what is
written.  This file defines:

* `Json.Decoder.Reads` — a decoder takes back what is written, where there are levels enough;
* `Json.Fields.Shows` — the fields of a record are at hand under their names.
-/

namespace BinaryCoverage.Json

/-! ## Parts -/

theorem mapM_map_of_inverse {α β : Type} {f : β → Option α} {g : α → β} {as : List α}
    (h : ∀ a ∈ as, f (g a) = some a) : (as.map g).mapM f = some as := by
  induction as with
  | nil =>
      rfl
  | cons a as ih =>
      have hfirst := h a (by simp)
      have hrest := ih fun b hb => h b (by simp [hb])
      rw [List.map_cons, List.mapM_cons, hfirst, hrest]
      rfl

theorem exists_of_mapM {α β : Type} {g : β → Option α} {bs : List β} {as : List α}
    (h : bs.mapM g = some as) : ∀ a ∈ as, ∃ b, g b = some a := by
  induction bs generalizing as with
  | nil =>
      cases h
      simp
  | cons b bs ih =>
      rw [List.mapM_cons] at h
      rcases Option.bind_eq_some_iff.1 h with ⟨a, ha, h⟩
      rcases Option.bind_eq_some_iff.1 h with ⟨rest, hrest, h⟩
      cases h
      simp only [List.forall_mem_cons]
      exact ⟨⟨b, ha⟩, ih hrest⟩

/-- Inside an array there is one level less. -/
theorem inside_array {items : List Json} {level : Nat} (hfloatless : (array items).isFloatless)
    (hdepth : (array items).depth < level) :
    ∃ below, descend? level = some below ∧
      ∀ item ∈ items, item.isFloatless ∧ item.depth < below := by
  have hlevel : itemsDepth items + 1 < level := hdepth
  refine ⟨level - 1, descend?_eq_some_iff.2 (by omega), ?_⟩
  intro item hitem
  have hitemDepth := itemsDepth_le_iff.1 (Nat.le_refl (itemsDepth items)) item hitem
  exact ⟨allFloatless_iff.1 hfloatless item hitem, by omega⟩

theorem inside_object {fields : List (String × Json)} {level : Nat}
    (hfloatless : (object fields).isFloatless) (hdepth : (object fields).depth < level) :
    ∃ below, descend? level = some below ∧
      ∀ field ∈ fields, field.2.isFloatless ∧ field.2.depth < below := by
  have hlevel : fieldsDepth fields + 1 < level := hdepth
  refine ⟨level - 1, descend?_eq_some_iff.2 (by omega), ?_⟩
  intro field hfield
  have hfieldDepth := fieldsDepth_le_iff.1 (Nat.le_refl (fieldsDepth fields)) field hfield
  exact ⟨fieldsFloatless_iff.1 hfloatless field hfield, by omega⟩

/-! ## Decoders -/

namespace Decoder

variable {α β : Type}

/-- The decoder takes back what is written, where there are levels enough. -/
def Reads (decoder : Decoder α) (write : α → Json) : Prop :=
  ∀ a level, (write a).isFloatless → (write a).depth < level →
    decoder level (write a).form = some a

theorem reads_text : text.Reads .string := by
  intro s level _ _
  exact textOf?_pieces s

theorem reads_flag : flag.Reads .bool := by
  intro b level _ _
  rfl

theorem reads_word32 : word32.Reads ofWord32 := by
  intro w level _ _
  have hvalue := wholeOf?_numberForm w.toNat_lt
  change (wholeOf? UInt32.size (numberForm w.toNat)).map UInt32.ofNat = some w
  rw [hvalue, Option.map_some, UInt32.ofNat_toNat]

theorem reads_word64 : word64.Reads ofWord64 := by
  intro w level _ _
  have hvalue := wholeOf?_numberForm w.toNat_lt
  change (wholeOf? UInt64.size (numberForm w.toNat)).map UInt64.ofNat = some w
  rw [hvalue, Option.map_some, UInt64.ofNat_toNat]

theorem reads_payload : payload.Reads Payload.json := by
  intro p level hfloatless hdepth
  have hvalue := valueOf?_form p.json hfloatless level hdepth
  unfold payload any
  rw [hvalue, Option.map_some, Payload.ofJson_json]

theorem reads_list {item : Decoder α} {write : α → Json} (h : item.Reads write) :
    (list item).Reads fun as => .array (as.map write) := by
  intro as level hfloatless hdepth
  rcases inside_array hfloatless hdepth with ⟨below, hbelow, hparts⟩
  have hread : ∀ a ∈ as, item below (write a).form = some a := by
    intro a ha
    rcases hparts (write a) (List.mem_map_of_mem ha) with ⟨hfloatless, hdepth⟩
    exact h a below hfloatless hdepth
  change (descend? level).bind (fun level => (itemForms (as.map write)).mapM (item level)) = some as
  rw [hbelow, Option.bind_some, itemForms_eq_map, List.map_map]
  exact mapM_map_of_inverse hread

theorem reads_pair {first : Decoder α} {second : Decoder β} {write : α → Json}
    {write' : β → Json} (h : first.Reads write) (h' : second.Reads write') :
    (pair first second).Reads fun p => .array [write p.1, write' p.2] := by
  intro p level hfloatless hdepth
  rcases inside_array hfloatless hdepth with ⟨below, hbelow, hparts⟩
  rcases hparts (write p.1) (by simp) with ⟨hfloatless, hdepth⟩
  rcases hparts (write' p.2) (by simp) with ⟨hfloatless', hdepth'⟩
  have hfirst := h p.1 below hfloatless hdepth
  have hsecond := h' p.2 below hfloatless' hdepth'
  change (descend? level).bind (fun level => (first level (write p.1).form).bind fun a =>
    (second level (write' p.2).form).bind fun b => some (a, b)) = some p
  rw [hbelow, Option.bind_some, hfirst, Option.bind_some, hsecond]
  rfl

/-! ## What decoders accept -/

theorem depth_of_payload {level : Nat} {raw : Raw} {p : Payload} (hlevel : 0 < level)
    (h : payload level raw = some p) : p.json.depth < level := by
  rcases Option.map_eq_some_iff.1 h with ⟨j, hj, rfl⟩
  exact Nat.lt_of_le_of_lt j.depth_ordered_le (depth_of_valueOf? raw level j hlevel hj)

theorem of_list {item : Decoder α} {level : Nat} {raw : Raw} {as : List α}
    (h : list item level raw = some as) :
    ∃ below, 0 < below ∧ level = below + 1 ∧ ∀ a ∈ as, ∃ raw, item below raw = some a := by
  unfold list at h
  split at h
  · rcases Option.bind_eq_some_iff.1 h with ⟨below, hbelow, h⟩
    rcases descend?_eq_some_iff.1 hbelow with ⟨hpos, hlevel⟩
    exact ⟨below, hpos, hlevel, exists_of_mapM h⟩
  · cases h

end Decoder

/-! ## Records -/

namespace Fields

/-- The fields of a record are at hand under their names. -/
structure Shows (f : Fields) (fields : List (String × Json)) : Prop where
  find? {name : String} {value : Json} :
    (name, value) ∈ fields → f.find? name = some value.form
  isFloatless {name : String} {value : Json} : (name, value) ∈ fields → value.isFloatless
  depth {name : String} {value : Json} : (name, value) ∈ fields → value.depth < f.level

variable {f : Fields} {fields : List (String × Json)} {α : Type} {item : Decoder α}
  {write : α → Json} {name : String} {a : α}

theorem Shows.required (h : f.Shows fields) (hitem : item.Reads write)
    (hmem : (name, write a) ∈ fields) : f.required name item = some a := by
  unfold Fields.required
  rw [h.find? hmem]
  exact hitem a f.level (h.isFloatless hmem) (h.depth hmem)

theorem Shows.optional (h : f.Shows fields) (hitem : item.Reads write)
    (hmem : (name, write a) ∈ fields) (missing : α) : f.optional name missing item = some a := by
  unfold Fields.optional
  rw [h.find? hmem]
  exact hitem a f.level (h.isFloatless hmem) (h.depth hmem)

theorem collect?_fieldForms {names : List String} {found : List (String × Raw)}
    (hknown : ∀ field ∈ fields, field.1 ∈ names)
    (hdistinct : (fields.map (·.1) ++ found.map (·.1)).Nodup) :
    collect? names found (fieldForms fields) =
      some ((fields.map fun field => (field.1, field.2.form)).reverse ++ found) := by
  induction fields generalizing found with
  | nil =>
      rfl
  | cons field fields ih =>
      rcases field with ⟨name, value⟩
      have hname : names.contains name := by
        simpa using hknown (name, value) (by simp)
      rcases List.nodup_cons.1 hdistinct with ⟨hfirst, hdistinct⟩
      -- No field has been found under this name, as the names are distinct.
      have hfresh : found.any (·.1 == name) = false := by
        rw [List.any_eq_false]
        intro entry hentry hsame
        refine hfirst (List.mem_append_right _ ?_)
        rw [← beq_iff_eq.1 hsame]
        exact List.mem_map_of_mem hentry
      have hrest := @ih ((name, value.form) :: found)
        (fun field hfield => hknown field (by simp [hfield]))
        (List.nodup_middle.2 (List.nodup_cons.2 ⟨hfirst, hdistinct⟩))
      rw [fieldForms, collect?, textOf?_pieces]
      change (if names.contains name then
        Option.bind (guard !(found.any (·.1 == name))) fun _ =>
          collect? names ((name, value.form) :: found) (fieldForms fields)
        else collect? names found (fieldForms fields)) = _
      rw [if_pos hname, hfresh, hrest]
      simp

theorem lookup_of_mem {entries : List (String × Raw)} {name : String} {raw : Raw}
    (hdistinct : (entries.map (·.1)).Nodup) (h : (name, raw) ∈ entries) :
    entries.lookup name = some raw := by
  -- None of the entries before has the same name.
  rcases List.append_of_mem h with ⟨before, after, rfl⟩
  rw [List.lookup_eq_some_iff]
  refine ⟨before, after, rfl, ?_⟩
  intro entry hentry
  rw [List.map_append, List.map_cons] at hdistinct
  have hbefore := (List.nodup_cons.1 (List.nodup_middle.1 hdistinct)).1
  rw [bne_iff_ne]
  rintro rfl
  exact hbefore (List.mem_append_left _ (List.mem_map.2 ⟨entry, hentry, rfl⟩))

/-- What is written as an object with a record's fields is read as that record. -/
theorem of?_form (hdistinct : (fields.map (·.1)).Nodup) {level : Nat}
    (hfloatless : (Json.object fields).isFloatless) (hdepth : (Json.object fields).depth < level) :
    ∃ f, of? (fields.map (·.1)) level (Json.object fields).form = some f ∧ f.Shows fields := by
  rcases inside_object hfloatless hdepth with ⟨below, hbelow, hparts⟩
  have hcollect : collect? (fields.map (·.1)) [] (fieldForms fields) =
      some (fields.map fun field => (field.1, field.2.form)).reverse := by
    rw [collect?_fieldForms (fun field hfield => List.mem_map_of_mem hfield)
      (by simpa using hdistinct), List.append_nil]
  -- The fields are collected back to front, which a lookup does not notice: no name is there twice.
  refine ⟨⟨below, (fields.map fun field => (field.1, field.2.form)).reverse⟩, ?_, ?_, ?_, ?_⟩
  · change (descend? level).bind (fun level =>
      (collect? (fields.map (·.1)) [] (fieldForms fields)).bind fun present =>
        some (⟨level, present⟩ : Fields)) = _
    rw [hbelow, Option.bind_some, hcollect, Option.bind_some]
  · intro name value hmem
    refine lookup_of_mem ?_ ?_
    · rw [List.map_reverse, List.nodup_reverse, List.map_map]
      exact hdistinct
    · rw [List.mem_reverse]
      exact List.mem_map_of_mem (f := fun field => (field.1, field.2.form)) hmem
  · intro name value hmem
    exact (hparts _ hmem).1
  · intro name value hmem
    exact (hparts _ hmem).2

/-! ## What records accept -/

theorem level_of_of? {names : List String} {level : Nat} {raw : Raw}
    (h : of? names level raw = some f) : 0 < f.level ∧ level = f.level + 1 := by
  unfold of? at h
  split at h
  · rcases Option.bind_eq_some_iff.1 h with ⟨below, hbelow, h⟩
    rcases Option.bind_eq_some_iff.1 h with ⟨present, -, h⟩
    cases h
    exact descend?_eq_some_iff.1 hbelow
  · rcases Option.bind_eq_some_iff.1 h with ⟨below, hbelow, h⟩
    rcases Option.bind_eq_some_iff.1 h with ⟨_, -, h⟩
    cases h
    exact descend?_eq_some_iff.1 hbelow
  · cases h

theorem of_optional {missing : α} (h : f.optional name missing item = some a) :
    a = missing ∨ ∃ raw, item f.level raw = some a := by
  unfold optional at h
  split at h
  · cases h
    exact Or.inl rfl
  · exact Or.inr ⟨_, h⟩

end Fields

end BinaryCoverage.Json
