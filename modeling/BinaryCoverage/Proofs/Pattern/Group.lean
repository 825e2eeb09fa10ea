import BinaryCoverage.Pattern.Reader
import BinaryCoverage.Proofs.Pattern.Extent

/-!
# How far the starts of groups reach

A group may begin with a name, which a parenthesis ends up in and spoils, or with flags, which it ends.
-/

namespace BinaryCoverage.Pattern

open Reader

variable {f : Flags}

/-- The parenthesis is a part of no name. -/
theorem readGroupName?_eq_none {cs : List Char} (h : ')' ∈ cs.takeWhile (· != '>')) :
    readGroupName? cs = none := by
  unfold readGroupName?
  dsimp only
  split
  · next c more d rest hname hrest =>
    rw [hname] at h
    refine if_neg ?_
    rw [Bool.and_eq_true, List.all_eq_true, not_and]
    intro hc hmore
    rcases List.mem_cons.1 h with rfl | hmem
    · exact absurd hc (by decide)
    · exact absurd (hmore _ hmem) (by decide)
  · rfl

theorem steady_readGroupName? : Steady readGroupName? := by
  intro cs t
  rcases takeWhile_closing (d := '>') (by decide) cs t with ⟨hrest, hmem⟩ | ⟨hne, htake, hdrop⟩
  · rw [readGroupName?_eq_none hmem, readGroupName?, hrest]
    cases cs.takeWhile (· != '>') <;> rfl
  · unfold readGroupName?
    rw [htake, hdrop]
    obtain ⟨d, rest, hrest⟩ := List.exists_cons_of_ne_nil hne
    rw [hrest]
    rcases cs.takeWhile (· != '>') with _ | ⟨c, more⟩
    · rfl
    · dsimp only [List.cons_append]
      split <;> rfl

theorem leaves_readGroupName? : Leaves readGroupName? := by
  intro cs name rest hread
  unfold readGroupName? at hread
  dsimp only at hread
  split at hread
  · next c more d after hname hrest =>
    split at hread
    · cases hread
      exact (List.suffix_cons d _).trans (hrest ▸ List.dropWhile_suffix _)
    · cases hread
  · cases hread

/-- Letters of flags up to the colon or parenthesis that ends them. -/
def flagLetters (f : Flags) (seen : List Char) : Reader (Flags × List Char) := fun cs =>
  (f.read? seen cs).map fun x => ((x.1, x.2.1), x.2.2)

theorem flagLetters_cons (f : Flags) (seen : List Char) (c : Char) (rest : List Char) :
    flagLetters f seen (c :: rest) =
      if c == ':' || c == ')' then
        if seen.head? == some '-' then none else some ((f, seen), c :: rest)
      else if seen.contains c then none
      else if c == '-' then flagLetters f (c :: seen) rest
      else
        match f.set? c (!seen.contains '-') with
        | none => none
        | some g => flagLetters g (c :: seen) rest := by
  rw [flagLetters, Flags.read?]
  split_ifs
  · rfl
  · rfl
  · rfl
  · rfl
  · cases f.set? c (!seen.contains '-') <;> rfl

theorem bounded_flagLetters (f : Flags) (seen : List Char) :
    Bounded atOnce (flagLetters f seen) := by
  constructor
  · intro cs x rest hread
    induction cs generalizing f seen with
    | nil =>
        cases hread
    | cons c cs ih =>
        rw [flagLetters_cons] at hread
        split_ifs at hread
        · cases hread
          exact List.suffix_rfl
        · exact (ih _ _ hread).trans (List.suffix_cons c cs)
        · split at hread
          · cases hread
          · exact (ih _ _ hread).trans (List.suffix_cons c cs)
  · intro cs
    induction cs generalizing f seen with
    | nil =>
        -- The letters end here or at the parenthesis, which they leave.
        refine Or.inr (overruns_of_none rfl fun t x rest hread => ?_)
        rw [List.nil_append, flagLetters_cons, if_pos (by decide)] at hread
        split at hread
        · cases hread
        · cases hread
          exact Or.inr ⟨[], rfl, rfl⟩
    | cons c cs ih =>
        have hcons := flagLetters_cons f seen c
        cases hend : c == ':' || c == ')' with
        | true =>
            cases hhead : seen.head? == some '-' with
            | true =>
                exact (bounded_fails.ends cs).congr (by simp only [hcons, hend, hhead]; rfl)
                  fun t => by simp only [List.cons_append, hcons, hend, hhead]; rfl
            | false =>
                exact ((bounded_value (some (f, seen))).ends (c :: cs)).congr
                  (by simp only [hcons, hend, hhead]; rfl)
                  fun t => by simp only [List.cons_append, hcons, hend, hhead]; rfl
        | false =>
            -- What the letter does to the flags is settled before the rest is read.
            have hnext : ∀ u, flagLetters f seen (c :: u) =
                (if seen.contains c then fails
                else if c == '-' then flagLetters f (c :: seen)
                else ((f.set? c (!seen.contains '-')).map fun g => flagLetters g (c :: seen)).getD
                  fails) u := by
              intro u
              rw [hcons, hend, if_neg Bool.false_ne_true]
              split_ifs
              · rfl
              · rfl
              · cases f.set? c (!seen.contains '-') <;> rfl
            refine Ends.congr ?_ (hnext cs) fun t => hnext (cs ++ ')' :: t)
            split_ifs
            · exact bounded_fails.ends cs
            · exact ih _ _
            · cases f.set? c (!seen.contains '-') with
              | none =>
                  exact bounded_fails.ends cs
              | some g =>
                  exact ih _ _

/-- The name of a group and the flags inside it. -/
def namedStart (f : Flags) : Reader GroupStart :=
  andThen readGroupName? fun name => value (some (.group f (some name)))

/-- Flags that stay set, or those inside a group. -/
def flagStart (f : Flags) : Reader GroupStart :=
  (flagLetters f []).andThen fun x => onHead fun c =>
    if c == ')' then value (if x.2.isEmpty then none else some (.flags x.1))
    else if c == ':' then value (some (.group x.1 none))
    else fails

/-- What a group is after its question mark. -/
def markedStart (f : Flags) : Reader GroupStart :=
  ifHead (fun c => c == '=' || c == '!') (fun _ => fails)
    (ifHead (· == '<')
      (fun _ => ifHead (fun c => c == '=' || c == '!') (fun _ => fails) (namedStart f))
      (ifHead (· == 'P') (fun _ => onHead fun c => if c == '<' then namedStart f else fails)
        (flagStart f)))

theorem namedStart_eq (f : Flags) (cs : List Char) :
    namedStart f cs = (readGroupName? cs).map fun x => (.group f (some x.1), x.2) := by
  rw [namedStart, andThen]
  cases readGroupName? cs <;> rfl

theorem flagStart_eq (f : Flags) (cs : List Char) :
    flagStart f cs =
      match f.read? [] cs with
      | some (g, seen, ')' :: rest) => if seen.isEmpty then none else some (.flags g, rest)
      | some (g, _, ':' :: rest) => some (.group g none, rest)
      | _ => none := by
  rw [flagStart, andThen, flagLetters]
  cases f.read? [] cs with
  | none =>
      rfl
  | some x =>
      obtain ⟨g, seen, rest⟩ := x
      rw [Option.map_some, Option.bind_some]
      rcases rest with _ | ⟨c, rest⟩
      · rfl
      · by_cases hc : c = ')'
        · subst hc
          cases seen <;> rfl
        · by_cases hc' : c = ':'
          · subst hc'
            rfl
          · simp [onHead, hc, hc', fails]

theorem bounded_namedStart (f : Flags) : Bounded never (namedStart f) :=
  (steady_readGroupName?.bounded leaves_readGroupName?).andThen fun _ => bounded_value _

theorem bounded_flagStart (f : Flags) : Bounded never (flagStart f) := by
  have hend : ∀ x : Flags × List Char, Bounded never (onHead fun c =>
      if c == ')' then value (if x.2.isEmpty then none else some (GroupStart.flags x.1))
      else if c == ':' then value (some (.group x.1 none))
      else fails) := by
    intro x
    refine bounded_onHead fun c => ?_
    split_ifs
    · exact bounded_value _
    · exact bounded_value _
    · exact bounded_value _
    · exact bounded_fails
  refine bounded_andThen (bounded_flagLetters f []) hend ?_
  -- The parenthesis ends the flags, so that it is taken after all.
  rintro x u t g rest rfl hread
  exact Or.inl ((hend x).suffix_of_eq_none rfl hread)

theorem bounded_markedStart (f : Flags) : Bounded never (markedStart f) := by
  refine bounded_ifHead (by decide) (fun _ => bounded_fails)
    (bounded_ifHead (by decide) (fun _ => ?_)
      (bounded_ifHead (by decide) (fun _ => bounded_onHead fun c => ?_) (bounded_flagStart f)))
  · exact bounded_ifHead (by decide) (fun _ => bounded_fails) (bounded_namedStart f)
  · split
    · exact bounded_namedStart f
    · exact bounded_fails

/-- A letter that is no flag. -/
theorem flagStart_P (f : Flags) (cs : List Char) : flagStart f ('P' :: cs) = none := by
  rw [flagStart_eq]
  rfl

theorem markedStart_name {cs : List Char} (h : ∀ rest, cs ≠ '=' :: rest)
    (h' : ∀ rest, cs ≠ '!' :: rest) : markedStart f ('<' :: cs) = namedStart f cs := by
  rcases cs with _ | ⟨c, rest⟩
  · rfl
  · have hc : c ≠ '=' := fun hc => h rest (by rw [hc])
    have hc' : c ≠ '!' := fun hc' => h' rest (by rw [hc'])
    simp [markedStart, ifHead, hc, hc']

theorem markedStart_flags {cs : List Char} (h : ∀ rest, cs ≠ '=' :: rest)
    (h' : ∀ rest, cs ≠ '!' :: rest) (hname : ∀ rest, cs ≠ '<' :: rest)
    (hname' : ∀ rest, cs ≠ 'P' :: '<' :: rest) : markedStart f cs = flagStart f cs := by
  rcases cs with _ | ⟨c, rest⟩
  · rfl
  · have hc : c ≠ '=' := fun hc => h rest (by rw [hc])
    have hc' : c ≠ '!' := fun hc' => h' rest (by rw [hc'])
    have hopen : c ≠ '<' := fun hopen => hname rest (by rw [hopen])
    by_cases hp : c = 'P'
    · subst hp
      rw [flagStart_P]
      rcases rest with _ | ⟨d, rest⟩
      · rfl
      · have hd : d ≠ '<' := fun hd => hname' rest (by rw [hd])
        simp [markedStart, ifHead, onHead, hd, fails]
    · simp [markedStart, ifHead, hc, hc', hopen, hp]

theorem readGroupStart?_eq (f : Flags) :
    readGroupStart? f = skipped f (ifHead (· == '?') (fun _ => markedStart f)
      (value (some (.group f none)))) := by
  funext cs
  rw [readGroupStart?, skipped]
  generalize f.skip cs = u
  have hmark : ∀ rest, ifHead (· == '?') (fun _ => markedStart f)
      (value (some (GroupStart.group f none))) ('?' :: rest) = markedStart f rest := fun _ => rfl
  split
  · rfl
  · rfl
  · rfl
  · rfl
  · next rest => exact (namedStart_eq f rest).symm
  · next rest hequal hexclaim =>
    rw [hmark, markedStart_name hequal hexclaim, namedStart_eq]
  · next rest hequal hexclaim _ _ hpython hname =>
    have hflags := markedStart_flags (f := f) hequal hexclaim hname hpython
    exact ((hmark rest).trans (hflags.trans (flagStart_eq f rest))).symm
  · next hopen =>
    rcases u with _ | ⟨c, rest⟩
    · rfl
    · have hc : (c == '?') = false := by simpa using fun hc => hopen rest (by rw [hc])
      simp [ifHead, hc, value]

theorem bounded_readGroupStart? (f : Flags) : Bounded never (readGroupStart? f) := by
  rw [readGroupStart?_eq]
  exact bounded_skipped f (bounded_ifHead (by decide) (fun _ => bounded_markedStart f)
    (bounded_value _))

end BinaryCoverage.Pattern
