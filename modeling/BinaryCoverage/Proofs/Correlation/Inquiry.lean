import BinaryCoverage.Proofs.Correlation.Answer
import BinaryCoverage.Proofs.Correlation.Index

/-!
# Inquiries

Between two inquiries files may come and go, and the look-up may change its mind.  What an index of
declarations has once answered of a path it answers ever after.  This file defines:

* `Inquiry` — a question about a function of a file, and the world in which it is asked;
* `DeclarationIndex.inquire`, `DeclarationIndex.inquireAll` — inquiries that are made of an index;
* `DeclarationIndex.firstAnswered?` — the first inquiry about a path that has not failed;
* `DeclarationIndex.Consistent` — an inquiry is answered from the world of the first answer;

and shows that every inquiry of every sequence is answered in that way (`consistent_inquireAll`).
-/

namespace BinaryCoverage

/-! ## Questions -/

/-- Whether a line that is not declared is told as missing or as zero. -/
inductive Inquiry.Form where
  | missing
  | zero

structure Inquiry where
  source : DeclarationSource
  path : Path
  function : String
  form : Inquiry.Form

/-- What the declarations of the file say to the question. -/
def Inquiry.read (i : Inquiry) (d : Declarations) : Option UInt32 :=
  match i.form with
  | .missing => d[i.function]?
  | .zero => some (d[i.function]?.getD 0)

namespace DeclarationIndex

def inquire (x : DeclarationIndex) (i : Inquiry) :
    Except Failure (Option UInt32) × DeclarationIndex :=
  match i.form with
  | .missing => x.line? i.source i.path i.function
  | .zero =>
      let (line, x) := x.lineNumber i.source i.path i.function
      (line.map some, x)

/-- The index after several inquiries, each in the world of its time. -/
def inquireAll (x : DeclarationIndex) (inquiries : List Inquiry) : DeclarationIndex :=
  inquiries.foldl (fun x i => (x.inquire i).2) x

theorem inquireAll_append (x : DeclarationIndex) (earlier later : List Inquiry) :
    x.inquireAll (earlier ++ later) = (x.inquireAll earlier).inquireAll later :=
  List.foldl_append

/-- The first of the inquiries about a path that is answered. -/
def firstAnswered? (k : List Component) : DeclarationIndex → List Inquiry → Option Inquiry
  | _, [] => none
  | x, i :: rest =>
      if i.path.components = k ∧ (x.inquire i).1.isOk then some i
      else firstAnswered? k (x.inquire i).2 rest

/-! ## One question -/

variable (x : DeclarationIndex) (i : Inquiry)

/-- The form of a question decides how the answer is put, and nothing else. -/
theorem inquire_eq :
    x.inquire i =
      ((x.answer i.source i.path).map i.read, (x.declarations i.source i.path).2) := by
  rcases i with ⟨source, path, function, _ | _⟩
  · rw [← fst_declarations]
    rfl
  · rw [← fst_declarations]
    unfold inquire lineNumber line?
    dsimp only
    cases (x.declarations source path).1 <;> rfl

theorem isOk_inquire : (x.inquire i).1.isOk = (x.answer i.source i.path).isOk := by
  rw [inquire_eq]
  cases x.answer i.source i.path <;> rfl

/-- The look-up is asked for a file that is there and not known. -/
theorem asked_declarations (s : DeclarationSource) (p : Path) :
    (x.declarations s p).2.asked =
      if x.known[p.components]? = none ∧ s.files.isFile p then p :: x.asked else x.asked := by
  unfold declarations fetch
  cases hknown : x.known[p.components]? with
  | some d =>
      simp
  | none =>
      cases s.files.isFile p with
      | false =>
          simp
      | true =>
          cases s.lookup p <;> simp

theorem known_of_error {s : DeclarationSource} {p : Path} {e : Failure}
    (h : x.answer s p = .error e) : (x.declarations s p).2.known = x.known := by
  ext1 k
  rw [known_declarations]
  split
  · rename_i hk
    -- A path that is known would have been answered.
    subst hk
    rw [h]
    cases hknown : x.known[p.components]? with
    | none =>
        rfl
    | some d =>
        rw [answer, hknown] at h
        cases h
  · rfl

/-! ## Sequences of questions -/

/-- An index knows of a path what was answered first. -/
theorem known_inquireAll (inquiries : List Inquiry) (k : List Component) :
    (x.inquireAll inquiries).known[k]? =
      x.known[k]?.or ((x.firstAnswered? k inquiries).bind fun first =>
        (first.source.answer first.path).toOption) := by
  induction inquiries generalizing x with
  | nil =>
      simp [inquireAll, firstAnswered?]
  | cons i rest ih =>
      have hstep : (x.inquire i).2.known[k]? =
          if i.path.components = k then (x.answer i.source i.path).toOption else x.known[k]? := by
        rw [inquire_eq, known_declarations]
      refine (ih (x.inquire i).2).trans ?_
      rw [hstep, firstAnswered?, isOk_inquire]
      by_cases hk : i.path.components = k
      · subst hk
        cases hknown : x.known[i.path.components]? with
        | some d =>
            have hanswer : x.answer i.source i.path = .ok d := by
              rw [answer, hknown]
            simp [hanswer, Except.toOption, Except.isOk]
        | none =>
            -- The path is not known, so the world is asked.
            have hanswer : x.answer i.source i.path = i.source.answer i.path := by
              rw [answer, hknown]
            rw [hanswer]
            cases hworld : i.source.answer i.path with
            | error e =>
                simp [Except.toOption, Except.isOk, Except.toBool]
            | ok d =>
                simp [hworld, Except.toOption, Except.isOk, Except.toBool]
      · simp [hk]

/-- What is answered first about an unknown path is what the world says. -/
theorem answer_of_firstAnswered {k : List Component} {inquiries : List Inquiry} {first : Inquiry}
    (hnew : x.known[k]? = none) (hfirst : x.firstAnswered? k inquiries = some first) :
    ∃ d, first.source.answer first.path = .ok d := by
  induction inquiries generalizing x with
  | nil =>
      cases hfirst
  | cons i rest ih =>
      rw [firstAnswered?, isOk_inquire] at hfirst
      by_cases hk : i.path.components = k
      · subst hk
        have hanswer : x.answer i.source i.path = i.source.answer i.path := by
          rw [answer, hnew]
        rw [hanswer] at hfirst
        cases hworld : i.source.answer i.path with
        | ok d =>
            rw [hworld, if_pos ⟨rfl, rfl⟩] at hfirst
            cases hfirst
            exact ⟨d, hworld⟩
        | error e =>
            rw [hworld, if_neg (fun h => Bool.false_ne_true h.2)] at hfirst
            refine ih (x.inquire i).2 ?_ hfirst
            rw [inquire_eq, x.known_of_error (hanswer.trans hworld)]
            exact hnew
      · -- An inquiry about another path leaves this one unknown.
        rw [if_neg fun h => hk h.1] at hfirst
        refine ih (x.inquire i).2 ?_ hfirst
        rw [inquire_eq, known_declarations, if_neg hk]
        exact hnew

theorem firstAnswered?_of_ne {k : List Component} {inquiries : List Inquiry}
    (h : ∀ i ∈ inquiries, i.path.components ≠ k) : x.firstAnswered? k inquiries = none := by
  induction inquiries generalizing x with
  | nil =>
      rfl
  | cons i rest ih =>
      obtain ⟨hi, hrest⟩ := List.forall_mem_cons.1 h
      rw [firstAnswered?, if_neg fun h => hi h.1]
      exact ih (x.inquire i).2 hrest

/-! ## Answers from one world -/

/-- An inquiry that comes after others is answered from the world of the first answer for its path,
or from its own world where there is none. -/
structure Consistent (earlier : List Inquiry) (i : Inquiry) : Prop where
  /-- What has been answered is answered again, without the look-up. -/
  settled : ∀ first, firstAnswered? i.path.components {} earlier = some first →
    ∃ d, first.source.answer first.path = .ok d ∧
      (inquireAll {} earlier).inquire i = (.ok (i.read d), inquireAll {} earlier)
  absent : firstAnswered? i.path.components {} earlier = none → ¬ i.source.files.isFile i.path →
    ((inquireAll {} earlier).inquire i).1 = .ok (i.read ∅) ∧
      ((inquireAll {} earlier).inquire i).2.asked = (inquireAll {} earlier).asked
  present : firstAnswered? i.path.components {} earlier = none → i.source.files.isFile i.path →
    ((inquireAll {} earlier).inquire i).1 = (i.source.lookup i.path).map i.read ∧
      ((inquireAll {} earlier).inquire i).2.asked = i.path :: (inquireAll {} earlier).asked
  /-- The error is that of the look-up, and nothing is known after it that was not before. -/
  failed : ∀ e, ((inquireAll {} earlier).inquire i).1 = .error e →
    i.source.files.isFile i.path ∧ i.source.lookup i.path = .error e ∧
      ((inquireAll {} earlier).inquire i).2.known = (inquireAll {} earlier).known
  /-- After an error the next inquiry about the path asks the look-up. -/
  again : ∀ e, ((inquireAll {} earlier).inquire i).1 = .error e → ∀ between next,
    (∀ j ∈ between, j.path.components ≠ i.path.components) →
      next.path.components = i.path.components → next.source.files.isFile next.path →
        let y := inquireAll {} (earlier ++ i :: between)
        (y.inquire next).1 = (next.source.lookup next.path).map next.read ∧
          (y.inquire next).2.asked = next.path :: y.asked

variable {x i}

/-- A file that is there and not known is looked up. -/
theorem inquire_of_isFile (hnew : x.known[i.path.components]? = none)
    (hfile : i.source.files.isFile i.path) :
    (x.inquire i).1 = (i.source.lookup i.path).map i.read ∧
      (x.inquire i).2.asked = i.path :: x.asked := by
  rw [inquire_eq]
  refine ⟨?_, ?_⟩
  · rw [answer, hnew]
    simp [DeclarationSource.answer, hfile]
  · rw [asked_declarations, if_pos ⟨hnew, hfile⟩]

theorem inquire_of_not_isFile (hnew : x.known[i.path.components]? = none)
    (hfile : ¬ i.source.files.isFile i.path) :
    (x.inquire i).1 = .ok (i.read ∅) ∧ (x.inquire i).2.asked = x.asked := by
  rw [inquire_eq]
  refine ⟨?_, ?_⟩
  · rw [answer, hnew]
    simp [DeclarationSource.answer, hfile, Except.map]
  · rw [asked_declarations, if_neg fun h => hfile h.2]

/-- Only a look-up fails, and it leaves the path unknown. -/
theorem inquire_of_error {e : Failure} (he : (x.inquire i).1 = .error e) :
    x.known[i.path.components]? = none ∧ i.source.files.isFile i.path ∧
      i.source.lookup i.path = .error e ∧ (x.inquire i).2.known = x.known := by
  rw [inquire_eq] at he
  have hanswer : x.answer i.source i.path = .error e := by
    cases h : x.answer i.source i.path with
    | error e' =>
        rw [h] at he
        cases he
        rfl
    | ok d =>
        rw [h] at he
        cases he
  have hknown : (x.inquire i).2.known = x.known := by
    rw [inquire_eq, x.known_of_error hanswer]
  unfold answer at hanswer
  split at hanswer
  · cases hanswer
  · rename_i hnew
    unfold DeclarationSource.answer at hanswer
    split at hanswer
    · rename_i hfile
      exact ⟨hnew, hfile, hanswer, hknown⟩
    · cases hanswer

/-- What an index knows that starts with nothing has been answered once. -/
theorem known_eq_none {earlier : List Inquiry} {k : List Component}
    (h : firstAnswered? k {} earlier = none) : (inquireAll {} earlier).known[k]? = none := by
  rw [known_inquireAll, h]
  simp

theorem consistent_inquireAll (earlier : List Inquiry) (i : Inquiry) : Consistent earlier i where
  settled := by
    intro first hfirst
    have hempty : ({} : DeclarationIndex).known[i.path.components]? = none := by
      simp
    obtain ⟨d, hd⟩ := answer_of_firstAnswered {} hempty hfirst
    refine ⟨d, hd, ?_⟩
    have hknown : (inquireAll {} earlier).known[i.path.components]? = some d := by
      rw [known_inquireAll, hfirst, Option.bind_some, hd, hempty]
      rfl
    rw [inquire_eq, declarations_of_known hknown, answer, hknown]
    rfl
  absent h := inquire_of_not_isFile (known_eq_none h)
  present h := inquire_of_isFile (known_eq_none h)
  failed e he := (inquire_of_error he).2
  again := by
    intro e he between next hbetween hnext hfile y
    refine inquire_of_isFile ?_ hfile
    obtain ⟨hnew, -, -, hknown⟩ := inquire_of_error he
    -- Neither the failure nor the inquiries about other paths have made the path known.
    have hy : y = ((inquireAll {} earlier).inquire i).2.inquireAll between :=
      inquireAll_append {} earlier (i :: between)
    rw [hy, hnext, known_inquireAll, hknown, hnew, firstAnswered?_of_ne _ hbetween]
    rfl

end DeclarationIndex

end BinaryCoverage
