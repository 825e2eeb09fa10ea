import BinaryCoverage.Correlation.Basic
import Mathlib.Tactic.Common

/-!
# Answers

An index of declarations answers from what it knows, and otherwise as its source does; from then on
it knows the answer.  It knows a file by the components of its path.  This file defines:

* `DeclarationSource.answer` — what a source says of a path;
* `DeclarationIndex.answer` — what an index says of a path that it is asked about;
* `SourceView.answer` — what is said of a file, with an index or without;
* `SourceView.SamePath` — files that an index does not tell apart;
* `SourceView.ask` — the declaration line of a function, and the index after the question;

and shows what is said of a file when another one has been asked about.
-/

namespace BinaryCoverage

/-! ## Paths -/

def DeclarationSource.answer (s : DeclarationSource) (p : Path) : Except Failure Declarations :=
  if s.files.isFile p then s.lookup p else .ok ∅

namespace DeclarationIndex

def answer (x : DeclarationIndex) (s : DeclarationSource) (p : Path) : Except Failure Declarations :=
  match x.known[p.components]? with
  | some d => .ok d
  | none => s.answer p

variable (x : DeclarationIndex) (s : DeclarationSource) (p q : Path)

theorem fst_fetch : (x.fetch s p).1 = s.answer p := by
  unfold fetch DeclarationSource.answer
  split
  · cases s.lookup p <;> rfl
  · rfl

theorem known_fetch :
    (x.fetch s p).2.known =
      match s.answer p with
      | .ok d => x.known.insert p.components d
      | .error _ => x.known := by
  unfold fetch DeclarationSource.answer
  split
  · cases s.lookup p <;> rfl
  · rfl

theorem fst_declarations : (x.declarations s p).1 = x.answer s p := by
  unfold declarations answer
  cases x.known[p.components]? with
  | none =>
      exact x.fst_fetch s p
  | some d =>
      rfl

/-- A path is known when it has been answered, and what was known before stays. -/
theorem known_declarations (k : List Component) :
    (x.declarations s p).2.known[k]? =
      if p.components = k then (x.answer s p).toOption else x.known[k]? := by
  unfold declarations answer
  by_cases hk : p.components = k
  · subst hk
    rw [if_pos rfl]
    cases hknown : x.known[p.components]? with
    | none =>
        simp only [known_fetch]
        cases s.answer p with
        | error e =>
            exact hknown
        | ok d =>
            simp [Except.toOption]
    | some d =>
        exact hknown
  · rw [if_neg hk]
    cases x.known[p.components]? with
    | none =>
        simp only [known_fetch]
        cases s.answer p with
        | error e =>
            rfl
        | ok d =>
            simp [Std.ExtTreeMap.getElem?_insert, hk]
    | some d =>
        rfl

theorem answer_declarations_of_ne (h : p.components ≠ q.components) :
    (x.declarations s p).2.answer s q = x.answer s q := by
  unfold answer
  rw [known_declarations, if_neg h]

/-- The answer holds for every spelling of the path. -/
theorem answer_declarations_of_ok {d : Declarations} (h : p.components = q.components)
    (hd : x.answer s p = .ok d) : (x.declarations s p).2.answer s q = .ok d := by
  rw [answer, known_declarations, if_pos h, hd]
  rfl

/-- After a failure nothing more is known. -/
theorem answer_declarations_of_error {e : Failure} (he : x.answer s p = .error e) :
    (x.declarations s p).2.answer s q = x.answer s q := by
  by_cases h : p.components = q.components
  · -- What is known is never a failure, so that this path is not known.
    have hnew : x.known[q.components]? = none := by
      rw [← h]
      unfold answer at he
      split at he
      · cases he
      · assumption
    rw [answer, known_declarations, if_pos h, he, answer, hnew]
    rfl
  · exact answer_declarations_of_ne x s p q h

end DeclarationIndex

/-! ## Files -/

namespace SourceView

variable (v : SourceView)

def SamePath (k l : String) : Prop :=
  (v.mapping.localPath k).components = (v.mapping.localPath l).components

/-- Without an index every file has no declarations. -/
def answer (index : Option DeclarationIndex) (key : String) : Except Failure Declarations :=
  match index with
  | none => .ok ∅
  | some x => x.answer v.declarations (v.mapping.localPath key)

def ask (index : Option DeclarationIndex) (key function : String) :
    Except Failure UInt32 × Option DeclarationIndex :=
  match index with
  | none => (.ok 0, none)
  | some x =>
      let (line, x) := x.lineNumber v.declarations (v.mapping.localPath key) function
      (line, some x)

variable (index : Option DeclarationIndex) (key l function : String)

theorem fst_ask :
    (v.ask index key function).1 = (v.answer index key).map fun d => d[function]?.getD 0 := by
  cases index with
  | none =>
      simp [ask, answer, Except.map]
  | some x =>
      have hanswer := x.fst_declarations v.declarations (v.mapping.localPath key)
      unfold ask answer DeclarationIndex.lineNumber DeclarationIndex.line?
      dsimp only
      rw [← hanswer]
      cases (x.declarations v.declarations (v.mapping.localPath key)).1 <;> rfl

variable {v index key l}

theorem answer_ask_of_not_samePath (h : ¬ v.SamePath key l) :
    v.answer (v.ask index key function).2 l = v.answer index l := by
  cases index with
  | none =>
      rfl
  | some x =>
      exact x.answer_declarations_of_ne v.declarations _ _ h

theorem answer_ask_of_ok {d : Declarations} (h : v.SamePath key l)
    (hd : v.answer index key = .ok d) : v.answer (v.ask index key function).2 l = .ok d := by
  cases index with
  | none =>
      exact hd
  | some x =>
      exact x.answer_declarations_of_ok v.declarations _ _ h hd

theorem answer_ask_of_error {e : Failure} (he : v.answer index key = .error e) :
    v.answer (v.ask index key function).2 l = v.answer index l := by
  cases index with
  | none =>
      rfl
  | some x =>
      exact x.answer_declarations_of_error v.declarations _ _ he

end SourceView

theorem Correlator.declarationLine_eq_ask (c : Correlator) (v : SourceView)
    (key function : String) :
    c.declarationLine v key function =
      ((v.ask c.index key function).1, { c with index := (v.ask c.index key function).2 }) := by
  rcases c with ⟨document, registry, _ | x⟩
  · rfl
  · rfl

end BinaryCoverage
