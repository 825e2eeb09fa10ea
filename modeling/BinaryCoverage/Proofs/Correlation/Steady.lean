import BinaryCoverage.Proofs.Correlation.Exactness
import BinaryCoverage.Proofs.Correlation.Frame
import BinaryCoverage.Proofs.Correlation.Registry

/-!
# Questions in another order

An index of declarations may have been asked about other files before.  Where none of these is one
of the files at hand with another answer, it answers for them as ever, and binaries add to a document
what they add anywhere.  This file defines:

* `SourceView.AnswersAlike` — what two lists of files have in common is answered alike;
* `SourceView.SameAnswers` — two indices answer alike for some files;
* `SourceView.Steady` — an index answers for some files as it did before others were asked about;
* `SourceView.CommonLine` — the line of a file that both lists have is known from the beginning;

and shows that correlating binaries keeps an index steady (`steady_correlateAll`), and that they add
the same to correlators whose indices answer alike (`correlateAll_alike`).
-/

namespace BinaryCoverage

/-! ## Indices -/

namespace SourceView

variable {v : SourceView} {keys others : List String} {x y : Option DeclarationIndex} {key : String}

def AnswersAlike (v : SourceView) (index : Option DeclarationIndex) (keys others : List String) :
    Prop :=
  ∀ k ∈ keys, ∀ l ∈ others, v.SamePath k l → v.answer index k = v.answer index l

theorem AnswersAlike.symm (h : v.AnswersAlike x keys others) : v.AnswersAlike x others keys := by
  intro l hl k hk hsame
  exact (h k hk l hl hsame.symm).symm

def SameAnswers (v : SourceView) (keys : List String) (x y : Option DeclarationIndex) : Prop :=
  ∀ key ∈ keys, v.answer y key = v.answer x key

theorem SameAnswers.ask (h : v.SameAnswers keys x y) (hkey : key ∈ keys) (function : String) :
    v.SameAnswers keys (v.ask x key function).2 (v.ask y key function).2 := by
  intro l hl
  by_cases hpath : v.SamePath key l
  · cases hx : v.answer x key with
    | error e =>
        rw [answer_ask_of_error function hx, answer_ask_of_error function ((h key hkey).trans hx)]
        exact h l hl
    | ok d =>
        rw [answer_ask_of_ok function hpath hx,
          answer_ask_of_ok function hpath ((h key hkey).trans hx)]
  · rw [answer_ask_of_not_samePath function hpath, answer_ask_of_not_samePath function hpath]
    exact h l hl

theorem answers_sameAnswers : v.Answers keys (fun _ _ _ => True) (v.SameAnswers keys) where
  same := by
    intro x y hsame key hkey function
    rw [fst_ask, fst_ask, hsame key hkey]
  kept := by
    intro x y hsame key hkey function
    exact hsame.ask hkey function
  told := by
    intro x y _ key _ function n _
    trivial

/-- Of each of the other files, and of the keys that are its path too, `y` says what `x` said. -/
def Steady (v : SourceView) (keys others : List String) (x y : Option DeclarationIndex) : Prop :=
  ∀ l ∈ others, ∀ k ∈ l :: keys, v.SamePath k l → v.answer y k = v.answer x l

theorem AnswersAlike.steady (h : v.AnswersAlike x keys others) : v.Steady keys others x x := by
  intro l hl k hk hsame
  rcases List.mem_cons.1 hk with rfl | hk
  · rfl
  · exact h k hk l hl hsame

theorem Steady.ask (h : v.Steady keys others x y) (hkey : key ∈ keys) (function : String) :
    v.Steady keys others x (v.ask y key function).2 := by
  intro l hl k hk hsame
  by_cases hpath : v.SamePath key k
  · -- The key that is asked about has the answer of the other file.
    have hanswer := h l hl key (List.mem_cons_of_mem l hkey) (hpath.trans hsame)
    cases hy : v.answer y key with
    | error e =>
        rw [answer_ask_of_error function hy]
        exact h l hl k hk hsame
    | ok d =>
        rw [answer_ask_of_ok function hpath hy, ← hy, hanswer]
  · rw [answer_ask_of_not_samePath function hpath]
    exact h l hl k hk hsame

theorem Steady.sameAnswers (h : v.Steady keys others x y) : v.SameAnswers others x y := by
  intro l hl
  exact h l hl l List.mem_cons_self rfl

/-- The common files of both lists have the lines that are known from the beginning. -/
def CommonLine (v : SourceView) (keys others : List String) (x : Option DeclarationIndex)
    (key function : String) (n : UInt32) : Prop :=
  key ∈ keys ∧ (key ∈ others → (v.ask x key function).1 = .ok n)

theorem answers_commonLine (x : Option DeclarationIndex) :
    v.Answers keys (v.CommonLine keys others x)
      fun y z => v.SameAnswers keys y z ∧ v.Steady keys others x y where
  same := by
    rintro y z ⟨hsame, -⟩ key hkey function
    exact answers_sameAnswers.same y z hsame key hkey function
  kept := by
    rintro y z ⟨hsame, hsteady⟩ key hkey function
    exact ⟨hsame.ask hkey function, hsteady.ask hkey function⟩
  told := by
    rintro y z ⟨-, hsteady⟩ key hkey function n hanswer
    refine ⟨hkey, ?_⟩
    intro hother
    rw [fst_ask, ← hsteady.sameAnswers key hother, ← fst_ask]
    exact hanswer

end SourceView

/-! ## Correlators -/

namespace Correlator

variable {v : SourceView} {keys others : List String} {x : Option DeclarationIndex}
  {c c' : Correlator} {b : BinaryInput} {inputs : List BinaryInput}

theorem steady_take (h : v.Steady keys others x c.index)
    (hkeys : ∀ key ∈ b.keys v.mapping, key ∈ keys) :
    v.Steady keys others x (c.take v b).2.correlator.index := by
  rcases take_writes (SourceView.answers_commonLine x) ⟨fun _ _ => rfl, h⟩ hkeys with
    ⟨_, _, -, -, ⟨-, hsteady⟩, -⟩
  exact hsteady

theorem steady_correlateAll (h : v.Steady keys others x c.index)
    (hkeys : ∀ b ∈ inputs, ∀ key ∈ b.keys v.mapping, key ∈ keys) :
    v.Steady keys others x
      (c.correlateAll v.mapping (inputs.map (v.declarations, ·))).2.index := by
  refine attemptEach_respects
    (R := fun c d : Correlator => v.Steady keys others x c.index → v.Steady keys others x d.index)
    (fun _ hc => hc) (fun hst htu hs => htu (hst hs)) _ ?_ _ h
  intro c input hinput hc
  rcases List.mem_map.1 hinput with ⟨b, hb, rfl⟩
  exact steady_take hc (hkeys b hb)

/-- A binary adds the same notes where it has the same index and the same answers. -/
theorem take_alike (hsame : v.SameAnswers keys c.index c'.index)
    (hkeys : ∀ key ∈ b.keys v.mapping, key ∈ keys)
    (hindex : (c'.registry.index b.name).1 = (c.registry.index b.name).1) :
    (c'.take v b).1 = (c.take v b).1 ∧
      v.SameAnswers keys (c.take v b).2.correlator.index (c'.take v b).2.correlator.index ∧
      ∃ xs, (c.take v b).2.correlator.document = c.document.noteAll xs ∧
        (c'.take v b).2.correlator.document = c'.document.noteAll xs := by
  rcases take_writes SourceView.answers_sameAnswers hsame hkeys with
    ⟨xs, y, -, hdocument, hkept, htake⟩
  rw [htake c' rfl hindex]
  exact ⟨rfl, hkept, xs, hdocument, rfl⟩

/-- Binaries add the same notes where each of them has the same index in the end and the same
answers. -/
theorem correlateAll_alike (hsame : v.SameAnswers keys c.index c'.index)
    (hkeys : ∀ b ∈ inputs, ∀ key ∈ b.keys v.mapping, key ∈ keys)
    (hindex : ∀ b ∈ inputs, (c'.registry.indexAll (inputs.map (·.name))).assigned[b.name]? =
      (c.registry.indexAll (inputs.map (·.name))).assigned[b.name]?) :
    (c'.correlateAll v.mapping (inputs.map (v.declarations, ·))).1 =
        (c.correlateAll v.mapping (inputs.map (v.declarations, ·))).1 ∧
      ∃ xs, (c.correlateAll v.mapping (inputs.map (v.declarations, ·))).2.document =
          c.document.noteAll xs ∧
        (c'.correlateAll v.mapping (inputs.map (v.declarations, ·))).2.document =
          c'.document.noteAll xs := by
  induction inputs generalizing c c' with
  | nil =>
      exact ⟨rfl, [], rfl, rfl⟩
  | cons b rest ih =>
      have hown : (c'.registry.index b.name).1 = (c.registry.index b.name).1 := by
        have hb := hindex b List.mem_cons_self
        rw [List.map_cons, BinaryRegistry.assigned_indexAll_cons,
          BinaryRegistry.assigned_indexAll_cons] at hb
        exact Option.some.inj hb
      obtain ⟨hfailure, hkept, xs, hdocument, hdocument'⟩ :=
        take_alike hsame (hkeys b List.mem_cons_self) hown
      rw [List.map_cons]
      cases htake : (c.take v b).1 with
      | some e =>
          rw [correlateAll_cons_of_some htake, correlateAll_cons_of_some (hfailure.trans htake)]
          exact ⟨rfl, xs, hdocument, hdocument'⟩
      | none =>
          rw [correlateAll_cons_of_none htake, correlateAll_cons_of_none (hfailure.trans htake)]
          -- The rest starts from the registries and the indices that the first binary leaves.
          have hlater : ∀ d ∈ rest, ((c'.take v b).2.correlator.registry.indexAll
              (rest.map (·.name))).assigned[d.name]? =
                ((c.take v b).2.correlator.registry.indexAll
                  (rest.map (·.name))).assigned[d.name]? := by
            intro d hd
            rw [(c'.take_spec v b).registry, (c.take_spec v b).registry]
            exact hindex d (List.mem_cons_of_mem b hd)
          obtain ⟨hagree, ys, hlast, hlast'⟩ :=
            ih hkept (fun d hd => hkeys d (List.mem_cons_of_mem b hd)) hlater
          refine ⟨hagree, xs ++ ys, ?_, ?_⟩
          · rw [Document.noteAll_append, ← hdocument]
            exact hlast
          · rw [Document.noteAll_append, ← hdocument']
            exact hlast'

end Correlator

end BinaryCoverage
