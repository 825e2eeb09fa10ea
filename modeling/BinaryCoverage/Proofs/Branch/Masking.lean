import BinaryCoverage.Branch.Analysis
import BinaryCoverage.Proofs.Source.Lexical

/-!
# What masking leaves of a source

Branches are looked for in the masked source, so that what stands in literals and comments has no
part in them.
-/

namespace BinaryCoverage

open Source

/-- Lines of a source that differ at most in what stands between quotes and in comments, and there
in the same number of characters. -/
def Source.SameCode (line line' : List Char) : Prop :=
  ∃ l m : LexicalLine, l.text = line ∧ m.text = line' ∧ l.SameCode m

theorem Source.sameCode_refl (line : List Char) : Source.SameCode line line := by
  obtain ⟨l, hl⟩ := exists_lexicalLine line
  exact ⟨l, l, hl, hl, LexicalLine.SameCode.refl l⟩

theorem Source.maskLine_eq_of_sameCode {line line' : List Char} (h : Source.SameCode line line') :
    maskLine line = maskLine line' := by
  obtain ⟨l, m, rfl, rfl, hcode⟩ := h
  calc maskLine l.text = l.mask := maskLine_text l
    _ = m.mask := LexicalLine.mask_eq_of_sameCode hcode
    _ = maskLine m.text := (maskLine_text m).symm

theorem MaskedSource.ofText_eq_of_sameCode {text text' : String}
    (h : List.Forall₂ Source.SameCode (Text.lines text.toList) (Text.lines text'.toList)) :
    MaskedSource.ofText text = MaskedSource.ofText text' := by
  have hlines : (Text.lines text.toList).map maskLine = (Text.lines text'.toList).map maskLine := by
    rw [← List.forall₂_eq_eq_eq, List.forall₂_map_left_iff, List.forall₂_map_right_iff]
    exact h.imp fun _ _ => Source.maskLine_eq_of_sameCode
  exact congrArg MaskedSource.mk hlines

/-- Masking follows the lexical structure of the lines, column by column, and a file has the branches
that its code has. -/
theorem Source.masking_follows_lexicalLines :
    (∀ line, List.Forall₂ (fun c m => isAscii m = true ∧ (m = ' ' ∨ m = c)) line (maskLine line)) ∧
    (∀ line, maskLine (maskLine line) = maskLine line) ∧
    (∀ l : LexicalLine, maskLine l.text = l.mask) ∧
    (∀ line, ∃ l : LexicalLine, l.text = line) ∧
    ∀ (file text text' : String) (c : FileCoverage),
      List.Forall₂ Source.SameCode (Text.lines text.toList) (Text.lines text'.toList) →
        BranchAnalysis.ofSource file text c = BranchAnalysis.ofSource file text' c := by
  refine ⟨?_, ?_, maskLine_text, exists_lexicalLine, ?_⟩
  · intro line
    exact forall₂_isMaskOf_maskFrom .code line trivial
  · intro line
    exact maskFrom_maskFrom .code line trivial
  · intro file text text' c h
    rw [BranchAnalysis.ofSource, MaskedSource.ofText_eq_of_sameCode h, BranchAnalysis.ofSource]

/-- A condition on a text, and a comment behind it. -/
def conditionOn (content comment : List Char) (h : LiteralText '"' content) : LexicalLine where
  tokens := [.code "if (a == ".toList, .literal '"' content, .code ") ".toList]
  ending := .lineComment comment
  fits :=
    have hbefore : OpensNoComment "if (a == \"".toList := ⟨by decide, by decide⟩
    have hbehind : OpensNoComment ") /".toList := ⟨by decide, by decide⟩
    ⟨⟨by simp [isQuote], hbefore⟩, ⟨rfl, h⟩, ⟨by simp [isQuote], hbehind⟩, trivial⟩

/-- The second text opens a comment in quotes and closes a parenthesis in a comment. -/
theorem masking_follows_lexicalLines_conditionOn :
    List.Forall₂ Source.SameCode (Text.lines "if (a == \"()\") // (\n  b();\n".toList)
      (Text.lines "if (a == \"/*\") // )\n  b();\n".toList) ∧
    BranchAnalysis.ofSource "a.c" "if (a == \"()\") // (\n  b();\n" {} =
      BranchAnalysis.ofSource "a.c" "if (a == \"/*\") // )\n  b();\n" {} := by
  have hparens : LiteralText '"' "()".toList :=
    .plain (by decide) (by decide) (.plain (by decide) (by decide) .nil)
  have hopener : LiteralText '"' "/*".toList :=
    .plain (by decide) (by decide) (.plain (by decide) (by decide) .nil)
  have hfirst : Source.SameCode "if (a == \"()\") // (".toList "if (a == \"/*\") // )".toList :=
    ⟨conditionOn "()".toList " (".toList hparens, conditionOn "/*".toList " )".toList hopener,
      rfl, rfl, .cons rfl (.cons ⟨rfl, rfl⟩ (.cons rfl .nil)), rfl⟩
  have hlines : List.Forall₂ Source.SameCode (Text.lines "if (a == \"()\") // (\n  b();\n".toList)
      (Text.lines "if (a == \"/*\") // )\n  b();\n".toList) :=
    .cons hfirst (.cons (Source.sameCode_refl "  b();".toList) .nil)
  exact ⟨hlines, Source.masking_follows_lexicalLines.2.2.2.2 "a.c" _ _ {} hlines⟩

end BinaryCoverage
