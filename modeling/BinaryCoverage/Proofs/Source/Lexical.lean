import BinaryCoverage.Source.Mask
import Mathlib.Data.List.Forall2
import Mathlib.Data.List.Infix

/-!
# The lexical structure of a line

A line is a row of stretches of code, literals and comments, and may end inside a literal or a
comment.  This file defines:

* `LiteralText` — what may stand between the quotes of a literal;
* `Token`, `Ending` — the parts of a line, each with its text and its mask;
* `LexicalLine` — a line by its parts;
* `LexicalLine.SameCode` — two lines differ in the contents of literals and comments only;
* `IsMaskOf` — what may stand in a column of the mask.

The mask of a line is that of its parts (`maskLine_text`), every line has such parts
(`exists_lexicalLine`), and masking a mask changes nothing (`maskFrom_maskFrom`).
-/

namespace BinaryCoverage.Source

/-! ## The parts of a line -/

/-- What stands between the quotes of a literal: a backslash takes the character after it along, and
no quote of the same kind stands by itself. -/
inductive LiteralText (quote : Char) : List Char → Prop where
  | nil : LiteralText quote []
  | plain {c : Char} {rest : List Char} :
      c ≠ '\\' → c ≠ quote → LiteralText quote rest → LiteralText quote (c :: rest)
  | escape {c : Char} {rest : List Char} :
      LiteralText quote rest → LiteralText quote ('\\' :: c :: rest)

/-- A comment begins nowhere in the text. -/
def OpensNoComment (cs : List Char) : Prop := ¬ ['/', '/'] <:+: cs ∧ ¬ ['/', '*'] <:+: cs

/-- A part of a line that ends within the line. -/
inductive Token where
  | code (text : List Char)
  | literal (quote : Char) (content : List Char)
  | comment (content : List Char)

/-- How a line ends after its last complete token. -/
inductive Ending where
  | complete
  | lineComment (content : List Char)
  | openLiteral (quote : Char) (content : List Char)
  | openComment (content : List Char)

def blanks (n : Nat) : List Char := List.replicate n ' '

/-- A character of code as it is, if it is one of ASCII. -/
def maskChar (c : Char) : Char := if isAscii c then c else ' '

namespace Token

def text : Token → List Char
  | code text => text
  | literal quote content => quote :: (content ++ [quote])
  | comment content => '/' :: '*' :: (content ++ ['*', '/'])

def mask : Token → List Char
  | code text => text.map maskChar
  | literal quote content => quote :: (blanks content.length ++ [quote])
  | comment content => ' ' :: ' ' :: (blanks content.length ++ [' ', ' '])

/-- A token in front of the rest of its line, with which a stretch of code must not begin a comment. -/
def Fits (rest : List Char) : Token → Prop
  | code text => (∀ c ∈ text, isQuote c = false) ∧ OpensNoComment (text ++ rest.take 1)
  | literal quote content => isQuote quote = true ∧ LiteralText quote content
  | comment content => ¬ ['*', '/'] <:+: content

/-- The tokens are the same up to the contents of a literal or a comment. -/
def SameCode : Token → Token → Prop
  | code text, code text' => text = text'
  | literal quote content, literal quote' content' =>
      quote = quote' ∧ content.length = content'.length
  | comment content, comment content' => content.length = content'.length
  | _, _ => False

end Token

namespace Ending

def text : Ending → List Char
  | complete => []
  | lineComment content => '/' :: '/' :: content
  | openLiteral quote content => quote :: content
  | openComment content => '/' :: '*' :: content

def mask : Ending → List Char
  | complete => []
  | lineComment content => ' ' :: ' ' :: blanks content.length
  | openLiteral quote content => quote :: blanks content.length
  | openComment content => ' ' :: ' ' :: blanks content.length

/-- An open literal may end with a backslash that has nothing to take along. -/
def Fits : Ending → Prop
  | complete => True
  | lineComment _ => True
  | openLiteral quote content =>
      isQuote quote = true ∧ (LiteralText quote content ∨
        ∃ front, LiteralText quote front ∧ content = front ++ ['\\'])
  | openComment content => ¬ ['*', '/'] <:+: content

def SameCode : Ending → Ending → Prop
  | complete, complete => True
  | lineComment content, lineComment content' => content.length = content'.length
  | openLiteral quote content, openLiteral quote' content' =>
      quote = quote' ∧ content.length = content'.length
  | openComment content, openComment content' => content.length = content'.length
  | _, _ => False

end Ending

/-! ## Lines -/

/-- The text of tokens and of how the line ends after them. -/
def textOf (ending : Ending) : List Token → List Char
  | [] => ending.text
  | token :: rest => token.text ++ textOf ending rest

/-- Each token fits in front of what follows it. -/
def TokensFit (ending : Ending) : List Token → Prop
  | [] => ending.Fits
  | token :: rest => token.Fits (textOf ending rest) ∧ TokensFit ending rest

structure LexicalLine where
  tokens : List Token
  ending : Ending
  fits : TokensFit ending tokens

namespace LexicalLine

def text (l : LexicalLine) : List Char := textOf l.ending l.tokens

def mask (l : LexicalLine) : List Char := l.tokens.flatMap Token.mask ++ l.ending.mask

/-- The lines differ at most in what stands between quotes and in comments, and there in the same
number of characters. -/
def SameCode (l m : LexicalLine) : Prop :=
  List.Forall₂ Token.SameCode l.tokens m.tokens ∧ l.ending.SameCode m.ending

end LexicalLine

variable {mode : MaskMode} {quote c d : Char} {cs ds content rest : List Char}

/-! ## Masking part by part -/

theorem OpensNoComment.of_infix (h : OpensNoComment cs) (hwithin : ds <:+: cs) : OpensNoComment ds :=
  ⟨fun hslashes => h.1 (hslashes.trans hwithin), fun hstar => h.2 (hstar.trans hwithin)⟩

theorem take_one_append_prefix (cs rest : List Char) : (cs ++ rest).take 1 <+: cs ++ rest.take 1 := by
  cases cs with
  | nil =>
      exact List.prefix_rfl
  | cons c cs =>
      exact List.prefix_iff_eq_take.2 rfl

theorem maskFrom_code_cons (h : OpensNoComment (c :: cs.take 1)) :
    maskFrom .code (c :: cs) =
      if isQuote c then c :: maskFrom (.literal c) cs else maskChar c :: maskFrom .code cs := by
  rw [maskFrom.eq_def]
  split
  · rename_i heq
    cases heq
  · rename_i heq
    cases heq
    exact absurd (List.infix_refl _) h.1
  · rename_i heq
    cases heq
    exact absurd (List.infix_refl _) h.2
  · rename_i heq
    cases heq
    rfl
  all_goals
    rename_i hmode _
    cases hmode

/-- Two slashes in a literal begin no comment, and a slash after it does not either. -/
example : maskFrom .code ['"', '/', '/', '"', '/'] = ['"', ' ', ' ', '"', '/'] := by cbv

/-- A stretch of code is masked character by character, if no comment begins in it or at its end. -/
theorem maskFrom_code_append (hquotes : ∀ c ∈ cs, isQuote c = false)
    (hopens : OpensNoComment (cs ++ rest.take 1)) :
    maskFrom .code (cs ++ rest) = cs.map maskChar ++ maskFrom .code rest := by
  induction cs with
  | nil =>
      rfl
  | cons c cs ih =>
      have hfirst : OpensNoComment (c :: (cs ++ rest).take 1) :=
        hopens.of_infix (List.cons_prefix_cons.2 ⟨rfl, take_one_append_prefix cs rest⟩).isInfix
      have hc : ¬ isQuote c = true := by
        simp [hquotes c List.mem_cons_self]
      have hrest := ih (fun d hd => hquotes d (List.mem_cons_of_mem c hd))
        (hopens.of_infix (List.suffix_cons c _).isInfix)
      rw [List.cons_append, maskFrom_code_cons hfirst, if_neg hc, hrest, List.map_cons,
        List.cons_append]

theorem maskFrom_code_quote (h : isQuote quote = true) :
    maskFrom .code (quote :: cs) = quote :: maskFrom (.literal quote) cs := by
  have hquote : quote = '"' ∨ quote = '\'' := by
    simpa [isQuote] using h
  rcases hquote with rfl | rfl
  · simp [maskFrom, isQuote]
  · simp [maskFrom, isQuote]

theorem ne_backslash_of_isQuote (h : isQuote quote = true) : quote ≠ '\\' := by
  rintro rfl
  revert h
  decide

theorem maskFrom_literal_cons (hescape : c ≠ '\\') :
    maskFrom (.literal quote) (c :: cs) =
      if c = quote then c :: maskFrom .code cs else ' ' :: maskFrom (.literal quote) cs := by
  rw [maskFrom.eq_def]
  split <;> simp_all

/-- What stands between quotes is blanked, however the literal goes on. -/
theorem maskFrom_literal_append (h : LiteralText quote content) :
    maskFrom (.literal quote) (content ++ rest) =
      blanks content.length ++ maskFrom (.literal quote) rest := by
  induction h with
  | nil =>
      rfl
  | plain hescape hquote _ ih =>
      rw [List.cons_append, maskFrom_literal_cons hescape, if_neg hquote, ih]
      rfl
  | escape _ ih =>
      rw [List.cons_append, List.cons_append, maskFrom, ih]
      rfl

theorem maskFrom_comment_cons (h : ¬ ['*', '/'] <:+: c :: cs.take 1) :
    maskFrom .comment (c :: cs) = ' ' :: maskFrom .comment cs := by
  rw [maskFrom.eq_def]
  split <;> simp_all

/-- The text of a comment is blanked up to the first place where it may be closed. -/
theorem maskFrom_comment_append (h : ¬ ['*', '/'] <:+: content ++ rest.take 1) :
    maskFrom .comment (content ++ rest) = blanks content.length ++ maskFrom .comment rest := by
  induction content with
  | nil =>
      rfl
  | cons c content ih =>
      have hfirst : ¬ ['*', '/'] <:+: c :: (content ++ rest).take 1 := by
        intro hwithin
        exact h (hwithin.trans
          (List.cons_prefix_cons.2 ⟨rfl, take_one_append_prefix content rest⟩).isInfix)
      have hrest := ih (fun hwithin => h (hwithin.trans (List.suffix_cons c _).isInfix))
      rw [List.cons_append, maskFrom_comment_cons hfirst, hrest]
      rfl

theorem not_closes_append_star (h : ¬ ['*', '/'] <:+: content) : ¬ ['*', '/'] <:+: content ++ ['*'] := by
  rw [List.infix_concat_iff]
  rintro (hsuffix | hwithin)
  · -- A text that ends with a star does not end with a slash.
    obtain ⟨front, hfront⟩ := hsuffix
    have hlast := congrArg List.getLast? hfront
    simp at hlast
  · exact h hwithin

/-! ## Lines by their parts -/

theorem maskFrom_ending {ending : Ending} (h : ending.Fits) :
    maskFrom .code ending.text = ending.mask := by
  cases ending with
  | complete =>
      rfl
  | lineComment content =>
      rfl
  | openLiteral quote content =>
      obtain ⟨hquote, hcontent⟩ := h
      rw [Ending.text, maskFrom_code_quote hquote, Ending.mask]
      rcases hcontent with hcontent | ⟨front, hfront, rfl⟩
      · have hmask : maskFrom (.literal quote) (content ++ []) = _ := maskFrom_literal_append hcontent
        simpa [maskFrom] using hmask
      · have hlone : maskFrom (.literal quote) ['\\'] = [' '] := by
          simp [maskFrom, (ne_backslash_of_isQuote hquote).symm]
        rw [maskFrom_literal_append hfront, hlone]
        simp [blanks, List.replicate_add]
  | openComment content =>
      have hcontent : ¬ ['*', '/'] <:+: content ++ [].take 1 := by
        rw [List.take_nil, List.append_nil]
        exact h
      have hmask := maskFrom_comment_append hcontent
      rw [List.append_nil] at hmask
      rw [Ending.text, Ending.mask, maskFrom, hmask, maskFrom, List.append_nil]

theorem maskFrom_token {token : Token} (h : token.Fits rest) :
    maskFrom .code (token.text ++ rest) = token.mask ++ maskFrom .code rest := by
  cases token with
  | code text =>
      exact maskFrom_code_append h.1 h.2
  | literal quote content =>
      obtain ⟨hquote, hcontent⟩ := h
      have hclose : maskFrom (.literal quote) (quote :: rest) = quote :: maskFrom .code rest := by
        rw [maskFrom_literal_cons (ne_backslash_of_isQuote hquote), if_pos rfl]
      simp only [Token.text, Token.mask, List.cons_append, List.append_assoc, List.nil_append]
      rw [maskFrom_code_quote hquote, maskFrom_literal_append hcontent, hclose]
  | comment content =>
      have hclose : maskFrom .comment ('*' :: '/' :: rest) = ' ' :: ' ' :: maskFrom .code rest := by
        rw [maskFrom]
      have hopen : maskFrom .code ('/' :: '*' :: (content ++ '*' :: '/' :: rest)) =
          ' ' :: ' ' :: maskFrom .comment (content ++ '*' :: '/' :: rest) := by
        rw [maskFrom]
      simp only [Token.text, Token.mask, List.cons_append, List.append_assoc, List.nil_append]
      rw [hopen, maskFrom_comment_append (not_closes_append_star h), hclose]

theorem maskFrom_textOf {ending : Ending} {tokens : List Token} (h : TokensFit ending tokens) :
    maskFrom .code (textOf ending tokens) = tokens.flatMap Token.mask ++ ending.mask := by
  induction tokens with
  | nil =>
      exact maskFrom_ending h
  | cons token tokens ih =>
      rw [textOf, maskFrom_token h.1, ih h.2, List.flatMap_cons, List.append_assoc]

/-- The mask of a line is that of its parts. -/
theorem maskLine_text (l : LexicalLine) : maskLine l.text = l.mask := maskFrom_textOf l.fits

/-! ## Column by column -/

/-- A character and what stands in its column of the mask. -/
def IsMaskOf (c m : Char) : Prop := isAscii m = true ∧ (m = ' ' ∨ m = c)

theorem isMaskOf_blank (c : Char) : IsMaskOf c ' ' := ⟨by decide, .inl rfl⟩

theorem isMaskOf_maskChar (c : Char) : IsMaskOf c (maskChar c) := by
  unfold maskChar
  split
  · rename_i hascii
    exact ⟨hascii, .inr rfl⟩
  · exact isMaskOf_blank c

theorem isAscii_of_isQuote (h : isQuote quote = true) : isAscii quote = true := by
  have hquote : quote = '"' ∨ quote = '\'' := by
    simpa [isQuote] using h
  rcases hquote with rfl | rfl <;> decide

theorem isMaskOf_quote (h : isQuote quote = true) : IsMaskOf quote quote :=
  ⟨isAscii_of_isQuote h, .inr rfl⟩

theorem forall₂_isMaskOf_blanks (cs : List Char) : List.Forall₂ IsMaskOf cs (blanks cs.length) := by
  induction cs with
  | nil =>
      exact .nil
  | cons c cs ih =>
      exact .cons (isMaskOf_blank c) ih

/-- A scan is inside of a literal only after a quote. -/
def MaskMode.FromQuote : MaskMode → Prop
  | .literal quote => isQuote quote = true
  | _ => True

theorem forall₂_isMaskOf_maskFrom (mode : MaskMode) (cs : List Char) (hmode : mode.FromQuote) :
    List.Forall₂ IsMaskOf cs (maskFrom mode cs) := by
  fun_induction maskFrom mode cs with
  | case1 =>
      exact .nil
  | case2 rest =>
      exact forall₂_isMaskOf_blanks ('/' :: '/' :: rest)
  | case3 rest ih =>
      exact .cons (isMaskOf_blank _) (.cons (isMaskOf_blank _) (ih trivial))
  | case4 c rest _ _ hquote ih =>
      exact .cons (isMaskOf_quote hquote) (ih hquote)
  | case5 c rest _ _ _ ih =>
      exact .cons (isMaskOf_maskChar c) (ih trivial)
  | case6 quote c rest ih =>
      exact .cons (isMaskOf_blank _) (.cons (isMaskOf_blank _) (ih hmode))
  | case7 quote c rest _ hclose ih =>
      obtain rfl : c = quote := by
        simpa using hclose
      exact .cons (isMaskOf_quote hmode) (ih trivial)
  | case8 quote c rest _ _ ih =>
      exact .cons (isMaskOf_blank c) (ih hmode)
  | case9 rest ih =>
      exact .cons (isMaskOf_blank _) (.cons (isMaskOf_blank _) (ih trivial))
  | case10 c rest _ ih =>
      exact .cons (isMaskOf_blank c) (ih trivial)

/-! ## Masking a mask -/

theorem opensNoComment_cons_iff :
    OpensNoComment (c :: cs.take 1) ↔ (c = '/' → cs.head? ≠ some '/' ∧ cs.head? ≠ some '*') := by
  cases cs with
  | nil =>
      simp [OpensNoComment, List.infix_cons_iff]
  | cons d cs =>
      simp [OpensNoComment, List.infix_cons_iff]
      grind

/-- The condition under which a scan takes `c` as a character of code. -/
theorem opensNoComment_of_not_opener (hslashes : ∀ rest, c = '/' → cs = '/' :: rest → False)
    (hstar : ∀ rest, c = '/' → cs = '*' :: rest → False) : OpensNoComment (c :: cs.take 1) := by
  rw [opensNoComment_cons_iff]
  intro hslash
  constructor
  · intro hhead
    obtain ⟨rest, hrest⟩ := List.head?_eq_some_iff.1 hhead
    exact hslashes rest hslash hrest
  · intro hhead
    obtain ⟨rest, hrest⟩ := List.head?_eq_some_iff.1 hhead
    exact hstar rest hslash hrest

/-- What a second scan is inside of, where a first one was inside of something: the comments are gone. -/
def MaskMode.again : MaskMode → MaskMode
  | .code => .code
  | .literal quote => .literal quote
  | .comment => .code

theorem maskFrom_code_blank : maskFrom .code (' ' :: cs) = ' ' :: maskFrom .code cs := by
  have hopens : OpensNoComment (' ' :: cs.take 1) := opensNoComment_cons_iff.2 (by simp)
  exact maskFrom_code_cons hopens

theorem maskFrom_code_blanks (n : Nat) : maskFrom .code (blanks n) = blanks n := by
  induction n with
  | zero =>
      rfl
  | succ n ih =>
      calc maskFrom .code (blanks (n + 1)) = ' ' :: maskFrom .code (blanks n) := maskFrom_code_blank
        _ = blanks (n + 1) := by rw [ih]; rfl

theorem maskFrom_literal_blank (h : isQuote quote = true) :
    maskFrom (.literal quote) (' ' :: cs) = ' ' :: maskFrom (.literal quote) cs := by
  have hblank : ' ' ≠ quote := by
    rintro rfl
    revert h
    decide
  rw [maskFrom_literal_cons (by decide), if_neg hblank]

theorem maskFrom_literal_close (h : isQuote quote = true) :
    maskFrom (.literal quote) (quote :: cs) = quote :: maskFrom .code cs := by
  rw [maskFrom_literal_cons (ne_backslash_of_isQuote h), if_pos rfl]

theorem isQuote_maskChar (h : ¬ isQuote c = true) : ¬ isQuote (maskChar c) = true := by
  rcases (isMaskOf_maskChar c).2 with hblank | hsame
  · rw [hblank]
    decide
  · rwa [hsame]

theorem maskChar_maskChar (c : Char) : maskChar (maskChar c) = maskChar c :=
  if_pos (isMaskOf_maskChar c).1

/-- A mask begins no comment where the line begins none. -/
theorem OpensNoComment.mask (hmask : List.Forall₂ IsMaskOf cs ds) (h : OpensNoComment (c :: cs.take 1)) :
    OpensNoComment (maskChar c :: ds.take 1) := by
  rw [opensNoComment_cons_iff] at h ⊢
  intro hslash
  obtain rfl : c = '/' := by
    rcases (isMaskOf_maskChar c).2 with hblank | hsame
    · simp [hblank] at hslash
    · rw [← hsame, hslash]
  cases hmask with
  | nil =>
      simp
  | cons hhead _ =>
      rcases hhead.2 with rfl | rfl
      · simp
      · exact h rfl

theorem maskFrom_maskFrom (mode : MaskMode) (cs : List Char) (hmode : mode.FromQuote) :
    maskFrom mode.again (maskFrom mode cs) = maskFrom mode cs := by
  fun_induction maskFrom mode cs with
  | case1 mode =>
      cases mode <;> rfl
  | case2 rest =>
      exact maskFrom_code_blanks _
  | case3 rest ih =>
      rw [MaskMode.again, maskFrom_code_blank, maskFrom_code_blank]
      exact congrArg (' ' :: ' ' :: ·) (ih trivial)
  | case4 c rest _ _ hquote ih =>
      rw [MaskMode.again, maskFrom_code_quote hquote]
      exact congrArg (c :: ·) (ih hquote)
  | case5 c rest hslashes hstar hquote ih =>
      have hopens := opensNoComment_of_not_opener hslashes hstar
      have hmask := hopens.mask (forall₂_isMaskOf_maskFrom .code rest trivial)
      calc maskFrom .code (maskChar c :: maskFrom .code rest)
          = maskChar (maskChar c) :: maskFrom .code (maskFrom .code rest) := by
            rw [maskFrom_code_cons hmask, if_neg (isQuote_maskChar hquote)]
        _ = maskChar c :: maskFrom .code (maskFrom .code rest) := by
            rw [maskChar_maskChar]
        _ = maskChar c :: maskFrom .code rest :=
            congrArg (maskChar c :: ·) (ih trivial)
  | case6 quote c rest ih =>
      rw [MaskMode.again, maskFrom_literal_blank hmode, maskFrom_literal_blank hmode]
      exact congrArg (' ' :: ' ' :: ·) (ih hmode)
  | case7 quote c rest _ hclose ih =>
      obtain rfl : c = quote := by
        simpa using hclose
      rw [MaskMode.again, maskFrom_literal_close hmode]
      exact congrArg (c :: ·) (ih trivial)
  | case8 quote c rest _ _ ih =>
      rw [MaskMode.again, maskFrom_literal_blank hmode]
      exact congrArg (' ' :: ·) (ih hmode)
  | case9 rest ih =>
      rw [MaskMode.again, maskFrom_code_blank, maskFrom_code_blank]
      exact congrArg (' ' :: ' ' :: ·) (ih trivial)
  | case10 c rest _ ih =>
      rw [MaskMode.again, maskFrom_code_blank]
      exact congrArg (' ' :: ·) (ih trivial)

/-! ## Every line has its parts -/

theorem exists_cons (token : Token) (l : LexicalLine) (h : token.Fits l.text) :
    ∃ m : LexicalLine, m.text = token.text ++ l.text :=
  ⟨⟨token :: l.tokens, l.ending, h, l.fits⟩, rfl⟩

theorem exists_ending (ending : Ending) (h : ending.Fits) : ∃ m : LexicalLine, m.text = ending.text :=
  ⟨⟨[], ending, h⟩, rfl⟩

theorem LiteralText.append (hcontent : LiteralText quote content) (hds : LiteralText quote ds) :
    LiteralText quote (content ++ ds) := by
  induction hcontent with
  | nil =>
      exact hds
  | plain hescape hquote _ ih =>
      exact .plain hescape hquote ih
  | escape _ ih =>
      exact .escape ih

/-- What a scan reads when it is inside of something: up to the end of that and then a line, or all of
it up to the end of the line. -/
def HasParts : MaskMode → List Char → Prop
  | .code, cs => ∃ l : LexicalLine, l.text = cs
  | .literal quote, cs =>
      (∃ content, ∃ l : LexicalLine, LiteralText quote content ∧ content ++ quote :: l.text = cs) ∨
        (Ending.openLiteral quote cs).Fits
  | .comment, cs =>
      (∃ content, ∃ l : LexicalLine, ¬ ['*', '/'] <:+: content ∧
        content ++ '*' :: '/' :: l.text = cs) ∨ ¬ ['*', '/'] <:+: cs

theorem HasParts.literal_append (hfront : LiteralText quote ds) (h : HasParts (.literal quote) cs) :
    HasParts (.literal quote) (ds ++ cs) := by
  rcases h with ⟨content, l, hcontent, rfl⟩ | ⟨hquote, hopen | ⟨front, hopen, rfl⟩⟩
  · exact .inl ⟨ds ++ content, l, hfront.append hcontent, List.append_assoc _ _ _⟩
  · exact .inr ⟨hquote, .inl (hfront.append hopen)⟩
  · exact .inr ⟨hquote, .inr ⟨ds ++ front, hfront.append hopen, (List.append_assoc _ _ _).symm⟩⟩

theorem HasParts.comment_cons (hclose : ∀ rest, c = '*' → cs = '/' :: rest → False)
    (h : HasParts .comment cs) : HasParts .comment (c :: cs) := by
  -- The comment is not closed by its first two characters.
  have hcons : ∀ content, content <+: cs → ¬ ['*', '/'] <:+: content →
      ¬ ['*', '/'] <:+: c :: content := by
    intro content hfront hcontent hwithin
    rcases List.infix_cons_iff.1 hwithin with hfirst | hlater
    · obtain ⟨rest, hrest⟩ := hfirst.trans (List.cons_prefix_cons.2 ⟨rfl, hfront⟩)
      obtain ⟨hc, hcs⟩ := List.cons.inj hrest
      exact hclose rest hc.symm hcs.symm
    · exact hcontent hlater
  rcases h with ⟨content, l, hcontent, rfl⟩ | hopen
  · exact .inl ⟨c :: content, l, hcons content (List.prefix_append _ _) hcontent, rfl⟩
  · exact .inr (hcons cs List.prefix_rfl hopen)

theorem hasParts (mode : MaskMode) (cs : List Char) (hmode : mode.FromQuote) : HasParts mode cs := by
  fun_induction maskFrom mode cs with
  | case1 mode =>
      cases mode with
      | code =>
          exact exists_ending .complete trivial
      | literal quote =>
          exact .inr ⟨hmode, .inl .nil⟩
      | comment =>
          exact .inr (by simp)
  | case2 rest =>
      exact exists_ending (.lineComment rest) trivial
  | case3 rest ih =>
      rcases ih trivial with ⟨content, l, hcontent, rfl⟩ | hopen
      · have hline := exists_cons (.comment content) l hcontent
        simpa [HasParts, Token.text] using hline
      · exact exists_ending (.openComment rest) hopen
  | case4 c rest _ _ hquote ih =>
      rcases ih hquote with ⟨content, l, hcontent, rfl⟩ | hopen
      · have hline := exists_cons (.literal c content) l ⟨hquote, hcontent⟩
        simpa [HasParts, Token.text] using hline
      · exact exists_ending (.openLiteral c rest) hopen
  | case5 c rest hslashes hstar hquote ih =>
      obtain ⟨l, rfl⟩ := ih trivial
      have hopens := opensNoComment_of_not_opener hslashes hstar
      exact exists_cons (.code [c]) l ⟨by simpa using hquote, hopens⟩
  | case6 quote c rest ih =>
      exact (ih hmode).literal_append (.escape .nil)
  | case7 quote c rest _ hclose ih =>
      obtain rfl : c = quote := by
        simpa using hclose
      obtain ⟨l, rfl⟩ := ih trivial
      exact .inl ⟨[], l, .nil, rfl⟩
  | case8 quote c rest hescape hclose ih =>
      have hquote : c ≠ quote := by
        simpa using hclose
      by_cases hbackslash : c = '\\'
      · -- The line ends with a backslash that has nothing to take along.
        obtain rfl : rest = [] := by
          cases rest with
          | nil => rfl
          | cons d rest => exact (hescape d rest hbackslash rfl).elim
        rw [hbackslash]
        exact .inr ⟨hmode, .inr ⟨[], .nil, rfl⟩⟩
      · exact (ih hmode).literal_append (.plain hbackslash hquote .nil)
  | case9 rest ih =>
      obtain ⟨l, rfl⟩ := ih trivial
      exact .inl ⟨[], l, by simp, rfl⟩
  | case10 c rest hclose ih =>
      exact (ih trivial).comment_cons hclose

theorem exists_lexicalLine (line : List Char) : ∃ l : LexicalLine, l.text = line :=
  hasParts .code line trivial

/-! ## Lines with the same code -/

theorem Token.SameCode.refl (t : Token) : t.SameCode t := by
  cases t <;> simp [Token.SameCode]

theorem Ending.SameCode.refl (e : Ending) : e.SameCode e := by
  cases e <;> simp [Ending.SameCode]

theorem LexicalLine.SameCode.refl (l : LexicalLine) : l.SameCode l :=
  ⟨List.forall₂_same.2 fun t _ => Token.SameCode.refl t, Ending.SameCode.refl l.ending⟩

theorem Token.mask_eq_of_sameCode {t t' : Token} (h : t.SameCode t') : t.mask = t'.mask := by
  cases t <;> cases t' <;> simp_all [Token.SameCode, Token.mask]

theorem Ending.mask_eq_of_sameCode {e e' : Ending} (h : e.SameCode e') : e.mask = e'.mask := by
  cases e <;> cases e' <;> simp_all [Ending.SameCode, Ending.mask]

theorem LexicalLine.mask_eq_of_sameCode {l m : LexicalLine} (h : l.SameCode m) : l.mask = m.mask := by
  have htokens : l.tokens.map Token.mask = m.tokens.map Token.mask := by
    rw [← List.forall₂_eq_eq_eq, List.forall₂_map_left_iff, List.forall₂_map_right_iff]
    exact h.1.imp fun _ _ => Token.mask_eq_of_sameCode
  calc l.mask = (l.tokens.map Token.mask).flatten ++ l.ending.mask := rfl
    _ = (m.tokens.map Token.mask).flatten ++ m.ending.mask := by
      rw [htokens, Ending.mask_eq_of_sameCode h.2]
    _ = m.mask := rfl

end BinaryCoverage.Source
