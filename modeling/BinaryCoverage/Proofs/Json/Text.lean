import BinaryCoverage.Json.Decode
import BinaryCoverage.Json.Printer
import BinaryCoverage.Proofs.Text.Number

/-!
# Strings and whole numbers read back

What is printed for a string or a whole number is read in one form, which means that string or
number again.  This file defines:

* `Json.lettered` — the characters that are printed as a backslash and one letter;
* `Json.piece`, `Json.pieces` — the form in which a printed string is read;
* `Json.numberForm` — the form in which a printed whole number is read;
* `Json.endsNumber` — what comes next does not go on with a number.
-/

namespace BinaryCoverage.Json

/-! ## Strings as written -/

/-- The characters that are printed as a backslash and one letter. -/
def lettered : List Char := ['"', '\\', '\n', '\r', '\t', '\x08', '\x0c']

/-- How a character is read that has been printed. -/
def piece (c : Char) : Piece :=
  if c ∈ lettered then .escape c
  else if c.toNat < 32 then .unit c.toNat
  else .verbatim c

def pieces (text : String) : List Piece := text.toList.map piece

theorem readUnit?_control (n : Nat) (hn : n < 32) (cs : List Char) :
    Raw.readUnit? ('0' :: '0' :: hexDigit (n / 16) :: hexDigit (n % 16) :: cs) = some (n, cs) := by
  -- There are few control characters, so that each one can be tried.
  have hdigits : ∀ n < 32,
      ['0', '0', hexDigit (n / 16), hexDigit (n % 16)].all Text.isHexDigit ∧
        Text.digits? 16 ['0', '0', hexDigit (n / 16), hexDigit (n % 16)] = some n := by
    decide
  rcases hdigits n hn with ⟨hall, hvalue⟩
  unfold Raw.readUnit?
  dsimp only
  rw [if_pos hall, hvalue]
  rfl

theorem readString?_letter (fuel : Nat) {letter c : Char} (hletter : letter ≠ 'u')
    (h : Raw.escaped? letter = some c) (cs : List Char) :
    Raw.readString? (fuel + 1) ('\\' :: letter :: cs) =
      (Raw.readString? fuel cs).map fun (ps, rest) => (.escape c :: ps, rest) := by
  rw [Raw.readString?, h]
  · cases Raw.readString? fuel cs <;> rfl
  · -- A `u` would begin an escape of four digits.
    exact hletter

theorem readString?_control (fuel : Nat) {c : Char} (hc : c.toNat < 32) (cs : List Char) :
    Raw.readString? (fuel + 1) ('\\' :: 'u' :: '0' :: '0' :: hexDigit (c.toNat / 16) ::
        hexDigit (c.toNat % 16) :: cs) =
      (Raw.readString? fuel cs).map fun (ps, rest) => (.unit c.toNat :: ps, rest) := by
  rw [Raw.readString?, readUnit?_control c.toNat hc, Option.bind_eq_bind, Option.bind_some]
  dsimp only
  cases Raw.readString? fuel cs <;> rfl

theorem readString?_verbatim (fuel : Nat) {c : Char} (hquote : c ≠ '"') (hslash : c ≠ '\\')
    (hc : 32 ≤ c.toNat) (cs : List Char) :
    Raw.readString? (fuel + 1) (c :: cs) =
      (Raw.readString? fuel cs).map fun (ps, rest) => (.verbatim c :: ps, rest) := by
  rw [Raw.readString?]
  · simp only [hc, guard_true, pure_bind]
    cases Raw.readString? fuel cs <;> rfl
  · exact hquote
  · intro _ h _
    exact hslash h
  · intro h _
    exact hslash h
  · intro _ _ h _
    exact hslash h

theorem readString?_escapeChar (fuel : Nat) (c : Char) (cs : List Char) :
    Raw.readString? (fuel + 1) (escapeChar c ++ cs) =
      (Raw.readString? fuel cs).map fun (ps, rest) => (piece c :: ps, rest) := by
  unfold escapeChar
  split
  · exact readString?_letter fuel (by decide) rfl cs
  · exact readString?_letter fuel (by decide) rfl cs
  · exact readString?_letter fuel (by decide) rfl cs
  · exact readString?_letter fuel (by decide) rfl cs
  · exact readString?_letter fuel (by decide) rfl cs
  · exact readString?_letter fuel (by decide) rfl cs
  · exact readString?_letter fuel (by decide) rfl cs
  · rename_i hquote hslash hnewline hreturn htab hback hfeed
    have hplain : c ∉ lettered := by
      simp only [lettered, List.mem_cons, List.not_mem_nil, or_false, not_or]
      exact ⟨hquote, hslash, hnewline, hreturn, htab, hback, hfeed⟩
    unfold piece
    rw [if_neg hplain]
    split
    · rename_i hcontrol
      exact readString?_control fuel hcontrol cs
    · rename_i hcontrol
      exact readString?_verbatim fuel hquote hslash (Nat.le_of_not_lt hcontrol) cs

theorem readString?_escaped (text : List Char) (fuel : Nat) (hfuel : text.length < fuel)
    (rest : List Char) :
    Raw.readString? fuel (text.flatMap escapeChar ++ '"' :: rest) =
      some (text.map piece, rest) := by
  induction text generalizing fuel with
  | nil =>
      cases fuel with
      | zero =>
          cases hfuel
      | succ fuel =>
          simp [Raw.readString?]
  | cons c text ih =>
      cases fuel with
      | zero =>
          cases hfuel
      | succ fuel =>
          have htext := ih fuel (by simpa using hfuel)
          rw [List.flatMap_cons, List.append_assoc, readString?_escapeChar, htext]
          rfl

theorem length_le_escaped (text : List Char) :
    text.length ≤ (text.flatMap escapeChar).length := by
  have hchar (c : Char) : 0 < (escapeChar c).length := by
    unfold escapeChar
    split <;> try simp
    split <;> simp
  induction text with
  | nil =>
      rfl
  | cons c text ih =>
      have hc := hchar c
      rw [List.flatMap_cons, List.length_append, List.length_cons]
      omega

/-- The reader of a string has fuel for every character that follows. -/
theorem readString?_quote (text : String) (cs : List Char) :
    let written := text.toList.flatMap escapeChar ++ '"' :: cs
    Raw.readString? (written.length + 1) written = some (pieces text, cs) := by
  intro written
  have htext := length_le_escaped text.toList
  have hwritten : written.length = (text.toList.flatMap escapeChar).length + (cs.length + 1) := by
    simp [written]
  exact readString?_escaped text.toList _ (by omega) cs

/-! ## What strings mean -/

theorem charsOf?_unit {code : Nat} (hcode : code < 0xD800) (ps : List Piece) :
    charsOf? (.unit code :: ps) = (charsOf? ps).map (Char.ofNat code :: ·) := by
  have hhigh : ¬ 0xD800 ≤ code := Nat.not_le.2 hcode
  have hlow : ¬ 0xDC00 ≤ code := by
    omega
  rcases ps with _ | ⟨c | c | low, ps⟩
  · simp [charsOf?, hhigh]
  · simp [charsOf?, hhigh]
  · simp [charsOf?, hhigh]
  · -- Two escapes are looked at together, in case they are a pair.
    simp [charsOf?, hhigh, hlow]

theorem charsOf?_piece (c : Char) (ps : List Piece) :
    charsOf? (piece c :: ps) = (charsOf? ps).map (c :: ·) := by
  unfold piece
  split
  · rfl
  · split
    · rename_i hcontrol
      rw [charsOf?_unit (hcontrol.trans (by omega)), Char.ofNat_toNat]
    · rfl

theorem charsOf?_map_piece (text : List Char) : charsOf? (text.map piece) = some text := by
  induction text with
  | nil =>
      rfl
  | cons c text ih =>
      rw [List.map_cons, charsOf?_piece, ih]
      rfl

theorem textOf?_pieces (text : String) : textOf? (pieces text) = some text := by
  unfold textOf? pieces
  rw [charsOf?_map_piece, Option.map_some, String.ofList_toList]

/-! ## Whole numbers as written -/

/-- What comes next does not go on with a number. -/
def endsNumber : List Char → Bool
  | [] => true
  | c :: _ => !(Text.isDigit c || c == '.' || c == 'e' || c == 'E')

def numberForm (n : Int) : RawNumber where
  negative := n < 0
  whole := Text.decimal n.natAbs

theorem readDigits?_append {digits : List Char} (hdigits : ∀ c ∈ digits, Text.isDigit c)
    (hne : digits ≠ []) {rest : List Char} (hrest : endsNumber rest) :
    Raw.readDigits? (digits ++ rest) = some (digits, rest) := by
  have hstop : rest.takeWhile Text.isDigit = [] ∧ rest.dropWhile Text.isDigit = rest := by
    cases rest with
    | nil =>
        exact ⟨rfl, rfl⟩
    | cons c rest =>
        have hc : Text.isDigit c = false := by
          simp only [endsNumber, Bool.not_eq_true', Bool.or_eq_false_iff] at hrest
          exact hrest.1.1.1
        simp [hc]
  unfold Raw.readDigits?
  rw [List.takeWhile_append_of_pos hdigits, List.dropWhile_append_of_pos hdigits, hstop.1, hstop.2,
    List.append_nil]
  simp [hne]

theorem readWhole?_decimal (n : Nat) {rest : List Char} (hrest : endsNumber rest) :
    Raw.readWhole? (Text.decimal n ++ rest) = some (Text.decimal n, rest) := by
  have hread := readDigits?_append (fun c => Text.isDigit_of_mem_decimal (n := n))
    (Text.decimal_ne_nil n) hrest
  -- A leading zero ends a number at once; only zero itself is written with one.
  rcases Nat.eq_zero_or_pos n with rfl | hn
  · rfl
  · have hhead := Text.head?_decimal hn
    rcases Text.decimal_eq_cons n with ⟨c, digits, hdigits, -⟩
    rw [hdigits] at hread hhead ⊢
    rw [List.cons_append] at hread ⊢
    rw [Raw.readWhole?, hread]
    rintro rest' ⟨⟩
    exact hhead rfl

theorem readFraction?_of_ends {rest : List Char} (hrest : endsNumber rest) :
    Raw.readFraction? rest = some (none, rest) := by
  unfold Raw.readFraction?
  split
  · cases hrest
  · rfl

theorem readExponent?_of_ends {rest : List Char} (hrest : endsNumber rest) :
    Raw.readExponent? rest = some (none, rest) := by
  cases rest with
  | nil =>
      rfl
  | cons c rest =>
      have hc : (c == 'e' || c == 'E') = false := by
        simp only [endsNumber, Bool.not_eq_true', Bool.or_eq_false_iff] at hrest
        simp [hrest]
      unfold Raw.readExponent?
      dsimp only
      rw [if_neg (by simp [hc])]

theorem readNumber?_integerText (n : Int) {rest : List Char} (hrest : endsNumber rest) :
    Raw.readNumber? (integerText n ++ rest) = some (numberForm n, rest) := by
  have hwhole := readWhole?_decimal n.natAbs hrest
  have hfraction := readFraction?_of_ends hrest
  have hexponent := readExponent?_of_ends hrest
  unfold integerText Raw.readNumber?
  by_cases hn : n < 0
  · simp [hn, hwhole, hfraction, hexponent, numberForm]
  · -- Without a sign the text starts with a digit.
    have hsign : ∀ digits, Text.decimal n.natAbs ++ rest ≠ '-' :: digits := by
      intro digits h
      rcases Text.decimal_eq_cons n.natAbs with ⟨c, cs, hdigits, hc⟩
      rw [hdigits] at h
      cases h
      cases hc
    rw [if_neg hn]
    simp [hn, hwhole, hfraction, hexponent, numberForm]

/-! ## What whole numbers mean -/

theorem numberOf?_numberForm (n : Integer64) :
    numberOf? (numberForm n.value) = some (.integer n) := by
  rcases n with ⟨n, hlower, hupper⟩
  unfold numberOf? numberForm
  dsimp only
  rw [Text.digits?_decimal]
  dsimp only
  by_cases hn : n < 0
  · rw [dif_neg (by simp [hn]), dif_pos ⟨by simpa using hn, by omega, by omega⟩]
    simp only [Option.some.injEq, Json.integer.injEq, Integer64.ofNegative, Integer64.mk.injEq]
    omega
  · rw [dif_pos ⟨by omega, by simpa using hn⟩]
    simp only [Option.some.injEq, Json.integer.injEq, Integer64.ofNat, Integer64.mk.injEq]
    omega

theorem wholeOf?_numberForm {n limit : Nat} (hn : n < limit) :
    wholeOf? limit (numberForm n) = some n := by
  unfold wholeOf? numberForm
  simp [Text.digits?_decimal, hn]

/-! ## Keys that are numbers -/

theorem piece_of_isDigit {c : Char} (h : Text.isDigit c) : piece c = .verbatim c := by
  have hplain : ∀ d ∈ lettered, ¬ Text.isDigit d := by
    simp [lettered, Text.isDigit]
  have hrange : 48 ≤ c.toNat := by
    simp only [Text.isDigit, Bool.and_eq_true, decide_eq_true_eq] at h
    exact h.1
  unfold piece
  rw [if_neg (fun hc => hplain c hc h), if_neg (by omega)]

theorem plainOf?_map_verbatim (cs : List Char) : plainOf? (cs.map .verbatim) = some cs := by
  induction cs with
  | nil =>
      rfl
  | cons c cs ih =>
      rw [List.map_cons, plainOf?, ih]
      rfl

theorem keyDigits?_pieces (n : Nat) :
    Decoder.keyDigits? (pieces (String.ofList (Text.decimal n))) = some (Text.decimal n) := by
  have hpieces : pieces (String.ofList (Text.decimal n)) = (Text.decimal n).map .verbatim := by
    unfold pieces
    rw [String.toList_ofList]
    exact List.map_congr_left fun c hc => piece_of_isDigit (Text.isDigit_of_mem_decimal hc)
  unfold Decoder.keyDigits?
  rw [hpieces, plainOf?_map_verbatim]
  rcases Nat.eq_zero_or_pos n with rfl | hn
  · rfl
  · simp [Text.head?_decimal hn]

theorem key32?_pieces (w : UInt32) :
    Decoder.key32? (pieces (String.ofList (Text.decimal w.toNat))) = some w := by
  unfold Decoder.key32?
  rw [keyDigits?_pieces]
  simp [Text.digits?_decimal, w.toNat_lt]

theorem key64?_pieces (w : UInt64) :
    Decoder.key64? (pieces (String.ofList (Text.decimal w.toNat))) = some w := by
  unfold Decoder.key64?
  rw [keyDigits?_pieces]
  simp [Text.digits?_decimal, w.toNat_lt]

end BinaryCoverage.Json
