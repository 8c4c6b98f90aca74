import Mathlib.Data.List.Induction
import Mathlib.Data.Nat.Digits.Defs
import SqlAlgebra.Report.Code

/-!
# Texts of error codes

Which texts denote a code is a grammar: the letters and the dash, a plus sign or none, and a
numeral (`Numbered`). A numeral is one digit or more, and its value the sum of its digits times
powers of ten (`decimal`), which is what comes out when it is read from left to right
(`foldl_eq_decimal`). Zeros in front do not count, and they are all that a numeral leaves open:
the numerals of a value are its own digits with any number of zeros in front of them
(`isNumeral_and_decimal_iff`).

The value has no bound, but numbers of codes have 16 bits. A larger value is not brought down to
16 bits and then taken for a code, it is no number of a code at all (`parse_numbered`).
-/

namespace SqlAlgebra.ErrorCode

/-! ## Numerals -/

/-- One decimal digit or more. -/
structure IsNumeral (ds : List Char) : Prop where
  ne_nil : ds ≠ []
  isDigit : ∀ d ∈ ds, d.isDigit

/-- The number a digit stands for. -/
def digit (d : Char) : Nat := d.toNat - '0'.toNat

/-- The value of a numeral; its last digit counts the units. -/
def decimal (ds : List Char) : Nat := Nat.ofDigits 10 (ds.map digit).reverse

theorem digit_lt {d : Char} (h : d.isDigit) : digit d < 10 := by
  have hrange : 48 ≤ d.toNat ∧ d.toNat ≤ 57 := Char.isDigit_iff_toNat.1 h
  change d.toNat - 48 < 10
  omega

/-- A digit is written as its value. -/
theorem digitChar_digit {d : Char} (h : d.isDigit) : (digit d).digitChar = d := by
  have hrange : 48 ≤ d.toNat ∧ d.toNat ≤ 57 := Char.isDigit_iff_toNat.1 h
  rw [← Char.toNat_inj, Nat.toNat_digitChar_of_lt_ten (digit_lt h)]
  change 48 + (d.toNat - 48) = d.toNat
  omega

/-- One more digit to the right. -/
theorem decimal_concat (ds : List Char) (d : Char) :
    decimal (ds ++ [d]) = 10 * decimal ds + digit d := by
  rw [decimal, List.map_append, List.reverse_append, List.map_singleton, List.reverse_singleton,
    List.singleton_append, Nat.ofDigits_cons, ← decimal]
  exact Nat.add_comm _ _

theorem decimal_singleton (d : Char) : decimal [d] = digit d :=
  (decimal_concat [] d).trans (Nat.zero_add _)

/-- Reading from left to right, ten times what has been read and the next digit. -/
theorem foldl_eq_decimal (ds : List Char) :
    ds.foldl (fun n d => n * 10 + (d.toNat - 48)) 0 = decimal ds := by
  induction ds using List.reverseRecOn with
  | nil => rfl
  | append_singleton ds d ih =>
    rw [List.foldl_append, ih, List.foldl_cons, List.foldl_nil, decimal_concat, Nat.mul_comm]
    rfl

/-- The digits that are read are those of a numeral, and the value is the numeral's. -/
theorem digitsValue?_eq_some_iff {ds : List Char} {n : Nat} :
    digitsValue? ds = some n ↔ IsNumeral ds ∧ decimal ds = n := by
  have hnumeral : (!ds.isEmpty && ds.all Char.isDigit) = true ↔ IsNumeral ds := by
    rw [Bool.and_eq_true, Bool.not_eq_true', List.isEmpty_eq_false_iff, List.all_eq_true]
    exact ⟨fun h => ⟨h.1, h.2⟩, fun h => ⟨h.ne_nil, h.isDigit⟩⟩
  rw [digitsValue?, Option.ite_none_right_eq_some, hnumeral, foldl_eq_decimal, Option.some_inj]

/-! ### Zeros in front -/

theorem decimal_zero_cons (ds : List Char) : decimal ('0' :: ds) = decimal ds := by
  rw [decimal, List.map_cons, List.reverse_cons]
  exact Nat.ofDigits_append_zero _

/-- Zeros in front of a numeral do not change its value. -/
theorem decimal_zeros_append (zeros : Nat) (ds : List Char) :
    decimal (List.replicate zeros '0' ++ ds) = decimal ds := by
  induction zeros with
  | zero => rfl
  | succ zeros ih => rw [List.replicate_succ, List.cons_append, decimal_zero_cons, ih]

/-- The value of a decimal expansion is the number. -/
theorem decimal_toDigits (n : Nat) : decimal (Nat.toDigits 10 n) = n := by
  calc decimal (Nat.toDigits 10 n)
    _ = (Nat.toDigits 10 n).foldl (fun n d => n * 10 + (d.toNat - 48)) 0 :=
      (foldl_eq_decimal _).symm
    _ = Nat.ofDigitChars 10 (Nat.toDigits 10 n) 0 := by
      simp only [Nat.ofDigitChars_eq_foldl, Nat.mul_comm 10]
      rfl
    _ = n := Nat.ofDigitChars_ten_toDigits

/-- A decimal expansion is a numeral. -/
theorem isNumeral_toDigits (n : Nat) : IsNumeral (Nat.toDigits 10 n) :=
  ⟨Nat.toDigits_ne_nil, fun _ hd => Nat.isDigit_of_mem_toDigits (by decide) (by decide) hd⟩

theorem IsNumeral.zeros_append {ds : List Char} (h : IsNumeral ds) (zeros : Nat) :
    IsNumeral (List.replicate zeros '0' ++ ds) where
  ne_nil := List.append_ne_nil_of_right_ne_nil _ h.ne_nil
  isDigit := List.forall_mem_append.2
    ⟨fun _ hd => by rw [List.eq_of_mem_replicate hd]; rfl, h.isDigit⟩

/-- A numeral is the decimal expansion of its value with zeros in front. -/
theorem IsNumeral.exists_zeros {ds : List Char} (h : IsNumeral ds) :
    ∃ zeros, ds = List.replicate zeros '0' ++ Nat.toDigits 10 (decimal ds) := by
  induction ds using List.reverseRecOn with
  | nil => exact absurd rfl h.ne_nil
  | append_singleton ds d ih =>
    have hd : d.isDigit := h.isDigit d (List.mem_append_right _ (List.mem_singleton_self d))
    have hlast : Nat.toDigits 10 (digit d) = [d] := by
      rw [Nat.toDigits_of_lt_base (digit_lt hd), digitChar_digit hd]
    rcases eq_or_ne ds [] with rfl | hne
    · exact ⟨0, by rw [List.nil_append, decimal_singleton, hlast]; rfl⟩
    obtain ⟨zeros, hzeros⟩ := ih ⟨hne, fun c hc => h.isDigit c (List.mem_append_left _ hc)⟩
    rw [decimal_concat]
    rcases Nat.eq_zero_or_pos (decimal ds) with hzero | hpos
    · refine ⟨zeros + 1, ?_⟩
      rw [hzero, Nat.toDigits_zero] at hzeros
      rw [hzero, Nat.mul_zero, Nat.zero_add, hlast, List.replicate_succ', ← hzeros]
    · refine ⟨zeros, ?_⟩
      rw [← Nat.toDigits_append_toDigits (by decide) hpos (digit_lt hd), hlast,
        ← List.append_assoc, ← hzeros]

/-- The numerals of a value. -/
theorem isNumeral_and_decimal_iff {ds : List Char} {n : Nat} :
    IsNumeral ds ∧ decimal ds = n ↔
      ∃ zeros, ds = List.replicate zeros '0' ++ Nat.toDigits 10 n := by
  constructor
  · rintro ⟨h, rfl⟩
    exact h.exists_zeros
  · rintro ⟨zeros, rfl⟩
    exact ⟨(isNumeral_toDigits n).zeros_append zeros,
      (decimal_zeros_append zeros _).trans (decimal_toDigits n)⟩

/-! ## The grammar -/

/-- The texts that name a number: the letters and the dash, a plus sign or none, and a numeral. -/
def Numbered (cs : List Char) (n : Nat) : Prop :=
  ∃ sign ds, (sign = [] ∨ sign = ['+']) ∧ (IsNumeral ds ∧ decimal ds = n) ∧
    cs = lead ++ (sign ++ ds)

/-- The numeral is a matter of how many zeros there are in front. -/
theorem numbered_iff_zeros {cs : List Char} {n : Nat} :
    Numbered cs n ↔ ∃ sign zeros, (sign = [] ∨ sign = ['+']) ∧
      cs = lead ++ (sign ++ (List.replicate zeros '0' ++ Nat.toDigits 10 n)) := by
  constructor
  · rintro ⟨sign, ds, hsign, hds, rfl⟩
    obtain ⟨zeros, rfl⟩ := isNumeral_and_decimal_iff.1 hds
    exact ⟨sign, zeros, hsign, rfl⟩
  · rintro ⟨sign, zeros, hsign, rfl⟩
    exact ⟨sign, _, hsign, isNumeral_and_decimal_iff.2 ⟨zeros, rfl⟩, rfl⟩

theorem stripStart?_eq_some_iff {start cs rest : List Char} :
    stripStart? start cs = some rest ↔ cs = start ++ rest := by
  fun_induction stripStart? start cs with
  | case1 cs => exact Option.some_inj
  | case2 a start => exact iff_of_false nofun nofun
  | case3 a start c cs heq ih =>
    obtain rfl : a = c := eq_of_beq heq
    rw [ih, List.cons_append, List.cons_inj_right]
  | case4 a start c cs hne =>
    refine iff_of_false nofun fun h => hne ?_
    exact beq_iff_eq.2 (List.cons.inj h).1.symm

/-- An unsigned number is a numeral after a plus sign or none; a plus sign is no digit. -/
theorem unsignedValue?_eq_some_iff {cs : List Char} {n : Nat} :
    unsignedValue? cs = some n ↔
      ∃ sign ds, (sign = [] ∨ sign = ['+']) ∧ (IsNumeral ds ∧ decimal ds = n) ∧
        cs = sign ++ ds := by
  unfold unsignedValue?
  split
  · rename_i ds
    rw [digitsValue?_eq_some_iff]
    constructor
    · exact fun h => ⟨['+'], ds, .inr rfl, h, rfl⟩
    · rintro ⟨sign, ds', rfl | rfl, h, hcs⟩
      · obtain rfl : '+' :: ds = ds' := hcs
        cases h.1.isDigit '+' (List.mem_cons_self ..)
      · rwa [(List.cons.inj hcs).2]
  · rename_i hunsigned
    rw [digitsValue?_eq_some_iff]
    constructor
    · exact fun h => ⟨[], cs, .inl rfl, h, rfl⟩
    · rintro ⟨sign, ds, rfl | rfl, h, rfl⟩
      · exact h
      · exact absurd rfl (hunsigned ds)

/-- A text is read by the grammar. -/
theorem numbered_iff {cs : List Char} {n : Nat} :
    Numbered cs n ↔ (stripStart? lead cs).bind unsignedValue? = some n := by
  simp only [Option.bind_eq_some_iff, stripStart?_eq_some_iff, unsignedValue?_eq_some_iff]
  constructor
  · rintro ⟨sign, ds, hsign, hds, rfl⟩
    exact ⟨_, rfl, sign, ds, hsign, hds, rfl⟩
  · rintro ⟨_, rfl, sign, ds, hsign, hds, rfl⟩
    exact ⟨sign, ds, hsign, hds, rfl⟩

/-- The text of a code is numbered by the code's number. -/
theorem numbered_text (code : ErrorCode) : Numbered code.text.toList code.number.toNat := by
  refine numbered_iff_zeros.2 ⟨[], 0, .inl rfl, ?_⟩
  rw [text, String.toList_ofList, Nat.repr_eq_ofList_toDigits, String.toList_ofList]
  rfl

/-! ## Reading a code -/

theorem ofNumber_number (code : ErrorCode) : ofNumber code.number = .ok code := by
  cases code <;> rfl

/-- A number that no code has belongs to none. -/
theorem ofNumber_of_unused {n : UInt16} (h : ∀ code : ErrorCode, code.number ≠ n) :
    ofNumber n = .error (.unknownNumber n) := by
  have hfind : (all.find? fun code => code.number == n) = none :=
    List.find?_eq_none.2 fun code _ hcode => h code (eq_of_beq hcode)
  rw [ofNumber, hfind]

variable {text : String} {n : Nat}

/-- A text numbered by the number of a code is read as the code. -/
theorem parse_of_number {code : ErrorCode} (h : Numbered text.toList code.number.toNat) :
    parse text = .ok code := by
  have hsize : code.number.toNat < UInt16.size := code.number.toNat_lt
  rw [parse, numbered_iff.1 h]
  dsimp only
  rw [if_pos hsize, UInt16.ofNat_toNat, ofNumber_number]

/-- A text whose number no code has is read as an unknown code. -/
theorem parse_of_unused (h : Numbered text.toList n) (hsize : n < UInt16.size)
    (hunused : ∀ code : ErrorCode, code.number.toNat ≠ n) :
    parse text = .error .unknownCode := by
  have hnone : ofNumber (UInt16.ofNat n) = .error (.unknownNumber (UInt16.ofNat n)) :=
    ofNumber_of_unused fun code hcode => hunused code (by
      rw [hcode, UInt16.toNat_ofNat_of_lt' hsize])
  rw [parse, numbered_iff.1 h]
  dsimp only
  rw [if_pos hsize, hnone]

/-- A text without a number of 16 bits is not of the right form. -/
theorem parse_of_large (h : ∀ n, Numbered text.toList n → UInt16.size ≤ n) :
    parse text = .error .invalidFormat := by
  rw [parse]
  cases hread : (stripStart? lead text.toList).bind unsignedValue? with
  | none => rfl
  | some n => exact if_neg (Nat.not_lt.2 (h n (numbered_iff.2 hread)))

/-- What becomes of a text: it has the number of a code, a number that no code has, or no number
of 16 bits. -/
theorem parse_cases (text : String) :
    (∃ code, parse text = .ok code ∧ Numbered text.toList code.number.toNat) ∨
    (parse text = .error .unknownCode ∧ ∃ n < UInt16.size, Numbered text.toList n ∧
      ∀ code : ErrorCode, code.number.toNat ≠ n) ∨
    (parse text = .error .invalidFormat ∧ ∀ n, Numbered text.toList n → UInt16.size ≤ n) := by
  by_cases hsmall : ∃ n < UInt16.size, Numbered text.toList n
  · obtain ⟨n, hsize, h⟩ := hsmall
    by_cases hused : ∃ code : ErrorCode, code.number.toNat = n
    · obtain ⟨code, rfl⟩ := hused
      exact .inl ⟨code, parse_of_number h, h⟩
    · have hunused : ∀ code : ErrorCode, code.number.toNat ≠ n := not_exists.1 hused
      exact .inr (.inl ⟨parse_of_unused h hsize hunused, n, hsize, h, hunused⟩)
  · have hlarge : ∀ n, Numbered text.toList n → UInt16.size ≤ n := fun n h =>
      Nat.not_lt.1 fun hsize => hsmall ⟨n, hsize, h⟩
    exact .inr (.inr ⟨parse_of_large hlarge, hlarge⟩)

/-- A text is read as a code exactly if the code's number is in it. -/
theorem parse_eq_ok_iff {code : ErrorCode} :
    parse text = .ok code ↔ Numbered text.toList code.number.toNat := by
  refine ⟨fun hcode => ?_, parse_of_number⟩
  rcases parse_cases text with ⟨code', hparse, h⟩ | ⟨hparse, -⟩ | ⟨hparse, -⟩
  · obtain rfl : code = code' := Except.ok.inj (hcode.symm.trans hparse)
    exact h
  · exact nomatch hcode.symm.trans hparse
  · exact nomatch hcode.symm.trans hparse

/-- A text is read as an unknown code exactly if its number has 16 bits and no code has it. -/
theorem parse_eq_unknownCode_iff :
    parse text = .error .unknownCode ↔ ∃ n < UInt16.size, Numbered text.toList n ∧
      ∀ code : ErrorCode, code.number.toNat ≠ n := by
  refine ⟨fun hunknown => ?_, fun ⟨n, hsize, h, hunused⟩ => parse_of_unused h hsize hunused⟩
  rcases parse_cases text with ⟨_, hparse, -⟩ | ⟨-, h⟩ | ⟨hparse, -⟩
  · exact nomatch hunknown.symm.trans hparse
  · exact h
  · exact nomatch hunknown.symm.trans hparse

/-- A text is not of the right form exactly if it has no number of 16 bits. -/
theorem parse_eq_invalidFormat_iff :
    parse text = .error .invalidFormat ↔ ∀ n, Numbered text.toList n → UInt16.size ≤ n := by
  refine ⟨fun hinvalid => ?_, parse_of_large⟩
  rcases parse_cases text with ⟨_, hparse, -⟩ | ⟨hparse, -⟩ | ⟨-, h⟩
  · exact nomatch hinvalid.symm.trans hparse
  · exact nomatch hinvalid.symm.trans hparse
  · exact h

/-- The text of a code denotes the code. -/
theorem parse_text (code : ErrorCode) : parse code.text = .ok code :=
  parse_of_number (numbered_text code)

/-- A text denotes the code whose number it names, with a plus sign or none and any number of
zeros in front of the number's digits, and nothing else denotes it. A number of 16 bits that is
not in use is told apart from a text that names none, to which a larger number belongs. The text
of a code denotes the code. -/
theorem parse_numbered (text : String) :
    (∀ code, parse text = .ok code ↔ Numbered text.toList code.number.toNat) ∧
    (∀ code, parse text = .ok code ↔ ∃ sign zeros, (sign = [] ∨ sign = ['+']) ∧
      text.toList = lead ++ (sign ++
        (List.replicate zeros '0' ++ Nat.toDigits 10 code.number.toNat))) ∧
    (parse text = .error .unknownCode ↔ ∃ n < UInt16.size, Numbered text.toList n ∧
      ∀ code : ErrorCode, code.number.toNat ≠ n) ∧
    (parse text = .error .invalidFormat ↔ ∀ n, Numbered text.toList n → UInt16.size ≤ n) ∧
    ∀ code : ErrorCode, parse code.text = .ok code :=
  ⟨fun _ => parse_eq_ok_iff, fun _ => parse_eq_ok_iff.trans numbered_iff_zeros,
    parse_eq_unknownCode_iff, parse_eq_invalidFormat_iff, parse_text⟩

/-- The number 67537 is 2001 and 2 ^ 16. -/
example : parse "SQLFED-+0002001" = .ok .malformedSegment ∧
    parse "SQLFED-67537" = .error .invalidFormat := by decide

end SqlAlgebra.ErrorCode
