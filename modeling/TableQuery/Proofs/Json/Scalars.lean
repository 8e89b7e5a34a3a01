import TableQuery.Json.Printer
import TableQuery.Json.Reader
import TableQuery.Proofs.Numeral.Digits

/-! # Reading strings and whole numbers of a document

A string is read back from the way it is written, character by character.  A whole number is
read back from its digits, if it is one of those that are kept as they are and no part of a
number follows it.
-/

namespace TableQuery

theorem Layout.digitsOf_head {n : Nat} (positive : 0 < n) : (digitsOf n).head? ≠ some '0' := by
  induction n using Nat.strongRecOn with
  | ind n inductionHypothesis =>
    rw [digitsOf, Nat.toDigits_eq_if (by decide)]
    split
    · rw [List.head?_cons, ne_eq, Option.some.injEq, Nat.digitChar_eq_zero]
      omega
    · rw [List.head?_append_of_ne_nil _ Nat.toDigits_ne_nil]
      exact inductionHypothesis (n / 10) (by omega) (by omega)

namespace Json

open Numeral

/-! ## Strings -/

theorem hexValue?_hexDigit {n : Nat} (small : n < 16) : hexValue? (hexDigit n) = some n := by
  have each : ∀ n < 16, hexValue? (hexDigit n) = some n := by decide
  exact each n small

theorem readUnit?_hexDigit {n : Nat} (small : n < 0x20) (rest : List Char) :
    readUnit? ('0' :: '0' :: hexDigit (n / 16) :: hexDigit (n % 16) :: rest) = some (n, rest) := by
  have isZero : hexValue? '0' = some 0 := rfl
  have isSum : n / 16 * 16 + n % 16 = n := Nat.div_add_mod' n 16
  simp [readUnit?, isZero, hexValue?_hexDigit (n := n / 16) (by omega),
    hexValue?_hexDigit (n := n % 16) (by omega), isSum]

/-- The escape of a control character by its code is read as that character. -/
theorem readEscapedUnit?_hexDigit {c : Char} (small : c.toNat < 0x20) (rest : List Char) :
    readEscapedUnit?
      ('0' :: '0' :: hexDigit (c.toNat / 16) :: hexDigit (c.toNat % 16) :: rest) =
        some (c, rest) := by
  rw [readEscapedUnit?, readUnit?_hexDigit small]
  simp only
  rw [if_neg (by omega), if_neg (by omega), Char.ofNat_toNat]

/-- A character is written by an escape with one letter, by its code, or as it is. -/
theorem escapeChar_cases (c : Char) :
    (∃ e, escapeChar c = ['\\', e] ∧ e ≠ 'u' ∧ simpleEscape? e = some c) ∨
      (c.toNat < 0x20 ∧ escapeChar c =
        ['\\', 'u', '0', '0', hexDigit (c.toNat / 16), hexDigit (c.toNat % 16)]) ∨
      (escapeChar c = [c] ∧ c ≠ '"' ∧ c ≠ '\\' ∧ 0x20 ≤ c.toNat) := by
  unfold escapeChar
  split
  · next same => exact .inl ⟨_, rfl, by decide, by rw [same]; rfl⟩
  split
  · next same => exact .inl ⟨_, rfl, by decide, by rw [same]; rfl⟩
  split
  · next same => exact .inl ⟨_, rfl, by decide, by rw [same]; rfl⟩
  split
  · next same => exact .inl ⟨_, rfl, by decide, by rw [same]; rfl⟩
  split
  · next same => exact .inl ⟨_, rfl, by decide, by rw [same]; rfl⟩
  split
  · next same => exact .inl ⟨_, rfl, by decide, by rw [same]; rfl⟩
  split
  · next same => exact .inl ⟨_, rfl, by decide, by rw [same]; rfl⟩
  split
  · next small => exact .inr (.inl ⟨small, rfl⟩)
  · next noQuote noBackslash _ _ _ _ _ large =>
    exact .inr (.inr ⟨rfl, noQuote, noBackslash, Nat.not_lt.1 large⟩)

theorem readString?_escapeChar (fuel : Nat) (c : Char) (s : List Char) :
    readString? (fuel + 1) (escapeChar c ++ s) =
      (readString? fuel s).map fun (t, rest) => (c :: t, rest) := by
  rcases escapeChar_cases c with ⟨e, isEscape, notUnit, means⟩ | ⟨small, isEscape⟩ |
    ⟨isEscape, noQuote, noBackslash, large⟩
  · rw [isEscape]
    show readString? (fuel + 1) ('\\' :: e :: s) = _
    rw [readString?, means]
    exact fun isUnit => notUnit isUnit
  · rw [isEscape]
    show readString? (fuel + 1) ('\\' :: 'u' ::
      '0' :: '0' :: hexDigit (c.toNat / 16) :: hexDigit (c.toNat % 16) :: s) = _
    rw [readString?, readEscapedUnit?_hexDigit small]
  · rw [isEscape, List.singleton_append, readString?]
    · rw [if_neg]
      rintro (control | backslash)
      · omega
      · exact noBackslash backslash
    · exact noQuote
    · rintro _ rfl
      exact absurd rfl noBackslash
    · rintro _ _ rfl
      exact absurd rfl noBackslash

theorem readString?_flatMap {fuel : Nat} {s : List Char} (rest : List Char)
    (enough : s.length < fuel) :
    readString? fuel (s.flatMap escapeChar ++ '"' :: rest) = some (s, rest) := by
  obtain ⟨fuel, rfl⟩ := Nat.exists_eq_add_of_le' (Nat.zero_lt_of_lt enough)
  induction s generalizing fuel with
  | nil => rfl
  | cons c s inductionHypothesis =>
    rw [List.length_cons] at enough
    obtain ⟨fuel, rfl⟩ := Nat.exists_eq_add_of_le'
      (Nat.zero_lt_of_lt (Nat.lt_of_succ_lt_succ enough))
    rw [List.flatMap_cons, List.append_assoc, readString?_escapeChar,
      inductionHypothesis fuel (by omega)]
    rfl

theorem length_le_length_flatMap (s : List Char) : s.length ≤ (s.flatMap escapeChar).length := by
  induction s with
  | nil => exact Nat.le_refl 0
  | cons c s inductionHypothesis =>
    have atLeastOne : 1 ≤ (escapeChar c).length := by
      rcases escapeChar_cases c with ⟨e, isEscape, -⟩ | ⟨-, isEscape⟩ | ⟨isEscape, -⟩ <;>
        rw [isEscape] <;> simp
    rw [List.flatMap_cons, List.length_append, List.length_cons]
    omega

/-! ## Whole numbers -/

/-- Is the whole number read as it is written, not as a double? -/
def IsKept (n : Int) : Prop := -(magnitudeLimit : Int) ≤ n ∧ n < significandLimit

/-- Does the text go on with no part of a number? -/
def EndsNumber (s : List Char) : Prop :=
  ∀ c ∈ s.head?, c.isDigit = false ∧ c ≠ '.' ∧ c ≠ 'e' ∧ c ≠ 'E'

theorem takeDigits_append (significand taken : Nat) {ds rest : List Char}
    (digits : AllDigits ds) (stop : ∀ c ∈ rest.head?, c.isDigit = false)
    (fits : ds.foldl (fun n c => 10 * n + digitValue c) significand < significandLimit) :
    takeDigits significand taken (ds ++ rest) =
      (ds.foldl (fun n c => 10 * n + digitValue c) significand, taken + ds.length, rest) := by
  induction ds generalizing significand taken with
  | nil =>
    cases rest with
    | nil => rfl
    | cons c rest => simp [takeDigits, stop c rfl]
  | cons c ds inductionHypothesis =>
    rw [List.foldl_cons] at fits ⊢
    -- Further digits never make the number smaller, so it fits at this digit, too.
    have small : 10 * significand + digitValue c < significandLimit := by
      have isSum := foldl_digits (10 * significand + digitValue c) ds
      have grows : 10 * significand + digitValue c ≤
          (10 * significand + digitValue c) * 10 ^ ds.length :=
        Nat.le_mul_of_pos_right _ (by positivity)
      omega
    rw [List.cons_append, takeDigits, if_pos (digits c List.mem_cons_self)]
    simp only
    rw [if_pos small, inductionHypothesis _ (taken + 1)
      (fun d member => digits d (List.mem_cons_of_mem _ member)) fits, List.length_cons]
    congr 2
    omega

theorem readTail?_of_ends {negative : Bool} {k : Nat} {rest : List Char} (ends : EndsNumber rest) :
    readTail? negative k rest =
      if negative then
        if k = 0 ∨ magnitudeLimit < k then some (.float (-(floatOfNat k)), rest)
        else some (.int (-(k : Int)), rest)
      else some (.int k, rest) := by
  cases rest with
  | nil => rfl
  | cons c rest =>
    obtain ⟨-, notPoint, notSmall, notLarge⟩ := ends c rfl
    rw [readTail?]
    · rintro _ ⟨⟩
      exact absurd rfl notPoint
    · rintro _ ⟨⟩
      exact absurd rfl notSmall
    · rintro _ ⟨⟩
      exact absurd rfl notLarge

theorem readUnsigned?_digitsOf (negative : Bool) {k : Nat} (small : k < significandLimit)
    {rest : List Char} (ends : EndsNumber rest) :
    readUnsigned? negative (Layout.digitsOf k ++ rest) = readTail? negative k rest := by
  have stop : ∀ c ∈ rest.head?, c.isDigit = false := fun c isHead => (ends c isHead).1
  rcases Nat.eq_zero_or_pos k with rfl | positive
  · show readUnsigned? negative ('0' :: rest) = _
    cases rest with
    | nil => rfl
    | cons c rest => simp [readUnsigned?, stop c rfl]
  · obtain ⟨c, ds, isCons⟩ := List.exists_cons_of_ne_nil (digitsOf_ne_nil k)
    have digits := allDigits_digitsOf k
    have notZero : c ≠ '0' := by
      rintro rfl
      exact Layout.digitsOf_head positive (by rw [isCons]; rfl)
    have taken := takeDigits_append 0 0 digits stop
      (by rw [← natOfDigits, natOfDigits_digitsOf]; exact small)
    rw [← natOfDigits, natOfDigits_digitsOf] at taken
    have noMore : rest.takeWhile Char.isDigit = [] := by
      cases rest with
      | nil => rfl
      | cons d rest => simp [stop d rfl]
    rw [isCons] at taken digits ⊢
    rw [List.cons_append] at taken ⊢
    rw [readUnsigned?, if_pos (digits c List.mem_cons_self), taken]
    · simp [noMore]
    · exact notZero

end Json

end TableQuery
