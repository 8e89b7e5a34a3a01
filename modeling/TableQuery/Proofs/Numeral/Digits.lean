import TableQuery.Numeral
import TableQuery.Proofs.Text.Plain

/-! # Digits in numerals

What digits write, and how a numeral is taken apart: the digits up to the point, those behind
it, and the exponent that follows.
-/

namespace TableQuery.Numeral

/-- Are these ASCII digits? -/
def AllDigits (ds : List Char) : Prop := ∀ c ∈ ds, c.isDigit = true

theorem AllDigits.append {ds es : List Char} (digits : AllDigits ds) (digits' : AllDigits es) :
    AllDigits (ds ++ es) := fun c member =>
  (List.mem_append.1 member).elim (digits c) (digits' c)

/-! ## The natural that digits write -/

theorem foldl_digits (n : Nat) (ds : List Char) :
    ds.foldl (fun n c => 10 * n + digitValue c) n = n * 10 ^ ds.length + natOfDigits ds := by
  induction ds generalizing n with
  | nil => simp [natOfDigits]
  | cons c ds inductionHypothesis =>
    have here : natOfDigits (c :: ds) = digitValue c * 10 ^ ds.length + natOfDigits ds := by
      rw [natOfDigits, List.foldl_cons, inductionHypothesis, Nat.mul_zero, Nat.zero_add]
    rw [List.foldl_cons, inductionHypothesis, here, List.length_cons, Nat.pow_succ, Nat.add_mul,
      Nat.add_assoc, Nat.mul_comm 10 n, Nat.mul_assoc, Nat.mul_comm 10]

theorem natOfDigits_append (ds es : List Char) :
    natOfDigits (ds ++ es) = natOfDigits ds * 10 ^ es.length + natOfDigits es := by
  rw [natOfDigits, List.foldl_append, foldl_digits]
  rfl

@[simp] theorem natOfDigits_zeros (k : Nat) : natOfDigits (Layout.zeros k) = 0 := by
  induction k with
  | zero => rfl
  | succ k inductionHypothesis => exact inductionHypothesis

@[simp] theorem length_zeros (k : Nat) : (Layout.zeros k).length = k := List.length_replicate

theorem allDigits_zeros (k : Nat) : AllDigits (Layout.zeros k) := by
  intro c member
  rw [List.eq_of_mem_replicate member]
  rfl

theorem allDigits_digitsOf (n : Nat) : AllDigits (Layout.digitsOf n) := fun _ member =>
  Nat.isDigit_of_mem_toDigits (by decide) (by decide) member

theorem digitsOf_ne_nil (n : Nat) : Layout.digitsOf n ≠ [] := Nat.toDigits_ne_nil

@[simp] theorem natOfDigits_digitsOf (n : Nat) : natOfDigits (Layout.digitsOf n) = n := by
  have same : natOfDigits (Layout.digitsOf n) = Nat.ofDigitChars 10 (Layout.digitsOf n) 0 := by
    rw [natOfDigits, Nat.ofDigitChars_eq_foldl]
    refine List.foldl_ext _ _ _ fun acc c member => ?_
    rw [digitValue, if_pos (allDigits_digitsOf n c member)]
  rw [same]
  exact Nat.ofDigitChars_ten_toDigits

/-! ## Taking a numeral apart -/

theorem splitDigits_append (ds rest : List Char) (digits : AllDigits ds)
    (stop : ∀ c ∈ rest.head?, c.isDigit = false) : splitDigits (ds ++ rest) = (ds, rest) := by
  have notTaken : rest.takeWhile Char.isDigit = [] := by
    cases rest with
    | nil => rfl
    | cons c rest => simp [stop c rfl]
  rw [splitDigits, List.takeWhile_append_of_pos digits, List.dropWhile_append_of_pos digits,
    notTaken, List.append_nil, Text.dropWhile_eq_self stop]

theorem mantissa?_whole {whole rest : List Char} (nonempty : whole ≠ []) (digits : AllDigits whole)
    (stop : ∀ c ∈ rest.head?, c.isDigit = false ∧ c ≠ '.') :
    mantissa? (whole ++ rest) = some (whole, [], rest) := by
  simp only [mantissa?, splitDigits_append whole rest digits fun c isHead => (stop c isHead).1]
  cases rest with
  | nil => simp [nonempty]
  | cons c rest =>
    have notPoint := (stop c rfl).2
    simp [nonempty, notPoint]

theorem mantissa?_point {whole part rest : List Char} (nonempty : whole ≠ [] ∨ part ≠ [])
    (digits : AllDigits whole) (digits' : AllDigits part)
    (stop : ∀ c ∈ rest.head?, c.isDigit = false) :
    mantissa? (whole ++ '.' :: (part ++ rest)) = some (whole, part, rest) := by
  have notEmpty : ¬ (whole = [] ∧ part = []) := by
    intro ⟨noWhole, noPart⟩
    exact nonempty.elim (· noWhole) (· noPart)
  rw [mantissa?, splitDigits_append whole _ digits (by rintro c ⟨⟩; rfl)]
  simp [splitDigits_append part rest digits' stop, notEmpty]

theorem unsignedDecimal?_whole {whole : List Char} (rest : List Char) {e : Int}
    (nonempty : whole ≠ []) (digits : AllDigits whole)
    (stop : ∀ c ∈ rest.head?, c.isDigit = false ∧ c ≠ '.')
    (isExponent : exponent? rest = some e) :
    unsignedDecimal? (whole ++ rest) = some ⟨natOfDigits whole, e⟩ := by
  rw [unsignedDecimal?, mantissa?_whole nonempty digits stop]
  simp [isExponent]

theorem unsignedDecimal?_fraction {whole part : List Char} (rest : List Char) {e : Int}
    (nonempty : whole ≠ []) (digits : AllDigits whole) (digits' : AllDigits part)
    (stop : ∀ c ∈ rest.head?, c.isDigit = false) (isExponent : exponent? rest = some e) :
    unsignedDecimal? (whole ++ '.' :: (part ++ rest)) =
      some ⟨natOfDigits (whole ++ part), e - part.length⟩ := by
  rw [unsignedDecimal?, mantissa?_point (.inl nonempty) digits digits' stop]
  simp [isExponent]

theorem unsignedDecimal?_digits {whole : List Char} (nonempty : whole ≠ [])
    (digits : AllDigits whole) : unsignedDecimal? whole = some ⟨natOfDigits whole, 0⟩ := by
  have read := unsignedDecimal?_whole [] nonempty digits (by simp) rfl
  rwa [List.append_nil] at read

theorem unsignedDecimal?_point {whole part : List Char} (nonempty : whole ≠ [])
    (digits : AllDigits whole) (digits' : AllDigits part) :
    unsignedDecimal? (whole ++ '.' :: part) =
      some ⟨natOfDigits (whole ++ part), -(part.length : Int)⟩ := by
  have read := unsignedDecimal?_fraction [] nonempty digits digits' (by simp) rfl
  rwa [List.append_nil, Int.zero_sub] at read

theorem exponent?_digitsOf (negative : Bool) (n : Nat) :
    exponent? ('e' :: (if negative then '-' else '+') :: Layout.digitsOf n) =
      some (if negative then -(n : Int) else n) := by
  have notEmpty : (Layout.digitsOf n).isEmpty = false := by simpa using digitsOf_ne_nil n
  have digits : (Layout.digitsOf n).all Char.isDigit = true := by
    rw [List.all_eq_true]
    exact allDigits_digitsOf n
  cases negative <;> simp [exponent?, splitSign, notEmpty, digits]

theorem unsigned_of_isDigit {c : Char} (digit : c.isDigit = true) : c ≠ '-' ∧ c ≠ '+' := by
  constructor
  · rintro rfl
    exact absurd digit (by decide)
  · rintro rfl
    exact absurd digit (by decide)

theorem splitSign_of_unsigned {s : List Char} (unsigned : ∀ c ∈ s.head?, c ≠ '-' ∧ c ≠ '+') :
    splitSign s = (false, s) := by
  rw [splitSign]
  · rintro rest rfl
    exact (unsigned '-' rfl).1 rfl
  · rintro rest rfl
    exact (unsigned '+' rfl).2 rfl

theorem decimal?_of_unsigned {s : List Char} (unsigned : ∀ c ∈ s.head?, c ≠ '-' ∧ c ≠ '+') :
    decimal? s = (unsignedDecimal? s).map (Decimal.toFloat false) := by
  rw [decimal?, splitSign_of_unsigned unsigned]

theorem decimal?_of_digit {c : Char} (digit : c.isDigit = true) (rest : List Char) :
    decimal? (c :: rest) = (unsignedDecimal? (c :: rest)).map (Decimal.toFloat false) := by
  refine decimal?_of_unsigned ?_
  rintro d ⟨⟩
  exact unsigned_of_isDigit digit

theorem decimal?_of_minus (rest : List Char) :
    decimal? ('-' :: rest) = (unsignedDecimal? rest).map (Decimal.toFloat true) := rfl

end TableQuery.Numeral
