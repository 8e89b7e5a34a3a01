import TableQuery.Proofs.Decimal.Bits
import TableQuery.Proofs.Decimal.Value
import TableQuery.Proofs.Numeral.Digits
import TableQuery.Proofs.Text.Ascii

/-! # Reading back the text of a number

Whatever way the digits of a decimal are laid out, with zeros or with an exponent, they are
read as a decimal of the same value.  So the text of a finite double is read as that double,
but that zero loses its sign.
-/

namespace TableQuery.Layout

open Numeral

variable {d : Decimal}

/-! ## Laid out digits -/

/-- Is the text read as a decimal of this value? -/
def ReadsAs (s : List Char) (value : ℚ) : Prop :=
  ∃ d, unsignedDecimal? s = some d ∧ d.value = value

theorem natOfDigits_zeros_append (k : Nat) (ds : List Char) :
    natOfDigits (zeros k ++ ds) = natOfDigits ds := by
  rw [natOfDigits_append, natOfDigits_zeros, Nat.zero_mul, Nat.zero_add]

theorem value_append_zeros (ds : List Char) (k : Nat) :
    Decimal.value ⟨natOfDigits (ds ++ zeros k), 0⟩ = Decimal.value ⟨natOfDigits ds, k⟩ := by
  rw [natOfDigits_append, natOfDigits_zeros, length_zeros, Nat.add_zero, Decimal.value,
    Decimal.value, zpow_zero, mul_one, zpow_natCast]
  push_cast
  rfl

section

variable {ds : List Char} (nonempty : ds ≠ []) (digits : AllDigits ds)

include nonempty digits

omit nonempty in
theorem readsAs_zeros_before (k : Nat) :
    ReadsAs ('0' :: '.' :: (zeros k ++ ds))
      (Decimal.value ⟨natOfDigits ds, -((k + ds.length : Nat) : Int)⟩) := by
  have read : unsignedDecimal? (['0'] ++ '.' :: (zeros k ++ ds)) = _ :=
    unsignedDecimal?_point (List.cons_ne_nil _ _) (allDigits_zeros 1)
      ((allDigits_zeros k).append digits)
  have isDigits : natOfDigits (['0'] ++ (zeros k ++ ds)) = natOfDigits ds :=
    natOfDigits_zeros_append (k + 1) ds
  rw [isDigits, List.length_append, length_zeros] at read
  exact ⟨_, read, rfl⟩

theorem readsAs_zeros_behind (fraction : Bool) (k : Nat) :
    ReadsAs (ds ++ zeros k ++ (if fraction then ['.', '0'] else []))
      (Decimal.value ⟨natOfDigits ds, k⟩) := by
  have nonempty' : ds ++ zeros k ≠ [] := by simp [nonempty]
  have digits' := digits.append (allDigits_zeros k)
  cases fraction with
  | false =>
    refine ⟨_, ?_, value_append_zeros ds k⟩
    rw [if_neg Bool.false_ne_true, List.append_nil]
    exact unsignedDecimal?_digits nonempty' digits'
  | true =>
    refine ⟨_, unsignedDecimal?_point nonempty' digits' (allDigits_zeros 1), ?_⟩
    have isLast : natOfDigits (ds ++ zeros k ++ ['0']) = natOfDigits (ds ++ zeros k) * 10 :=
      natOfDigits_append (ds ++ zeros k) ['0']
    rw [← value_append_zeros ds k, isLast, Decimal.value, Decimal.value, List.length_singleton,
      Nat.cast_mul, Nat.cast_one, zpow_neg_one, zpow_zero, mul_one, Nat.cast_ofNat, mul_assoc,
      mul_inv_cancel₀ (by norm_num), mul_one]

omit nonempty in
theorem readsAs_point {n : Nat} (positive : 0 < n) (within : n < ds.length) :
    ReadsAs (ds.take n ++ '.' :: ds.drop n)
      (Decimal.value ⟨natOfDigits ds, -((ds.length - n : Nat) : Int)⟩) := by
  have nonempty' : ds.take n ≠ [] := by
    rw [← List.length_pos_iff, List.length_take]
    omega
  have digits' : AllDigits (ds.drop n) := fun c member => digits c (List.mem_of_mem_drop member)
  have read := unsignedDecimal?_point nonempty'
    (fun c member => digits c (List.mem_of_mem_take member)) digits'
  rw [List.take_append_drop, List.length_drop] at read
  exact ⟨_, read, rfl⟩

/-- Digits that are written out are read with the place of their point. -/
theorem readsAs_plain (fraction : Bool) (exp : Int) :
    ReadsAs (plain fraction ds (ds.length + exp)) (Decimal.value ⟨natOfDigits ds, exp⟩) := by
  rw [plain]
  split
  · next early =>
    have read := readsAs_zeros_before digits (-(ds.length + exp)).toNat
    have isExp : -(((-(ds.length + exp)).toNat + ds.length : Nat) : Int) = exp := by omega
    rwa [isExp] at read
  · split
    · next late =>
      have read := readsAs_zeros_behind nonempty digits fraction
        ((ds.length + exp).toNat - ds.length)
      have isExp : (((ds.length + exp).toNat - ds.length : Nat) : Int) = exp := by omega
      rwa [isExp] at read
    · next notEarly notLate =>
      have within : (ds.length + exp).toNat < ds.length := by omega
      have read := readsAs_point digits (by omega) within
      have isExp : -((ds.length - (ds.length + exp).toNat : Nat) : Int) = exp := by omega
      rwa [isExp] at read

theorem readsAs_scientific (exponent : Int) :
    ReadsAs (scientific ds exponent)
      (Decimal.value ⟨natOfDigits ds, exponent - (ds.length - 1 : Nat)⟩) := by
  have isExponent : exponent? ('e' :: (if exponent < 0 then '-' else '+') ::
      digitsOf exponent.natAbs) = some exponent := by
    have read := exponent?_digitsOf (exponent < 0) exponent.natAbs
    simp only [decide_eq_true_eq] at read
    rw [read]
    congr 1
    split <;> omega
  have stop : ∀ c ∈ ('e' :: (if exponent < 0 then '-' else '+') ::
      digitsOf exponent.natAbs).head?, c.isDigit = false ∧ c ≠ '.' := by
    rintro c ⟨⟩
    decide
  match ds, nonempty with
  | [d], _ =>
    refine ⟨_, unsignedDecimal?_whole _ (List.cons_ne_nil _ _) digits stop isExponent, ?_⟩
    simp
  | d :: next :: more, _ =>
    have first : AllDigits [d] := fun c member => digits c (by simp_all)
    have others : AllDigits (next :: more) := fun c member =>
      digits c (List.mem_cons_of_mem _ member)
    exact ⟨_, unsignedDecimal?_fraction _ (List.cons_ne_nil d []) first others
      (fun c isHead => (stop c isHead).1) isExponent, rfl⟩

end

theorem readsAs_renderDecimal (l : Layout) (d : Decimal) : ReadsAs (l.renderDecimal d) d.value := by
  have nonempty := digitsOf_ne_nil d.digits
  have digits := allDigits_digitsOf d.digits
  rw [renderDecimal]
  split
  · have read := readsAs_plain nonempty digits l.fraction d.exp
    rwa [natOfDigits_digitsOf] at read
  · have read := readsAs_scientific nonempty digits ((digitsOf d.digits).length + d.exp - 1)
    have positive := List.length_pos_iff.2 nonempty
    have isExp : ((digitsOf d.digits).length + d.exp - 1 -
        ((digitsOf d.digits).length - 1 : Nat) : Int) = d.exp := by omega
    rwa [natOfDigits_digitsOf, isExp] at read

/-! ## The characters of a text -/

/-- Is the character a digit or one of the others that stand in numerals? -/
def InNumeral (c : Char) : Prop := c.isDigit = true ∨ c ∈ ['.', 'e', '-', '+']

theorem inNumeral_of_mem_plain {fraction : Bool} {ds : List Char} (digits : AllDigits ds)
    {point : Int} {c : Char} (member : c ∈ plain fraction ds point) : InNumeral c := by
  have inZeros : ∀ k, c ∈ zeros k → InNumeral c := fun k inZeros =>
    .inl (allDigits_zeros k c inZeros)
  rw [plain] at member
  split at member
  · simp only [List.mem_append, List.mem_cons] at member
    rcases member with (rfl | rfl | behind) | inDigits
    · exact .inl rfl
    · exact .inr (by simp)
    · exact inZeros _ behind
    · exact .inl (digits c inDigits)
  · split at member
    · simp only [List.mem_append] at member
      rcases member with (inDigits | behind) | inFraction
      · exact .inl (digits c inDigits)
      · exact inZeros _ behind
      · cases fraction with
        | false => cases inFraction
        | true =>
          simp only [if_true, List.mem_cons, List.not_mem_nil, or_false] at inFraction
          rcases inFraction with rfl | rfl
          · exact .inr (by simp)
          · exact .inl rfl
    · simp only [List.mem_append, List.mem_cons] at member
      rcases member with inDigits | rfl | inDigits
      · exact .inl (digits c (List.mem_of_mem_take inDigits))
      · exact .inr (by simp)
      · exact .inl (digits c (List.mem_of_mem_drop inDigits))

theorem inNumeral_of_mem_scientific {ds : List Char} (digits : AllDigits ds) {exponent : Int}
    {c : Char} (member : c ∈ scientific ds exponent) : InNumeral c := by
  have inTail : c ∈ 'e' :: (if exponent < 0 then '-' else '+') :: digitsOf exponent.natAbs →
      InNumeral c := by
    simp only [List.mem_cons]
    rintro (rfl | rfl | inDigits)
    · exact .inr (by simp)
    · refine .inr ?_
      split <;> simp
    · exact .inl (allDigits_digitsOf _ c inDigits)
  unfold scientific at member
  cases List.mem_append.1 member with
  | inl inMantissa =>
    match ds, digits, inMantissa with
    | [d], digits, inMantissa => exact .inl (digits c inMantissa)
    | d :: next :: more, digits, inMantissa =>
      rcases List.mem_cons.1 inMantissa with rfl | inMore
      · exact .inl (digits c List.mem_cons_self)
      · rcases List.mem_cons.1 inMore with rfl | inRest
        · exact .inr (by simp)
        · exact .inl (digits c (List.mem_cons_of_mem _ inRest))
  | inr behind => exact inTail behind

theorem inNumeral_of_mem_renderDecimal {l : Layout} {d : Decimal} {c : Char}
    (member : c ∈ l.renderDecimal d) : InNumeral c := by
  have digits := allDigits_digitsOf d.digits
  rw [renderDecimal] at member
  split at member
  · exact inNumeral_of_mem_plain digits member
  · exact inNumeral_of_mem_scientific digits member

theorem renderDecimal_head (l : Layout) (d : Decimal) :
    ∃ c rest, l.renderDecimal d = c :: rest ∧ c.isDigit = true := by
  obtain ⟨c, more, isCons⟩ := List.exists_cons_of_ne_nil (digitsOf_ne_nil d.digits)
  have digit : c.isDigit = true := allDigits_digitsOf d.digits c (by simp [isCons])
  rw [renderDecimal, isCons]
  split
  · rw [plain]
    split
    · exact ⟨'0', _, rfl, rfl⟩
    · next late =>
      split
      · exact ⟨c, _, rfl, digit⟩
      · obtain ⟨n, isSucc⟩ := Nat.exists_eq_succ_of_ne_zero
          (n := (((c :: more).length : Int) + d.exp).toNat) (by omega)
        rw [isSucc]
        exact ⟨c, _, rfl, digit⟩
  · cases more with
    | nil => exact ⟨c, _, rfl, digit⟩
    | cons next more => exact ⟨c, _, rfl, digit⟩

end TableQuery.Layout

namespace TableQuery.Numeral

open Layout

variable {x : Float}

/-! ## Texts of numbers -/

/-- The text of a finite double: zero without a sign, or a sign and the shortest decimal. -/
theorem toList_text (finite : x.isFinite = true) :
    (text x).toList =
      if Double.magnitude x = 0 then ['0']
      else (if Decimal.signBits ≤ x.toBits.toNat then ['-'] else []) ++
        layout.renderDecimal (Decimal.shortest .away (Double.magnitude x)) := by
  have small := Double.magnitude_lt_infinityBits finite
  have notBeyond : ¬ Decimal.infinityBits < Double.magnitude x := Nat.not_lt.2 small.le
  rw [text, String.toList_ofList, render]
  show layout.renderBits (Decimal.signBits ≤ x.toBits.toNat) (Double.magnitude x) = _
  rw [renderBits, if_neg notBeyond, if_neg small.ne]
  simp only [decide_eq_true_eq]
  congr 1
  simp [layout]

/-- Zero keeps no sign in a text. -/
def withoutZeroSign (x : Float) : Float := if x == 0 then 0 else x

/-- The text of a finite double is read as that double, but for the sign of zero. -/
theorem decimal?_text (finite : x.isFinite = true) :
    decimal? (text x).toList = some (withoutZeroSign x) := by
  rw [toList_text finite, withoutZeroSign]
  simp only [Double.beq_zero_iff finite]
  split
  · rfl
  · obtain ⟨d, isRead, isValue⟩ :=
      readsAs_renderDecimal layout (Decimal.shortest .away (Double.magnitude x))
    obtain ⟨c, rest, isCons, digit⟩ :=
      renderDecimal_head layout (Decimal.shortest .away (Double.magnitude x))
    -- Reading gives some decimal of the same value, and the value is all that counts.
    have isBits : d.toBits = Double.magnitude x := by
      rw [Decimal.toBits_congr isValue]
      exact Decimal.toBits_shortest .away (Double.magnitude_lt_infinityBits finite)
    have isDouble := Double.floatOfBits_magnitude finite
    split
    · next negative =>
      rw [List.singleton_append, decimal?_of_minus, isRead, Option.map_some, Decimal.toFloat,
        isBits]
      rw [decide_eq_true negative] at isDouble
      rw [isDouble]
    · next notNegative =>
      rw [List.nil_append, isCons, decimal?_of_digit digit, ← isCons, isRead, Option.map_some,
        Decimal.toFloat, isBits]
      rw [decide_eq_false notNegative] at isDouble
      rw [isDouble]

theorem inNumeral_of_mem_text (finite : x.isFinite = true) {c : Char}
    (member : c ∈ (text x).toList) : InNumeral c := by
  rw [toList_text finite] at member
  split at member
  · rw [List.mem_singleton.1 member]
    exact .inl rfl
  · cases List.mem_append.1 member with
    | inl inSign =>
      split at inSign
      · rw [List.mem_singleton.1 inSign]
        exact .inr (by simp)
      · cases inSign
    | inr inDecimal => exact inNumeral_of_mem_renderDecimal inDecimal

theorem text_head (finite : x.isFinite = true) :
    ∃ c rest, (text x).toList = c :: rest ∧ (c.isDigit = true ∨ c = '-') := by
  obtain ⟨c, rest, isCons, digit⟩ :=
    renderDecimal_head layout (Decimal.shortest .away (Double.magnitude x))
  rw [toList_text finite, isCons]
  split
  · exact ⟨'0', [], rfl, .inl rfl⟩
  · split
    · exact ⟨'-', _, rfl, .inr rfl⟩
    · exact ⟨c, rest, rfl, .inl digit⟩

theorem isBlank_of_inNumeral {c : Char} (inNumeral : Layout.InNumeral c) :
    Text.isBlank c = false := by
  cases inNumeral with
  | inl digit => exact Text.isBlank_of_isDigit digit
  | inr other =>
    revert c
    decide

theorem trim_text (finite : x.isFinite = true) : Text.trim (text x).toList = (text x).toList :=
  Text.trim_eq_self_of_solid fun _ member =>
    isBlank_of_inNumeral (inNumeral_of_mem_text finite member)

end TableQuery.Numeral
