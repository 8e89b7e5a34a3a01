import Mathlib
import TableQuery.Proofs.Numeral.Choice

/-! # The texts that count as numbers

The grammar of numerals, apart from how they are read: decimals, infinities and literals in a
base.  Between its blanks a text is a numeral or empty just if it counts as a number, and a
literal in a base below `2 ^ 53` counts as the number that its digits write.
-/

namespace TableQuery.Numeral

/-! ## The grammar -/

inductive IsSign : List Char → Prop where
  | absent : IsSign []
  | plus : IsSign ['+']
  | minus : IsSign ['-']

/-- Digits with an optional point and optional digits behind it, or a point and digits. -/
inductive IsMantissa : List Char → Prop where
  | whole {ds : List Char} (nonempty : ds ≠ []) (digits : AllDigits ds) : IsMantissa ds
  | point {ds es : List Char} (nonempty : ds ≠ []) (digits : AllDigits ds)
      (digits' : AllDigits es) : IsMantissa (ds ++ '.' :: es)
  | fraction {es : List Char} (nonempty : es ≠ []) (digits : AllDigits es) : IsMantissa ('.' :: es)

inductive IsExponent : List Char → Prop where
  | absent : IsExponent []
  | power {letter : Char} {sign ds : List Char} (isLetter : letter = 'e' ∨ letter = 'E')
      (isSign : IsSign sign) (nonempty : ds ≠ []) (digits : AllDigits ds) :
      IsExponent (letter :: (sign ++ ds))

/-- Is the text a numeral, without blanks around it? -/
inductive IsNumeral : List Char → Prop where
  | decimal {sign mantissa exponent : List Char} (isSign : IsSign sign)
      (isMantissa : IsMantissa mantissa) (isExponent : IsExponent exponent) :
      IsNumeral (sign ++ (mantissa ++ exponent))
  | infinity {sign : List Char} (isSign : IsSign sign) : IsNumeral (sign ++ "Infinity".toList)
  | radix {base : Nat} {values : List Nat} {s : List Char}
      (literal : IsRadixLiteral base values s) : IsNumeral s

/-! ## Parts of a decimal -/

theorem exists_isSign (s : List Char) : ∃ sign, IsSign sign ∧ s = sign ++ (splitSign s).2 := by
  unfold splitSign
  split
  · exact ⟨['-'], .minus, rfl⟩
  · exact ⟨['+'], .plus, rfl⟩
  · exact ⟨[], .absent, rfl⟩

theorem splitSign_append {sign s : List Char} (isSign : IsSign sign)
    (unsigned : ∀ c ∈ s.head?, c ≠ '-' ∧ c ≠ '+') : (splitSign (sign ++ s)).2 = s := by
  cases isSign with
  | absent =>
    rw [List.nil_append, splitSign_of_unsigned unsigned]
  | plus => rfl
  | minus => rfl

theorem AllDigits.unsigned {ds : List Char} (digits : AllDigits ds) :
    ∀ c ∈ ds.head?, c ≠ '-' ∧ c ≠ '+' :=
  fun c isHead => unsigned_of_isDigit (digits c (List.mem_of_mem_head? isHead))

theorem isSome_exponent?_iff {s : List Char} : (exponent? s).isSome = true ↔ IsExponent s := by
  constructor
  · intro isSome
    cases s with
    | nil => exact .absent
    | cons letter rest =>
      obtain ⟨sign, isSign, isRest⟩ := exists_isSign rest
      rw [exponent?] at isSome
      split at isSome
      · next isLetter =>
        simp only at isSome
        split at isSome
        · cases isSome
        · next digits =>
          simp only [Bool.or_eq_true, List.isEmpty_iff, Bool.not_eq_true', not_or,
            Bool.not_eq_false, List.all_eq_true] at digits
          rw [isRest]
          exact .power isLetter isSign digits.1 digits.2
      · cases isSome
  · intro isExponent
    cases isExponent with
    | absent => rfl
    | @power letter sign ds isLetter isSign nonempty digits =>
      have all : ds.all Char.isDigit = true := List.all_eq_true.2 digits
      have isRest := splitSign_append isSign digits.unsigned
      simp [exponent?, isLetter, isRest, nonempty, all]

theorem IsExponent.head {s : List Char} (isExponent : IsExponent s) :
    ∀ c ∈ s.head?, c.isDigit = false ∧ c ≠ '.' := by
  cases isExponent with
  | absent => simp
  | power isLetter =>
    rintro c ⟨⟩
    rcases isLetter with rfl | rfl <;> decide

theorem of_splitDigits {s ds rest : List Char} (isSplit : splitDigits s = (ds, rest)) :
    s = ds ++ rest ∧ AllDigits ds := by
  rw [splitDigits, Prod.mk.injEq] at isSplit
  obtain ⟨rfl, rfl⟩ := isSplit
  exact ⟨List.takeWhile_append_dropWhile.symm, fun _ => List.mem_takeWhile_imp⟩

theorem exists_isMantissa {s whole part rest : List Char}
    (found : mantissa? s = some (whole, part, rest)) :
    ∃ mantissa, IsMantissa mantissa ∧ s = mantissa ++ rest := by
  obtain ⟨ds, behind, isSplit⟩ : ∃ ds behind, splitDigits s = (ds, behind) := ⟨_, _, rfl⟩
  obtain ⟨rfl, digits⟩ := of_splitDigits isSplit
  rw [mantissa?, isSplit] at found
  simp only at found
  split at found
  · next more =>
    obtain ⟨es, left, isSplit'⟩ : ∃ es left, splitDigits more = (es, left) := ⟨_, _, rfl⟩
    obtain ⟨rfl, digits'⟩ := of_splitDigits isSplit'
    rw [isSplit'] at found
    simp only at found
    split at found
    · cases found
    · next someDigit =>
      cases found
      refine ⟨whole ++ '.' :: part, ?_, by rw [List.append_assoc, List.cons_append]⟩
      by_cases noWhole : whole = []
      · subst noWhole
        exact .fraction (by simpa using someDigit) digits'
      · exact .point noWhole digits digits'
  · split at found
    · cases found
    · next nonempty =>
      cases found
      exact ⟨whole, .whole (by simpa using nonempty) digits, rfl⟩

theorem IsMantissa.exists_mantissa? {mantissa rest : List Char} (isMantissa : IsMantissa mantissa)
    (stop : ∀ c ∈ rest.head?, c.isDigit = false ∧ c ≠ '.') :
    ∃ whole part, mantissa? (mantissa ++ rest) = some (whole, part, rest) := by
  have stop' : ∀ c ∈ rest.head?, c.isDigit = false := fun c isHead => (stop c isHead).1
  have noDigits : AllDigits [] := by simp [AllDigits]
  cases isMantissa with
  | whole nonempty digits => exact ⟨_, _, mantissa?_whole nonempty digits stop⟩
  | point nonempty digits digits' =>
    rw [List.append_assoc]
    exact ⟨_, _, mantissa?_point (.inl nonempty) digits digits' stop'⟩
  | fraction nonempty digits =>
    exact ⟨_, _, mantissa?_point (.inr nonempty) noDigits digits stop'⟩

theorem IsMantissa.unsigned {mantissa : List Char} (isMantissa : IsMantissa mantissa)
    (rest : List Char) : ∀ c ∈ (mantissa ++ rest).head?, c ≠ '-' ∧ c ≠ '+' := by
  have ofDigits : ∀ {ds : List Char} (more : List Char), ds ≠ [] → AllDigits ds →
      ∀ c ∈ (ds ++ more).head?, c ≠ '-' ∧ c ≠ '+' := by
    intro ds more nonempty digits c isHead
    rw [List.head?_append_of_ne_nil ds nonempty] at isHead
    exact digits.unsigned c isHead
  cases isMantissa with
  | whole nonempty digits => exact ofDigits rest nonempty digits
  | point nonempty digits =>
    rw [List.append_assoc]
    exact ofDigits _ nonempty digits
  | fraction =>
    rintro c ⟨⟩
    decide

/-! ## Kinds of numerals -/

theorem isSome_decimal?_iff {s : List Char} : (decimal? s).isSome = true ↔
    ∃ sign mantissa exponent, IsSign sign ∧ IsMantissa mantissa ∧ IsExponent exponent ∧
      s = sign ++ (mantissa ++ exponent) := by
  constructor
  · intro isSome
    obtain ⟨sign, isSign, isRest⟩ := exists_isSign s
    rw [decimal?, Option.isSome_map, unsignedDecimal?] at isSome
    split at isSome
    · cases isSome
    · next whole part rest found =>
      obtain ⟨mantissa, isMantissa, isSplit⟩ := exists_isMantissa found
      rw [Option.isSome_map] at isSome
      exact ⟨sign, mantissa, rest, isSign, isMantissa, isSome_exponent?_iff.1 isSome,
        isRest.trans (congrArg _ isSplit)⟩
  · rintro ⟨sign, mantissa, exponent, isSign, isMantissa, isExponent, rfl⟩
    obtain ⟨whole, part, found⟩ := isMantissa.exists_mantissa? isExponent.head
    rw [decimal?, Option.isSome_map, splitSign_append isSign (isMantissa.unsigned exponent),
      unsignedDecimal?, found]
    simp only [Option.isSome_map]
    exact isSome_exponent?_iff.2 isExponent

theorem isSome_infinity?_iff {s : List Char} : (infinity? s).isSome = true ↔
    ∃ sign, IsSign sign ∧ s = sign ++ "Infinity".toList := by
  rw [infinity?]
  simp only [Option.isSome_ite]
  constructor
  · intro isWord
    obtain ⟨sign, isSign, isRest⟩ := exists_isSign s
    exact ⟨sign, isSign, isWord ▸ isRest⟩
  · rintro ⟨sign, isSign, rfl⟩
    exact splitSign_append isSign (by rintro c ⟨⟩; decide)

theorem isSome_value?_iff {s : List Char} : (value? s).isSome = true ↔ IsNumeral s := by
  have isChoice : (value? s).isSome = true ↔
      (radix? s).isSome = true ∨ (infinity? s).isSome = true ∨ (decimal? s).isSome = true := by
    simp [value?]
  rw [isChoice, isSome_radix?_iff, isSome_infinity?_iff, isSome_decimal?_iff]
  -- Each kind of literal has its own reader, and its own constructor.
  constructor
  · rintro (⟨base, values, literal⟩ | ⟨sign, isSign, rfl⟩ |
      ⟨sign, mantissa, exponent, isSign, isMantissa, isExponent, rfl⟩)
    · exact .radix literal
    · exact .infinity isSign
    · exact .decimal isSign isMantissa isExponent
  · intro isNumeral
    cases isNumeral with
    | radix literal => exact .inl ⟨_, _, literal⟩
    | infinity isSign => exact .inr (.inl ⟨_, isSign, rfl⟩)
    | decimal isSign isMantissa isExponent =>
      exact .inr (.inr ⟨_, _, _, isSign, isMantissa, isExponent, rfl⟩)

/-! ## Numbers -/

theorem isNaN_toFloat (negative : Bool) (d : Decimal) :
    (Decimal.toFloat negative d).isNaN = false :=
  Double.isNaN_floatOfBits negative (Double.toBits_le_infinityBits d)

theorem isNaN_of_radix? {s : List Char} {x : Float} (isValue : radix? s = some x) :
    x.isNaN = false := by
  obtain ⟨base, values, literal⟩ := isSome_radix?_iff.1 (Option.isSome_of_eq_some isValue)
  rw [radix?_of_isRadixLiteral literal] at isValue
  cases isValue
  exact isNaN_toFloat false _

theorem isNaN_of_infinity? {s : List Char} {x : Float} (isValue : infinity? s = some x) :
    x.isNaN = false := by
  rw [infinity?] at isValue
  simp only at isValue
  split at isValue
  · cases isValue
    exact Double.isNaN_floatOfBits _ (Nat.le_refl _)
  · cases isValue

theorem isNaN_of_decimal? {s : List Char} {x : Float} (isValue : decimal? s = some x) :
    x.isNaN = false := by
  obtain ⟨d, -, rfl⟩ := Option.map_eq_some_iff.1 isValue
  exact isNaN_toFloat _ d

theorem isNaN_of_value? {s : List Char} {x : Float} (isValue : value? s = some x) :
    x.isNaN = false := by
  simp only [value?, Option.orElse_eq_orElse, Option.orElse_eq_or, Option.or_eq_some_iff] at isValue
  obtain isRadix | ⟨-, isInfinity | ⟨-, isDecimal⟩⟩ := isValue
  · exact isNaN_of_radix? isRadix
  · exact isNaN_of_infinity? isInfinity
  · exact isNaN_of_decimal? isDecimal

theorem ofText_eq (s : String) : ofText s =
    if Text.trim s.toList = [] then 0 else (value? (Text.trim s.toList)).getD notANumber := by
  rw [ofText, ofChars]
  simp only [List.isEmpty_iff]

theorem isNaN_ofText_iff {s : String} (nonempty : Text.trim s.toList ≠ []) :
    (ofText s).isNaN = false ↔ IsNumeral (Text.trim s.toList) := by
  rw [ofText_eq, if_neg nonempty, ← isSome_value?_iff]
  cases isValue : value? (Text.trim s.toList) with
  | none =>
    have noNumber : notANumber.isNaN = true := rfl
    rw [Option.getD_none, noNumber]
    exact iff_of_false Bool.true_eq_false.mp Bool.false_ne_true
  | some x => exact iff_of_true (isNaN_of_value? isValue) rfl

/-- A text counts as a number just if it is empty between its blanks, which is zero, or a numeral
    there.  It is enough to take the first kind of literal off its front that is found, and to
    look whether anything is left.  A literal in a base counts as what its digits write, if that
    is below `2 ^ 53`. -/
theorem isNumber_ofText_iff_isNumeral (s : String) :
    ((ofText s).isNaN = false ↔ Text.trim s.toList = [] ∨ IsNumeral (Text.trim s.toList)) ∧
    (Text.trim s.toList = [] → ofText s = 0) ∧
    (Text.trim s.toList ≠ [] →
      ofText s = (whole? (takeLiteral? (Text.trim s.toList))).getD notANumber) ∧
    ∀ base values, IsRadixLiteral base values (Text.trim s.toList) →
      Nat.ofDigits base values.reverse < 2 ^ 53 →
      (ofText s).isFinite = true ∧ Double.value (ofText s) = Nat.ofDigits base values.reverse := by
  have isZero : Text.trim s.toList = [] → ofText s = 0 := fun empty => by
    rw [ofText_eq, if_pos empty]
  refine ⟨?_, isZero, fun nonempty => ?_, fun base values literal small => ?_⟩
  · by_cases empty : Text.trim s.toList = []
    · rw [isZero empty]
      exact iff_of_true rfl (.inl empty)
    · rw [isNaN_ofText_iff empty]
      simp [empty]
  · rw [ofText_eq, if_neg nonempty, value?_eq_whole?]
  · rw [ofText_eq, if_neg literal.ne_nil, value?, radix?_of_small literal small]
    exact Double.value_floatOfNat small

/-- A literal in base 16 between blanks, and a decimal whose exponent has no digits. -/
theorem isNumber_ofText_iff_isNumeral_thirtyOne :
    IsRadixLiteral 16 [1, 15] (Text.trim " 0x1F\n".toList) ∧ Nat.ofDigits 16 [15, 1] = 31 ∧
      (ofText " 0x1F\n").isNaN = false ∧ Double.value (ofText " 0x1F\n") = 31 ∧
      ¬ IsNumeral (Text.trim "1e".toList) := by
  have isText : Text.trim " 0x1F\n".toList = ['0', 'x', '1', 'F'] := by decide +kernel
  have literal : IsRadixLiteral 16 [1, 15] (Text.trim " 0x1F\n".toList) := by
    rw [isText]
    exact .intro (by simp [baseLetters]) (List.cons_ne_nil _ _)
      (.cons ⟨by decide, .inl rfl⟩ (.cons ⟨by decide, .inr rfl⟩ .nil))
  obtain ⟨isNumber, -, -, exact⟩ := isNumber_ofText_iff_isNumeral " 0x1F\n"
  obtain ⟨isNumber', -, -, -⟩ := isNumber_ofText_iff_isNumeral "1e"
  have noNumber : (ofText "1e").isNaN = true := by decide +kernel
  refine ⟨literal, rfl, isNumber.2 (.inr (.radix literal)), ?_, fun isNumeral => ?_⟩
  · exact (exact 16 [1, 15] literal (by decide)).2
  · rw [isNumber'.2 (.inr isNumeral)] at noNumber
    cases noNumber

end TableQuery.Numeral
