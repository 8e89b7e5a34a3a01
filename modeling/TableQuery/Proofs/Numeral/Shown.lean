import Mathlib
import TableQuery.Proofs.Cell.Sameness
import TableQuery.Proofs.Decimal.Magnitude
import TableQuery.Proofs.Decimal.Monotone
import TableQuery.Proofs.Numeral.Grammar

/-! # Numbers as they are shown

The text of a finite double is a whole number, a fraction or a power of ten with its sign, and
which of them it is depends on the magnitude alone.  In each form it is read as the double that it
shows, and so are the names of the values that are not finite.
-/

namespace TableQuery

/-! ## Forms -/

namespace Numeral

inductive Form where
  | whole
  | fraction
  | power
deriving DecidableEq, Repr

/-- Is the text, which has no sign in front, of this form? -/
inductive HasForm : Form → List Char → Prop where
  | whole {ds : List Char} (nonempty : ds ≠ []) (digits : AllDigits ds) : HasForm .whole ds
  | fraction {ds es : List Char} (nonempty : ds ≠ []) (digits : AllDigits ds)
      (nonempty' : es ≠ []) (digits' : AllDigits es) : HasForm .fraction (ds ++ '.' :: es)
  | powerOfDigit {d sign : Char} {exponent : List Char} (digit : d.isDigit = true)
      (isSign : sign = '+' ∨ sign = '-') (nonempty : exponent ≠ []) (digits : AllDigits exponent) :
      HasForm .power (d :: 'e' :: sign :: exponent)
  | powerOfFraction {d sign : Char} {es exponent : List Char} (digit : d.isDigit = true)
      (nonempty : es ≠ []) (digits : AllDigits es) (isSign : sign = '+' ∨ sign = '-')
      (nonempty' : exponent ≠ []) (digits' : AllDigits exponent) :
      HasForm .power (d :: '.' :: (es ++ 'e' :: sign :: exponent))

variable {ds : List Char} (nonempty : ds ≠ []) (digits : AllDigits ds)

include nonempty digits

theorem hasForm_plain (point : Int) :
    ∃ form, form ≠ .power ∧ HasForm form (Layout.plain false ds point) := by
  rw [Layout.plain]
  split
  · refine ⟨.fraction, by decide, ?_⟩
    exact .fraction (List.cons_ne_nil '0' []) (allDigits_zeros 1) (by simp [nonempty])
      ((allDigits_zeros _).append digits)
  · split
    · refine ⟨.whole, by decide, .whole (by simp [nonempty]) ?_⟩
      simpa using digits.append (allDigits_zeros _)
    · next notEarly notLate =>
      refine ⟨.fraction, by decide, .fraction ?_ ?_ ?_ ?_⟩
      · rw [← List.length_pos_iff, List.length_take]
        have := List.length_pos_iff.2 nonempty
        omega
      · exact fun c member => digits c (List.mem_of_mem_take member)
      · rw [← List.length_pos_iff, List.length_drop]
        omega
      · exact fun c member => digits c (List.mem_of_mem_drop member)

theorem hasForm_scientific (exponent : Int) :
    HasForm .power (Layout.scientific ds exponent) := by
  have isSign : (if exponent < 0 then '-' else '+') = '+' ∨
      (if exponent < 0 then '-' else '+') = '-' := by
    split
    · exact .inr rfl
    · exact .inl rfl
  have someDigit := digitsOf_ne_nil exponent.natAbs
  have digits' := allDigits_digitsOf exponent.natAbs
  match ds, nonempty with
  | [d], _ => exact .powerOfDigit (digits d List.mem_cons_self) isSign someDigit digits'
  | d :: next :: more, _ =>
    exact .powerOfFraction (digits d List.mem_cons_self) (List.cons_ne_nil next more)
      (fun c member => digits c (List.mem_cons_of_mem _ member)) isSign someDigit digits'

end Numeral

/-! ## Which form is taken -/

namespace Numeral

open Double

variable {x y : Float}

theorem exists_hasForm_renderDecimal (d : Decimal) :
    let point := (Layout.digitsOf d.digits).length + d.exp
    ∃ form, HasForm form (layout.renderDecimal d) ∧
      (form = .power ↔ ¬ (layout.plainFrom ≤ point - 1 ∧ point - 1 < layout.plainBelow)) := by
  intro point
  have nonempty := digitsOf_ne_nil d.digits
  have digits := allDigits_digitsOf d.digits
  rw [Layout.renderDecimal]
  split
  · next plainly =>
    obtain ⟨form, notPower, hasForm⟩ := hasForm_plain nonempty digits point
    exact ⟨form, hasForm, iff_of_false notPower (not_not_intro plainly)⟩
  · next notPlainly =>
    exact ⟨.power, hasForm_scientific nonempty digits _, iff_of_true rfl notPlainly⟩

/-- The double of a power of ten divides the doubles as the exponents of their shortest decimals
    do, if the power is the shortest decimal of its own double. -/
theorem toBits_le_magnitude_iff {k : Int}
    (isShortest : Decimal.shortest .away (Decimal.toBits ⟨1, k⟩) = ⟨1, k⟩)
    (finite : x.isFinite = true) (nonzero : magnitude x ≠ 0) :
    Decimal.toBits ⟨1, k⟩ ≤ magnitude x ↔
      k ≤ (Layout.digitsOf (Decimal.shortest .away (magnitude x)).digits).length +
        (Decimal.shortest .away (magnitude x)).exp - 1 := by
  have below := magnitude_lt_infinityBits finite
  have isPower : Decimal.value ⟨1, k⟩ = (10 : ℚ) ^ k := by
    rw [Decimal.value, Nat.cast_one, one_mul]
  rw [Decimal.toBits_le_iff_le_shortest isShortest below, isPower,
    Decimal.ten_zpow_le_value_iff (Decimal.digits_shortest_pos below nonzero)]

/-- Magnitudes from `1e-6` up to `1e21` are those whose exponents are written out. -/
theorem isExtreme_iff (finite : x.isFinite = true) (nonzero : magnitude x ≠ 0) :
    let point := (Layout.digitsOf (Decimal.shortest .away (magnitude x)).digits).length +
      (Decimal.shortest .away (magnitude x)).exp
    (x.abs < 1e-6 ∨ 1e21 ≤ x.abs) ↔
      ¬ (layout.plainFrom ≤ point - 1 ∧ point - 1 < layout.plainBelow) := by
  intro point
  have below := magnitude_lt_infinityBits finite
  have isLow : (1e-6 : Float) = Decimal.floatOfBits false (Decimal.toBits ⟨1, -6⟩) := rfl
  have isHigh : (1e21 : Float) = Decimal.floatOfBits false (Decimal.toBits ⟨1, 21⟩) := rfl
  have lowBits : Decimal.toBits ⟨1, -6⟩ < Decimal.infinityBits := by decide +kernel
  have highBits : Decimal.toBits ⟨1, 21⟩ < Decimal.infinityBits := by decide +kernel
  rw [abs_eq_floatOfBits finite, isLow, isHigh, floatOfBits_lt_iff below lowBits,
    floatOfBits_le_iff highBits below, ← not_le,
    toBits_le_magnitude_iff (by decide +kernel) finite nonzero,
    toBits_le_magnitude_iff (by decide +kernel) finite nonzero]
  show ¬ (-6 : Int) ≤ point - 1 ∨ (21 : Int) ≤ point - 1 ↔
    ¬ ((-6 : Int) ≤ point - 1 ∧ point - 1 < 21)
  omega

/-- The text of a finite double is in exponent form just if its magnitude is below `1e-6`, but
    not zero, or from `1e21` up. -/
theorem exists_hasForm_text (finite : x.isFinite = true) :
    ∃ form body, (text x).toList = (if x < 0 then ['-'] else []) ++ body ∧ HasForm form body ∧
      (form = .power ↔ (x == 0) = false ∧ (x.abs < 1e-6 ∨ 1e21 ≤ x.abs)) := by
  have isZero := beq_zero_iff finite
  have isNegative := lt_zero_iff finite
  rw [toList_text finite]
  by_cases noBits : magnitude x = 0
  · have notNegative : ¬ x < 0 := fun less => (isNegative.1 less).2 noBits
    rw [if_pos noBits, if_neg notNegative, isZero.2 noBits]
    exact ⟨.whole, ['0'], rfl, .whole (List.cons_ne_nil _ _) (allDigits_zeros 1), by simp⟩
  · have nonzero : (x == 0) = false := Bool.eq_false_iff.2 (mt isZero.1 noBits)
    have sameSign : x < 0 ↔ Decimal.signBits ≤ x.toBits.toNat :=
      isNegative.trans (and_iff_left noBits)
    obtain ⟨form, hasForm, isPower⟩ :=
      exists_hasForm_renderDecimal (Decimal.shortest .away (magnitude x))
    refine ⟨form, _, ?_, hasForm, ?_⟩
    · rw [if_neg noBits]
      simp only [sameSign]
    · exact isPower.trans ((isExtreme_iff finite noBits).symm.trans (by simp [nonzero]))

/-! ## Reading what is shown -/

theorem ofText_text_of_infinite (notFinite : x.isFinite = false) :
    ofText (text x) = withoutZeroSign x := by
  cases isNumber : x.isNaN with
  | true =>
    rw [eq_notANumber isNumber]
    rfl
  | false =>
    obtain ⟨negative, rfl⟩ := exists_eq_infinite notFinite isNumber
    cases negative <;> rfl

theorem ofText_text_of_finite (finite : x.isFinite = true) :
    ofText (text x) = withoutZeroSign x := by
  have nonempty : (text x).toList ≠ [] := by
    obtain ⟨c, rest, isCons, -⟩ := text_head finite
    rw [isCons]
    exact List.cons_ne_nil c rest
  rw [ofText_eq, trim_text finite, if_neg nonempty, value?_of_decimal? (decimal?_text finite),
    Option.getD_some]

theorem unpack_withoutZeroSign (x : Float) : (withoutZeroSign x).toModel.unpack = essence x := by
  cases isZero : x == 0 with
  | true =>
    have same : essence x = essence 0 := (same_iff x 0).1 (by rw [isZero]; rfl)
    rw [withoutZeroSign, isZero, if_pos rfl, same]
    rfl
  | false =>
    rw [withoutZeroSign, isZero, if_neg Bool.false_ne_true]
    change x.toModel.unpack.beq (.zero .positive) = false at isZero
    show _ = withoutSignOfZero x.toModel.unpack
    cases isUnpacked : x.toModel.unpack with
    | zero sign =>
      rw [isUnpacked] at isZero
      cases isZero
    | _ => rfl

/-- Two doubles are one without the sign of zero just if they are equal, or both no numbers. -/
theorem withoutZeroSign_eq_iff :
    withoutZeroSign x = withoutZeroSign y ↔ (x == y || (x.isNaN && y.isNaN)) = true := by
  rw [same_iff, ← unpack_withoutZeroSign, ← unpack_withoutZeroSign]
  exact ⟨fun same => by rw [same], eq_of_unpack_eq⟩

theorem isFinite_of_beq_zero (isZero : (x == 0) = true) : x.isFinite = true := by
  change x.toModel.unpack.beq (.zero .positive) = true at isZero
  show x.toModel.unpack.isFinite = true
  cases isUnpacked : x.toModel.unpack with
  | zero sign | finite sign m e positive => rfl
  | infinity sign =>
    rw [isUnpacked] at isZero
    cases sign <;> cases isZero
  | notANumber =>
    rw [isUnpacked] at isZero
    cases isZero

theorem text_withoutZeroSign (x : Float) : text (withoutZeroSign x) = text x := by
  rw [withoutZeroSign]
  split
  · next isZero =>
    have finite := isFinite_of_beq_zero isZero
    rw [← String.toList_inj, toList_text finite, if_pos ((beq_zero_iff finite).1 isZero)]
    rfl
  · rfl

theorem ofText_text_eq (x : Float) : ofText (text x) = withoutZeroSign x := by
  cases isFinite : x.isFinite with
  | true => exact ofText_text_of_finite isFinite
  | false => exact ofText_text_of_infinite isFinite

/-- The text of a double is read as that double, whatever form it has, but that zero loses its
    sign; so two doubles have the same text just if they are equal, or both no numbers. -/
theorem ofText_text (x : Float) :
    ofText (text x) = withoutZeroSign x ∧
    (x.isFinite = true → ∃ form body,
      (text x).toList = (if x < 0 then ['-'] else []) ++ body ∧ HasForm form body ∧
        (form = .power ↔ (x == 0) = false ∧ (x.abs < 1e-6 ∨ 1e21 ≤ x.abs))) ∧
    ∀ y, text x = text y ↔ (x == y || (x.isNaN && y.isNaN)) = true := by
  refine ⟨ofText_text_eq x, exists_hasForm_text, fun y => ?_⟩
  rw [← withoutZeroSign_eq_iff]
  constructor
  · intro same
    rw [← ofText_text_eq, same, ofText_text_eq]
  · intro same
    rw [← text_withoutZeroSign x, same, text_withoutZeroSign]

/-- A number so great that it is shown with an exponent. -/
theorem ofText_text_great :
    (-2.5e22 : Float).isFinite = true ∧ text (-2.5e22) = "-2.5e+22" ∧
      ofText "-2.5e+22" = -2.5e22 ∧
      ∃ body, "-2.5e+22".toList = ['-'] ++ body ∧ HasForm .power body := by
  have finite : (-2.5e22 : Float).isFinite = true := rfl
  have isText : text (-2.5e22) = "-2.5e+22" := by decide +kernel
  obtain ⟨isRead, isFormed, -⟩ := ofText_text (-2.5e22)
  obtain ⟨form, body, isBody, hasForm, isPower⟩ := isFormed finite
  rw [isText] at isRead isBody
  rw [if_pos (by decide +kernel)] at isBody
  obtain rfl := isPower.2 ⟨rfl, .inr (by decide +kernel)⟩
  exact ⟨finite, isText, isRead, body, isBody, hasForm⟩

end Numeral

end TableQuery
