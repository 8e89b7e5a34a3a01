import Mathlib
import TableQuery.Proofs.Numeral.Radix

/-! # Literals taken off the front of a text

A literal can be read without looking at the end of the text: each kind of literal is taken off
the front as far as it goes, the first kind that is found is the one that counts, and nothing may
be left behind it.  Nothing is lost by that, since no text that begins with a literal of one kind
is as a whole a literal of a later kind.
-/

namespace TableQuery.Numeral

/-! ## What is taken, and what is left -/

/-- The characters in front that pass a test, if there are any. -/
def takeRun? (test : Char → Bool) (s : List Char) : Option (List Char × List Char) :=
  if (s.takeWhile test).isEmpty then none else some (s.takeWhile test, s.dropWhile test)

def takeRadix? : List Char → Option (Float × List Char)
  | '0' :: letter :: rest =>
    (radixOf? letter).bind fun radix =>
      (takeRun? (fun c => digitValue c < radix) rest).map
        (Prod.map (fun ds => floatOfNat (radixValue radix ds)) id)
  | _ => none

def takeInfinity? (s : List Char) : Option (Float × List Char) :=
  let (negative, rest) := splitSign s
  (rest.dropPrefix? "Infinity".toList).map fun left => (infinite negative, left)

/-- An exponent, or zero if there is none.  A letter without digits behind it is left. -/
def takeExponent : List Char → Int × List Char
  | [] => (0, [])
  | c :: rest =>
    if c = 'e' ∨ c = 'E' then
      let (negative, more) := splitSign rest
      match takeRun? Char.isDigit more with
      | some (ds, left) => (if negative then -(natOfDigits ds : Int) else natOfDigits ds, left)
      | none => (0, c :: rest)
    else (0, c :: rest)

def takeDecimal? (s : List Char) : Option (Float × List Char) :=
  let (negative, rest) := splitSign s
  (mantissa? rest).map fun (whole, part, rest) =>
    let (e, left) := takeExponent rest
    (Decimal.toFloat negative ⟨natOfDigits (whole ++ part), e - part.length⟩, left)

/-- The first kind of literal that the text begins with. -/
def takeLiteral? (s : List Char) : Option (Float × List Char) :=
  takeRadix? s <|> takeInfinity? s <|> takeDecimal? s

/-- What is taken if nothing is left. -/
def whole? {α : Type} : Option (α × List Char) → Option α
  | some (value, []) => some value
  | _ => none

/-! ## Each kind by itself -/

theorem whole?_map {α β : Type} (f : α → β) (taken : Option (α × List Char)) :
    whole? (taken.map (Prod.map f id)) = (whole? taken).map f := by
  match taken with
  | none | some (_, []) | some (_, _ :: _) => rfl

theorem whole?_takeRun? (test : Char → Bool) (s : List Char) :
    whole? (takeRun? test s) = if s.isEmpty || !s.all test then none else some s := by
  rw [takeRun?]
  by_cases all : s.all test = true
  · have taken : s.takeWhile test = s := List.takeWhile_eq_self_iff.2 (List.all_eq_true.1 all)
    have nothing : s.dropWhile test = [] := List.dropWhile_eq_nil_iff.2 (List.all_eq_true.1 all)
    rw [taken, nothing, all]
    cases s <;> rfl
  · have left : s.dropWhile test ≠ [] := fun nothing =>
      all (List.all_eq_true.2 (List.dropWhile_eq_nil_iff.1 nothing))
    obtain ⟨c, rest, isLeft⟩ := List.exists_cons_of_ne_nil left
    rw [isLeft, Bool.eq_false_iff.2 all, Bool.not_false, Bool.or_true, if_pos rfl]
    split <;> rfl

theorem whole?_takeRadix? (s : List Char) : whole? (takeRadix? s) = radix? s := by
  rw [takeRadix?.eq_def]
  split
  · next letter ds =>
    rw [radix?]
    cases radixOf? letter with
    | none => rfl
    | some radix =>
      rw [Option.bind_some, whole?_map, whole?_takeRun?, apply_ite (Option.map _)]
      rfl
  · next noLetter =>
    rw [radix?]
    · rfl
    · exact noLetter

theorem eq_append_of_dropPrefix? {s word left : List Char}
    (taken : s.dropPrefix? word = some left) : s = word ++ left := by
  obtain ⟨here, isSplit, same⟩ := List.dropPrefix?_eq_some_iff.1 taken
  rw [isSplit, eq_of_beq same]

theorem whole?_takeInfinity? (s : List Char) : whole? (takeInfinity? s) = infinity? s := by
  rw [takeInfinity?, infinity?]
  simp only
  by_cases isWord : (splitSign s).2 = "Infinity".toList
  · have taken : (splitSign s).2.dropPrefix? "Infinity".toList = some [] := by
      rw [isWord]
      rfl
    rw [taken, if_pos isWord]
    rfl
  · rw [if_neg isWord]
    cases taken : (splitSign s).2.dropPrefix? "Infinity".toList with
    | none => rfl
    | some left =>
      have isSplit := eq_append_of_dropPrefix? taken
      cases left with
      | nil => exact absurd (isSplit.trans (List.append_nil _)) isWord
      | cons c left => rfl

theorem exponent?_eq_whole? (s : List Char) : exponent? s = whole? (some (takeExponent s)) := by
  cases s with
  | nil => rfl
  | cons c rest =>
    rw [exponent?, takeExponent]
    split
    · obtain ⟨negative, more⟩ := splitSign rest
      have digits := whole?_takeRun? Char.isDigit more
      simp only
      -- Where digits are missing, or something follows them, either way leaves a rest.
      cases taken : takeRun? Char.isDigit more with
      | none =>
        rw [taken] at digits
        split at digits
        · next none => rw [if_pos none]; rfl
        · cases digits
      | some found =>
        obtain ⟨ds, left⟩ := found
        rw [taken] at digits
        cases left with
        | nil =>
          split at digits
          · cases digits
          · next some =>
            obtain rfl : ds = more := Option.some.inj digits
            rw [if_neg some]
            rfl
        | cons d left =>
          split at digits
          · next none => rw [if_pos none]; rfl
          · cases digits
    · rfl

theorem whole?_takeDecimal? (s : List Char) : whole? (takeDecimal? s) = decimal? s := by
  rw [takeDecimal?, decimal?]
  simp only [unsignedDecimal?]
  cases mantissa? (splitSign s).2 with
  | none => rfl
  | some found =>
    obtain ⟨whole, part, rest⟩ := found
    simp only [Option.map_some, exponent?_eq_whole?]
    obtain ⟨e, left⟩ := takeExponent rest
    cases left with
    | nil => rfl
    | cons c left => rfl

/-! ## The kinds one after the other -/

/-- Taking the first kind that is found loses nothing if the second kind does not read the whole of
    a text off whose front the first one is taken. -/
theorem whole?_orElse {α : Type} {first second : Option (α × List Char)}
    (exclusive : first.isSome = true → whole? second = none) :
    whole? (first <|> second) = (whole? first <|> whole? second) := by
  cases first with
  | none => simp [whole?]
  | some found =>
    rw [exclusive rfl]
    simp

theorem later_eq_none_of_takeRadix? {s : List Char} (taken : (takeRadix? s).isSome = true) :
    infinity? s = none ∧ decimal? s = none := by
  rw [takeRadix?.eq_def] at taken
  split at taken
  · next letter rest =>
    obtain ⟨radix, isBase⟩ : ∃ radix, radixOf? letter = some radix := by
      cases isBase : radixOf? letter with
      | none =>
        rw [isBase] at taken
        cases taken
      | some radix => exact ⟨radix, rfl⟩
    have each : ∀ entry ∈ baseLetters,
        (entry.1.isDigit = false ∧ entry.1 ≠ '.') ∧ ¬ (entry.1 = 'e' ∨ entry.1 = 'E') := by
      decide +kernel
    obtain ⟨stop, noExponent⟩ := each _ (radixOf?_eq_some_iff.1 isBase)
    have isMantissa : mantissa? ('0' :: letter :: rest) = some (['0'], [], letter :: rest) :=
      mantissa?_whole (List.cons_ne_nil _ _) (allDigits_zeros 1) (by rintro c ⟨⟩; exact stop)
    constructor
    · rfl
    · show (unsignedDecimal? ('0' :: letter :: rest)).map _ = none
      rw [unsignedDecimal?, isMantissa]
      simp only [exponent?, if_neg noExponent, Option.map_none]
  · cases taken

theorem decimal?_eq_none_of_takeInfinity? {s : List Char}
    (taken : (takeInfinity? s).isSome = true) : decimal? s = none := by
  rw [takeInfinity?, Option.isSome_map] at taken
  obtain ⟨left, isTaken⟩ := Option.isSome_iff_exists.1 taken
  rw [decimal?]
  simp only [eq_append_of_dropPrefix? isTaken]
  rfl

/-- A text is a literal just if the first kind that is taken off its front leaves nothing. -/
theorem value?_eq_whole? (s : List Char) : value? s = whole? (takeLiteral? s) := by
  have later : whole? (takeInfinity? s <|> takeDecimal? s) = (infinity? s <|> decimal? s) := by
    rw [whole?_orElse, whole?_takeInfinity?, whole?_takeDecimal?]
    intro taken
    rw [whole?_takeDecimal?, decimal?_eq_none_of_takeInfinity? taken]
  rw [takeLiteral?, whole?_orElse, whole?_takeRadix?, later, value?]
  intro taken
  obtain ⟨noInfinity, noDecimal⟩ := later_eq_none_of_takeRadix? taken
  rw [later, noInfinity, noDecimal]
  rfl

theorem value?_of_decimal? {s : List Char} {x : Float} (isDecimal : decimal? s = some x) :
    value? s = some x := by
  have noRadix : radix? s = none := by
    rw [← whole?_takeRadix?]
    cases taken : takeRadix? s with
    | none => rfl
    | some found =>
      have noDecimal := (later_eq_none_of_takeRadix? (Option.isSome_of_eq_some taken)).2
      rw [isDecimal] at noDecimal
      cases noDecimal
  have noInfinity : infinity? s = none := by
    rw [← whole?_takeInfinity?]
    cases taken : takeInfinity? s with
    | none => rfl
    | some found =>
      have noDecimal := decimal?_eq_none_of_takeInfinity? (Option.isSome_of_eq_some taken)
      rw [isDecimal] at noDecimal
      cases noDecimal
  rw [value?, noRadix, noInfinity, isDecimal]
  rfl

end TableQuery.Numeral
