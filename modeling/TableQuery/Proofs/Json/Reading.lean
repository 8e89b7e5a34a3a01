import TableQuery.Proofs.Json.Scalars

/-! # Reading a text of a value

A value has many texts, which differ in the blanks between its parts.  Each of them is read as
that value, unless it nests too deep, and what follows it is left.
-/

namespace TableQuery.Json

open Numeral

/-- Is there nothing but blanks of a document? -/
def IsGap (s : List Char) : Prop := ∀ c ∈ s, isGap c = true

mutual

/-- Is this a text of the value, which nests at most so deep?  Blanks may stand between its
    parts. -/
inductive Writes : Nat → Json → List Char → Prop where
  | null {depth : Nat} : Writes depth .null ['n', 'u', 'l', 'l']
  | bool {depth : Nat} (b : Bool) : Writes depth (.bool b) (compactChars (.bool b))
  | int {depth : Nat} {n : Int} : IsKept n → Writes depth (.int n) (intChars n)
  | str {depth : Nat} (s : String) : Writes depth (.str s) (quoted s.toList)
  | noItems {depth : Nat} : Writes (depth + 1) (.arr []) ['[', ']']
  | arr {depth : Nat} {items : List Json} {s : List Char} :
      WritesItems depth items s → Writes (depth + 1) (.arr items) ('[' :: s)
  | noMembers {depth : Nat} : Writes (depth + 1) (.obj []) ['\x7b', '\x7d']
  | obj {depth : Nat} {members : List (String × Json)} {s : List Char} :
      WritesMembers depth members s → Writes (depth + 1) (.obj members) ('\x7b' :: s)

/-- Is this a text of the items, of which there are some, up to the closing bracket? -/
inductive WritesItems : Nat → List Json → List Char → Prop where
  | last {depth : Nat} {v : Json} {before s behind : List Char} :
      IsGap before → Writes depth v s → IsGap behind →
      WritesItems depth [v] (before ++ (s ++ (behind ++ [']'])))
  | cons {depth : Nat} {v : Json} {items : List Json} {before s more : List Char} :
      IsGap before → Writes depth v s → WritesItems depth items more →
      WritesItems depth (v :: items) (before ++ (s ++ ',' :: more))

/-- Is this a text of the members, of which there are some, up to the closing brace? -/
inductive WritesMembers : Nat → List (String × Json) → List Char → Prop where
  | last {depth : Nat} (name : String) {v : Json} {before between s behind : List Char} :
      IsGap before → IsGap between → Writes depth v s → IsGap behind →
      WritesMembers depth [(name, v)]
        (before ++ (quoted name.toList ++ ':' :: (between ++ (s ++ (behind ++ ['\x7d'])))))
  | cons {depth : Nat} (name : String) {v : Json} {members : List (String × Json)}
      {before between s more : List Char} :
      IsGap before → IsGap between → Writes depth v s → WritesMembers depth members more →
      WritesMembers depth ((name, v) :: members)
        (before ++ (quoted name.toList ++ ':' :: (between ++ (s ++ ',' :: more))))

end

/-! ## Blanks -/

section

variable {depth limit fuel : Nat} {v : Json} {s gap rest : List Char}

theorem eq_of_isGap {c : Char} (blank : isGap c = true) :
    c = ' ' ∨ c = '\n' ∨ c = '\t' ∨ c = '\r' := by
  simpa [isGap, or_assoc] using blank

theorem isGap_of_isDigit {c : Char} (digit : c.isDigit = true) : isGap c = false := by
  rw [Bool.eq_false_iff]
  intro blank
  rcases eq_of_isGap blank with rfl | rfl | rfl | rfl <;> cases digit

theorem skipGap_append (blank : IsGap gap) (s : List Char) : skipGap (gap ++ s) = skipGap s :=
  List.dropWhile_append_of_pos blank

theorem skipGap_cons {c : Char} (solid : isGap c = false) (s : List Char) :
    skipGap (c :: s) = c :: s := by
  simp [skipGap, solid]

theorem skipGap_skipGap (s : List Char) : skipGap (skipGap s) = skipGap s :=
  List.dropWhile_idempotent _ s

theorem readValue?_skipGap (fuel limit : Nat) (s : List Char) :
    readValue? fuel limit (skipGap s) = readValue? fuel limit s := by
  cases fuel with
  | zero => rfl
  | succ fuel => rw [readValue?, readValue?, skipGap_skipGap]

theorem readItems?_skipGap (fuel limit : Nat) (s : List Char) :
    readItems? fuel limit (skipGap s) = readItems? fuel limit s := by
  cases fuel with
  | zero => rfl
  | succ fuel => rw [readItems?, readItems?, readValue?_skipGap]

theorem readMembers?_skipGap (fuel limit : Nat) (s : List Char) :
    readMembers? fuel limit (skipGap s) = readMembers? fuel limit s := by
  cases fuel with
  | zero => rfl
  | succ fuel => rw [readMembers?, readMembers?, skipGap_skipGap]

theorem readValue?_append (blank : IsGap gap) (fuel limit : Nat) (s : List Char) :
    readValue? fuel limit (gap ++ s) = readValue? fuel limit s := by
  rw [← readValue?_skipGap, skipGap_append blank, readValue?_skipGap]

theorem readMembers?_append (blank : IsGap gap) (fuel limit : Nat) (s : List Char) :
    readMembers? fuel limit (gap ++ s) = readMembers? fuel limit s := by
  rw [← readMembers?_skipGap, skipGap_append blank, readMembers?_skipGap]

theorem EndsNumber.append (ends : EndsNumber s) (blank : IsGap gap) : EndsNumber (gap ++ s) := by
  cases gap with
  | nil => exact ends
  | cons c gap =>
    rintro d ⟨⟩
    rcases eq_of_isGap (blank c List.mem_cons_self) with rfl | rfl | rfl | rfl <;> decide

/-! ## How a text begins -/

/-- A text of a value begins with a character that is no blank and closes no array. -/
theorem Writes.head (writes : Writes depth v s) :
    ∃ c more, s = c :: more ∧ isGap c = false ∧ c ≠ ']' := by
  cases writes with
  | @int _ n kept =>
    rw [intChars]
    split
    · exact ⟨'-', _, rfl, by decide, by decide⟩
    · obtain ⟨c, ds, isCons⟩ := List.exists_cons_of_ne_nil (digitsOf_ne_nil n.natAbs)
      have digit := allDigits_digitsOf n.natAbs c (by simp [isCons])
      refine ⟨c, ds, isCons, isGap_of_isDigit digit, ?_⟩
      rintro rfl
      cases digit
  | bool b => cases b <;> exact ⟨_, _, rfl, by decide, by decide⟩
  | _ => exact ⟨_, _, rfl, by decide, by decide⟩

theorem WritesItems.skipGap_ne {items : List Json} (writes : WritesItems depth items s)
    (rest more : List Char) : skipGap (s ++ rest) ≠ ']' :: more := by
  cases writes with
  | last before value _ =>
    obtain ⟨c, tail, rfl, solid, notClosing⟩ := value.head
    rw [List.append_assoc, skipGap_append before, List.append_assoc, List.cons_append,
      skipGap_cons solid]
    exact fun same => notClosing (List.cons.inj same).1
  | cons before value _ =>
    obtain ⟨c, tail, rfl, solid, notClosing⟩ := value.head
    rw [List.append_assoc, skipGap_append before, List.append_assoc, List.cons_append,
      skipGap_cons solid]
    exact fun same => notClosing (List.cons.inj same).1

theorem WritesMembers.skipGap_ne {members : List (String × Json)}
    (writes : WritesMembers depth members s) (rest more : List Char) :
    skipGap (s ++ rest) ≠ '\x7d' :: more := by
  cases writes with
  | last _ before _ _ _ =>
    rw [List.append_assoc, skipGap_append before, quoted, List.append_assoc, List.cons_append,
      skipGap_cons (by decide)]
    exact fun same => absurd (List.cons.inj same).1 (by decide)
  | cons _ before _ _ _ =>
    rw [List.append_assoc, skipGap_append before, quoted, List.append_assoc, List.cons_append,
      skipGap_cons (by decide)]
    exact fun same => absurd (List.cons.inj same).1 (by decide)

/-! ## What the first character tells -/

theorem readValue?_digit (fuel limit : Nat) {c : Char} (digit : c.isDigit = true) (s : List Char) :
    readValue? (fuel + 1) limit (c :: s) = readUnsigned? false (c :: s) := by
  have noSign : c ≠ 'n' ∧ c ≠ 't' ∧ c ≠ 'f' ∧ c ≠ '-' := by
    refine ⟨?_, ?_, ?_, ?_⟩ <;> rintro rfl <;> cases digit
  rw [readValue?, skipGap_cons (isGap_of_isDigit digit)]
  simp only [noSign, if_false, digit, if_true]

theorem readValue?_bracket (deep : 1 < limit) (someItem : ∀ more, skipGap s ≠ ']' :: more) :
    readValue? (fuel + 1) limit ('[' :: s) =
      (readItems? fuel (limit - 1) s).map fun (vs, rest) => (.arr vs, rest) := by
  rw [readValue?, skipGap_cons (by decide)]
  show (if limit ≤ 1 then none else _) = _
  rw [if_neg (by omega)]
  split
  · next closing => exact absurd closing (someItem _)
  · rw [readItems?_skipGap]

theorem readValue?_brace (deep : 1 < limit) (someMember : ∀ more, skipGap s ≠ '\x7d' :: more) :
    readValue? (fuel + 1) limit ('\x7b' :: s) =
      (readMembers? fuel (limit - 1) s).map fun (ms, rest) => (.obj ms, rest) := by
  rw [readValue?, skipGap_cons (by decide)]
  show (if limit ≤ 1 then none else _) = _
  rw [if_neg (by omega)]
  split
  · next closing => exact absurd closing (someMember _)
  · rw [readMembers?_skipGap]

theorem readString?_quoted (s : List Char) (rest : List Char) :
    readString? ((s.flatMap escapeChar ++ '"' :: rest).length + 1)
      (s.flatMap escapeChar ++ '"' :: rest) = some (s, rest) := by
  have fewer := length_le_length_flatMap s
  refine readString?_flatMap rest ?_
  rw [List.length_append]
  omega

theorem readValue?_quoted (fuel limit : Nat) (s rest : List Char) :
    readValue? (fuel + 1) limit (quoted s ++ rest) = some (.str (String.ofList s), rest) := by
  have isCons : quoted s ++ rest = '"' :: (s.flatMap escapeChar ++ '"' :: rest) := by
    simp [quoted]
  rw [isCons]
  show (readString? _ _).map _ = _
  rw [readString?_quoted]
  rfl

theorem readValue?_intChars {n : Int} (kept : IsKept n) (ends : EndsNumber rest) :
    readValue? (fuel + 1) limit (intChars n ++ rest) = some (.int n, rest) := by
  obtain ⟨low, high⟩ := kept
  have fits : n.natAbs < significandLimit := by
    simp only [magnitudeLimit, significandLimit, UInt64.size] at *
    omega
  rw [intChars]
  split
  · next negative =>
    show readUnsigned? true (Layout.digitsOf n.natAbs ++ rest) = _
    rw [readUnsigned?_digitsOf true fits ends, readTail?_of_ends ends, if_pos rfl,
      if_neg (by omega), Int.ofNat_natAbs_of_nonpos negative.le, Int.neg_neg]
  · next notNegative =>
    obtain ⟨c, ds, isCons⟩ := List.exists_cons_of_ne_nil (digitsOf_ne_nil n.natAbs)
    have digit := allDigits_digitsOf n.natAbs c (by simp [isCons])
    have read := readUnsigned?_digitsOf false fits ends
    rw [isCons, List.cons_append] at read ⊢
    rw [readValue?_digit fuel limit digit, read, readTail?_of_ends ends]
    simp [Int.natAbs_of_nonneg (Int.not_lt.1 notNegative)]

/-! ## What follows a part -/

theorem readItems?_close {behind : List Char} (blank : IsGap behind)
    (read : readValue? fuel limit s = some (v, behind ++ ']' :: rest)) :
    readItems? (fuel + 1) limit s = some ([v], rest) := by
  have closing : skipGap (behind ++ ']' :: rest) = ']' :: rest := by
    rw [skipGap_append blank, skipGap_cons (by decide)]
  rw [readItems?, read]
  simp only [closing]

theorem readItems?_comma {items : List Json} {more : List Char}
    (read : readValue? fuel limit s = some (v, ',' :: more))
    (readMore : readItems? fuel limit more = some (items, rest)) :
    readItems? (fuel + 1) limit s = some (v :: items, rest) := by
  have comma : skipGap (',' :: more) = ',' :: more := skipGap_cons (by decide) more
  rw [readItems?, read]
  simp only [comma, readMore, Option.map_some]

theorem readMembers?_close (name : List Char) {behind : List Char} (blank : IsGap behind)
    (read : readValue? fuel limit s = some (v, behind ++ '\x7d' :: rest)) :
    readMembers? (fuel + 1) limit (quoted name ++ ':' :: s) =
      some ([(String.ofList name, v)], rest) := by
  have closing : skipGap (behind ++ '\x7d' :: rest) = '\x7d' :: rest := by
    rw [skipGap_append blank, skipGap_cons (by decide)]
  have colon : skipGap (':' :: s) = ':' :: s := skipGap_cons (by decide) s
  have isCons : quoted name ++ ':' :: s = '"' :: (name.flatMap escapeChar ++ '"' :: ':' :: s) := by
    simp [quoted]
  rw [isCons, readMembers?, skipGap_cons (by decide)]
  simp only [readString?_quoted, colon, read, closing]

theorem readMembers?_comma (name : List Char) {more : List Char} {members : List (String × Json)}
    (read : readValue? fuel limit s = some (v, ',' :: more))
    (readMore : readMembers? fuel limit more = some (members, rest)) :
    readMembers? (fuel + 1) limit (quoted name ++ ':' :: s) =
      some ((String.ofList name, v) :: members, rest) := by
  have comma : skipGap (',' :: more) = ',' :: more := skipGap_cons (by decide) more
  have colon : skipGap (':' :: s) = ':' :: s := skipGap_cons (by decide) s
  have isCons : quoted name ++ ':' :: s = '"' :: (name.flatMap escapeChar ++ '"' :: ':' :: s) := by
    simp [quoted]
  rw [isCons, readMembers?, skipGap_cons (by decide)]
  simp only [readString?_quoted, colon, read, comma, readMore, Option.map_some]

end

/-! ## Whole texts -/

mutual

theorem readValue?_of_writes {depth limit fuel : Nat} {v : Json} {s : List Char}
    (writes : Writes depth v s) (deep : depth < limit) (enough : s.length ≤ fuel)
    {rest : List Char} (ends : EndsNumber rest) :
    readValue? fuel limit (s ++ rest) = some (v, rest) := by
  -- Every call of a reader uses up one unit of fuel, and leaves a shorter text to the next.
  obtain ⟨fuel, rfl⟩ : ∃ n, fuel = n + 1 := by
    obtain ⟨c, more, rfl, -⟩ := writes.head
    exact Nat.exists_eq_add_of_le' (Nat.le_trans (by simp) enough)
  cases writes with
  | null => rfl
  | bool b => cases b <;> rfl
  | int kept => exact readValue?_intChars kept ends
  | str s => rw [readValue?_quoted, String.ofList_toList]
  | noItems =>
    show (if limit ≤ 1 then none else _) = _
    rw [if_neg (by omega)]
    rfl
  | arr items =>
    rw [List.cons_append, readValue?_bracket (by omega) (items.skipGap_ne rest),
      readItems?_of_writes items (by omega) (by simpa using enough) rest]
    rfl
  | noMembers =>
    show (if limit ≤ 1 then none else _) = _
    rw [if_neg (by omega)]
    rfl
  | obj members =>
    rw [List.cons_append, readValue?_brace (by omega) (members.skipGap_ne rest),
      readMembers?_of_writes members (by omega) (by simpa using enough) rest]
    rfl

theorem readItems?_of_writes {depth limit fuel : Nat} {items : List Json} {s : List Char}
    (writes : WritesItems depth items s) (deep : depth < limit) (enough : s.length ≤ fuel)
    (rest : List Char) : readItems? fuel limit (s ++ rest) = some (items, rest) := by
  cases writes with
  | @last _ v before text behind blank value blankBehind =>
    simp only [List.length_append, List.length_cons] at enough
    obtain ⟨fuel, rfl⟩ := Nat.exists_eq_add_of_le' (Nat.le_trans (by omega : 1 ≤ _) enough)
    -- A number would be read on if a digit, a point or an exponent came behind it.
    have ends : EndsNumber (behind ++ ']' :: rest) :=
      EndsNumber.append (by rintro c ⟨⟩; decide) blankBehind
    have read := readValue?_of_writes value deep (show text.length ≤ fuel by omega) ends
    simp only [List.append_assoc, List.cons_append, List.nil_append]
    exact readItems?_close blankBehind (by rwa [readValue?_append blank])
  | @cons _ v items before text more blank value others =>
    simp only [List.length_append, List.length_cons] at enough
    obtain ⟨fuel, rfl⟩ := Nat.exists_eq_add_of_le' (Nat.le_trans (by omega : 1 ≤ _) enough)
    have ends : EndsNumber (',' :: (more ++ rest)) := by rintro c ⟨⟩; decide
    have read := readValue?_of_writes value deep (show text.length ≤ fuel by omega) ends
    have readMore := readItems?_of_writes others deep (show more.length ≤ fuel by omega) rest
    simp only [List.append_assoc, List.cons_append]
    exact readItems?_comma (by rwa [readValue?_append blank]) readMore

theorem readMembers?_of_writes {depth limit fuel : Nat} {members : List (String × Json)}
    {s : List Char} (writes : WritesMembers depth members s) (deep : depth < limit)
    (enough : s.length ≤ fuel) (rest : List Char) :
    readMembers? fuel limit (s ++ rest) = some (members, rest) := by
  cases writes with
  | @last _ name v before between text behind blank blankBetween value blankBehind =>
    simp only [List.length_append, List.length_cons] at enough
    obtain ⟨fuel, rfl⟩ := Nat.exists_eq_add_of_le' (Nat.le_trans (by omega : 1 ≤ _) enough)
    have ends : EndsNumber (behind ++ '\x7d' :: rest) :=
      EndsNumber.append (by rintro c ⟨⟩; decide) blankBehind
    have read := readValue?_of_writes value deep (show text.length ≤ fuel by omega) ends
    have closed := readMembers?_close name.toList blankBehind
      (by rwa [readValue?_append blankBetween])
    simp only [List.append_assoc, List.cons_append, List.nil_append]
    rwa [readMembers?_append blank, ← String.ofList_toList (s := name), String.toList_ofList]
  | @cons _ name v members before between text more blank blankBetween value others =>
    simp only [List.length_append, List.length_cons] at enough
    obtain ⟨fuel, rfl⟩ := Nat.exists_eq_add_of_le' (Nat.le_trans (by omega : 1 ≤ _) enough)
    have ends : EndsNumber (',' :: (more ++ rest)) := by rintro c ⟨⟩; decide
    have read := readValue?_of_writes value deep (show text.length ≤ fuel by omega) ends
    have readMore := readMembers?_of_writes others deep (show more.length ≤ fuel by omega) rest
    have continued := readMembers?_comma name.toList
      (by rwa [readValue?_append blankBetween]) readMore
    rw [String.ofList_toList] at continued
    simp only [List.append_assoc, List.cons_append]
    rwa [readMembers?_append blank]

end

end TableQuery.Json
