import TableQuery.Proofs.Pattern.Takes
import TableQuery.Proofs.Text.Ascii
import TableQuery.Proofs.Text.Spaced
import TableQuery.Question

/-! # Queries of bounds

A bound such as `total >= 12.5` compares a column with a numeral.  A query of bounds writes
them one behind the other with a joining word between each two.  In such a query letters
stand in keys and joining words only, so it is known what follows them: behind a key a sign,
behind a joining word a key.
-/

namespace TableQuery.Question

/-- How a bound compares a column with its numeral. -/
inductive Relation where
  | above
  | below
  | atLeast
  | atMost
deriving DecidableEq, Repr

namespace Relation

def sign : Relation → List Char
  | .above => ['>']
  | .below => ['<']
  | .atLeast => ['>', '=']
  | .atMost => ['<', '=']

def operator : Relation → Operator
  | .above => .gt
  | .below => .lt
  | .atLeast => .gte
  | .atMost => .lte

end Relation

/-- A comparison of a column with a decimal numeral. -/
structure Bound where
  key : String
  relation : Relation
  /-- The digits before the point. -/
  whole : List Char
  /-- The digits behind the point, if there is one. -/
  part : Option (List Char)

namespace Bound

def numeral (b : Bound) : List Char :=
  match b.part with
  | none => b.whole
  | some part => b.whole ++ '.' :: part

def written (b : Bound) : List Char :=
  b.key.toList ++ ' ' :: (b.relation.sign ++ ' ' :: b.numeral)

def value (b : Bound) : Float :=
  let part := b.part.getD []
  Decimal.toFloat false ⟨Numeral.natOfDigits (b.whole ++ part), -(part.length : Int)⟩

/-- The condition that the bound asks for. -/
def condition (b : Bound) : Condition :=
  ⟨b.key, b.relation.operator, .scalar (.number b.value)⟩

/-- Is the numeral made of ASCII digits, some before the point and some behind it? -/
structure WellFormed (b : Bound) : Prop where
  whole_ne_nil : b.whole ≠ []
  whole_digits : ∀ c ∈ b.whole, c.isDigit = true
  part_ne_nil : b.part ≠ some []
  part_digits : ∀ part ∈ b.part, ∀ c ∈ part, c.isDigit = true

def words (b : Bound) : List (List Char) := [b.key.toList, b.relation.sign, b.numeral]

end Bound

/-- Is the key a word in small ASCII letters other than `or`? -/
structure IsPlainKey (key : String) : Prop where
  ne_nil : key.toList ≠ []
  letters : ∀ c ∈ key.toList, c.isLower = true
  ne_or : key ≠ "or"

def IsJoiner (joiner : List Char) : Prop := joiner = ['a', 'n', 'd'] ∨ joiner = ['o', 'r']

theorem IsJoiner.letters {joiner : List Char} (isJoiner : IsJoiner joiner) :
    ∀ c ∈ joiner, c.isLower = true := by
  rcases isJoiner with rfl | rfl <;> decide

/-- Bounds as a query writes them, with a joining word between each two. -/
def boundQuery (joiner : List Char) (bounds : List Bound) : List Char :=
  List.intercalate (' ' :: (joiner ++ [' '])) (bounds.map Bound.written)

def boundWords (joiner : List Char) : List Bound → List (List Char)
  | [] => []
  | [b] => b.words
  | b :: rest => b.words ++ joiner :: boundWords joiner rest

/-- Bounds that can be written: plain keys and well-formed numerals. -/
structure Writable (bounds : List Bound) : Prop where
  plain : ∀ b ∈ bounds, IsPlainKey b.key
  wellFormed : ∀ b ∈ bounds, b.WellFormed

theorem Writable.tail {b : Bound} {bounds : List Bound} (writable : Writable (b :: bounds)) :
    Writable bounds :=
  ⟨fun c member => writable.plain c (by simp [member]),
    fun c member => writable.wellFormed c (by simp [member])⟩

theorem boundWords_cons_cons (joiner : List Char) (b c : Bound) (rest : List Bound) :
    boundWords joiner (b :: c :: rest) = b.words ++ joiner :: boundWords joiner (c :: rest) := rfl

theorem exists_key_cons_boundWords (joiner : List Char) (b : Bound) (bounds : List Bound) :
    ∃ rest, boundWords joiner (b :: bounds) = b.key.toList :: rest := by
  cases bounds <;> exact ⟨_, rfl⟩

@[simp] theorem boundQuery_singleton (joiner : List Char) (b : Bound) :
    boundQuery joiner [b] = b.written := by
  simp [boundQuery]

theorem boundQuery_cons_cons (joiner : List Char) (b c : Bound) (rest : List Bound) :
    boundQuery joiner (b :: c :: rest) =
      b.written ++ ' ' :: (joiner ++ ' ' :: boundQuery joiner (c :: rest)) := by
  simp [boundQuery, List.intercalate_cons_cons]

theorem boundQuery_eq_spaced (joiner : List Char) (bounds : List Bound) :
    boundQuery joiner bounds = Text.spaced (boundWords joiner bounds) := by
  induction bounds with
  | nil => rfl
  | cons b rest inductionHypothesis =>
    cases rest with
    | nil => simp [boundWords, Bound.words, Bound.written, Text.spaced]
    | cons c rest =>
      obtain ⟨words, isCons⟩ := exists_key_cons_boundWords joiner c rest
      rw [boundQuery_cons_cons, inductionHypothesis, boundWords_cons_cons, isCons]
      simp [Bound.words, Bound.written, Text.spaced_cons]

/-! ## The characters of a query -/

def StartsSign (c : Char) : Prop := c = '<' ∨ c = '>'

def StartsWithSign (s : List Char) : Prop := ∃ c more, s = c :: more ∧ StartsSign c

theorem startsWithSign_sign (relation : Relation) : StartsWithSign relation.sign := by
  cases relation <;> exact ⟨_, _, rfl, by simp [StartsSign]⟩

theorem not_isLower_of_mem_sign {relation : Relation} {c : Char} (member : c ∈ relation.sign) :
    c.isLower = false := by
  cases relation <;> simp only [Relation.sign, List.mem_cons, List.not_mem_nil, or_false] at member
  · subst member; rfl
  · subst member; rfl
  · rcases member with rfl | rfl <;> rfl
  · rcases member with rfl | rfl <;> rfl

theorem Bound.WellFormed.mem_numeral {b : Bound} (wellFormed : b.WellFormed) {c : Char}
    (member : c ∈ b.numeral) : c.isDigit = true ∨ c = '.' := by
  unfold Bound.numeral at member
  split at member
  · exact .inl (wellFormed.whole_digits c member)
  · next part isPart =>
    cases List.mem_append.1 member with
    | inl inWhole => exact .inl (wellFormed.whole_digits c inWhole)
    | inr inRest =>
      rcases List.mem_cons.1 inRest with rfl | inPart
      · exact .inr rfl
      · exact .inl (wellFormed.part_digits part isPart c inPart)

/-! ## What follows letters -/

/-- May the text follow a word?  It is empty or begins with a space. -/
def EndsWord (tail : List Char) : Prop := tail = [] ∨ ∃ more, tail = ' ' :: more

/-- A word of a query that has letters, with all that follows it. -/
inductive AtWord (joiner : List Char) (bounds : List Bound) : List Char → List Char → Prop where
  | key {b : Bound} (member : b ∈ bounds) {tail : List Char} (ends : EndsWord tail) :
      AtWord joiner bounds b.key.toList (' ' :: (b.relation.sign ++ ' ' :: (b.numeral ++ tail)))
  | joiner {b : Bound} (member : b ∈ bounds) {tail : List Char} :
      AtWord joiner bounds joiner (' ' :: (b.key.toList ++ tail))

theorem AtWord.cons {joiner : List Char} {b : Bound} {bounds : List Bound} {word rest : List Char}
    (at_ : AtWord joiner bounds word rest) : AtWord joiner (b :: bounds) word rest := by
  cases at_ with
  | key member ends => exact .key (List.mem_cons_of_mem _ member) ends
  | joiner member => exact .joiner (List.mem_cons_of_mem _ member)

theorem endsWord_behind (words : List (List Char)) : EndsWord (Text.behind words) := by
  cases words with
  | nil => exact .inl rfl
  | cons word words => exact .inr ⟨_, rfl⟩

theorem atWord_of_bound {joiner : List Char} {b : Bound} {bounds : List Bound}
    (wellFormed : b.WellFormed) {later done todo : List (List Char)} {word : List Char}
    (split : done ++ word :: todo = b.words) {c : Char} (member : c ∈ word)
    (letter : c.isLower = true) :
    AtWord joiner (b :: bounds) word (Text.behind (todo ++ later)) := by
  match done, split with
  | [], split =>
    simp only [Bound.words, List.nil_append, List.cons.injEq] at split
    obtain ⟨rfl, rfl⟩ := split
    simp only [List.cons_append, List.nil_append, Text.behind_cons, Text.spaced_cons]
    exact .key List.mem_cons_self (endsWord_behind later)
  | [_], split =>
    simp only [Bound.words, List.cons_append, List.nil_append, List.cons.injEq] at split
    obtain ⟨-, rfl, -⟩ := split
    exact absurd letter (by simp [not_isLower_of_mem_sign member])
  | [_, _], split =>
    simp only [Bound.words, List.cons_append, List.nil_append, List.cons.injEq] at split
    obtain ⟨-, -, rfl, -⟩ := split
    rcases wellFormed.mem_numeral member with digit | rfl
    · exact absurd letter (by simp [Text.not_isLower_of_isDigit digit])
    · exact absurd letter (by decide)
  | _ :: _ :: _ :: done, split =>
    simp [Bound.words] at split

theorem atWord_of_mem_boundWords {joiner : List Char} {bounds : List Bound}
    (writable : Writable bounds) {done todo : List (List Char)} {word : List Char}
    (split : boundWords joiner bounds = done ++ word :: todo) {c : Char} (member : c ∈ word)
    (letter : c.isLower = true) : AtWord joiner bounds word (Text.behind todo) := by
  induction bounds generalizing done with
  | nil => simp [boundWords] at split
  | cons b rest inductionHypothesis =>
    have wellFormed := writable.wellFormed b (by simp)
    cases rest with
    | nil =>
      have found : AtWord joiner [b] word (Text.behind (todo ++ [])) :=
        atWord_of_bound wellFormed split.symm member letter
      rwa [List.append_nil] at found
    | cons second rest =>
      rw [boundWords_cons_cons] at split
      obtain ⟨words, isCons⟩ := exists_key_cons_boundWords joiner second rest
      rcases List.append_eq_append_iff.1 split with ⟨more, rfl, later⟩ | ⟨more, isWords, later⟩
      · cases more with
        | nil =>
          simp only [List.nil_append, List.cons.injEq] at later
          rw [← later.1, ← later.2, isCons, Text.behind_cons, Text.spaced_cons]
          exact .joiner (List.mem_cons_of_mem _ List.mem_cons_self)
        | cons first more =>
          simp only [List.cons_append, List.cons.injEq] at later
          exact (inductionHypothesis writable.tail later.2).cons
      · cases more with
        | nil =>
          simp only [List.nil_append, List.cons.injEq] at later
          rw [later.1, later.2, isCons, Text.behind_cons, Text.spaced_cons]
          exact .joiner (List.mem_cons_of_mem _ List.mem_cons_self)
        | cons first more =>
          simp only [List.cons_append, List.cons.injEq] at later
          obtain ⟨rfl, rfl⟩ := later
          exact atWord_of_bound wellFormed isWords.symm member letter

theorem atWord_of_letters {joiner : List Char} {bounds : List Bound} (writable : Writable bounds)
    {before piece after : List Char}
    (cut : boundQuery joiner bounds = before ++ (piece ++ after)) (nonempty : piece ≠ [])
    (letters : ∀ c ∈ piece, c.isLower = true) :
    ∃ left right rest, left <:+ before ∧ after = right ++ rest ∧
      AtWord joiner bounds (left ++ (piece ++ right)) rest := by
  have noSpace : ' ' ∉ piece := fun member => absurd (letters ' ' member) (by decide)
  rw [boundQuery_eq_spaced] at cut
  obtain ⟨done, word, todo, left, right, split, rfl, ending, rest⟩ :=
    Text.exists_word_of_piece noSpace nonempty cut
  obtain ⟨c, member⟩ := List.exists_mem_of_ne_nil piece nonempty
  refine ⟨left, right, Text.behind todo, ending, rest, ?_⟩
  exact atWord_of_mem_boundWords writable split (by simp [member]) (letters c member)

end TableQuery.Question
