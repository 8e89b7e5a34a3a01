import TableQuery.Proofs.Pattern.Gives
import TableQuery.Proofs.Question.Origin
import TableQuery.Proofs.Text.Bytes
import TableQuery.Proofs.Text.Words

/-! # What remains of a query

The clauses for order and number take up spans of a query, and a word to look for is taken from
what remains.  Blanks stand there for the bytes of the spans, one for each, so every byte stays at
its place.  Overwriting the spans one after the other gives the same bytes, as they begin and end
between characters even where they overlap.  A word that is found has no blank in it, so it stands
at the same byte of the query and outside of all spans.
-/

namespace TableQuery.Question

open Text

/-! ## Blanks for spans -/

section

variable {spans others : List Span} {i : Nat} {s : List Char}

theorem blankFrom_append (spans : List Span) (i : Nat) (s more : List Char) :
    blankFrom spans i (s ++ more) = blankFrom spans i s ++ blankFrom spans (i + s.length) more := by
  induction s generalizing i with
  | nil => rfl
  | cons c s inductionHypothesis =>
    simp only [List.cons_append, blankFrom, inductionHypothesis, List.append_assoc, List.length_cons]
    rw [Nat.add_assoc, Nat.add_comm 1]

theorem length_bytes_blankFrom (spans : List Span) (i : Nat) (s : List Char) :
    (bytes (blankFrom spans i s)).length = (bytes s).length := by
  induction s generalizing i with
  | nil => rfl
  | cons c s inductionHypothesis =>
    rw [blankFrom, bytes_append, List.length_append, inductionHypothesis]
    split <;> simp [bytes_replicate_space, String.length_utf8EncodeChar]

theorem blankFrom_congr
    (same : ∀ j, i ≤ j → j < i + s.length → inSpans spans j = inSpans others j) :
    blankFrom spans i s = blankFrom others i s := by
  induction s generalizing i with
  | nil => rfl
  | cons c s inductionHypothesis =>
    simp only [List.length_cons] at same
    rw [blankFrom, blankFrom, same i (Nat.le_refl i) (by omega),
      inductionHypothesis fun j above below => same j (by omega) (by omega)]

theorem blankFrom_of_covered (covered : ∀ j, i ≤ j → j < i + s.length → inSpans spans j = true) :
    blankFrom spans i s = List.replicate (bytes s).length ' ' := by
  induction s generalizing i with
  | nil => rfl
  | cons c s inductionHypothesis =>
    simp only [List.length_cons] at covered
    rw [blankFrom, if_pos (covered i (Nat.le_refl i) (by omega)),
      inductionHypothesis fun j above below => covered j (by omega) (by omega), bytes_cons,
      List.length_append, String.length_utf8EncodeChar, List.replicate_add]

theorem blankOut_nil (s : List Char) : blankOut [] s = s := by
  have nothing : ∀ i, blankFrom [] i s = s := by
    induction s with
    | nil => exact fun _ => rfl
    | cons c s inductionHypothesis =>
      intro i
      rw [blankFrom, inductionHypothesis]
      rfl
  exact nothing 0

end

/-! ## Spans as ranges of bytes -/

/-- Is the span one of characters of the text? -/
structure Span.IsIn (s : List Char) (span : Span) : Prop where
  start_le_stop : span.start ≤ span.stop
  stop_le_length : span.stop ≤ s.length

/-- The bytes of the text that the span takes up. -/
def Span.bytesIn (s : List Char) (span : Span) : ByteRange :=
  ⟨(bytes (s.take span.start)).length, (bytes (s.take span.stop)).length⟩

theorem inSpans_concat (spans : List Span) (span : Span) (i : Nat) :
    inSpans (spans ++ [span]) i = (inSpans spans i || (span.start ≤ i && i < span.stop)) := by
  simp [inSpans]

section

variable {s : List Char} {span : Span} (isIn : span.IsIn s)

include isIn

theorem Span.IsIn.exists_cut : ∃ left inside right, s = left ++ (inside ++ right) ∧
    span.start = left.length ∧ span.stop = left.length + inside.length ∧
    span.bytesIn s = ⟨(bytes left).length, (bytes (left ++ inside)).length⟩ := by
  obtain ⟨inOrder, inText⟩ := isIn
  have isStop : s.take span.start ++ (s.drop span.start).take (span.stop - span.start) =
      s.take span.stop := by
    rw [← List.take_add, Nat.add_sub_of_le inOrder]
  refine ⟨s.take span.start, (s.drop span.start).take (span.stop - span.start), s.drop span.stop,
    ?_, by simp; omega, by simp; omega, by rw [isStop, Span.bytesIn]⟩
  rw [← List.append_assoc, isStop, List.take_append_drop]

theorem Span.IsIn.isWhole (spans : List Span) :
    (span.bytesIn s).IsWhole (bytes (blankOut spans s)) := by
  obtain ⟨left, inside, right, rfl, -, -, isRange⟩ := isIn.exists_cut
  rw [isRange]
  constructor
  case start_le_stop => simp
  case start =>
    have begins := isCharStart_append (blankFrom spans 0 left)
      (blankFrom spans (0 + left.length) (inside ++ right))
    rwa [length_bytes_blankFrom, ← bytes_append, ← blankFrom_append] at begins
  case stop =>
    have begins := isCharStart_append (blankFrom spans 0 (left ++ inside))
      (blankFrom spans (0 + (left ++ inside).length) right)
    rwa [length_bytes_blankFrom, ← bytes_append, ← blankFrom_append, List.append_assoc] at begins

theorem overwrite_blankOut (spans : List Span) :
    overwrite (bytes (blankOut spans s)) (span.bytesIn s) =
      bytes (blankOut (spans ++ [span]) s) := by
  rw [overwrite_eq (isIn.isWhole spans)]
  obtain ⟨left, inside, right, rfl, isStart, isStop, isRange⟩ := isIn.exists_cut
  have isLeft : blankFrom (spans ++ [span]) 0 left = blankFrom spans 0 left :=
    blankFrom_congr fun j _ below => by simp [inSpans_concat]; omega
  have isInside : blankFrom (spans ++ [span]) (0 + left.length) inside =
      List.replicate (bytes inside).length ' ' :=
    blankFrom_of_covered fun j above below => by simp [inSpans_concat]; omega
  have isRight : blankFrom (spans ++ [span]) (0 + left.length + inside.length) right =
      blankFrom spans (0 + left.length + inside.length) right :=
    blankFrom_congr fun j above _ => by simp [inSpans_concat]; omega
  have lengthLeft := length_bytes_blankFrom spans 0 left
  have lengthInside := length_bytes_blankFrom spans (0 + left.length) inside
  rw [isRange, blankOut, blankOut, blankFrom_append, blankFrom_append, blankFrom_append,
    blankFrom_append, isLeft, isInside, isRight]
  simp only [bytes_append, bytes_replicate_space, List.length_append, Nat.add_sub_cancel_left]
  rw [← lengthLeft, List.take_left, ← lengthInside, ← List.length_append, ← List.append_assoc (bytes _)
    (bytes _) (bytes _), List.drop_left]

end

theorem foldl_overwrite_blankOut {s : List Char} {spans : List Span}
    (areIn : ∀ span ∈ spans, span.IsIn s) (done : List Span) :
    (spans.map (Span.bytesIn s)).foldl overwrite (bytes (blankOut done s)) =
      bytes (blankOut (done ++ spans) s) := by
  induction spans generalizing done with
  | nil => simp
  | cons span spans inductionHypothesis =>
    rw [List.map_cons, List.foldl_cons, overwrite_blankOut (areIn span List.mem_cons_self),
      inductionHypothesis fun other member => areIn other (List.mem_cons_of_mem _ member),
      List.append_assoc, List.singleton_append]

/-! ## Words of what remains -/

section

variable {spans : List Span} {i : Nat} {s before word after : List Char}

theorem exists_cut_of_blankFrom {c : Char} (notSpace : c ≠ ' ')
    (cut : blankFrom spans i s = before ++ c :: after) :
    ∃ left right, s = left ++ right ∧ blankFrom spans i left = before ∧
      blankFrom spans (i + left.length) right = c :: after := by
  induction s generalizing i before with
  | nil => simp [blankFrom] at cut
  | cons d s inductionHypothesis =>
    rw [blankFrom] at cut
    rcases List.append_eq_append_iff.1 cut with ⟨more, rfl, later⟩ | ⟨inner, isHere, isRest⟩
    · obtain ⟨left, right, rfl, isLeft, isRight⟩ := inductionHypothesis later
      refine ⟨d :: left, right, rfl, by rw [blankFrom, isLeft], ?_⟩
      rwa [List.length_cons, Nat.add_comm left.length, ← Nat.add_assoc]
    · cases inner with
      | nil =>
        obtain ⟨left, right, rfl, isLeft, isRight⟩ := @inductionHypothesis (i + 1) [] isRest.symm
        refine ⟨d :: left, right, rfl, by simp [blankFrom, isLeft, isHere], ?_⟩
        rwa [List.length_cons, Nat.add_comm left.length, ← Nat.add_assoc]
      | cons e inner =>
        -- The character is among those that stand for the first one, so it is the first one.
        obtain ⟨rfl, -⟩ := List.cons.inj isRest
        split at isHere
        · have member : c ∈ List.replicate d.utf8Size ' ' := by simp [isHere]
          exact absurd (List.eq_of_mem_replicate member) notSpace
        · obtain ⟨rfl, rfl⟩ : before = [] ∧ inner = [] := by cases before <;> simp_all
          exact ⟨[], d :: s, rfl, rfl, by rw [blankFrom]; simp_all⟩

/-- What remains without a space is what the text has there, and no span takes it up. -/
theorem exists_rest_of_blankFrom (noSpace : ' ' ∉ word)
    (cut : blankFrom spans i s = word ++ after) :
    ∃ rest, s = word ++ rest ∧ ∀ j, i ≤ j → j < i + word.length → inSpans spans j = false := by
  induction word generalizing i s with
  | nil => exact ⟨s, rfl, by simp; omega⟩
  | cons c word inductionHypothesis =>
    have notSpace : c ≠ ' ' := fun isSpace => noSpace (isSpace ▸ List.mem_cons_self)
    cases s with
    | nil => simp [blankFrom] at cut
    | cons d s =>
      rw [blankFrom] at cut
      by_cases covered : inSpans spans i = true
      · obtain ⟨n, isSize⟩ := Nat.exists_eq_succ_of_ne_zero d.utf8Size_pos.ne'
        rw [if_pos covered, isSize, List.replicate_succ] at cut
        exact absurd (List.cons.inj cut).1.symm notSpace
      · rw [if_neg covered] at cut
        obtain ⟨rfl, later⟩ := List.cons.inj cut
        obtain ⟨rest, rfl, uncovered⟩ :=
          inductionHypothesis (fun member => noSpace (List.mem_cons_of_mem _ member)) later
        refine ⟨rest, rfl, fun j above below => ?_⟩
        rw [List.length_cons] at below
        rcases Nat.eq_or_lt_of_le above with rfl | behind
        · simpa using covered
        · exact uncovered j behind (by omega)

end

/-! ## The word that is looked for -/

/-- Is the word worth looking for? -/
def IsSought (word : List Char) : Prop := String.ofList word ∉ stopWords ∧ 2 < word.length

/-- Is this the last word of what remains that is worth looking for, and does the text have it at
    the same byte, with none of its bytes in the ranges? -/
inductive IsUntouched (s remaining : List Char) (ranges : List ByteRange) (word : List Char) :
    Prop where
  | intro {before after left right : List Char} (inRemaining : remaining = before ++ (word ++ after))
      (isWord : IsWordBetween before word after) (isSought : IsSought word)
      (isLast : ∀ other ∈ words after, ¬ IsSought other) (inText : s = left ++ (word ++ right))
      (sameByte : (bytes left).length = (bytes before).length)
      (outside : ∀ i, (bytes left).length ≤ i → i < (bytes left).length + (bytes word).length →
        ∀ r ∈ ranges, r.covers i = false) :
      IsUntouched s remaining ranges word

theorem length_bytes_take_le (s : List Char) {i j : Nat} (below : i ≤ j) :
    (bytes (s.take i)).length ≤ (bytes (s.take j)).length := by
  rw [show s.take j = s.take i ++ (s.drop i).take (j - i) by
    rw [← List.take_add, Nat.add_sub_of_le below], bytes_append, List.length_append]
  exact Nat.le_add_right _ _

/-- A span that takes up no character of a piece takes up none of its bytes. -/
theorem covers_bytesIn_eq_false {span : Span} {left word right : List Char} (nonempty : word ≠ [])
    (inOrder : span.start ≤ span.stop)
    (uncovered : ∀ j, left.length ≤ j → j < left.length + word.length →
      ¬ (span.start ≤ j ∧ j < span.stop)) {i : Nat} (above : (bytes left).length ≤ i)
    (below : i < (bytes left).length + (bytes word).length) :
    (span.bytesIn (left ++ (word ++ right))).covers i = false := by
  have isLeft : (left ++ (word ++ right)).take left.length = left := List.take_left
  have isWord : (left ++ (word ++ right)).take (left.length + word.length) = left ++ word := by
    rw [← List.append_assoc, ← List.length_append, List.take_left]
  have positive := List.length_pos_iff.2 nonempty
  have apart : span.stop ≤ left.length ∨ left.length + word.length ≤ span.start ∨
      span.start = span.stop := by
    have atFirst := uncovered left.length (Nat.le_refl _) (by omega)
    have atStart := uncovered span.start
    omega
  rw [ByteRange.covers_eq_false_iff]
  dsimp only [Span.bytesIn]
  rcases apart with before | behind | isEmpty
  · have stops := length_bytes_take_le (left ++ (word ++ right)) before
    rw [isLeft] at stops
    omega
  · have starts := length_bytes_take_le (left ++ (word ++ right)) behind
    rw [isWord, bytes_append, List.length_append] at starts
    omega
  · rw [isEmpty]
    omega

theorem isUntouched_of_searchTerm? {spans : List Span} {s word : List Char}
    (areIn : ∀ span ∈ spans, span.IsIn s) (isTerm : searchTerm? (blankOut spans s) = some word) :
    IsUntouched s (blankOut spans s) (spans.map (Span.bytesIn s)) word := by
  have sought_iff : ∀ w, (!stopWords.contains (String.ofList w) && decide (2 < w.length)) = true ↔
      IsSought w := by simp [IsSought]
  obtain ⟨before, after, cut, isWord, isSought, isLast⟩ := exists_cut_of_getLast?_words isTerm
  have noSpace : ' ' ∉ word := fun member => absurd (isWord.solid ' ' member) (by decide)
  obtain ⟨c, more, rfl⟩ := List.exists_cons_of_ne_nil isWord.nonempty
  obtain ⟨left, tail, rfl, isLeft, isTail⟩ :=
    exists_cut_of_blankFrom (fun isSpace => noSpace (isSpace ▸ List.mem_cons_self)) cut
  obtain ⟨right, rfl, uncovered⟩ := exists_rest_of_blankFrom noSpace isTail
  refine .intro cut isWord ((sought_iff _).1 isSought)
    (fun other member sought => ?_) rfl ?_ fun i above below r member => ?_
  · rw [← sought_iff, isLast other member] at sought
    cases sought
  · rw [← isLeft, length_bytes_blankFrom]
  · obtain ⟨span, inSpans, rfl⟩ := List.mem_map.1 member
    refine covers_bytesIn_eq_false isWord.nonempty (areIn span inSpans).start_le_stop
      (fun j above below covered => ?_) above below
    have isCovered := List.any_eq_false.1 (uncovered j (by omega) (by omega)) span inSpans
    simp [covered] at isCovered

/-! ## Plans -/

theorem isIn_of_mem_understood {schema : Schema} {s : List Char} {span : Span}
    (member : span ∈ understood schema s) : span.IsIn s := by
  have of_found : ∀ {p : Pattern} {found : Pattern.Found}, Pattern.find? p s = some found →
      Span.IsIn s ⟨found.start, found.stop⟩ := by
    intro p found isFound
    obtain ⟨before, isStart, rfl⟩ := Pattern.exists_cut_of_find? isFound
    constructor
    · simp [Pattern.Found.stop]
    · simp [Pattern.Found.stop, isStart]
  rw [understood, List.mem_append] at member
  cases member with
  | inl inSort =>
    obtain ⟨clause, isClause, rfl⟩ : ∃ clause, sortOf? schema s = some clause ∧ clause.span = span :=
      by simpa using inSort
    rw [sortOf?] at isClause
    split at isClause
    · cases isClause
    · next found isFound =>
      split at isClause
      · cases isClause
      · cases isClause
        exact of_found isFound
  | inr inLimit =>
    obtain ⟨clause, isClause, rfl⟩ : ∃ clause, limitOf? s = some clause ∧ clause.span = span :=
      by simpa using inLimit
    obtain ⟨found, isFound, rfl⟩ := Option.map_eq_some_iff.1 isClause
    exact of_found isFound

theorem searchTerm?_of_sourceOf {schema : Schema} {s : List Char} {spans : List Span}
    {term : String} {columns : List Column}
    (isSource : sourceOf schema s spans = .search term columns) :
    searchTerm? (blankOut spans s) = some term.toList := by
  rw [sourceOf] at isSource
  split at isSource
  · cases isSource
  split at isSource
  · cases isSource
  split at isSource
  · cases isSource
  rw [searchSource] at isSource
  split at isSource
  · next word first others isTerm isColumns =>
    cases isSource
    rw [isTerm, String.toList_ofList]
  · cases isSource

/-- The clauses for order and number take up whole characters of a query, even where they overlap.
    Overwriting their bytes one after the other gives what remains of the query: spaces for these
    bytes, and all others at their places.  The word of it that is looked for stands at the same
    byte of the query and outside of both clauses, and it is the one that a plan looks for. -/
theorem plan_searchesRemaining (schema : Schema) (query : String) :
    let s := Text.lower query.toList
    let ranges := (understood schema s).map (Span.bytesIn s)
    (∀ span ∈ understood schema s, span.IsIn s) ∧
      (∀ r ∈ ranges, r.IsWhole (bytes s)) ∧
      ranges.foldl overwrite (bytes s) = bytes (remainingOf schema s) ∧
      IsBlanked (bytes s) ranges (bytes (remainingOf schema s)) ∧
      (∀ word, searchTerm? (remainingOf schema s) = some word →
        IsUntouched s (remainingOf schema s) ranges word) ∧
      ∀ term columns, sourceOfQuery schema query = .search term columns →
        searchTerm? (remainingOf schema s) = some term.toList ∧
          (plan schema query).filter =
            some ⟨columns.map fun c => ⟨c.key, .contains, .scalar (.text term)⟩, .any⟩ := by
  intro s ranges
  have areIn : ∀ span ∈ understood schema s, span.IsIn s := fun span => isIn_of_mem_understood
  have areWhole : ∀ r ∈ ranges, r.IsWhole (bytes s) := by
    intro r member
    obtain ⟨span, isSpan, rfl⟩ := List.mem_map.1 member
    have isWhole := (areIn span isSpan).isWhole []
    rwa [blankOut_nil] at isWhole
  have isRemaining : ranges.foldl overwrite (bytes s) = bytes (remainingOf schema s) := by
    have overwritten := foldl_overwrite_blankOut areIn []
    rwa [blankOut_nil] at overwritten
  refine ⟨areIn, areWhole, isRemaining, isRemaining ▸ isBlanked_foldl_overwrite areWhole,
    fun word isTerm => isUntouched_of_searchTerm? areIn isTerm,
    fun term columns isSource => ⟨searchTerm?_of_sourceOf isSource, ?_⟩⟩
  rcases filter_plan_cases schema query with ⟨origin, -, isFilter⟩ | ⟨-, isNone, -⟩
  · rw [isFilter, isSource]
    rfl
  · rw [isSource] at isNone
    cases isNone

/-- The clauses overlap in the word `top`, and a wide space in the first one takes three bytes. -/
example :
    let schema : Schema := ⟨[⟨"top", .number, "Top", []⟩, ⟨"city", .string, "City", []⟩], 0, []⟩
    let s := Text.lower "Sort by　Top 5 Köln".toList
    understood schema s = [⟨0, 11⟩, ⟨8, 13⟩] ∧
      remainingOf schema s = List.replicate 16 ' ' ++ "köln".toList := by
  decide +kernel

end TableQuery.Question
