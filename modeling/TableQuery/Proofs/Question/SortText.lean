import TableQuery.Proofs.Pattern.First
import TableQuery.Proofs.Text.Blank
import TableQuery.Proofs.Text.Lower
import TableQuery.Proofs.Text.Spaced
import TableQuery.Question

/-! # Texts that sort

A text such as `sort by total desc` names a column and perhaps a direction.  The clause for the
order takes up all of it, whatever word the column is named by.
-/

namespace TableQuery.Question

open Pattern

/-! ## The text -/

def sortText (key : String) : Option SortOrder → String
  | none => "sort by " ++ key
  | some order => "sort by " ++ key ++ " " ++ order.name

def directionWords (direction : Option SortOrder) : List (List Char) :=
  (direction.map fun order => order.name.toList).toList

def sortWords (word : List Char) (direction : Option SortOrder) : List (List Char) :=
  ['s', 'o', 'r', 't'] :: ['b', 'y'] :: word :: directionWords direction

theorem toList_sortText (key : String) (direction : Option SortOrder) :
    (sortText key direction).toList = Text.spaced (sortWords key.toList direction) := by
  cases direction with
  | none => simp [sortText, sortWords, directionWords, Text.spaced]
  | some order => simp [sortText, sortWords, directionWords, Text.spaced]

theorem lower_sortText (key : String) (direction : Option SortOrder) :
    Text.lower (sortText key direction).toList =
      Text.spaced (sortWords (Text.lower key.toList) direction) := by
  have isSort : Text.lower ['s', 'o', 'r', 't'] = ['s', 'o', 'r', 't'] := rfl
  have isBy : Text.lower ['b', 'y'] = ['b', 'y'] := rfl
  rw [toList_sortText]
  cases direction with
  | none =>
    simp only [sortWords, directionWords, Option.map_none, Option.toList_none, Text.spaced,
      Text.lower_append_space, isSort, isBy]
  | some order =>
    have isOrder : Text.lower order.name.toList = order.name.toList := by cases order <;> rfl
    simp only [sortWords, directionWords, Option.map_some, Option.toList_some, Text.spaced,
      Text.lower_append_space, isSort, isBy, isOrder]

/-! ## Pieces of the text -/

variable {word : List Char} {direction : Option SortOrder}

/-- What stands in front of the key, but for a space. -/
def opening : List Char := ['s', 'o', 'r', 't', ' ', 'b', 'y']

theorem spaced_sortWords (word : List Char) (direction : Option SortOrder) :
    Text.spaced (sortWords word direction) =
      opening ++ ' ' :: (word ++ Text.behind (directionWords direction)) := by
  simp [sortWords, Text.spaced_cons, opening]

/-- What holds of the fixed characters and of those of the key holds all along the text. -/
theorem forall_mem_sortText {motive : Char → Prop}
    (fixed : ∀ c ∈ [' ', 's', 'o', 'r', 't', 'b', 'y', 'a', 'c', 'd', 'e'], motive c)
    (ofWord : ∀ c ∈ word, motive c) :
    ∀ c ∈ Text.spaced (sortWords word direction), motive c := by
  intro c member
  rw [spaced_sortWords, List.mem_append, List.mem_cons, List.mem_append] at member
  rcases member with inOpening | rfl | inWord | inDirection
  · exact fixed c (by revert c; decide)
  · exact fixed ' ' (by decide)
  · exact ofWord c inWord
  · refine fixed c ?_
    cases direction with
    | none => cases inDirection
    | some order => revert c; cases order <;> decide

/-- Is the piece one of a single word that is neither of the first two? -/
structure IsLatePiece (piece : List Char) : Prop where
  noSpace : ' ' ∉ piece
  nonempty : piece ≠ []
  notSort : ¬ piece <:+: ['s', 'o', 'r', 't']
  notBy : ¬ piece <:+: ['b', 'y']

instance (piece : List Char) : Decidable (IsLatePiece piece) :=
  decidable_of_iff (' ' ∉ piece ∧ piece ≠ [] ∧ ¬ piece <:+: ['s', 'o', 'r', 't'] ∧
      ¬ piece <:+: ['b', 'y'])
    ⟨fun ⟨noSpace, nonempty, notSort, notBy⟩ => ⟨noSpace, nonempty, notSort, notBy⟩,
      fun late => ⟨late.noSpace, late.nonempty, late.notSort, late.notBy⟩⟩

theorem cut_of_piece {before piece after : List Char} (late : IsLatePiece piece)
    (cut : Text.spaced (sortWords word direction) = before ++ (piece ++ after)) :
    (∃ left right, word = left ++ (piece ++ right) ∧ before = opening ++ ' ' :: left ∧
        after = right ++ Text.behind (directionWords direction)) ∨
      ∃ order, direction = some order ∧ piece ++ after <:+ order.name.toList := by
  obtain ⟨done, other, todo, left, right, split, isOther, -, isAfter⟩ :=
    Text.exists_word_of_piece late.noSpace late.nonempty cut
  have within : piece <:+: other := ⟨left, right, by rw [isOther, List.append_assoc]⟩
  match done, split with
  | [], split =>
    rw [← (List.cons.inj split).1] at within
    exact absurd within late.notSort
  | [_], split =>
    simp only [sortWords, List.cons_append, List.nil_append, List.cons.injEq] at split
    rw [← split.2.1] at within
    exact absurd within late.notBy
  | [_, _], split =>
    simp only [sortWords, List.cons_append, List.nil_append, List.cons.injEq] at split
    obtain ⟨-, -, isWord, isTodo⟩ := split
    rw [← isWord] at isOther
    rw [← isTodo] at isAfter
    have same : (opening ++ ' ' :: left) ++ (piece ++ after) = before ++ (piece ++ after) := by
      rw [← cut, spaced_sortWords, isOther, isAfter]
      simp
    exact .inl ⟨left, right, isOther, (List.append_cancel_right same).symm, isAfter⟩
  | _ :: _ :: _ :: done, split =>
    simp only [sortWords, List.cons_append, List.cons.injEq] at split
    obtain ⟨-, -, -, isDirection⟩ := split
    cases direction with
    | none => simp [directionWords] at isDirection
    | some order =>
      obtain ⟨rfl, rfl, rfl⟩ : done = [] ∧ other = order.name.toList ∧ todo = [] := by
        cases done <;> simp_all [directionWords]
      refine .inr ⟨order, rfl, left, ?_⟩
      rw [isOther, isAfter]
      simp [Text.behind]

/-- Such a piece with a blank behind it ends the key, and the direction comes behind the blank. -/
theorem cut_of_piece_blank (isWord : ∀ c ∈ word, Text.isWordChar c = true)
    {before piece after : List Char} {b : Char} (late : IsLatePiece piece)
    (blank : Text.isBlank b = true)
    (cut : Text.spaced (sortWords word direction) = before ++ (piece ++ b :: after)) :
    ∃ left order, direction = some order ∧ word = left ++ piece ∧
      before = opening ++ ' ' :: left ∧ after = order.name.toList := by
  rcases cut_of_piece late cut with
    ⟨left, right, split, isBefore, isAfter⟩ | ⟨order, -, within⟩
  · cases right with
    | nil =>
      cases direction with
      | none => cases isAfter
      | some order =>
        simp only [directionWords, Option.map_some, Option.toList_some, Text.behind_cons,
          Text.spaced, List.nil_append, List.cons.injEq] at isAfter
        exact ⟨left, order, rfl, by rw [split, List.append_nil], isBefore, isAfter.2⟩
    | cons c right =>
      have solid := Text.isBlank_of_isWordChar (isWord c (by simp [split]))
      rw [List.cons_append, List.cons.injEq] at isAfter
      rw [← isAfter.1, blank] at solid
      cases solid
  · have inName : b ∈ order.name.toList := within.subset (by simp)
    have solid : ∀ c ∈ order.name.toList, Text.isBlank c = false := by cases order <;> decide
    rw [solid b inName] at blank
    cases blank

/-! ## The clause for the order -/

def sortPieces (word : List Char) (direction : Option SortOrder) : Pieces :=
  (directionWords direction).map (⟨2, word.length + 9, ·⟩) ++ [⟨1, 8, word⟩]

theorem prefers_direction (before : List Char) (ps : Pieces) (order : SortOrder) :
    Prefers (oneOf ["asc", "desc"]) ⟨before, order.name.toList⟩ ps
      (⟨order.name.toList.reverse ++ before, []⟩, ps) := by
  cases order <;> rfl

theorem prefers_space (before : List Char) {c : Char} (rest : List Char) (ps : Pieces)
    (solid : Text.isBlank c = false) :
    Prefers blanks1 ⟨before, ' ' :: c :: rest⟩ ps (⟨' ' :: before, c :: rest⟩, ps) := by
  have isBlank : ∀ d ∈ [' '], CharSet.blank.contains d = true := by
    intro d isSpace
    rw [List.mem_singleton.1 isSpace, CharSet.contains_blank]
    rfl
  have stop : ∀ d ∈ (c :: rest).head?, CharSet.blank.contains d = false := by
    rintro d ⟨⟩
    simpa using solid
  exact prefers_many1_one ' ' [] (c :: rest) isBlank stop before ps

theorem prefers_direction? (before : List Char) (ps : Pieces) (direction : Option SortOrder) :
    Prefers (optional (.seq blanks1 (.group 2 (oneOf ["asc", "desc"]))))
      ⟨before, Text.behind (directionWords direction)⟩ ps
      (⟨(Text.behind (directionWords direction)).reverse ++ before, []⟩,
        (directionWords direction).map (⟨2, before.length + 1, ·⟩) ++ ps) := by
  cases direction with
  | none => exact prefers_optional_stay rfl
  | some order =>
    obtain ⟨c, more, isCons, solid⟩ : ∃ c more, order.name.toList = c :: more ∧
        Text.isBlank c = false := by
      cases order <;> exact ⟨_, _, rfl, by decide⟩
    have gap := prefers_space before more ps solid
    rw [← isCons] at gap
    have inGroup := prefers_group (n := 2) (prefers_direction (' ' :: before) ps order)
    have taken : Place.since ⟨order.name.toList.reverse ++ ' ' :: before, []⟩
        ⟨' ' :: before, order.name.toList⟩ = order.name.toList := since_append _ _ _ _
    rw [taken] at inGroup
    have both := prefers_optional (prefers_seq gap inGroup) (by simp)
    simpa [Text.behind, Text.spaced, directionWords, Place.index] using both

/-- The clause for the order from the column on. -/
def sortTail : Pattern :=
  .seq (.group 1 (many1 (.one .word)))
    (optional (.seq blanks1 (.group 2 (oneOf ["asc", "desc"]))))

/-- The clause for the order from behind the verb on. -/
def sortBehindVerb : Pattern := .seq (optional (.seq (text "by") blanks1)) sortTail

theorem prefers_sortClause_of_by {rest : List Char} {way : Way}
    (behind : Prefers sortBehindVerb ⟨' ' :: ['t', 'r', 'o', 's'], ['b', 'y'] ++ ' ' :: rest⟩ [] way) :
    Prefers sortClause ⟨[], opening ++ ' ' :: rest⟩ [] way := by
  have verb : Prefers (oneOf ["sort", "order"])
      ⟨[], ['s', 'o', 'r', 't'] ++ (' ' :: 'b' :: 'y' :: ' ' :: rest)⟩ []
      (⟨['t', 'r', 'o', 's'], ' ' :: 'b' :: 'y' :: ' ' :: rest⟩, []) :=
    prefers_choice_cons _ (prefers_literal ['s', 'o', 'r', 't'] [] _ [])
  have space := prefers_space ['t', 'r', 'o', 's'] ('y' :: ' ' :: rest) []
    (show Text.isBlank 'b' = false by decide)
  exact prefers_seq verb (prefers_seq space behind)

/-- Where the clause can go on behind `by` and blanks, `by` is not taken for the column. -/
theorem prefers_by {gap s before : List Char} {way : Way}
    (isGap : ∀ c ∈ ' ' :: gap, Text.isBlank c = true)
    (solid : ∀ c ∈ s.head?, Text.isBlank c = false)
    (tail : Prefers sortTail ⟨(' ' :: gap).reverse ++ (['y', 'b'] ++ before), s⟩ [] way) :
    Prefers sortBehindVerb ⟨before, ['b', 'y'] ++ (' ' :: gap ++ s)⟩ [] way := by
  have atBy := prefers_literal ['b', 'y'] before (' ' :: gap ++ s) []
  have atGap := @prefers_many1_one .blank ' ' gap s (by simpa using isGap) (by simpa using solid)
    (['y', 'b'] ++ before) []
  refine prefers_seq (prefers_optional (prefers_seq atBy atGap) ?_) tail
  simp
  omega

theorem prefers_sortClause (nonempty : word ≠ []) (isWord : ∀ c ∈ word, Text.isWordChar c = true)
    (direction : Option SortOrder) :
    Prefers sortClause ⟨[], Text.spaced (sortWords word direction)⟩ []
      (⟨(Text.spaced (sortWords word direction)).reverse, []⟩, sortPieces word direction) := by
  obtain ⟨c, more, rfl⟩ := List.exists_cons_of_ne_nil nonempty
  have solid : Text.isBlank c = false := Text.isBlank_of_isWordChar (isWord c List.mem_cons_self)
  generalize isTail : Text.behind (directionWords direction) = tail
  -- The key ends at a space or at the end of the text, and no sooner.
  have held : ∀ d ∈ c :: more, CharSet.word.contains d = true := by simpa using isWord
  have stop : ∀ d ∈ tail.head?, CharSet.word.contains d = false := by
    subst isTail
    cases direction with
    | none => rintro d ⟨⟩
    | some order =>
      rintro d ⟨⟩
      rw [CharSet.contains_word]
      rfl
  have column := prefers_group (n := 1)
    (prefers_many1_one c more tail held stop [' ', 'y', 'b', ' ', 't', 'r', 'o', 's'] [])
  rw [since_append] at column
  have order := prefers_direction? ((c :: more).reverse ++ [' ', 'y', 'b', ' ', 't', 'r', 'o', 's'])
    [⟨1, 8, c :: more⟩] direction
  rw [isTail] at order
  have isGap : ∀ d ∈ [' '], Text.isBlank d = true := by decide
  have whole := prefers_sortClause_of_by (prefers_by isGap (by simpa using solid)
    (prefers_seq column order))
  have isBefore :
      (opening ++ ' ' :: (c :: more ++ tail)).reverse =
        tail.reverse ++ ((c :: more).reverse ++ [' ', 'y', 'b', ' ', 't', 'r', 'o', 's']) := by
    simp [opening]
  have isStart : ((c :: more).reverse ++ [' ', 'y', 'b', ' ', 't', 'r', 'o', 's']).length + 1 =
      (c :: more).length + 9 := by
    simp
  rw [isStart] at whole
  rw [spaced_sortWords, isTail, isBefore]
  exact whole

theorem find?_sortClause (nonempty : word ≠ []) (isWord : ∀ c ∈ word, Text.isWordChar c = true)
    (direction : Option SortOrder) :
    find? sortClause (Text.spaced (sortWords word direction)) =
      some ⟨0, Text.spaced (sortWords word direction), [], sortPieces word direction⟩ := by
  have whole : Place.since ⟨(Text.spaced (sortWords word direction)).reverse, []⟩
      ⟨[], Text.spaced (sortWords word direction)⟩ = Text.spaced (sortWords word direction) := by
    have since := since_append (Text.spaced (sortWords word direction)) [] []
      (Text.spaced (sortWords word direction))
    rwa [List.append_nil] at since
  rw [find?_of_prefers (prefers_sortClause nonempty isWord direction), Found.ofWay, whole]
  rfl

theorem ofText?_name (order : SortOrder) : SortOrder.ofText? order.name = some order := by
  cases order <;> decide

theorem sortOf?_spaced {schema : Schema} {column : Column} (nonempty : word ≠ [])
    (isWord : ∀ c ∈ word, Text.isWordChar c = true) (direction : Option SortOrder)
    (named : schema.column? (String.ofList word) = some column) :
    sortOf? schema (Text.spaced (sortWords word direction)) =
      some ⟨⟨0, (Text.spaced (sortWords word direction)).length⟩,
        ⟨column.key, direction.getD .asc⟩,
        "Sorted by " ++ column.label ++ " (" ++ (direction.getD .asc).name ++ ")"⟩ := by
  have isColumn : (sortPieces word direction).get? 1 = some word := by
    cases direction <;> rfl
  have isDirection : (sortPieces word direction).get? 2 = direction.map (·.name.toList) := by
    cases direction <;> rfl
  have isOrder : (((sortPieces word direction).get? 2).map String.ofList).bind SortOrder.ofText? =
      direction := by
    rw [isDirection]
    cases direction with
    | none => rfl
    | some order => simp [ofText?_name]
  rw [sortOf?, find?_sortClause nonempty isWord direction]
  simp only [isColumn, isOrder, Option.getD_some, named, Found.stop, Nat.zero_add]

end TableQuery.Question
