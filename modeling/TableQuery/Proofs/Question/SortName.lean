import TableQuery.Proofs.Question.ColumnOrder
import TableQuery.Proofs.Question.SortPlan

/-! # Sorting by name

A column can be asked for by its key or by its label, in any case.  The clause for the order takes
one word for the column, so of a name with several words it takes the first one only, and what
comes behind that word is no direction.  A column is sorted by a name just where this one word is
a name of the column.
-/

namespace TableQuery

namespace Question

open Pattern

/-! ## What the clause reads -/

/-- The direction that a text behind the column says. -/
def directionOf (rest : List Char) : SortOrder :=
  if ['d', 'e', 's', 'c'] <+: Text.trimStart rest then .desc else .asc

/-- The word for the column and the direction that are read in a text that comes behind `sort by`
    and a space.  Where no word follows, `by` is the word. -/
def sortReading (rest : List Char) : List Char × SortOrder :=
  match (Text.trimStart rest).takeWhile Text.isWordChar with
  | [] => (['b', 'y'], .asc)
  | c :: more => (c :: more, directionOf ((Text.trimStart rest).dropWhile Text.isWordChar))

/-- Do the pieces that the clause for the order remembers say this? -/
structure SaysOrder (ps : Pieces) (read : List Char × SortOrder) : Prop where
  word : ps.get? 1 = some read.1
  order : (((ps.get? 2).map String.ofList).bind SortOrder.ofText?).getD .asc = read.2

/-! ## Directions -/

theorem isWordChar_of_isHead {order : SortOrder} {more : List Char} :
    ∀ c ∈ (order.name.toList ++ more).head?, Text.isWordChar c = true := by
  cases order <;> rintro c ⟨⟩ <;> decide

theorem solid_of_isHead {order : SortOrder} {more : List Char} :
    ∀ c ∈ (order.name.toList ++ more).head?, Text.isBlank c = false :=
  fun c isHead => Text.isBlank_of_isWordChar (isWordChar_of_isHead c isHead)

theorem not_startsWith_name {s : List Char} (edge : ∀ c ∈ s.head?, Text.isWordChar c = false)
    (order : SortOrder) : ¬ order.name.toList <+: s := by
  rintro ⟨more, rfl⟩
  obtain ⟨c, isHead⟩ : ∃ c, (order.name.toList ++ more).head? = some c := by
    cases order <;> exact ⟨_, rfl⟩
  have inside := edge c isHead
  rw [isWordChar_of_isHead c isHead] at inside
  cases inside

theorem directionOf_name (order : SortOrder) {gap : List Char}
    (isBlanks : ∀ c ∈ gap, Text.isBlank c = true) (more : List Char) :
    directionOf (gap ++ (order.name.toList ++ more)) = order := by
  rw [directionOf, Text.trimStart, Text.dropWhile_run isBlanks solid_of_isHead]
  cases order with
  | asc => exact if_neg fun isDesc => by cases (List.cons_prefix_cons.1 isDesc).1
  | desc => exact if_pos (List.prefix_append _ _)

theorem directionOf_eq_asc {rest : List Char}
    (silent : ∀ order : SortOrder, ¬ order.name.toList <+: Text.trimStart rest) :
    directionOf rest = .asc :=
  if_neg (silent .desc)

/-- What is taken for the direction is one, and blanks stand in front of it. -/
theorem exists_name_of_takes {s rest : List Char}
    (takes : Takes (.seq blanks1 (.group 2 (oneOf ["asc", "desc"]))) s rest) :
    ∃ order : SortOrder, order.name.toList <+: Text.trimStart s := by
  obtain ⟨mid, atGap, atGroup⟩ := takes_seq takes
  obtain ⟨b, gap, isBlanks, rfl⟩ := takes_blanks1 atGap
  obtain ⟨name, isName, rfl⟩ := takes_oneOf (takes_group atGroup)
  obtain ⟨order, rfl⟩ : ∃ order : SortOrder, order.name = name := by
    rcases List.mem_pair.1 isName with rfl | rfl
    · exact ⟨.asc, rfl⟩
    · exact ⟨.desc, rfl⟩
  refine ⟨order, rest, ?_⟩
  rw [← List.cons_append, Text.trimStart, Text.dropWhile_run isBlanks solid_of_isHead]

theorem exists_prefers_directionOf {word rest : List Char}
    (edge : ∀ c ∈ rest.head?, Text.isWordChar c = false) (before : List Char) (start : Nat) :
    ∃ place ps, Prefers (optional (.seq blanks1 (.group 2 (oneOf ["asc", "desc"]))))
        ⟨before, rest⟩ [⟨1, start, word⟩] (place, ps) ∧ SaysOrder ps (word, directionOf rest) := by
  obtain ⟨gap, s, isSplit, isBlanks, solid⟩ := Text.exists_run Text.isBlank rest
  have isStart : Text.trimStart rest = s := by
    rw [isSplit, Text.trimStart, Text.dropWhile_run isBlanks solid]
  by_cases said : ∃ order : SortOrder, order.name.toList <+: s
  · obtain ⟨order, more, rfl⟩ := said
    cases gap with
    | nil =>
      rw [List.nil_append] at isSplit
      exact absurd ⟨more, isSplit.symm⟩ (not_startsWith_name edge order)
    | cons b gap =>
      have atGap := @prefers_many1_one .blank b gap (order.name.toList ++ more)
        (by simpa using isBlanks) (by simpa using solid) before [⟨1, start, word⟩]
      have atName : Prefers (oneOf ["asc", "desc"])
          ⟨(b :: gap).reverse ++ before, order.name.toList ++ more⟩ [⟨1, start, word⟩]
          (⟨order.name.toList.reverse ++ ((b :: gap).reverse ++ before), more⟩,
            [⟨1, start, word⟩]) := by
        cases order <;> rfl
      have inGroup := prefers_group (n := 2) atName
      rw [since_append] at inGroup
      rw [isSplit]
      refine ⟨_, _, prefers_optional (prefers_seq atGap inGroup) (by simp; omega), rfl, ?_⟩
      rw [directionOf_name order isBlanks]
      simp [Pieces.get?, ofText?_name]
  · rw [← isStart] at said
    refine ⟨_, _, prefers_optional_stay (ways_eq_nil_of_not_takes fun left takes =>
      said (exists_name_of_takes takes)), rfl, ?_⟩
    rw [directionOf_eq_asc fun order isPrefix => said ⟨order, isPrefix⟩]
    rfl

/-! ## Columns -/

theorem exists_prefers_sortTail {c : Char} {word rest : List Char}
    (isWord : ∀ d ∈ c :: word, Text.isWordChar d = true)
    (edge : ∀ d ∈ rest.head?, Text.isWordChar d = false) (before : List Char) :
    ∃ place ps, Prefers sortTail ⟨before, c :: word ++ rest⟩ [] (place, ps) ∧
      SaysOrder ps (c :: word, directionOf rest) := by
  have column := prefers_group (n := 1) (@prefers_many1_one .word c word rest
    (by simpa using isWord) (by simpa using edge) before [])
  rw [since_append] at column
  obtain ⟨place, ps, atDirection, order⟩ :=
    exists_prefers_directionOf edge ((c :: word).reverse ++ before) _
  exact ⟨place, ps, prefers_seq column atDirection, order⟩

section

variable {gap : List Char} (isGap : ∀ c ∈ ' ' :: gap, Text.isBlank c = true)

include isGap

theorem exists_prefers_by_word {c : Char} {word rest : List Char}
    (isWord : ∀ d ∈ c :: word, Text.isWordChar d = true)
    (edge : ∀ d ∈ rest.head?, Text.isWordChar d = false) (before : List Char) :
    ∃ place ps, Prefers sortBehindVerb
        ⟨before, ['b', 'y'] ++ (' ' :: gap ++ (c :: word ++ rest))⟩ [] (place, ps) ∧
      SaysOrder ps (c :: word, directionOf rest) := by
  have solid := Text.isBlank_of_isWordChar (isWord c List.mem_cons_self)
  obtain ⟨place, ps, atWord, order⟩ := exists_prefers_sortTail isWord edge
    ((' ' :: gap).reverse ++ (['y', 'b'] ++ before))
  exact ⟨place, ps, prefers_by isGap (by simpa using solid) atWord, order⟩

theorem exists_prefers_by {rest : List Char} (edge : ∀ d ∈ rest.head?, Text.isWordChar d = false)
    (solid : ∀ d ∈ rest.head?, Text.isBlank d = false) (before : List Char) :
    ∃ place ps, Prefers sortBehindVerb ⟨before, ['b', 'y'] ++ (' ' :: gap ++ rest)⟩ []
        (place, ps) ∧
      SaysOrder ps (['b', 'y'], .asc) := by
  have never : ∀ left, ¬ Takes (.seq (.seq (text "by") blanks1) sortTail)
      (['b', 'y'] ++ (' ' :: gap ++ rest)) left := by
    intro left takes
    obtain ⟨atWord, takesBoth, takesTail⟩ := takes_seq takes
    obtain ⟨atGap, takesBy, takesGap⟩ := takes_seq takesBoth
    obtain ⟨b, taken, isTaken, rfl⟩ := takes_blanks1 takesGap
    obtain ⟨afterWord, takesWord, -⟩ := takes_seq takesTail
    obtain ⟨c, more, isWord, rfl⟩ := takes_many1_one (takes_group takesWord)
    have isChar : Text.isWordChar c = true := by
      simpa using isWord c List.mem_cons_self
    -- Behind all blanks there would be a word character.
    have same := List.append_cancel_left (takes_literal takesBy)
    have dropped := Text.dropWhile_run isGap solid
    rw [same, ← List.cons_append, Text.dropWhile_run isTaken] at dropped
    · subst dropped
      rw [edge c rfl] at isChar
      cases isChar
    · rintro d ⟨⟩
      exact Text.isBlank_of_isWordChar isChar
  have atSpace : ∀ d ∈ (' ' :: gap ++ rest).head?, Text.isWordChar d = false := by
    rintro d ⟨⟩
    decide
  obtain ⟨place, ps, atBy, order⟩ :=
    @exists_prefers_sortTail 'b' ['y'] (' ' :: gap ++ rest) (by decide) atSpace before
  refine ⟨place, ps, prefers_optional_seq_stay never atBy, ?_⟩
  rwa [directionOf_eq_asc] at order
  rw [Text.trimStart, Text.dropWhile_run isGap solid]
  exact not_startsWith_name edge

end

theorem exists_find?_sortClause (rest : List Char) :
    ∃ found, find? sortClause (opening ++ ' ' :: rest) = some found ∧
      SaysOrder found.pieces (sortReading rest) := by
  obtain ⟨gap, s, rfl, isBlanks, solid⟩ := Text.exists_run Text.isBlank rest
  have isGap : ∀ c ∈ ' ' :: gap, Text.isBlank c = true := by
    simpa using ⟨(by decide : Text.isBlank ' ' = true), isBlanks⟩
  obtain ⟨place, ps, prefers, order⟩ : ∃ place ps, Prefers sortBehindVerb
        ⟨' ' :: ['t', 'r', 'o', 's'], ['b', 'y'] ++ (' ' :: gap ++ s)⟩ [] (place, ps) ∧
      SaysOrder ps (sortReading (gap ++ s)) := by
    rw [sortReading, Text.trimStart, Text.dropWhile_run isBlanks solid]
    obtain ⟨word, tail, rfl, isWord, edge⟩ := Text.exists_run Text.isWordChar s
    rw [Text.takeWhile_run isWord edge, Text.dropWhile_run isWord edge]
    cases word with
    | nil => exact exists_prefers_by isGap edge solid _
    | cons c word => exact exists_prefers_by_word isGap isWord edge _
  exact ⟨_, find?_of_prefers (prefers_sortClause_of_by prefers), order⟩

/-! ## Plans -/

/-- What the clause for the order reads in the text that sorts by a name. -/
def readName (name : String) (direction : Option SortOrder) : List Char × SortOrder :=
  sortReading (Text.lower name.toList ++ Text.behind (directionWords direction))

theorem sort_plan_sortText (schema : Schema) (name : String) (direction : Option SortOrder) :
    (plan schema (sortText name direction)).sort =
      (schema.column? (String.ofList (readName name direction).1)).map fun column =>
        ⟨column.key, (readName name direction).2⟩ := by
  obtain ⟨found, isFound, read⟩ :=
    exists_find?_sortClause (Text.lower name.toList ++ Text.behind (directionWords direction))
  rw [plan, lower_sortText, spaced_sortWords, sortOf?, isFound]
  simp only [read.word, read.order, Option.getD_some, readName]
  cases schema.column? (String.ofList _) <;> rfl

theorem readName_of_word {name : String} (nonempty : name ≠ "")
    (isWord : ∀ c ∈ name.toList, Text.isWordChar c = true) (direction : Option SortOrder) :
    readName name direction = (Text.lower name.toList, direction.getD .asc) := by
  have isWord' : ∀ c ∈ Text.lower name.toList, Text.isWordChar c = true :=
    fun c member => Text.isWordChar_of_mem_lower isWord member
  obtain ⟨c, word, isCons⟩ := List.exists_cons_of_ne_nil
    (Text.lower_ne_nil fun isNil => nonempty (String.toList_eq_nil_iff.1 isNil))
  rw [isCons] at isWord'
  have solid := Text.isBlank_of_isWordChar (isWord' c List.mem_cons_self)
  have edge : ∀ d ∈ (Text.behind (directionWords direction)).head?, Text.isWordChar d = false := by
    cases direction with
    | none => rintro d ⟨⟩
    | some order =>
      rintro d ⟨⟩
      decide
  have isOrder : directionOf (Text.behind (directionWords direction)) = direction.getD .asc := by
    rcases direction with _ | _ | _ <;> decide
  rw [readName, sortReading, isCons, Text.trimStart,
    Text.dropWhile_eq_self (by simpa using solid), Text.takeWhile_run isWord' edge,
    Text.dropWhile_run isWord' edge, isOrder]

section

variable {schema : Schema} {column other : Column}
  (apart : schema.columns.Pairwise fun c d => ∀ name ∈ c.names, name ∉ d.names)
  (member : column ∈ schema.columns)

include apart member

/-- Where no two columns share a name, a name tells which of them is meant. -/
theorem eq_of_mem_names (isOther : other ∈ schema.columns) {name : String}
    (named : name ∈ column.names) (otherNamed : name ∈ other.names) : other = column := by
  by_contra different
  have symmetric : Std.Symm fun c d : Column => ∀ name ∈ c.names, name ∉ d.names :=
    ⟨fun c d disjoint name inD inC => disjoint name inC inD⟩
  exact apart.forall isOther member different name otherNamed named

theorem column?_eq_some_iff {name : String} :
    schema.column? name = some column ↔ column.hasName name = true := by
  have hasName (found : Column) (isFound : schema.column? name = some found) :
      found.hasName name = true := by
    rw [Schema.column?] at isFound
    have named := List.find?_some isFound
    exact named
  refine ⟨hasName column, fun named => ?_⟩
  obtain ⟨other, isFound⟩ : ∃ other, schema.column? name = some other := by
    rw [← Option.isSome_iff_exists, Schema.column?, List.find?_isSome]
    exact ⟨column, member, named⟩
  rw [isFound, eq_of_mem_names apart member (List.mem_of_find?_eq_some isFound)
    (Column.hasName_iff.1 named) (Column.hasName_iff.1 (hasName other isFound))]

theorem map_column?_eq_some_iff {name : String} {order order' : SortOrder} :
    ((schema.column? name).map fun found => (⟨found.key, order⟩ : SortKey)) =
        some ⟨column.key, order'⟩ ↔ column.hasName name = true ∧ order = order' := by
  rw [← column?_eq_some_iff apart member, Option.map_eq_some_iff]
  constructor
  · rintro ⟨found, isFound, same⟩
    obtain ⟨sameKey, sameOrder⟩ := SortKey.mk.inj same
    have isName : Text.lowered column.key ∈ found.names := by
      rw [← sameKey]
      exact List.mem_cons_self
    have isColumn := eq_of_mem_names apart member (List.mem_of_find?_eq_some isFound)
      List.mem_cons_self isName
    exact ⟨isColumn ▸ isFound, sameOrder⟩
  · rintro ⟨isFound, rfl⟩
    exact ⟨column, isFound, rfl⟩

end

/-- Where no two columns share a name, a column is sorted by its key or label if that is made of
    word characters.  In general it is so just where the one word that is read is a name of the
    column, and the direction is read as it was meant. -/
theorem sort_plan_sortText_of_name {schema : Schema}
    (apart : schema.columns.Pairwise fun c d => ∀ name ∈ c.names, name ∉ d.names)
    {column : Column} (member : column ∈ schema.columns) {name : String}
    (isName : name = column.key ∨ name = column.label) (direction : Option SortOrder) :
    (name ≠ "" → (∀ c ∈ name.toList, Text.isWordChar c = true) →
      (plan schema (sortText name direction)).sort = some ⟨column.key, direction.getD .asc⟩) ∧
      ((plan schema (sortText name direction)).sort = some ⟨column.key, direction.getD .asc⟩ ↔
        column.hasName (String.ofList (readName name direction).1) = true ∧
          (readName name direction).2 = direction.getD .asc) := by
  have isSorted : (plan schema (sortText name direction)).sort =
        some ⟨column.key, direction.getD .asc⟩ ↔
      column.hasName (String.ofList (readName name direction).1) = true ∧
        (readName name direction).2 = direction.getD .asc := by
    rw [sort_plan_sortText]
    exact map_column?_eq_some_iff apart member
  refine ⟨fun nonempty isWord => isSorted.2 ?_, isSorted⟩
  rw [readName_of_word nonempty isWord, Column.hasName_iff, lowered_ofList_lower]
  refine ⟨?_, rfl⟩
  rcases isName with rfl | rfl
  · exact List.mem_cons_self
  · exact List.mem_cons_of_mem _ List.mem_cons_self

theorem sort_plan_sortText_of_name_amount :
    let amount : Column := ⟨"amt", .number, "Amount", []⟩
    let schema : Schema := ⟨[⟨"city", .string, "City", []⟩, amount], 0, []⟩
    (schema.columns.Pairwise fun c d => ∀ name ∈ c.names, name ∉ d.names) ∧
      amount ∈ schema.columns ∧
      (plan schema (sortText "Amount" (some .desc))).sort = some ⟨"amt", .desc⟩ := by
  intro amount schema
  have apart : schema.columns.Pairwise fun c d => ∀ name ∈ c.names, name ∉ d.names := by
    decide +kernel
  have member : amount ∈ schema.columns := List.mem_cons_of_mem _ List.mem_cons_self
  exact ⟨apart, member, (sort_plan_sortText_of_name apart member (.inr rfl) (some .desc)).1
    (by decide) (by decide)⟩

/-- The label that is made of a key with a capital has two words, and the first of them is read as
    the column. -/
theorem sort_plan_order_total :
    let total : Column := ⟨"orderTotal", .number, Column.labelOfKey "orderTotal", []⟩
    let schema : Schema := ⟨[total], 0, []⟩
    (schema.columns.Pairwise fun c d => ∀ name ∈ c.names, name ∉ d.names) ∧
      total.label = "Order Total" ∧
      readName "Order Total" (some .desc) = ("order".toList, .asc) ∧
      (plan schema (sortText "Order Total" (some .desc))).sort = none := by
  intro total schema
  exact ⟨List.pairwise_singleton _ _, by decide +kernel, by decide +kernel, by decide +kernel⟩

end Question

end TableQuery
