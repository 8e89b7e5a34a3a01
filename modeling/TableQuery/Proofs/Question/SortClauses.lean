import TableQuery.Proofs.Question.ColumnClause
import TableQuery.Proofs.Question.SortText

/-! # Columns in texts that sort

Clauses for columns are looked for in the whole of a text.  In one that sorts by a key a clause
with a phrase is found just if the key is itself a word between a column and a phrase, so that
the direction is taken for the phrase, and a clause with a number only if the key compares
something with a number.
-/

namespace TableQuery.Question

open Pattern

variable {word : List Char} {direction : Option SortOrder}

/-! ## Clauses within the text -/

def comparisonWords : List String := ["above", "below", "under", "minimum", "maximum"]

/-- Is the direction said of the column of that name, with the key as the word between them? -/
structure LinksDirection (name word : List Char) (direction : Option SortOrder) : Prop where
  directed : direction ≠ none
  isLink : ∃ link ∈ phraseLinks, word = link.toList
  isName : name <:+ opening

/-- Is the column of that name compared with a number in the key? -/
def ComparesInKey (name word : List Char) : Prop :=
  ∃ saying ∈ comparisonWords, ∃ left d right, word = left ++ (saying.toList ++ d :: right) ∧
    Text.isDecimalDigit d = true ∧
      (name <:+ opening ++ ' ' :: left ∨ left = [] ∧ name <:+ opening)

/-- Blanks that end in front of the key, or within it, are the space in front of it. -/
theorem eq_nil_of_gap {before gap left : List Char} (isBlanks : ∀ c ∈ gap, Text.isBlank c = true)
    (someGap : gap ≠ []) (solid : ∀ c ∈ left, Text.isBlank c = false)
    (cut : before ++ gap = opening ++ ' ' :: left) : left = [] ∧ before = opening := by
  obtain ⟨others, b, rfl⟩ := List.eq_nil_or_concat' gap |>.resolve_left someGap
  rcases List.eq_nil_or_concat' left with rfl | ⟨stem, c, rfl⟩
  · refine ⟨rfl, ?_⟩
    rw [← List.append_assoc] at cut
    obtain ⟨same, -⟩ := List.append_inj' cut rfl
    rcases List.eq_nil_or_concat' others with rfl | ⟨others, d, rfl⟩
    · rwa [List.append_nil] at same
    · -- A further blank would be the last letter of `by`.
      have isLetter : before ++ others ++ [d] = ['s', 'o', 'r', 't', ' ', 'b'] ++ ['y'] := by
        rw [List.append_assoc, same]
        rfl
      obtain ⟨-, isY⟩ := List.append_inj' isLetter rfl
      have blank := isBlanks d (by simp)
      rw [List.singleton_inj.1 isY] at blank
      exact absurd blank (by decide)
  · have isLast : before ++ others ++ [b] = opening ++ ' ' :: stem ++ [c] := by
      simpa using cut
    obtain ⟨-, same⟩ := List.append_inj' isLast rfl
    have blank := isBlanks b (by simp)
    rw [List.singleton_inj.1 same, solid c (by simp)] at blank
    cases blank

theorem solid_of_mem_name {order : SortOrder} :
    ∀ c ∈ order.name.toList, Text.isBlank c = false ∧ Text.isDecimalDigit c = false := by
  cases order <;> decide

theorem isWordChar_of_mem_sortText (isWord : ∀ c ∈ word, Text.isWordChar c = true) :
    ∀ c ∈ Text.spaced (sortWords word direction), c = ' ' ∨ Text.isWordChar c = true :=
  forall_mem_sortText (by decide) fun c member => .inr (isWord c member)

theorem sayings_cases_words {relation : Relation} {saying : String}
    (member : saying ∈ relation.sayings) :
    ('>' ∈ saying.toList ∨ '<' ∈ saying.toList) ∨
      (∃ first ∈ ["greater", "more", "less", "at"], ∃ second ∈ ["than", "least", "most"],
        saying.toList = first.toList ++ ' ' :: second.toList) ∨
      saying ∈ comparisonWords := by
  have each : ∀ saying ∈ relation.sayings, ('>' ∈ saying.toList ∨ '<' ∈ saying.toList) ∨
      (∃ first ∈ ["greater", "more", "less", "at"], ∃ second ∈ ["than", "least", "most"],
        saying.toList = first.toList ++ ' ' :: second.toList) ∨ saying ∈ comparisonWords := by
    cases relation <;> decide
  exact each saying member

/-! ## What a clause in the text tells -/

section

variable (isWord : ∀ c ∈ word, Text.isWordChar c = true) {name before s after : List Char}

include isWord

/-- A clause that captures a text has a link for its key and captures the direction. -/
theorem linksDirection_of_hasTextClause (clause : HasTextClause before after)
    (cut : Text.spaced (sortWords word direction) = before ++ (name ++ after)) :
    LinksDirection name word direction := by
  cases clause with
  | @linked _ gap gap' phrase link isGap isLink isGap' begins =>
    obtain ⟨c, blanks, rfl⟩ := List.exists_cons_of_ne_nil isGap'.1
    have late : ∀ link ∈ phraseLinks, IsLatePiece link.toList := by decide
    have cut' : Text.spaced (sortWords word direction) =
        (before ++ name ++ gap) ++ (link.toList ++ c :: (blanks ++ phrase)) := by
      rw [cut]
      simp
    obtain ⟨left, order, isDirection, split, isBefore, -⟩ :=
      cut_of_piece_blank isWord (late link isLink) (isGap'.2 c List.mem_cons_self) cut'
    -- The link ends the key, and for the blanks in front of it, it begins the key as well.
    obtain ⟨isNil, isOpening⟩ := eq_nil_of_gap isGap.2 isGap.1
      (fun d member => Text.isBlank_of_isWordChar (isWord d (by simp [split, member]))) isBefore
    exact ⟨by simp [isDirection], ⟨link, isLink, by rw [split, isNil, List.nil_append]⟩,
      ⟨before, isOpening⟩⟩
  | @searched before gap gap' phrase verb isVerb isGap isGap' begins =>
    -- A verb would end the key, but the direction is no column that more follows.
    obtain ⟨b, blanks, rfl⟩ := List.exists_cons_of_ne_nil isGap.1
    obtain ⟨c, blanks', rfl⟩ := List.exists_cons_of_ne_nil isGap'.1
    have late : ∀ verb ∈ searchVerbs, IsLatePiece verb.toList := by decide
    have cut' : Text.spaced (sortWords word direction) =
        before ++ (verb.toList ++ b :: (blanks ++ (name ++ c :: (blanks' ++ phrase)))) := by
      rw [cut]
      simp
    obtain ⟨left, order, -, -, -, isOrder⟩ :=
      cut_of_piece_blank isWord (late verb isVerb) (isGap.2 b List.mem_cons_self) cut'
    have solid := (solid_of_mem_name c (by rw [← isOrder]; simp)).1
    rw [isGap'.2 c List.mem_cons_self] at solid
    cases solid
  | @equated _ blanks blanks' opening rest sign c isBlanks isSign isBlanks' isOpening isWord' =>
    have signs : ∀ sign ∈ ["=", "=="], '=' ∈ sign.toList := by decide
    have inText : '=' ∈ Text.spaced (sortWords word direction) := by
      rw [cut]
      simp [signs sign isSign]
    exact absurd (isWordChar_of_mem_sortText isWord '=' inText) (by decide)

/-- The space between two words that compare would be the one in front of the key. -/
theorem not_cut_of_two_words (cut : Text.spaced (sortWords word direction) = before ++ s)
    {first second : String} {blanks more : List Char} {d : Char}
    (isFirst : first ∈ ["greater", "more", "less", "at"])
    (isSecond : second ∈ ["than", "least", "most"]) (digit : Text.isDecimalDigit d = true)
    (isRest : s = first.toList ++ ' ' :: (second.toList ++ (blanks ++ d :: more))) : False := by
  have late : ∀ second ∈ ["than", "least", "most"], IsLatePiece second.toList := by decide
  have ends : ∀ first ∈ ["greater", "more", "less", "at"], ¬ first.toList <:+ opening := by decide
  have cut' : Text.spaced (sortWords word direction) =
      (before ++ first.toList ++ [' ']) ++ (second.toList ++ (blanks ++ d :: more)) := by
    rw [cut, isRest]
    simp
  rcases cut_of_piece (late second isSecond) cut' with
    ⟨left, right, split, isBefore, -⟩ | ⟨order, -, within⟩
  · obtain ⟨-, isOpening⟩ := eq_nil_of_gap (by simp; decide) (List.cons_ne_nil _ _)
      (fun c member => Text.isBlank_of_isWordChar (isWord c (by simp [split, member]))) isBefore
    exact ends first isFirst ⟨before, isOpening⟩
  · have notDigit := (solid_of_mem_name d (within.subset (by simp))).2
    rw [digit] at notDigit
    cases notDigit

/-- A word that compares stands within the key, with a digit right behind it. -/
theorem cut_of_comparison (cut : Text.spaced (sortWords word direction) = before ++ s)
    {saying : String} {blanks more : List Char} {d : Char}
    (isComparison : saying ∈ comparisonWords) (isBlanks : ∀ c ∈ blanks, Text.isBlank c = true)
    (digit : Text.isDecimalDigit d = true)
    (isRest : s = saying.toList ++ (blanks ++ d :: more)) :
    ∃ left right, word = left ++ (saying.toList ++ d :: right) ∧
      before = opening ++ ' ' :: left := by
  have late : ∀ saying ∈ comparisonWords, IsLatePiece saying.toList := by decide
  have notInDirection : ∀ order : SortOrder, d ∉ order.name.toList := by
    intro order member
    rw [(solid_of_mem_name d member).2] at digit
    cases digit
  rcases cut_of_piece (late saying isComparison) (isRest ▸ cut) with
    ⟨left, right, split, isBefore, isAfter⟩ | ⟨order, -, within⟩
  · cases right with
    | nil =>
      have behind : d ∈ Text.behind (directionWords direction) := by
        rw [List.nil_append] at isAfter
        rw [← isAfter]
        simp
      cases direction with
      | none => cases behind
      | some order =>
        rcases List.mem_cons.1 behind with rfl | inName
        · exact absurd digit (by decide)
        · exact absurd inName (notInDirection order)
    | cons c right =>
      have solid := Text.isBlank_of_isWordChar (isWord c (by simp [split]))
      obtain rfl := eq_nil_of_solid isBlanks solid isAfter.symm
      simp only [List.nil_append, List.cons_append, List.cons.injEq] at isAfter
      exact ⟨left, right, by rw [split, isAfter.1], isBefore⟩
  · exact absurd (within.subset (by simp)) (notInDirection order)

theorem comparesInKey_of_beginsComparison (compares : BeginsComparison after)
    (cut : Text.spaced (sortWords word direction) = before ++ (name ++ after)) :
    ComparesInKey name word := by
  cases compares with
  | @intro relation blanks blanks' rest saying d isBlanks isSaying isBlanks' digit =>
    have cut' : Text.spaced (sortWords word direction) =
        (before ++ name ++ blanks) ++ (saying.toList ++ (blanks' ++ d :: rest)) := by
      rw [cut]
      simp
    rcases sayings_cases_words isSaying with isSign | ⟨first, isFirst, second, isSecond, spelled⟩ |
      isComparison
    · have inText : ∀ c ∈ saying.toList, c ∈ Text.spaced (sortWords word direction) := by
        intro c member
        rw [cut']
        simp [member]
      cases isSign with
      | inl greater =>
        exact absurd (isWordChar_of_mem_sortText isWord '>' (inText _ greater)) (by decide)
      | inr less =>
        exact absurd (isWordChar_of_mem_sortText isWord '<' (inText _ less)) (by decide)
    · have isRest : saying.toList ++ (blanks' ++ d :: rest) =
          first.toList ++ ' ' :: (second.toList ++ (blanks' ++ d :: rest)) := by
        rw [spelled]
        simp
      exact (not_cut_of_two_words isWord cut' isFirst isSecond digit isRest).elim
    · obtain ⟨left, right, split, isBefore⟩ :=
        cut_of_comparison isWord cut' isComparison isBlanks' digit rfl
      refine ⟨saying, isComparison, left, d, right, split, digit, ?_⟩
      by_cases someBlanks : blanks = []
      · rw [someBlanks, List.append_nil] at isBefore
        exact .inl ⟨before, isBefore⟩
      · obtain ⟨isNil, isOpening⟩ := eq_nil_of_gap isBlanks someBlanks
          (fun c member => Text.isBlank_of_isWordChar (isWord c (by simp [split, member]))) isBefore
        exact .inr ⟨isNil, before, isOpening⟩

end

/-! ## Clauses that stand in the text -/

theorem saysText_of_linksDirection {column : Column} {name : List Char}
    (isName : name ∈ columnNames column) (links : LinksDirection name word direction) :
    SaysText (Text.spaced (sortWords word direction)) column := by
  obtain ⟨directed, ⟨link, isLink, rfl⟩, before, isOpening⟩ := links
  obtain ⟨order, rfl⟩ := Option.ne_none_iff_exists'.1 directed
  have isSpace : IsGap [' '] := ⟨List.cons_ne_nil _ _, by decide⟩
  have directions : order.name.toList ≠ [] ∧
      ∀ c ∈ order.name.toList, Text.isWordChar c = true := by
    cases order <;> decide
  have begins : BeginsPhrase ([] ++ (order.name.toList ++ ([] ++ []))) :=
    .intro (.inl rfl) directions.1 (fun c member => .inl (directions.2 c member)) (.inl rfl)
      (by simp [EndsPhrase])
  refine ⟨name, isName, before, _, ?_, .linked before isSpace isLink isSpace begins⟩
  simp [spaced_sortWords, directionWords, Text.spaced, ← isOpening]

theorem compares_of_comparesInKey (direction : Option SortOrder) {column : Column}
    {name : List Char} (isName : name ∈ columnNames column) (compares : ComparesInKey name word) :
    Compares (Text.spaced (sortWords word direction)) column := by
  obtain ⟨saying, isSaying, left, d, right, rfl, digit, ends⟩ := compares
  have relations : ∀ saying ∈ comparisonWords, ∃ relation : Relation,
      saying ∈ relation.sayings := by
    simp only [comparisonWords, List.forall_mem_cons]
    exact ⟨⟨.above, by decide⟩, ⟨.below, by decide⟩, ⟨.below, by decide⟩, ⟨.atLeast, by decide⟩,
      ⟨.atMost, by decide⟩, by simp⟩
  obtain ⟨relation, inSayings⟩ := relations saying isSaying
  obtain ⟨before, gap, isBlanks, isBefore⟩ : ∃ before gap,
      (∀ c ∈ gap, Text.isBlank c = true) ∧ before ++ (name ++ gap) = opening ++ ' ' :: left := by
    rcases ends with ⟨before, isBefore⟩ | ⟨rfl, before, isOpening⟩
    · exact ⟨before, [], by simp, by simpa using isBefore⟩
    · exact ⟨before, [' '], by simp; decide, by rw [← isOpening]; simp⟩
  have compares : BeginsComparison (gap ++ (saying.toList ++ ([] ++ d ::
      (right ++ Text.behind (directionWords direction))))) :=
    .intro isBlanks inSayings (by simp) digit
  refine ⟨name, isName, before, _, ?_, compares⟩
  have isText : before ++ (name ++ (gap ++ (saying.toList ++ ([] ++ d ::
      (right ++ Text.behind (directionWords direction)))))) =
        (before ++ (name ++ gap)) ++ (saying.toList ++ d :: (right ++
          Text.behind (directionWords direction))) := by
    simp
  rw [isText, isBefore, spaced_sortWords]
  simp

/-! ## The condition on a column -/

theorem columnCondition?_eq_none (isWord : ∀ c ∈ word, Text.isWordChar c = true) {column : Column}
    (noDirection : ∀ name ∈ columnNames column, ¬ LinksDirection name word direction)
    (noNumber : ∀ name ∈ columnNames column, ¬ ComparesInKey name word) :
    columnCondition? (Text.spaced (sortWords word direction)) column = none := by
  rw [Option.eq_none_iff_forall_ne_some]
  intro e isSome
  rcases saysText_or_compares_of_columnCondition? isSome with
    ⟨name, isName, before, after, cut, clause⟩ | ⟨name, isName, before, after, cut, compares⟩
  · exact noDirection name isName (linksDirection_of_hasTextClause isWord clause cut)
  · exact noNumber name isName (comparesInKey_of_beginsComparison isWord compares cut)

theorem of_columnCondition?_eq_none
    (asciiDigits : ∀ c ∈ word, Text.isDecimalDigit c = true → c.isDigit = true) {column : Column}
    (noCondition : columnCondition? (Text.spaced (sortWords word direction)) column = none)
    {name : List Char} (isName : name ∈ columnNames column) :
    ¬ LinksDirection name word direction ∧ ¬ ComparesInKey name word := by
  rw [Option.eq_none_iff_forall_ne_some] at noCondition
  constructor
  · intro links
    obtain ⟨e, isSome⟩ :=
      exists_columnCondition?_of_saysText (saysText_of_linksDirection isName links)
    exact noCondition e isSome
  · intro compares
    have isAscii : ∀ c ∈ Text.spaced (sortWords word direction),
        Text.isDecimalDigit c = true → c.isDigit = true :=
      forall_mem_sortText (by decide) asciiDigits
    obtain ⟨e, isSome⟩ := exists_columnCondition?_of_compares
      (compares_of_comparesInKey direction isName compares) isAscii
    exact noCondition e isSome

end TableQuery.Question
