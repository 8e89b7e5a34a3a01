import TableQuery.Proofs.Question.WordPhrase

/-! # Words that name a column

The first rule for a column looks for a name of the column with a word such as `called` behind it.
In a text of words it is passed over word by word: a word that does not end in the name cannot
begin the clause, nor can one that no such word follows.
-/

namespace TableQuery.Question

open Pattern

/-- A clause such as `<column> named <phrase>`. -/
def namedRule : ColumnRule := phraseRule .contains
  [oneOf nameLinks, blanks1, optional (.seq (text "as") blanks1)]

/-- The word that follows where one of the words ends in the key and a word that names comes
    next.  A second `as` is passed over if more follows. -/
def namedWord? (key : List Char) : List (List Char) → Option (List Char)
  | word :: link :: next :: rest =>
    if key <:+ word ∧ link ∈ nameLinks.map String.toList then
      some (if next = ['a', 's'] then rest.headD next else next)
    else namedWord? key (link :: next :: rest)
  | _ => none

theorem mem_of_namedWord? {key : List Char} {words : List (List Char)} {word : List Char}
    (isNamed : namedWord? key words = some word) : word ∈ words := by
  fun_induction namedWord? key words with
  | case1 first link next rest found =>
    obtain rfl := Option.some.inj isNamed
    split
    case isTrue => cases rest <;> simp
    case isFalse => simp
  | case2 first link next rest notFound inductionHypothesis =>
    exact List.mem_cons_of_mem _ (inductionHypothesis isNamed)
  | case3 words short => cases isNamed

/-! ## Words that link -/

theorem exists_cons_of_mem_nameLinks {link : String} (isLink : link ∈ nameLinks) :
    ∃ c rest, link.toList = c :: rest ∧ c.isLower = true := by
  simp only [nameLinks, List.mem_cons, List.not_mem_nil, or_false] at isLink
  rcases isLink with rfl | rfl | rfl <;> exact ⟨_, _, rfl, by decide⟩

/-- Does the text begin with a word that names, and a blank? -/
def BeginsWithLink (s : List Char) : Prop :=
  ∃ link ∈ nameLinks, ∃ b rest, s = link.toList ++ b :: rest ∧ Text.isBlank b = true

theorem beginsWithLink_of_word {word rest : List Char} {b : Char}
    (solid : ∀ c ∈ word, Text.isBlank c = false) (isBlank : Text.isBlank b = true)
    (begins : BeginsWithLink (word ++ b :: rest)) : word ∈ nameLinks.map String.toList := by
  obtain ⟨link, isLink, b', rest', cut, isBlank'⟩ := begins
  have links : ∀ link ∈ nameLinks, ∀ c ∈ link.toList, Text.isBlank c = false := by decide
  rw [(eq_of_append_blank solid (links link isLink) isBlank isBlank' cut).1]
  exact List.mem_map_of_mem isLink

theorem prefers_nameLink {link : List Char} (isLink : link ∈ nameLinks.map String.toList)
    (before rest : List Char) (ps : Pieces) :
    Prefers (oneOf nameLinks) ⟨before, link ++ rest⟩ ps (⟨link.reverse ++ before, rest⟩, ps) := by
  simp only [nameLinks, List.map_cons, List.map_nil, List.mem_cons, List.not_mem_nil, or_false]
    at isLink
  rcases isLink with rfl | rfl | rfl <;> rfl

theorem prefers_noAs {s : List Char} (notAs : ¬ ∃ b rest, s = 'a' :: 's' :: b :: rest ∧
    Text.isBlank b = true) (before : List Char) (ps : Pieces) :
    Prefers (optional (.seq (text "as") blanks1)) ⟨before, s⟩ ps (⟨before, s⟩, ps) := by
  refine prefers_optional_stay (ways_eq_nil_of_not_takes fun rest takes => notAs ?_)
  obtain ⟨mid, asWord, atGap⟩ := takes_seq takes
  obtain ⟨b, gap, isBlanks, rfl⟩ := takes_blanks1 atGap
  exact ⟨b, _, takes_literal asWord, isBlanks b List.mem_cons_self⟩

/-- Quoted words begin with `as` and a blank only if it is one of several words. -/
theorem isAs_of_begins {next behind : List Char} {rest : List (List Char)} {b : Char}
    (plain : IsPlainWord next) (isBlank : Text.isBlank b = true)
    (cut : Text.spaced (next :: rest) ++ ['"'] = ['a', 's'] ++ b :: behind) :
    next = ['a', 's'] ∧ rest ≠ [] := by
  cases rest with
  | nil =>
    have inText : b ∈ next ++ ['"'] := by
      rw [Text.spaced] at cut
      simp [cut]
    cases List.mem_append.1 inText with
    | inl inWord =>
      rw [plain.solid b inWord] at isBlank
      cases isBlank
    | inr isQuote =>
      rw [List.mem_singleton.1 isQuote] at isBlank
      exact absurd isBlank (by decide)
  | cons second rest =>
    rw [Text.spaced_cons, Text.behind_cons, List.append_assoc, List.cons_append] at cut
    exact ⟨(eq_of_append_blank plain.solid (by decide) (by decide) isBlank cut).1,
      List.cons_ne_nil second rest⟩

/-- A phrase within the quotes takes the next word, or the one behind a second `as`. -/
theorem exists_prefers_asPhrase {next : List Char} {rest : List (List Char)}
    (plain : ∀ word ∈ next :: rest, IsPlainWord word) (before : List Char) (ps : Pieces) :
    ∃ place start, Prefers (.seq (optional (.seq (text "as") blanks1)) phrase)
      ⟨before, Text.spaced (next :: rest) ++ ['"']⟩ ps
      (place, ⟨1, start, if next = ['a', 's'] then rest.headD next else next⟩ :: ps) := by
  have plainNext := plain next List.mem_cons_self
  by_cases isAs : next = ['a', 's'] ∧ rest ≠ []
  · -- The second `as` is passed over.
    obtain ⟨second, rest, rfl⟩ := List.exists_cons_of_ne_nil isAs.2
    have plainSecond := plain second (by simp)
    obtain ⟨tail, closes, isText⟩ := exists_closesWord rest
    obtain ⟨c, more, isCons⟩ := List.exists_cons_of_ne_nil plainSecond.nonempty
    obtain ⟨place, start, atPhrase⟩ := exists_prefers_phrase plainSecond.nonempty
      plainSecond.isWordChar closes (' ' :: 's' :: 'a' :: before) ps
    have isWhole : Text.spaced (next :: second :: rest) ++ ['"'] =
        ['a', 's'] ++ ' ' :: (second ++ tail) := by
      rw [isAs.1, Text.spaced_cons, Text.behind_cons, ← isText]
      simp
    have skipsAs : Prefers (optional (.seq (text "as") blanks1))
        ⟨before, ['a', 's'] ++ ' ' :: (second ++ tail)⟩ ps
        (⟨' ' :: 's' :: 'a' :: before, second ++ tail⟩, ps) := by
      have solid : Text.isBlank c = false := plainSecond.solid c (by simp [isCons])
      rw [isCons]
      refine prefers_optional (prefers_seq (prefers_literal ['a', 's'] before _ ps)
        (prefers_space _ (more ++ tail) ps solid)) ?_
      simp
    rw [isWhole, if_pos isAs.1]
    exact ⟨place, start, prefers_seq skipsAs atPhrase⟩
  · obtain ⟨tail, closes, isText⟩ := exists_closesWord rest
    have noAs : Prefers (optional (.seq (text "as") blanks1))
        ⟨before, Text.spaced (next :: rest) ++ ['"']⟩ ps
        (⟨before, Text.spaced (next :: rest) ++ ['"']⟩, ps) :=
      prefers_noAs (fun ⟨_, _, cut, isBlank⟩ => isAs (isAs_of_begins plainNext isBlank cut))
        before ps
    have isWord : (if next = ['a', 's'] then rest.headD next else next) = next := by
      split
      case isTrue same =>
        have noRest : rest = [] := by simpa [same] using isAs
        rw [noRest]
        rfl
      case isFalse => rfl
    rw [isText] at noAs ⊢
    rw [isWord]
    obtain ⟨place, start, atPhrase⟩ := exists_prefers_phrase plainNext.nonempty
      plainNext.isWordChar closes before ps
    exact ⟨place, start, prefers_seq noAs atPhrase⟩

theorem exists_prefers_named (key : List Char) {link next : List Char} {rest : List (List Char)}
    (isLink : link ∈ nameLinks.map String.toList)
    (plain : ∀ word ∈ next :: rest, IsPlainWord word) (before : List Char) :
    ∃ place start, Prefers (namedRule.pattern (literal key))
      ⟨before, key ++ ' ' :: (link ++ ' ' :: (Text.spaced (next :: rest) ++ ['"']))⟩ []
      (place, [⟨1, start, if next = ['a', 's'] then rest.headD next else next⟩]) := by
  obtain ⟨c, more, isNext⟩ := List.exists_cons_of_ne_nil (plain next List.mem_cons_self).nonempty
  have solid : Text.isBlank c = false :=
    (plain next List.mem_cons_self).solid c (by simp [isNext])
  obtain ⟨tail, -, isText⟩ := exists_closesWord rest
  have isCons : Text.spaced (next :: rest) ++ ['"'] = c :: (more ++ tail) := by
    rw [isText, isNext, List.cons_append]
  obtain ⟨d, others, rfl, letter⟩ : ∃ d others, link = d :: others ∧ d.isLower = true := by
    obtain ⟨word, isWord, rfl⟩ := List.mem_map.1 isLink
    exact exists_cons_of_mem_nameLinks isWord
  have gap := prefers_space (key.reverse ++ before)
    (others ++ ' ' :: (Text.spaced (next :: rest) ++ ['"'])) [] (Text.isBlank_of_isLower letter)
  have atLink := prefers_nameLink isLink (' ' :: (key.reverse ++ before))
    (' ' :: (Text.spaced (next :: rest) ++ ['"'])) []
  have gap' := prefers_space ((d :: others).reverse ++ ' ' :: (key.reverse ++ before))
    (more ++ tail) [] solid
  rw [← isCons] at gap'
  obtain ⟨place, start, atPhrase⟩ := exists_prefers_asPhrase plain
    (' ' :: ((d :: others).reverse ++ ' ' :: (key.reverse ++ before))) []
  exact ⟨place, start, prefers_seq (prefers_literal key before _ []) (prefers_seq gap
    (prefers_seq atLink (prefers_seq gap' atPhrase)))⟩

/-! ## Where the clause can begin -/

section

variable {key : List Char} (nonempty : key ≠ []) (letters : ∀ c ∈ key, c.isLower = true)

theorem cut_of_takes_named {s rest : List Char}
    (takes : Takes (namedRule.pattern (literal key)) s rest) :
    ∃ gap rest, IsGap gap ∧ s = key ++ (gap ++ rest) ∧ BeginsWithLink rest := by
  obtain ⟨afterName, atName, takes⟩ := takes_seq takes
  obtain ⟨afterGap, atGap, takes⟩ := takes_seq takes
  obtain ⟨afterLink, atLink, takes⟩ := takes_seq takes
  obtain ⟨afterGap', atGap', -⟩ := takes_seq takes
  obtain ⟨gap, isGap, rfl⟩ := takes_gap atGap
  obtain ⟨link, isLink, rfl⟩ := takes_oneOf atLink
  obtain ⟨b, gap', isBlanks, rfl⟩ := takes_blanks1 atGap'
  exact ⟨gap, _, isGap, takes_literal atName, link, isLink, b, _, rfl,
    isBlanks b List.mem_cons_self⟩

theorem not_takes_named_of_solid {s rest : List Char} (solid : ∀ c ∈ s, Text.isBlank c = false) :
    ¬ Takes (namedRule.pattern (literal key)) s rest := by
  intro takes
  obtain ⟨gap, behind, isGap, cut, -⟩ := cut_of_takes_named takes
  obtain ⟨b, blanks, rfl⟩ := List.exists_cons_of_ne_nil isGap.1
  have notBlank := solid b (by simp [cut])
  rw [isGap.2 b List.mem_cons_self] at notBlank
  cases notBlank

theorem findFrom?_named_solid {s : List Char} (solid : ∀ c ∈ s, Text.isBlank c = false)
    (before : List Char) : findFrom? (namedRule.pattern (literal key)) before s = none :=
  findFrom?_eq_none (fun left right cut rest => not_takes_named_of_solid fun c member =>
    solid c (by rw [cut]; exact List.mem_append_right _ member)) before

include letters

theorem of_takes_named {word s rest : List Char} (solid : ∀ c ∈ word, Text.isBlank c = false)
    (solidNext : ∀ c ∈ s.head?, Text.isBlank c = false)
    (takes : Takes (namedRule.pattern (literal key)) (word ++ ' ' :: s) rest) :
    word = key ∧ BeginsWithLink s := by
  obtain ⟨gap, behind, isGap, cut, begins⟩ := cut_of_takes_named takes
  obtain ⟨b, blanks, rfl⟩ := List.exists_cons_of_ne_nil isGap.1
  have cut' : word ++ ' ' :: s = key ++ b :: (blanks ++ behind) := cut
  obtain ⟨isKey, isNext⟩ := eq_of_append_blank solid
    (fun c member => Text.isBlank_of_isLower (letters c member)) (by decide)
    (isGap.2 b List.mem_cons_self) cut'
  have noBlanks : blanks = [] := by
    cases blanks with
    | nil => rfl
    | cons c blanks =>
      have notBlank := solidNext c (by rw [isNext]; rfl)
      rw [isGap.2 c (by simp)] at notBlank
      cases notBlank
  rw [noBlanks, List.nil_append] at isNext
  exact ⟨isKey, isNext ▸ begins⟩

/-- Of a word that ends in the key what is in front of the key is passed over. -/
theorem findFrom?_named_key {left s : List Char}
    (solid : ∀ c ∈ left ++ key, Text.isBlank c = false)
    (solidNext : ∀ c ∈ s.head?, Text.isBlank c = false) (before : List Char) :
    findFrom? (namedRule.pattern (literal key)) before (left ++ (key ++ ' ' :: s)) =
      findFrom? (namedRule.pattern (literal key)) (left.reverse ++ before) (key ++ ' ' :: s) := by
  refine findFrom?_append (fun start c right split rest takes => ?_) before
  have takes' : Takes (namedRule.pattern (literal key))
      ((c :: (right ++ key)) ++ ' ' :: s) rest := by
    simpa using takes
  have inWord : ∀ d ∈ c :: (right ++ key), d ∈ left ++ key := by
    intro d member
    rw [split, List.append_assoc]
    exact List.mem_append_right _ member
  have isKey := (of_takes_named letters (fun d member => solid d (inWord d member)) solidNext
    takes').1
  -- The key would be longer than itself.
  have tooLong := congrArg List.length isKey
  simp only [List.length_cons, List.length_append] at tooLong
  omega

include nonempty

theorem not_takes_named_of_not_isLower {c : Char} {s rest : List Char}
    (notLower : c.isLower = false) :
    ¬ Takes (namedRule.pattern (literal key)) (c :: s) rest := by
  intro takes
  obtain ⟨gap, behind, -, cut, -⟩ := cut_of_takes_named takes
  obtain ⟨d, more, rfl⟩ := List.exists_cons_of_ne_nil nonempty
  rw [(List.cons.inj cut).1, letters d List.mem_cons_self] at notLower
  cases notLower

/-- A word is passed over unless it ends in the key and a word that names comes next. -/
theorem findFrom?_named_word {word s : List Char} (solid : ∀ c ∈ word, Text.isBlank c = false)
    (solidNext : ∀ c ∈ s.head?, Text.isBlank c = false)
    (notNamed : ¬ (key <:+ word ∧ BeginsWithLink s)) (before : List Char) :
    findFrom? (namedRule.pattern (literal key)) before (word ++ ' ' :: s) =
      findFrom? (namedRule.pattern (literal key)) (' ' :: (word.reverse ++ before)) s := by
  have passed : findFrom? (namedRule.pattern (literal key)) before (word ++ ' ' :: s) =
      findFrom? (namedRule.pattern (literal key)) (word.reverse ++ before) (' ' :: s) := by
    refine findFrom?_append (fun left c right split rest takes => notNamed ?_) before
    obtain ⟨isKey, begins⟩ := of_takes_named letters
      (fun d member => solid d (by rw [split]; exact List.mem_append_right _ member)) solidNext
      takes
    exact ⟨⟨left, by rw [split, ← isKey]⟩, begins⟩
  rw [passed, findFrom?_cons fun rest =>
    not_takes_named_of_not_isLower nonempty letters (by decide)]

/-- Quoted words are searched for a word that names behind one that ends in the key. -/
theorem findFrom?_named_spaced (words : List (List Char))
    (plain : ∀ word ∈ words, IsPlainWord word) (before : List Char) :
    (findFrom? (namedRule.pattern (literal key)) before (Text.spaced words ++ ['"'])).map
      (fun found => (found.pieces.get? 1).getD []) = namedWord? key words := by
  have solidQuoted {word : List Char} (isPlain : IsPlainWord word) :
      ∀ c ∈ word ++ ['"'], Text.isBlank c = false := by
    intro c member
    cases List.mem_append.1 member with
    | inl inWord => exact isPlain.solid c inWord
    | inr isQuote => rw [List.mem_singleton.1 isQuote]; decide
  fun_induction namedWord? key words generalizing before with
  | case1 word link next rest found =>
    obtain ⟨⟨left, rfl⟩, isLink⟩ := found
    have solid := (plain (left ++ key) List.mem_cons_self).solid
    have isText : Text.spaced ((left ++ key) :: link :: next :: rest) ++ ['"'] =
        left ++ (key ++ ' ' :: (link ++ ' ' :: (Text.spaced (next :: rest) ++ ['"']))) := by
      simp [Text.spaced_cons]
    have solidNext := (plain link (by simp)).solid_head
      (' ' :: (Text.spaced (next :: rest) ++ ['"']))
    have plainRest : ∀ word ∈ next :: rest, IsPlainWord word := fun word member =>
      plain word (List.mem_cons_of_mem _ (List.mem_cons_of_mem _ member))
    obtain ⟨place, start, prefers⟩ :=
      exists_prefers_named key isLink plainRest (left.reverse ++ before)
    rw [isText, findFrom?_named_key letters solid solidNext, findFrom?_of_prefers prefers]
    rfl
  | case2 word link next rest notFound inductionHypothesis =>
    have isText : Text.spaced (word :: link :: next :: rest) ++ ['"'] =
        word ++ ' ' :: (Text.spaced (link :: next :: rest) ++ ['"']) := by
      simp [Text.spaced_cons]
    have plainLink := plain link (by simp)
    rw [isText, findFrom?_named_word nonempty letters (plain word List.mem_cons_self).solid]
    · exact inductionHypothesis (fun other member => plain other (List.mem_cons_of_mem _ member)) _
    · rw [Text.spaced_cons, List.append_assoc]
      exact plainLink.solid_head _
    · rintro ⟨isEnd, begins⟩
      rw [Text.spaced_cons, Text.behind_cons, List.append_assoc, List.cons_append] at begins
      exact notFound ⟨isEnd, beginsWithLink_of_word plainLink.solid (by decide) begins⟩
  | case3 words short =>
    -- A name, a word that links and a word behind it are three words.
    match words with
    | [] =>
      rw [findFrom?_named_solid (by simp [Text.spaced]; decide)]
      rfl
    | [word] =>
      rw [Text.spaced, findFrom?_named_solid (solidQuoted (plain word List.mem_cons_self))]
      rfl
    | [word, last] =>
      have solidLast := solidQuoted (plain last (by simp))
      have isText : Text.spaced [word, last] ++ ['"'] = word ++ ' ' :: (last ++ ['"']) := by
        simp [Text.spaced]
      rw [isText, findFrom?_named_word nonempty letters (plain word List.mem_cons_self).solid,
        findFrom?_named_solid solidLast]
      · rfl
      · exact (plain last (by simp)).solid_head _
      · rintro ⟨-, link, -, b, rest, cut, isBlank⟩
        rw [solidLast b (by simp [cut])] at isBlank
        cases isBlank
    | word :: link :: next :: rest => exact (short word link next rest rfl).elim

end

end TableQuery.Question
