import TableQuery.Proofs.Pattern.Gives
import TableQuery.Proofs.Question.SortText

/-! # Places and states in texts that sort

Places and states are looked for in the whole of a text.  In one that sorts by a key a place is
found just if the key ends like a word for places and a direction follows it, and a state just
if its word stands within the key.
-/

namespace TableQuery

/-! ## Letters in any case -/

/-- Is the letter small, and does no case but its capital fold to it? -/
structure CharSet.IsPlainLetter (c : Char) : Prop where
  small : 97 ≤ c.toNat ∧ c.toNat ≤ 122
  uncovered : ∀ r ∈ Text.foldRuns, r.covers c.toNat = false
  reached : ∀ r ∈ Text.foldRuns, c.toNat < r.imageLo ∨ r.imageHi < c.toNat ∨ r.shift = 32

theorem CharSet.isPlainLetter_of_mem {c : Char}
    (letter : c ∈ ['a', 'd', 'f', 'i', 'm', 'n', 'o', 'r']) : IsPlainLetter c := by
  have each : (['a', 'd', 'f', 'i', 'm', 'n', 'o', 'r'].all fun c =>
      Nat.ble 97 c.toNat && Nat.ble c.toNat 122 && Text.foldRuns.all fun r => !r.covers c.toNat &&
        (Nat.blt c.toNat r.imageLo || Nat.blt r.imageHi c.toNat || r.shift == 32)) = true := by
    decide +kernel
  have checked := List.all_eq_true.1 each c letter
  simp only [Bool.and_eq_true, Bool.or_eq_true, Bool.not_eq_true', Nat.ble_eq, Nat.blt_eq,
    beq_iff_eq, or_assoc, List.all_eq_true] at checked
  obtain ⟨small, runs⟩ := checked
  exact ⟨small, fun r inRuns => (runs r inRuns).1, fun r inRuns => (runs r inRuns).2⟩

theorem CharSet.contains_folded {set : CharSet} {c : Char} (plain : IsPlainLetter c)
    (member : set.contains c = true) : (CharSet.folded set).contains c = true := by
  have noImage : Text.ShiftRun.image? Text.foldRuns c.toNat = none := by
    rw [Text.ShiftRun.image?, Option.map_eq_none_iff, List.find?_eq_none]
    intro r inRuns
    rw [plain.uncovered r inRuns]
    exact Bool.false_ne_true
  rw [CharSet.contains] at member
  rw [CharSet.contains, CharSet.has, Text.caseVariants, Text.foldCode, noImage, List.any_cons]
  simp [member]

theorem CharSet.eq_of_contains_folded {c d : Char} (plain : IsPlainLetter c)
    (stays : Text.StaysLower d) (member : (CharSet.folded (.single c)).contains d = true) : d = c := by
  have isVariant : c.toNat ∈ Text.caseVariants d.toNat := by
    rw [CharSet.contains, CharSet.has, List.any_eq_true] at member
    obtain ⟨v, isVariant, isCode⟩ := member
    simp only [single, CharSet.has, Bool.and_eq_true, decide_eq_true_eq] at isCode
    rwa [show c.toNat = v by omega]
  rcases List.mem_cons.1 isVariant with isFolded | isPreimage
  · rw [Text.foldCode] at isFolded
    cases isImage : Text.ShiftRun.image? Text.foldRuns d.toNat with
    | none =>
      rw [isImage, Option.getD_none] at isFolded
      exact Char.toNat_inj.1 isFolded.symm
    | some image =>
      rw [isImage, Option.getD_some] at isFolded
      obtain ⟨r, isFound, rfl⟩ := Option.map_eq_some_iff.1 isImage
      have covers := List.find?_some (p := fun r : Text.ShiftRun => r.covers d.toNat) isFound
      have bounds := Text.ShiftRun.bounds_of_covers covers
      -- Only a capital is led to the letter, and it does not stay what it is.
      have isCapital : d.toNat + 32 = c.toNat := by
        have reached := plain.reached r (List.mem_of_find?_eq_some isFound)
        omega
      have moves : 65 ≤ d.toNat ∧ d.toNat ≤ 90 → ¬ Text.StaysLower d :=
        Text.of_ascii (motive := fun d => 65 ≤ d.toNat ∧ d.toNat ≤ 90 → ¬ Text.StaysLower d)
          (by decide +kernel) (by have := plain.small; omega)
      exact absurd stays (moves (by have := plain.small; omega))
  · obtain ⟨r, inRuns, isSource⟩ := List.mem_filterMap.1 isPreimage
    simp only [Option.ite_none_right_eq_some, Option.some.injEq] at isSource
    rw [isSource.2] at isSource
    rw [plain.uncovered r inRuns] at isSource
    cases isSource.1

namespace Question

open Pattern

theorem takes_caselessText {word : String} {s rest : List Char}
    (plain : ∀ c ∈ word.toList, CharSet.IsPlainLetter c)
    (stays : ∀ c ∈ s, Text.StaysLower c) (takes : Takes (caselessText word) s rest) :
    s = word.toList ++ rest := by
  rw [caselessText] at takes
  generalize word.toList = letters at *
  induction letters generalizing s with
  | nil => exact (takes_empty takes).symm
  | cons c letters inductionHypothesis =>
    obtain ⟨mid, first, others⟩ := takes_sequence_cons takes
    obtain ⟨d, held, rfl⟩ := takes_one first
    obtain rfl := CharSet.eq_of_contains_folded (plain c List.mem_cons_self)
      (stays d List.mem_cons_self) held
    rw [List.cons_append, inductionHypothesis
      (fun e member => stays e (List.mem_cons_of_mem _ member))
      (fun e member => plain e (List.mem_cons_of_mem _ member)) others]

theorem prefers_caselessText {word : String}
    (plain : ∀ c ∈ word.toList, CharSet.IsPlainLetter c) (before rest : List Char) (ps : Pieces) :
    Prefers (caselessText word) ⟨before, word.toList ++ rest⟩ ps
      (⟨word.toList.reverse ++ before, rest⟩, ps) := by
  rw [caselessText]
  generalize word.toList = letters at *
  induction letters generalizing before with
  | nil => rfl
  | cons c letters inductionHypothesis =>
    have held : (CharSet.folded (.single c)).contains c = true :=
      CharSet.contains_folded (plain c List.mem_cons_self) (by simp)
    have one : Prefers (.one (.folded (.single c))) ⟨before, c :: (letters ++ rest)⟩ ps
        (⟨c :: before, letters ++ rest⟩, ps) := by
      simp [Prefers, ways, held]
    cases letters with
    | nil => exact one
    | cons d letters =>
      have others := inductionHypothesis (c :: before)
        fun e member => plain e (List.mem_cons_of_mem _ member)
      rw [List.reverse_cons, List.append_assoc]
      exact prefers_seq one others

/-! ## States -/

variable {word : List Char} {direction : Option SortOrder}

theorem infix_spaced_iff {piece : List Char} (long : 4 < piece.length) (noSpace : ' ' ∉ piece) :
    piece <:+: Text.spaced (sortWords word direction) ↔ piece <:+: word := by
  constructor
  · rintro ⟨before, after, cut⟩
    have late : IsLatePiece piece := by
      refine ⟨noSpace, ?_, fun within => ?_, fun within => ?_⟩
      · rintro rfl
        simp at long
      · have := within.length_le
        simp at this
        omega
      · have := within.length_le
        simp at this
        omega
    rw [List.append_assoc] at cut
    rcases cut_of_piece late cut.symm with
      ⟨left, right, isWord, -, -⟩ | ⟨order, -, within⟩
    · exact ⟨left, right, by rw [isWord, List.append_assoc]⟩
    · have fits := within.length_le
      have short : order.name.toList.length ≤ 4 := by cases order <;> decide
      rw [List.length_append] at fits
      omega
  · intro within
    refine within.trans ⟨opening ++ [' '], Text.behind (directionWords direction), ?_⟩
    simp [spaced_sortWords]

/-! ## Places -/

/-- The words that stand before a place. -/
def placeWords : List String := ["from", "in"]

theorem isPlainLetter_of_mem_placeWords {link : String} (isLink : link ∈ placeWords) :
    ∀ c ∈ link.toList, CharSet.IsPlainLetter c := by
  have each : ∀ link ∈ placeWords, ∀ c ∈ link.toList,
      c ∈ ['a', 'd', 'f', 'i', 'm', 'n', 'o', 'r'] := by decide
  exact fun c member => CharSet.isPlainLetter_of_mem (each link isLink c member)

theorem takes_placeClause {s rest : List Char} (stays : ∀ c ∈ s, Text.StaysLower c)
    (takes : Takes placeClause s rest) :
    ∃ link ∈ placeWords, ∃ c more, s = link.toList ++ c :: more ∧ Text.isBlank c = true := by
  obtain ⟨mid, atLink, takes⟩ := takes_sequence_cons takes
  obtain ⟨afterGap, gap, -⟩ := takes_sequence_cons takes
  obtain ⟨c, taken, held, rfl⟩ := takes_many1_one gap
  have blank : Text.isBlank c = true := by simpa using held c List.mem_cons_self
  rcases takes_alt atLink with isFrom | isIn
  · exact ⟨"from", by decide, c, _,
      takes_caselessText (isPlainLetter_of_mem_placeWords (by decide)) stays isFrom, blank⟩
  · exact ⟨"in", by decide, c, _,
      takes_caselessText (isPlainLetter_of_mem_placeWords (by decide)) stays isIn, blank⟩

/-- A place is given behind a word for places that is followed by a space and a letter. -/
theorem gives_placeClause {link : String} (isLink : link ∈ placeWords) {c : Char}
    (letter : placeLetter.contains c = true) (rest : List Char) :
    Gives placeClause (link.toList ++ ([' '] ++ [c])) rest := by
  have atLink : Gives (choice [caselessText "from", caselessText "in"]) link.toList
      ([' '] ++ [c] ++ rest) := by
    have plain := isPlainLetter_of_mem_placeWords isLink
    have gives : Gives (caselessText link) link.toList ([' '] ++ [c] ++ rest) :=
      gives_of_prefers fun before ps => prefers_caselessText plain before _ ps
    refine gives_choice ?_ gives
    simp only [placeWords, List.mem_cons, List.not_mem_nil, or_false] at isLink
    rcases isLink with rfl | rfl <;> simp
  have gap : Gives blanks1 [' '] ([c] ++ rest) :=
    gives_rep_one true (Nat.le_refl 1) (by simp; decide) _
  have place : Gives (.group 1 (many1 (.one placeLetter))) [c] rest :=
    gives_group 1 (gives_rep_one true (Nat.le_refl 1) (by simpa using letter) _)
  exact gives_seq atLink (gives_seq gap place)

theorem find?_placeClause_eq_none_iff (isWord : ∀ c ∈ word, Text.isWordChar c = true)
    (stays : ∀ c ∈ word, Text.StaysLower c) :
    find? placeClause (Text.spaced (sortWords word direction)) = none ↔
      direction = none ∨ ∀ link ∈ placeWords, ¬ link.toList <:+ word := by
  constructor
  · intro notFound
    by_contra! found
    obtain ⟨someDirection, link, isLink, stem, isEnd⟩ := found
    obtain ⟨order, rfl⟩ := Option.ne_none_iff_exists'.1 someDirection
    obtain ⟨c, more, isName, letter⟩ : ∃ c more, order.name.toList = c :: more ∧
        placeLetter.contains c = true := by
      cases order <;> exact ⟨_, _, rfl, CharSet.contains_folded
        (CharSet.isPlainLetter_of_mem (by decide)) (by decide)⟩
    have cut : Text.spaced (sortWords word (some order)) =
        (opening ++ ' ' :: stem) ++ ((link.toList ++ ([' '] ++ [c])) ++ more) := by
      simp [spaced_sortWords, directionWords, Text.spaced, ← isEnd, isName]
    have isSome := isSome_find?_of_gives (gives_placeClause isLink letter more)
      (opening ++ ' ' :: stem)
    rw [← cut, notFound] at isSome
    cases isSome
  · intro without
    refine find?_eq_none fun place isCut => ways_eq_nil_of_not_takes fun rest takes => ?_
    obtain ⟨before, cut⟩ := isCut
    have staysHere : ∀ c ∈ place.after, Text.StaysLower c := fun c member =>
      forall_mem_sortText (by decide) stays c (by rw [cut]; exact List.mem_append_right _ member)
    obtain ⟨link, isLink, c, more, isCons, blank⟩ := takes_placeClause staysHere takes
    rw [isCons] at cut
    have late : ∀ link ∈ placeWords, IsLatePiece link.toList := by decide
    obtain ⟨left, order, rfl, split, -, -⟩ :=
      cut_of_piece_blank isWord (late link isLink) blank cut
    rcases without with isNone | never
    · cases isNone
    · exact never link isLink ⟨left, split.symm⟩

/-! ## Conditions -/

/-- A place is asked for just if there is a column for places and the key ends like a word that
    stands before a place, with the direction behind it. -/
theorem placeCondition?_eq_none_iff {schema : Schema}
    (isWord : ∀ c ∈ word, Text.isWordChar c = true) (stays : ∀ c ∈ word, Text.StaysLower c) :
    placeCondition? schema (Text.spaced (sortWords word direction)) = none ↔
      columnWithKey? schema placeKeys = none ∨ direction = none ∨
        ∀ link ∈ placeWords, ¬ link.toList <:+ word := by
  rw [← find?_placeClause_eq_none_iff isWord stays, placeCondition?]
  cases find? placeClause (Text.spaced (sortWords word direction)) with
  | none => simp
  | some found => cases columnWithKey? schema placeKeys <;> simp

/-- A state is asked for just if there is a column for states and the key has the word for one. -/
theorem statusCondition?_eq_none_iff {schema : Schema} :
    statusCondition? schema (Text.spaced (sortWords word direction)) = none ↔
      columnWithKey? schema statusKeys = none ∨
        ∀ status ∈ statusWords, ¬ status.toList <:+: word := by
  have facts : ∀ status ∈ statusWords, 4 < status.toList.length ∧ ' ' ∉ status.toList := by decide
  have isFound : statusWords.find? (fun status =>
      Text.occursIn status.toList (Text.spaced (sortWords word direction))) = none ↔
        ∀ status ∈ statusWords, ¬ status.toList <:+: word := by
    rw [List.find?_eq_none]
    refine forall₂_congr fun status isStatus => ?_
    obtain ⟨long, noSpace⟩ := facts status isStatus
    rw [Text.occursIn_iff, infix_spaced_iff long noSpace]
  rw [← isFound, statusCondition?]
  cases statusWords.find? _ with
  | none => simp
  | some status => cases columnWithKey? schema statusKeys <;> simp

end Question

end TableQuery
