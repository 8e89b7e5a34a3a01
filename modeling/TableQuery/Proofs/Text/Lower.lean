import TableQuery.Proofs.Text.Plain
import TableQuery.Text.Word

/-! # Lower case

Lower case stays what it is when it is taken again, words stay words, and spaces cut a text
into parts that are brought into lower case one by one.  The first two are facts of the case
tables: they are checked run by run, for all code points that a run reaches at once.
-/

namespace TableQuery.Text

/-! ## Where the runs of a table lead -/

/-- Do the code points from one to the other lie in one of the ranges? -/
def liesWithin (lo hi : Nat) : CodeRanges → Bool
  | [] => false
  | range :: rest =>
    Nat.ble range.1 lo && (Nat.ble hi range.2 || (Nat.blt range.2 lo && liesWithin lo hi rest))

theorem inRanges_of_liesWithin {lo hi n : Nat} {ranges : CodeRanges}
    (within : liesWithin lo hi ranges = true) (above : lo ≤ n) (below : n ≤ hi) :
    inRanges n ranges = true := by
  induction ranges with
  | nil => cases within
  | cons range rest inductionHypothesis =>
    simp only [liesWithin, Bool.or_eq_true, Bool.and_eq_true, Nat.ble_eq, Nat.blt_eq] at within
    obtain ⟨begins, ends | ⟨-, later⟩⟩ := within
    · simp [inRanges, show ¬ n < range.1 by omega, show n ≤ range.2 by omega]
    · simp [inRanges, show ¬ n < range.1 by omega, inductionHypothesis later]

namespace ShiftRun

/-- The code point that the first one of the run moves to. -/
def imageLo (r : ShiftRun) : Nat := ((r.lo : Int) + r.shift).toNat

/-- The code point that the last one of the run moves to. -/
def imageHi (r : ShiftRun) : Nat := ((r.hi : Int) + r.shift).toNat

theorem bounds_of_covers {r : ShiftRun} {n : Nat} (covers : r.covers n = true) :
    r.imageLo ≤ ((n : Int) + r.shift).toNat ∧ ((n : Int) + r.shift).toNat ≤ r.imageHi := by
  simp only [ShiftRun.covers, Bool.and_eq_true, decide_eq_true_eq] at covers
  rw [imageLo, imageHi]
  omega

/-- Does no code point that the run reaches belong to the other run?  It lies outside of it or
    between its members. -/
def misses (r other : ShiftRun) : Bool :=
  Nat.blt r.imageHi other.lo || Nat.blt other.hi r.imageLo ||
    ((r.stride % other.stride == 0 || r.lo == r.hi) && (r.imageLo - other.lo) % other.stride != 0)

theorem not_covers_of_misses {r other : ShiftRun} {n : Nat} (misses : r.misses other = true)
    (covers : r.covers n = true) : other.covers ((n : Int) + r.shift).toNat = false := by
  have bounds := bounds_of_covers covers
  simp only [ShiftRun.misses, Bool.or_eq_true, Bool.and_eq_true, Nat.blt_eq, beq_iff_eq,
    bne_iff_ne] at misses
  simp only [ShiftRun.covers, Bool.and_eq_true, decide_eq_true_eq, beq_iff_eq] at covers
  rw [Bool.eq_false_iff]
  intro inOther
  simp only [ShiftRun.covers, Bool.and_eq_true, decide_eq_true_eq, beq_iff_eq] at inOther
  obtain (isBelow | isAbove) | ⟨step, between⟩ := misses
  · omega
  · omega
  · -- The remainder by the stride of the other run is the same for all code points reached.
    have beyond : other.lo < r.imageLo := by
      by_contra notBeyond
      rw [Nat.sub_eq_zero_of_le (Nat.not_lt.1 notBeyond), Nat.zero_mod] at between
      exact between rfl
    have isSum : ((n : Int) + r.shift).toNat - other.lo = (r.imageLo - other.lo) + (n - r.lo) := by
      rw [imageLo] at beyond ⊢
      omega
    have multiple : (n - r.lo) % other.stride = 0 := by
      rcases step with divides | single
      · exact Nat.mod_eq_zero_of_dvd ((Nat.dvd_of_mod_eq_zero divides).trans
          (Nat.dvd_of_mod_eq_zero covers.2))
      · rw [show n - r.lo = 0 by omega, Nat.zero_mod]
    rw [isSum, Nat.add_mod, multiple, Nat.add_zero, Nat.mod_mod] at inOther
    exact between inOther.2

end ShiftRun

/-- No run leads to a code point that has another lower case, the capital I with a dot
    included. -/
theorem misses_of_mem_lowerRuns {r other : ShiftRun} (inRuns : r ∈ lowerRuns)
    (isOther : other ∈ ⟨0x130, 0x130, 1, 0⟩ :: lowerRuns) : r.misses other = true := by
  have each : (lowerRuns.all fun r =>
      (⟨0x130, 0x130, 1, 0⟩ :: lowerRuns).all r.misses) = true := by decide +kernel
  exact List.all_eq_true.1 (List.all_eq_true.1 each r inRuns) other isOther

/-- Does the run lead to word characters above ASCII only, or else to the letter k only? -/
def ShiftRun.leadsToWords (r : ShiftRun) : Bool :=
  (r.imageLo == 0x6B && r.imageHi == 0x6B) ||
    (Nat.ble 0x80 r.imageLo && liesWithin r.imageLo r.imageHi wordRanges &&
      (Nat.blt r.imageHi 0xD800 || (Nat.blt 0xDFFF r.imageLo && Nat.blt r.imageHi 0x110000)))

theorem leadsToWords_of_mem_lowerRuns {r : ShiftRun} (inRuns : r ∈ lowerRuns) :
    r.leadsToWords = true := by
  have each : (lowerRuns.all ShiftRun.leadsToWords) = true := by decide +kernel
  exact List.all_eq_true.1 each r inRuns

/-! ## Characters -/

/-- Is the character its own lower case, wherever it stands? -/
def StaysLower (c : Char) : Prop := lowerChar c = [c] ∧ c ≠ capitalSigma

instance (c : Char) : Decidable (StaysLower c) := inferInstanceAs (Decidable (_ ∧ _))

/-- What holds of the characters in ASCII one by one holds of every one of them. -/
theorem of_ascii {motive : Char → Prop} (each : ∀ n < 0x80, motive (Char.ofNat n)) {c : Char}
    (ascii : c.toNat < 0x80) : motive c := by
  have held := each c.toNat ascii
  rwa [Char.ofNat_toNat] at held

theorem toLower_of_ascii {c : Char} (ascii : c.toNat < 0x80) :
    StaysLower c.toLower ∧ (isWordChar c = true → isWordChar c.toLower = true) :=
  of_ascii (motive := fun c =>
      StaysLower c.toLower ∧ (isWordChar c = true → isWordChar c.toLower = true))
    (by decide +kernel) ascii

/-- The lower case of a character is a letter that a run leads to, or an exception. -/
theorem mem_lowerChar {c d : Char} (member : d ∈ lowerChar c) :
    (c.toNat < 0x80 ∧ d = c.toLower) ∨ d = 'i' ∨ d = '\u0307' ∨
      (∃ r ∈ lowerRuns, r.covers c.toNat = true ∧
        d = Char.ofNat ((c.toNat : Int) + r.shift).toNat) ∨
      (d = c ∧ StaysLower c) := by
  rw [lowerChar] at member
  split at member
  · next ascii => exact .inl ⟨ascii, List.mem_singleton.1 member⟩
  split at member
  · rcases List.mem_cons.1 member with rfl | isDot
    · exact .inr (.inl rfl)
    · exact .inr (.inr (.inl (List.mem_singleton.1 isDot)))
  · next notAscii notDotted =>
    split at member
    · next n isImage =>
      obtain ⟨r, isFound, rfl⟩ := Option.map_eq_some_iff.1 isImage
      have covers := List.find?_some (p := fun r : ShiftRun => r.covers c.toNat) isFound
      exact .inr (.inr (.inr (.inl ⟨r, List.mem_of_find?_eq_some isFound, covers,
        List.mem_singleton.1 member⟩)))
    · next noImage =>
      refine .inr (.inr (.inr (.inr ⟨List.mem_singleton.1 member, ?_, ?_⟩)))
      · rw [lowerChar, if_neg notAscii, if_neg notDotted, noImage]
      · rintro rfl
        exact absurd noImage (by decide)

theorem toNat_ofNat_of_valid {n : Nat} (valid : n.isValidChar) : (Char.ofNat n).toNat = n := by
  rw [Char.ofNat, dif_pos valid]
  rfl

/-- A letter that a run leads to is a word character and its own lower case. -/
theorem isLetter_of_covers {r : ShiftRun} {n : Nat} (inRuns : r ∈ lowerRuns)
    (covers : r.covers n = true) :
    StaysLower (Char.ofNat ((n : Int) + r.shift).toNat) ∧
      isWordChar (Char.ofNat ((n : Int) + r.shift).toNat) = true := by
  obtain ⟨above, below⟩ := ShiftRun.bounds_of_covers covers
  have missed : ∀ other ∈ ⟨0x130, 0x130, 1, 0⟩ :: lowerRuns,
      other.covers ((n : Int) + r.shift).toNat = false := fun other isOther =>
    ShiftRun.not_covers_of_misses (misses_of_mem_lowerRuns inRuns isOther) covers
  have leads := leadsToWords_of_mem_lowerRuns inRuns
  generalize ((n : Int) + r.shift).toNat = image at *
  simp only [ShiftRun.leadsToWords, Bool.or_eq_true, Bool.and_eq_true, beq_iff_eq, Nat.ble_eq,
    Nat.blt_eq] at leads
  rcases leads with ⟨first, last⟩ | ⟨⟨notAscii, within⟩, valid⟩
  · -- Only the sign for kelvin leads below the other letters, to the letter k.
    obtain rfl : image = 0x6B := by omega
    decide
  · have toNat_eq : (Char.ofNat image).toNat = image := by
      apply toNat_ofNat_of_valid
      show image < 0xD800 ∨ 0xDFFF < image ∧ image < 0x110000
      omega
    have isAbove : ¬ image < 0x80 := by omega
    have noImage : ShiftRun.image? lowerRuns image = none := by
      rw [ShiftRun.image?, Option.map_eq_none_iff, List.find?_eq_none]
      intro other isOther
      rw [missed other (List.mem_cons_of_mem _ isOther)]
      exact Bool.false_ne_true
    refine ⟨⟨?_, ?_⟩, ?_⟩
    · have notDotted : ¬ (Char.ofNat image == 'İ') = true := by
        intro isDotted
        have isCode : image = 0x130 := by
          rw [← toNat_eq, beq_iff_eq.1 isDotted]
          rfl
        have covered := missed _ List.mem_cons_self
        rw [isCode] at covered
        exact absurd covered (by decide)
      rw [lowerChar, toNat_eq, if_neg isAbove, if_neg notDotted, noImage]
    · intro isSigma
      have isCode : image = 0x3A3 := by
        rw [← toNat_eq, isSigma]
        rfl
      rw [isCode] at noImage
      exact absurd noImage (by decide)
    · rw [isWordChar, toNat_eq, if_neg isAbove]
      exact inRanges_of_liesWithin within above below

theorem staysLower_of_mem_lowerChar {c d : Char} (member : d ∈ lowerChar c) : StaysLower d := by
  rcases mem_lowerChar member with ⟨ascii, rfl⟩ | rfl | rfl | ⟨r, inRuns, covers, rfl⟩ |
    ⟨rfl, stays⟩
  · exact (toLower_of_ascii ascii).1
  · decide
  · decide
  · exact (isLetter_of_covers inRuns covers).1
  · exact stays

theorem isWordChar_of_mem_lowerChar {c d : Char} (word : isWordChar c = true)
    (member : d ∈ lowerChar c) : isWordChar d = true := by
  rcases mem_lowerChar member with ⟨ascii, rfl⟩ | rfl | rfl | ⟨r, inRuns, covers, rfl⟩ |
    ⟨rfl, stays⟩
  · exact (toLower_of_ascii ascii).2 word
  · decide
  · decide
  · exact (isLetter_of_covers inRuns covers).2
  · exact word

/-! ## Texts -/

/-- The characters of a text in lower case come from those of the text or are small sigmas. -/
theorem mem_lowerFrom {before s : List Char} {d : Char} (member : d ∈ lowerFrom before s) :
    d = 'σ' ∨ d = 'ς' ∨ ∃ c ∈ s, d ∈ lowerChar c := by
  induction s generalizing before with
  | nil => cases member
  | cons c rest inductionHypothesis =>
    rw [lowerFrom] at member
    rcases List.mem_append.1 member with here | later
    · split at here
      · split at here
        · exact .inr (.inl (List.mem_singleton.1 here))
        · exact .inl (List.mem_singleton.1 here)
      · exact .inr (.inr ⟨c, List.mem_cons_self, here⟩)
    · rcases inductionHypothesis later with isSigma | isFinal | ⟨e, inRest, isLower⟩
      · exact .inl isSigma
      · exact .inr (.inl isFinal)
      · exact .inr (.inr ⟨e, List.mem_cons_of_mem _ inRest, isLower⟩)

theorem staysLower_of_mem_lower {s : List Char} {d : Char} (member : d ∈ lower s) :
    StaysLower d := by
  rcases mem_lowerFrom member with rfl | rfl | ⟨c, -, isLower⟩
  · decide
  · decide
  · exact staysLower_of_mem_lowerChar isLower

theorem isWordChar_of_mem_lower {s : List Char} (word : ∀ c ∈ s, isWordChar c = true) {d : Char}
    (member : d ∈ lower s) : isWordChar d = true := by
  rcases mem_lowerFrom member with rfl | rfl | ⟨c, inText, isLower⟩
  · decide
  · decide
  · exact isWordChar_of_mem_lowerChar (word c inText) isLower

theorem lowerFrom_eq_self_of_stays {s : List Char} (stays : ∀ c ∈ s, StaysLower c)
    (before : List Char) : lowerFrom before s = s := by
  induction s generalizing before with
  | nil => rfl
  | cons c rest inductionHypothesis =>
    obtain ⟨same, notSigma⟩ := stays c List.mem_cons_self
    rw [lowerFrom, beq_eq_false_iff_ne.2 notSigma]
    simp only [Bool.false_eq_true, if_false]
    rw [same, inductionHypothesis fun d member => stays d (List.mem_cons_of_mem _ member)]
    rfl

theorem lower_lower (s : List Char) : lower (lower s) = lower s :=
  lowerFrom_eq_self_of_stays (fun _ member => staysLower_of_mem_lower member) []

theorem lowerChar_ne_nil (c : Char) : lowerChar c ≠ [] := by
  rw [lowerChar]
  split
  · exact List.cons_ne_nil _ _
  split
  · exact List.cons_ne_nil _ _
  split <;> exact List.cons_ne_nil _ _

theorem lower_ne_nil {s : List Char} (nonempty : s ≠ []) : lower s ≠ [] := by
  obtain ⟨c, rest, rfl⟩ := List.exists_cons_of_ne_nil nonempty
  rw [lower, lowerFrom]
  refine List.append_ne_nil_of_left_ne_nil ?_ _
  split
  · split <;> exact List.cons_ne_nil _ _
  · exact lowerChar_ne_nil c

/-! ### Parts of a text -/

theorem meetsCased_append (s more : List Char) :
    meetsCased (s ++ more) =
      if s.all isCaseIgnorable then meetsCased more else meetsCased s := by
  induction s with
  | nil => rfl
  | cons c s inductionHypothesis =>
    by_cases ignorable : isCaseIgnorable c = true
    · have passes : ∀ t, meetsCased (c :: t) = meetsCased t := fun t => by
        rw [meetsCased, meetsCased, List.dropWhile_cons_of_pos ignorable]
      rw [List.cons_append, passes, passes, inductionHypothesis, List.all_cons, ignorable,
        Bool.true_and]
    · have stops : ∀ t, meetsCased (c :: t) = isCased c := fun t => by
        rw [meetsCased, List.dropWhile_cons_of_neg ignorable]
      rw [List.cons_append, stops, stops, List.all_cons, Bool.eq_false_iff.2 ignorable]
      rfl

theorem meetsCased_of_ignorable {s : List Char} (ignorable : s.all isCaseIgnorable = true) :
    meetsCased s = false := by
  have alone := meetsCased_append s []
  rwa [List.append_nil, if_pos ignorable] at alone

theorem meetsCased_append_space (s more : List Char) :
    meetsCased (s ++ ' ' :: more) = meetsCased s := by
  rw [meetsCased_append]
  split
  · next ignorable =>
    rw [meetsCased_of_ignorable ignorable]
    rfl
  · rfl

theorem lowerFrom_append_space (before s more : List Char) :
    lowerFrom before (s ++ ' ' :: more) =
      lowerFrom before s ++ lowerFrom (s.reverse ++ before) (' ' :: more) := by
  induction s generalizing before with
  | nil => rfl
  | cons c s inductionHypothesis =>
    -- Whether a sigma is final depends on what follows it up to the space only.
    rw [List.cons_append, lowerFrom, lowerFrom, inductionHypothesis, meetsCased_append_space]
    simp

theorem lowerFrom_behind_space (near before s : List Char) :
    lowerFrom (near ++ ' ' :: before) s = lowerFrom near s := by
  induction s generalizing near with
  | nil => rfl
  | cons c s inductionHypothesis =>
    rw [lowerFrom, lowerFrom, ← List.cons_append, inductionHypothesis, meetsCased_append_space]

/-- A space cuts a text into parts that are brought into lower case one by one. -/
theorem lower_append_space (s more : List Char) :
    lower (s ++ ' ' :: more) = lower s ++ ' ' :: lower more := by
  have isRest : lowerFrom (' ' :: (s.reverse ++ [])) more = lowerFrom [] more :=
    lowerFrom_behind_space [] (s.reverse ++ []) more
  rw [lower, lowerFrom_append_space, lowerFrom, isRest]
  rfl

end TableQuery.Text
