import TableQuery.Proofs.Text.Ascii
import TableQuery.Text.Word

/-! # Blanks

The blanks are few: what holds of none of them is told by looking at each.  A run of characters
of a kind has an end, and trimming leaves nothing of a text just if there are blanks only.
-/

namespace TableQuery.Text

/-! ## The characters that are blank -/

/-- The code points of the blanks. -/
def blankCodes : List Nat :=
  [0x20, 0x09, 0x0A, 0x0B, 0x0C, 0x0D, 0x85, 0xA0, 0x1680, 0x2000, 0x2001, 0x2002, 0x2003, 0x2004,
    0x2005, 0x2006, 0x2007, 0x2008, 0x2009, 0x200A, 0x2028, 0x2029, 0x202F, 0x205F, 0x3000]

theorem toNat_mem_blankCodes {c : Char} (blank : isBlank c = true) :
    c.toNat ∈ blankCodes := by
  simp only [isBlank, Bool.or_eq_true, Bool.and_eq_true, beq_iff_eq, decide_eq_true_eq] at blank
  simp only [blankCodes, List.mem_cons, List.not_mem_nil, or_false]
  omega

theorem isBlank_eq_false_of_test {test : Char → Bool}
    (none : ∀ n ∈ blankCodes, test (Char.ofNat n) = false) {c : Char} (passes : test c = true) :
    isBlank c = false := by
  rw [Bool.eq_false_iff]
  intro blank
  have fails := none c.toNat (toNat_mem_blankCodes blank)
  rw [Char.ofNat_toNat, passes] at fails
  cases fails

theorem isBlank_of_isWordChar {c : Char} (word : isWordChar c = true) : isBlank c = false :=
  @isBlank_eq_false_of_test isWordChar (by decide +kernel) _ word

theorem isBlank_of_isDecimalDigit {c : Char} (digit : isDecimalDigit c = true) :
    isBlank c = false :=
  @isBlank_eq_false_of_test isDecimalDigit (by decide +kernel) _ digit

/-! ## Runs -/

theorem head?_dropWhile (test : Char → Bool) (s : List Char) :
    ∀ c ∈ (s.dropWhile test).head?, test c = false := by
  intro c isHead
  rw [← List.find?_not_eq_head?_dropWhile, Option.mem_def] at isHead
  simpa using List.find?_some isHead

/-- A text begins with a run of characters that pass a test, up to one that does not. -/
theorem exists_run (test : Char → Bool) (s : List Char) :
    ∃ run rest, s = run ++ rest ∧ (∀ c ∈ run, test c = true) ∧ ∀ c ∈ rest.head?, test c = false :=
  ⟨s.takeWhile test, s.dropWhile test, List.takeWhile_append_dropWhile.symm,
    fun _ member => List.mem_takeWhile_imp member, head?_dropWhile test s⟩

section

variable {test : Char → Bool} {run rest : List Char} (passes : ∀ c ∈ run, test c = true)
  (stops : ∀ c ∈ rest.head?, test c = false)

include passes stops

theorem dropWhile_run : (run ++ rest).dropWhile test = rest := by
  rw [List.dropWhile_append_of_pos passes]
  cases rest with
  | nil => rfl
  | cons c rest => simp [stops c rfl]

theorem takeWhile_run : (run ++ rest).takeWhile test = run := by
  have isSplit := List.takeWhile_append_dropWhile (p := test) (l := run ++ rest)
  rw [dropWhile_run passes stops] at isSplit
  exact List.append_cancel_right isSplit

end

/-! ## Trimming -/

theorem trim_cons_of_isBlank {c : Char} (blank : isBlank c = true) (s : List Char) :
    trim (c :: s) = trim s := by
  rw [trim, trim, trimStart, List.dropWhile_cons, if_pos blank, trimStart]

theorem trim_eq_nil_iff {s : List Char} : trim s = [] ↔ ∀ c ∈ s, isBlank c = true := by
  rw [trim, trimEnd, List.reverse_eq_nil_iff, List.dropWhile_eq_nil_iff]
  simp only [List.mem_reverse]
  rw [← List.dropWhile_eq_nil_iff (p := isBlank) (l := s), ← trimStart]
  cases isStart : trimStart s with
  | nil => simp
  | cons c rest =>
    have solid := head?_dropWhile isBlank s c (by rw [← trimStart, isStart]; rfl)
    simp [solid]

end TableQuery.Text
