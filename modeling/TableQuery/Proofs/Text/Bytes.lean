import Mathlib.Data.List.Basic

/-! # The bytes of a text

Ranges of bytes are overwritten with spaces one after the other, each of them only if it begins and
ends between two characters.  A range that does so in the beginning still does when other ranges
have been overwritten, whether it overlaps them or not, so in the end just the bytes of the ranges
are spaces, and all others are what they were.
-/

namespace TableQuery.Text

/-- The bytes of a text in UTF-8. -/
def bytes (s : List Char) : List UInt8 := s.flatMap String.utf8EncodeChar

@[simp] theorem bytes_nil : bytes [] = [] := rfl

@[simp] theorem bytes_cons (c : Char) (s : List Char) :
    bytes (c :: s) = String.utf8EncodeChar c ++ bytes s := rfl

@[simp] theorem bytes_append (s more : List Char) : bytes (s ++ more) = bytes s ++ bytes more :=
  List.flatMap_append

theorem bytes_replicate_space (n : Nat) : bytes (List.replicate n ' ') = List.replicate n 0x20 := by
  induction n with
  | zero => rfl
  | succ n inductionHypothesis =>
    rw [List.replicate_succ, bytes_cons, inductionHypothesis]
    rfl

/-! ## Where characters begin -/

/-- Does a character begin in front of this byte, or is it the end of the text? -/
def isCharStart (bs : List UInt8) (i : Nat) : Bool :=
  match bs[i]? with
  | some b => decide b.IsUTF8FirstByte
  | none => i == bs.length

theorem le_length_of_isCharStart {bs : List UInt8} {i : Nat} (begins : isCharStart bs i = true) :
    i ≤ bs.length := by
  rw [isCharStart] at begins
  split at begins
  · next isByte => exact Nat.le_of_lt (List.getElem?_eq_some_iff.1 isByte).1
  · exact Nat.le_of_eq (beq_iff_eq.1 begins)

theorem isCharStart_append (s more : List Char) :
    isCharStart (bytes s ++ bytes more) (bytes s).length = true := by
  rw [isCharStart, List.getElem?_append_right (Nat.le_refl _), Nat.sub_self]
  cases more with
  | nil => simp
  | cons c more =>
    have begins := @UInt8.isUTF8FirstByte_getElem_zero_utf8EncodeChar c
    have nonempty := List.length_pos_iff.2 (String.utf8EncodeChar_ne_nil (c := c))
    rw [bytes_cons, List.getElem?_append_left nonempty, List.getElem?_eq_getElem nonempty]
    simp [begins]

/-! ## Ranges -/

/-- Some bytes of a text that follow each other. -/
structure ByteRange where
  start : Nat
  stop : Nat

namespace ByteRange

/-- Is the byte one of the range? -/
def covers (r : ByteRange) (i : Nat) : Bool := r.start ≤ i && i < r.stop

theorem covers_iff {r : ByteRange} {i : Nat} : r.covers i = true ↔ r.start ≤ i ∧ i < r.stop := by
  simp [covers]

theorem covers_eq_false_iff {r : ByteRange} {i : Nat} :
    r.covers i = false ↔ ¬ (r.start ≤ i ∧ i < r.stop) := by
  rw [← covers_iff, Bool.not_eq_true]

/-- Does the range take up whole characters? -/
structure IsWhole (bs : List UInt8) (r : ByteRange) : Prop where
  start_le_stop : r.start ≤ r.stop
  start : isCharStart bs r.start = true
  stop : isCharStart bs r.stop = true

end ByteRange

/-- The bytes with spaces in place of those of a range, if the range takes up whole characters. -/
def overwrite (bs : List UInt8) (r : ByteRange) : List UInt8 :=
  if isCharStart bs r.start && isCharStart bs r.stop then
    bs.take r.start ++ (List.replicate (r.stop - r.start) 0x20 ++ bs.drop r.stop)
  else bs

section

variable {bs : List UInt8} {r other : ByteRange} (whole : r.IsWhole bs)

include whole

theorem overwrite_eq : overwrite bs r =
    bs.take r.start ++ (List.replicate (r.stop - r.start) 0x20 ++ bs.drop r.stop) := by
  rw [overwrite, whole.start, whole.stop]
  rfl

theorem length_overwrite : (overwrite bs r).length = bs.length := by
  have inText := le_length_of_isCharStart whole.stop
  have inOrder := whole.start_le_stop
  simp [overwrite_eq whole]
  omega

theorem getElem?_overwrite (i : Nat) :
    (overwrite bs r)[i]? = bs[i]?.map fun b => if r.covers i then 0x20 else b := by
  have inText := le_length_of_isCharStart whole.stop
  have inOrder := whole.start_le_stop
  have isStart : (bs.take r.start).length = r.start := by simp; omega
  rw [overwrite_eq whole]
  by_cases before : i < r.start
  · rw [List.getElem?_append_left (by omega), List.getElem?_take_of_lt before]
    simp [ByteRange.covers, show ¬ r.start ≤ i by omega]
  by_cases inside : i < r.stop
  · rw [List.getElem?_append_right (by omega), isStart, List.getElem?_append_left (by simp; omega),
      List.getElem?_replicate_of_lt (by omega), List.getElem?_eq_getElem (by omega)]
    simp [ByteRange.covers, inside, show r.start ≤ i by omega]
  · rw [List.getElem?_append_right (by omega), isStart, List.getElem?_append_right (by simp; omega),
      List.getElem?_drop, List.length_replicate,
      show r.stop + (i - r.start - (r.stop - r.start)) = i by omega]
    simp [ByteRange.covers, inside]

theorem isCharStart_overwrite {i : Nat} (begins : isCharStart bs i = true) :
    isCharStart (overwrite bs r) i = true := by
  rw [isCharStart] at begins ⊢
  rw [getElem?_overwrite whole, length_overwrite whole]
  cases isByte : bs[i]? with
  | none => simpa [isByte] using begins
  | some b =>
    rw [isByte] at begins
    by_cases covered : r.covers i
    · simpa [covered] using (show (0x20 : UInt8).IsUTF8FirstByte by decide)
    · simpa [covered] using begins

theorem ByteRange.IsWhole.overwrite (otherWhole : other.IsWhole bs) :
    other.IsWhole (overwrite bs r) :=
  ⟨otherWhole.start_le_stop, isCharStart_overwrite whole otherWhole.start,
    isCharStart_overwrite whole otherWhole.stop⟩

end

/-- Are the bytes those from before, with spaces in the ranges and nowhere else anew? -/
structure IsBlanked (before : List UInt8) (ranges : List ByteRange) (after : List UInt8) : Prop where
  length_eq : after.length = before.length
  space : ∀ r ∈ ranges, ∀ i, r.covers i = true → after[i]? = some 0x20
  same : ∀ i, (∀ r ∈ ranges, r.covers i = false) → after[i]? = before[i]?

theorem getElem?_foldl_overwrite {bs : List UInt8} {ranges : List ByteRange}
    (whole : ∀ r ∈ ranges, r.IsWhole bs) (i : Nat) :
    (ranges.foldl overwrite bs)[i]? =
      bs[i]?.map fun b => if ranges.any (·.covers i) then 0x20 else b := by
  induction ranges generalizing bs with
  | nil => simp
  | cons r ranges inductionHypothesis =>
    have firstWhole := whole r List.mem_cons_self
    have othersWhole : ∀ other ∈ ranges, other.IsWhole (overwrite bs r) := fun other member =>
      firstWhole.overwrite (whole other (List.mem_cons_of_mem _ member))
    rw [List.foldl_cons, inductionHypothesis othersWhole, getElem?_overwrite firstWhole,
      Option.map_map]
    congr 1
    funext b
    by_cases covered : r.covers i <;> simp [covered]

/-- However the ranges overlap, all of them are overwritten, and nothing else is. -/
theorem isBlanked_foldl_overwrite {bs : List UInt8} {ranges : List ByteRange}
    (whole : ∀ r ∈ ranges, r.IsWhole bs) : IsBlanked bs ranges (ranges.foldl overwrite bs) where
  length_eq := by
    induction ranges generalizing bs with
    | nil => rfl
    | cons r ranges inductionHypothesis =>
      have firstWhole := whole r List.mem_cons_self
      rw [List.foldl_cons, inductionHypothesis, length_overwrite firstWhole]
      exact fun other member => firstWhole.overwrite (whole other (List.mem_cons_of_mem _ member))
  space := by
    intro r member i covered
    have isByte : i < bs.length := by
      have inText := le_length_of_isCharStart (whole r member).stop
      have below := (ByteRange.covers_iff.1 covered).2
      omega
    rw [getElem?_foldl_overwrite whole, List.getElem?_eq_getElem isByte, Option.map_some,
      List.any_eq_true.2 ⟨r, member, covered⟩, if_pos rfl]
  same := by
    intro i uncovered
    rw [getElem?_foldl_overwrite whole, List.any_eq_false.2 (by simpa using uncovered)]
    simp

end TableQuery.Text
