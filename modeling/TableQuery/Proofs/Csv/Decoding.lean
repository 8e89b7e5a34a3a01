import TableQuery.Dataset
import TableQuery.Proofs.Text.Bytes

/-! # Cutting bytes and cutting characters

The reader cuts bytes and decodes what it has cut.  The bytes of a text can as well be decoded first
and its characters be cut: none of the bytes of a character outside ASCII means anything to the
reader, so all of them are taken as the character itself would be.
-/

namespace TableQuery

theorem Text.fromUTF8?_toUTF8 (text : String) : String.fromUTF8? text.toUTF8 = some text := by
  rw [String.fromUTF8?, dif_pos (by simpa using text.isValidUTF8)]
  rfl

namespace Csv

/-! ## Cutting -/

/-- Where the reader stands when it has taken something that is no comma, quote or line end. -/
def Place.inside : Place → Place
  | .quoted => .quoted
  | _ => .bare

@[simp] theorem step_other (place : Place) : step place .other = .take place.inside := by
  cases place <;> rfl

@[simp] theorem Place.inside_inside (place : Place) : place.inside.inside = place.inside := by
  cases place <;> rfl

section

variable {α : Type} {sign : α → Sign}

theorem readFrom_cons_of_other {c : α} (other : sign c = .other) (place : Place) (field : List α)
    (fields : List (List α)) (rest : List α) :
    readFrom sign place field fields (c :: rest) =
      readFrom sign place.inside (c :: field) fields rest := by
  rw [readFrom, other, step_other]

theorem readFrom_append_of_other {s : List α} (others : ∀ c ∈ s, sign c = .other)
    (nonempty : s ≠ []) (place : Place) (field : List α) (fields : List (List α))
    (rest : List α) :
    readFrom sign place field fields (s ++ rest) =
      readFrom sign place.inside (s.reverse ++ field) fields rest := by
  induction s generalizing place field with
  | nil => exact absurd rfl nonempty
  | cons c s inductionHypothesis =>
    obtain ⟨other, others⟩ := List.forall_mem_cons.1 others
    rw [List.cons_append, readFrom_cons_of_other other]
    cases s with
    | nil => rfl
    | cons d s =>
      rw [inductionHypothesis others (List.cons_ne_nil d s), Place.inside_inside]
      simp

end

def Sign.ofChar (c : Char) : Sign := ofCode c.toNat

theorem Sign.ofCode_of_le {code : Nat} (notAscii : 0x80 ≤ code) : ofCode code = .other := by
  have comma : code ≠ ','.toNat := by simp; omega
  have quote : code ≠ '"'.toNat := by simp; omega
  have lineEnd : ¬ (code = '\n'.toNat ∨ code = '\r'.toNat) := by simp; omega
  rw [ofCode, if_neg comma, if_neg quote, if_neg lineEnd]

theorem le_toNat_of_mem_utf8EncodeChar {c : Char} (notAscii : 0x80 ≤ c.toNat) :
    ∀ b ∈ String.utf8EncodeChar c, 0x80 ≤ b.toNat := by
  have notOne : ¬ c.val.toNat ≤ 0x7f := Nat.not_le_of_lt notAscii
  have high (n : Nat) (le : 0x80 ≤ n % 256) : 0x80 ≤ (UInt8.ofNat n).toNat := by
    rwa [UInt8.toNat_ofNat']
  simp only [String.utf8EncodeChar, if_neg notOne]
  split
  · simp only [List.forall_mem_cons]
    refine ⟨high _ ?_, high _ ?_, nofun⟩ <;> omega
  split
  · simp only [List.forall_mem_cons]
    refine ⟨high _ ?_, high _ ?_, high _ ?_, nofun⟩ <;> omega
  · simp only [List.forall_mem_cons]
    refine ⟨high _ ?_, high _ ?_, high _ ?_, high _ ?_, nofun⟩ <;> omega

/-- A character is one byte that is to the reader what the character is, or else neither it nor any
    of its bytes means anything to the reader. -/
theorem Sign.utf8EncodeChar_cases (c : Char) :
    (∃ b, String.utf8EncodeChar c = [b] ∧ ofByte b = ofChar c) ∨
      ofChar c = .other ∧ ∀ b ∈ String.utf8EncodeChar c, ofByte b = .other := by
  by_cases ascii : c.toNat ≤ 0x7f
  · refine .inl ⟨UInt8.ofNat c.toNat, if_pos ascii, ?_⟩
    rw [ofByte, ofChar, UInt8.toNat_ofNat', Nat.mod_eq_of_lt (by omega)]
  · have notAscii : 0x80 ≤ c.toNat := by omega
    exact .inr ⟨ofCode_of_le notAscii,
      fun b member => ofCode_of_le (le_toNat_of_mem_utf8EncodeChar notAscii b member)⟩

theorem reverse_bytes_reverse_cons (c : Char) (field : List Char) :
    (Text.bytes (c :: field).reverse).reverse =
      (String.utf8EncodeChar c).reverse ++ (Text.bytes field.reverse).reverse := by
  simp

/-- The fields that are cut out of the bytes of a text are the bytes of those that are cut out of
    the text. -/
theorem readFrom_bytes (s : List Char) (place : Place) (field : List Char)
    (fields : List (List Char)) :
    readFrom Sign.ofByte place (Text.bytes field.reverse).reverse (fields.map Text.bytes)
        (Text.bytes s) =
      (readFrom Sign.ofChar place field fields s).map (·.map Text.bytes) := by
  induction s generalizing place field fields with
  | nil =>
    rw [Text.bytes_nil, readFrom, readFrom]
    split
    · rfl
    · simp
  | cons c s inductionHypothesis =>
    rw [Text.bytes_cons]
    rcases Sign.utf8EncodeChar_cases c with ⟨b, isByte, sameSign⟩ | ⟨other, others⟩
    · rw [isByte, List.singleton_append, readFrom, readFrom, sameSign]
      cases step place (Sign.ofChar c) with
      | take next =>
        have taken := inductionHypothesis next (c :: field) fields
        rwa [reverse_bytes_reverse_cons, isByte] at taken
      | pass next => exact inductionHypothesis next field fields
      | endField => simpa using inductionHypothesis .field [] (field.reverse :: fields)
      | endRecord => simpa using inductionHypothesis .record [] []
    · rw [readFrom_append_of_other others String.utf8EncodeChar_ne_nil,
        readFrom_cons_of_other other, ← inductionHypothesis, reverse_bytes_reverse_cons]

/-! ## The mark at the beginning -/

def withoutMarkChar : List Char → List Char
  | c :: rest => if c = byteOrderMark then rest else c :: rest
  | [] => []

theorem toByteArray_bytes (s : List Char) : (Text.bytes s).toByteArray = s.utf8Encode := rfl

theorem withoutMark_bytes (s : List Char) :
    withoutMark (Text.bytes s) = Text.bytes (withoutMarkChar s) := by
  rw [withoutMark]
  split
  · next isMarked =>
    -- A text whose bytes begin with those of the mark begins with the mark.
    obtain ⟨behind, isSum⟩ := List.isPrefixOf_iff_prefix.1 isMarked
    have isEncoded : [byteOrderMark].utf8Encode ++ behind.toByteArray = s.utf8Encode := by
      rw [List.utf8Encode_singleton, ← List.toByteArray_append, isSum, toByteArray_bytes]
    obtain ⟨rest, rfl⟩ := List.isPrefix_of_utf8Encode_append_eq_utf8Encode _ isEncoded
    rw [List.singleton_append, Text.bytes_cons, List.drop_left, withoutMarkChar, if_pos rfl]
  · next notMarked =>
    cases s with
    | nil => rfl
    | cons c rest =>
      have notMark : c ≠ byteOrderMark := by
        rintro rfl
        exact notMarked (List.isPrefixOf_iff_prefix.2 ⟨Text.bytes rest, rfl⟩)
      rw [withoutMarkChar, if_neg notMark]

/-! ## Decoding -/

theorem decoded?_bytes (s : List Char) : decoded? (Text.bytes s) = some s := by
  have isText : (String.ofList s).toByteArray = (Text.bytes s).toByteArray := by
    rw [String.toByteArray_ofList, toByteArray_bytes]
  rw [decoded?, ← isText, ← String.toUTF8_eq_toByteArray, Text.fromUTF8?_toUTF8]
  simp

def records (s : List Char) : List (List (List Char)) :=
  readFrom Sign.ofChar .record [] [] (withoutMarkChar s)

theorem mapM_map_of_leftInverse {α β : Type} {f : β → Option α} {g : α → β}
    (inverse : ∀ a, f (g a) = some a) (as : List α) : (as.map g).mapM f = some as := by
  induction as with
  | nil => rfl
  | cons a as inductionHypothesis => simp [inverse, inductionHypothesis]

theorem records?_bytes (s : List Char) : records? (Text.bytes s) = some (records s) := by
  have cut := readFrom_bytes (withoutMarkChar s) .record [] []
  rw [records?, withoutMark_bytes]
  simp only [List.reverse_nil, Text.bytes_nil, List.map_nil] at cut
  rw [cut, records]
  exact mapM_map_of_leftInverse (mapM_map_of_leftInverse decoded?_bytes) _

end Csv

/-! ## Datasets -/

namespace Dataset

def ofCsvChars (s : List Char) : List Row := ofRecords (Csv.records s)

def ofText (format : DataFormat) (text : String) : Except TableError (List Row) :=
  match format with
  | .csv => .ok (ofCsvChars text.toList)
  | .json => ofJsonChars text.toList

theorem toList_toUTF8 (text : String) : text.toUTF8.data.toList = Text.bytes text.toList := by
  rw [String.toUTF8_eq_toByteArray, ← String.utf8Encode_toList, List.utf8Encode,
    List.toList_data_toByteArray, Text.bytes]

theorem ofBytes_toUTF8 (format : DataFormat) (text : String) :
    ofBytes format text.toUTF8 = ofText format text := by
  cases format with
  | csv =>
    rw [ofBytes, toList_toUTF8, Csv.records?_bytes]
    rfl
  | json =>
    rw [ofBytes, Text.fromUTF8?_toUTF8]
    rfl

end Dataset

end TableQuery
