import TableQuery.Csv.Writer
import TableQuery.Proofs.Csv.Decoding

/-! # Reading back what was written

The reader inverts the writer.  What a written field leaves behind is the same whether it
was quoted or not: its characters, and a comma, a line feed or nothing ahead.  From there
fields add up to records and records to the text.
-/

namespace TableQuery.Csv

/-! ## Behind a field -/

/-- Does the text begin with what may stand behind a field? -/
inductive Ends : List Char → Prop where
  | nothing : Ends []
  | comma (rest : List Char) : Ends (',' :: rest)
  | line (rest : List Char) : Ends ('\n' :: rest)

def behindField (value : List Char) (fields : List (List Char)) :
    List Char → List (List (List Char))
  | ',' :: rest => readFrom Sign.ofChar .field [] (value :: fields) rest
  | _ :: rest => (value :: fields).reverse :: readFrom Sign.ofChar .record [] [] rest
  | [] => [(value :: fields).reverse]

variable {rest : List Char}

theorem readFrom_ends (ends : Ends rest) (place : Place)
    (outside : place ≠ .record ∧ place ≠ .quoted) (field : List Char) (fields : List (List Char)) :
    readFrom Sign.ofChar place field fields rest = behindField field.reverse fields rest := by
  cases place with
  | record => exact absurd rfl outside.1
  | quoted => exact absurd rfl outside.2
  | field | bare | afterQuote =>
    cases ends with
    | nothing | comma rest | line rest => rfl

/-! ## One field -/

theorem ofChar_of_plain {c : Char} (plain : needsQuotes c = false) : Sign.ofChar c = .other := by
  simp only [needsQuotes, Bool.or_eq_false_iff, beq_eq_false_iff_ne, ne_eq] at plain
  obtain ⟨⟨⟨noComma, noQuote⟩, noFeed⟩, noReturn⟩ := plain
  simp only [Sign.ofChar, Sign.ofCode, Char.toNat_inj, noComma, noQuote, noFeed, noReturn,
    or_self, if_false]

theorem ofChar_ne_quote {c : Char} (notQuote : c ≠ '"') : Sign.ofChar c ≠ .quote := by
  simp only [Sign.ofChar, Sign.ofCode, Char.toNat_inj, notQuote, if_false]
  split
  · decide
  · split
    · decide
    · decide

theorem step_quoted_of_ne {sign : Sign} (notQuote : sign ≠ .quote) :
    step .quoted sign = .take .quoted := by
  cases sign with
  | quote => exact absurd rfl notQuote
  | comma | lineEnd | other => rfl

/-- Between quotes every character is read as it was, up to the closing quote. -/
theorem readFrom_quoted_append (s : List Char) (field : List Char) (fields : List (List Char)) :
    readFrom Sign.ofChar .quoted field fields (doubleQuotes s ++ '"' :: rest) =
      readFrom Sign.ofChar .afterQuote (s.reverse ++ field) fields rest := by
  induction s generalizing field with
  | nil => rfl
  | cons c s inductionHypothesis =>
    have others := inductionHypothesis (c :: field)
    rw [List.reverse_cons, List.append_assoc, List.singleton_append, ← others]
    -- A quote is written twice and read once; every other character stands for itself.
    by_cases isQuote : c = '"'
    · subst isQuote
      rfl
    · have once : doubleQuotes (c :: s) = c :: doubleQuotes s := by
        simp [doubleQuotes, isQuote]
      rw [once, List.cons_append, readFrom, step_quoted_of_ne (ofChar_ne_quote isQuote)]

theorem renderField_cases (s : List Char) :
    (∀ c ∈ s, needsQuotes c = false) ∧ renderField s = s ∨
      renderField s = '"' :: (doubleQuotes s ++ ['"']) := by
  rw [renderField]
  split
  · exact .inr rfl
  · next plain => exact .inl ⟨by simpa using plain, rfl⟩

theorem readFrom_quoted_field (ends : Ends rest) (s : List Char) (fields : List (List Char)) :
    readFrom Sign.ofChar .quoted [] fields (doubleQuotes s ++ ['"'] ++ rest) =
      behindField s fields rest := by
  rw [List.append_assoc, List.singleton_append, readFrom_quoted_append,
    readFrom_ends ends .afterQuote ⟨nofun, nofun⟩, List.append_nil, List.reverse_reverse]

/-- A field without quotes is read up to its end from wherever it can begin. -/
theorem readFrom_bare_field (ends : Ends rest) (place : Place) (outside : place ≠ .quoted)
    {s : List Char} (nonempty : s ≠ []) (plain : ∀ c ∈ s, needsQuotes c = false)
    (fields : List (List Char)) :
    readFrom Sign.ofChar place [] fields (s ++ rest) = behindField s fields rest := by
  have isBare : place.inside = .bare := by
    cases place with
    | quoted => exact absurd rfl outside
    | record | field | bare | afterQuote => rfl
  have others : ∀ c ∈ s, Sign.ofChar c = .other := fun c member => ofChar_of_plain (plain c member)
  rw [readFrom_append_of_other others nonempty, isBare, readFrom_ends ends .bare ⟨nofun, nofun⟩, List.append_nil, List.reverse_reverse]

theorem readFrom_field_renderField (ends : Ends rest) (s : List Char)
    (fields : List (List Char)) :
    readFrom Sign.ofChar .field [] fields (renderField s ++ rest) = behindField s fields rest := by
  rcases renderField_cases s with ⟨plain, isBare⟩ | isQuoted
  · rw [isBare]
    by_cases isEmpty : s = []
    · subst isEmpty
      exact readFrom_ends ends .field ⟨nofun, nofun⟩ [] fields
    · exact readFrom_bare_field ends .field nofun isEmpty plain fields
  · rw [isQuoted]
    exact readFrom_quoted_field ends s fields

/-- Where a record begins, a written field is read unless it leaves no character. -/
theorem readFrom_record_renderField (ends : Ends rest) {s : List Char}
    (begins : renderField s ≠ [] ∨ ∃ more, rest = ',' :: more) :
    readFrom Sign.ofChar .record [] [] (renderField s ++ rest) = behindField s [] rest := by
  rcases renderField_cases s with ⟨plain, isBare⟩ | isQuoted
  · rw [isBare] at begins ⊢
    by_cases isEmpty : s = []
    · -- An empty text at the beginning of a record is a field only with a comma behind it.
      subst isEmpty
      obtain ⟨more, rfl⟩ := begins.resolve_left fun nonempty => nonempty rfl
      rfl
    · exact readFrom_bare_field ends .record nofun isEmpty plain []
  · rw [isQuoted]
    exact readFrom_quoted_field ends s []

/-! ## Records -/

inductive EndsRecord : List Char → Prop where
  | nothing : EndsRecord []
  | line (rest : List Char) : EndsRecord ('\n' :: rest)

theorem EndsRecord.ends (endsRecord : EndsRecord rest) : Ends rest := by
  cases endsRecord with
  | nothing => exact .nothing
  | line rest => exact .line rest

def behindRecord (record : List (List Char)) : List Char → List (List (List Char))
  | [] => [record]
  | _ :: rest => record :: readFrom Sign.ofChar .record [] [] rest

theorem behindField_eq_behindRecord (endsRecord : EndsRecord rest) (value : List Char)
    (fields : List (List Char)) :
    behindField value fields rest = behindRecord (value :: fields).reverse rest := by
  cases endsRecord with
  | nothing => rfl
  | line rest => rfl

theorem renderFields_cons_cons (f g : List Char) (fields : List (List Char)) :
    renderFields (f :: g :: fields) = renderField f ++ ',' :: renderFields (g :: fields) := rfl

/-- Where a field begins, the written fields up to the end of the record are read. -/
theorem readFrom_field_renderFields (endsRecord : EndsRecord rest) (f : List Char)
    (fields before : List (List Char)) :
    readFrom Sign.ofChar .field [] before (renderFields (f :: fields) ++ rest) =
      behindRecord (before.reverse ++ f :: fields) rest := by
  induction fields generalizing f before with
  | nil =>
    rw [renderFields, readFrom_field_renderField endsRecord.ends,
      behindField_eq_behindRecord endsRecord, List.reverse_cons]
  | cons g fields inductionHypothesis =>
    rw [renderFields_cons_cons, List.append_assoc, List.cons_append,
      readFrom_field_renderField (.comma _), behindField, inductionHypothesis, List.reverse_cons,
      List.append_assoc, List.singleton_append]

theorem readFrom_record_renderRecord (endsRecord : EndsRecord rest) {record : List (List Char)}
    (nonempty : record ≠ []) :
    readFrom Sign.ofChar .record [] [] (renderRecord record ++ rest) = behindRecord record rest := by
  obtain ⟨f, fields, rfl⟩ := List.exists_cons_of_ne_nil nonempty
  cases fields with
  | nil =>
    rw [renderRecord, renderFields]
    by_cases isEmpty : renderField f = []
    · -- A single empty field is written as two quotes.
      have isNil : f = [] := by
        rcases renderField_cases f with ⟨-, isBare⟩ | isQuoted
        · exact isBare.symm.trans isEmpty
        · rw [isQuoted] at isEmpty
          cases isEmpty
      subst isNil
      cases endsRecord with
      | nothing => rfl
      | line rest => rfl
    · rw [if_neg (by simpa using isEmpty),
        readFrom_record_renderField endsRecord.ends (.inl isEmpty),
        behindField_eq_behindRecord endsRecord]
      rfl
  | cons g fields =>
    have notEmpty : (renderFields (f :: g :: fields)).isEmpty = false := by
      rw [renderFields_cons_cons]
      simp
    rw [renderRecord, notEmpty, if_neg Bool.false_ne_true, renderFields_cons_cons,
      List.append_assoc, List.cons_append,
      readFrom_record_renderField (.comma _) (.inr ⟨_, rfl⟩), behindField,
      readFrom_field_renderFields endsRecord]
    rfl

theorem render_cons_cons (r s : List (List Char)) (records : List (List (List Char))) :
    render (r :: s :: records) = renderRecord r ++ '\n' :: render (s :: records) := rfl

theorem readFrom_render {records : List (List (List Char))} (nonempty : ∀ r ∈ records, r ≠ []) :
    readFrom Sign.ofChar .record [] [] (render records) = records := by
  induction records with
  | nil => rfl
  | cons r records inductionHypothesis =>
    have here := nonempty r (by simp)
    have others := inductionHypothesis fun s member => nonempty s (by simp [member])
    cases records with
    | nil =>
      have atEnd := readFrom_record_renderRecord .nothing here
      rwa [List.append_nil] at atEnd
    | cons s records =>
      rw [render_cons_cons, readFrom_record_renderRecord (.line _) here, behindRecord, others]

/-! ## The mark at the beginning -/

theorem head?_renderField {s : List Char} (noMark : s.head? ≠ some byteOrderMark) :
    (renderField s).head? ≠ some byteOrderMark := by
  rcases renderField_cases s with ⟨-, isBare⟩ | isQuoted
  · rwa [isBare]
  · rw [isQuoted]
    simp [byteOrderMark]

theorem head?_append_ne {s : List Char} {c : Char} (headS : s.head? ≠ some c)
    (headRest : rest.head? ≠ some c) : (s ++ rest).head? ≠ some c := by
  cases s with
  | nil => exact headRest
  | cons d s => exact headS

theorem head?_renderRecord {record : List (List Char)}
    (noMark : ∀ f ∈ record.head?, f.head? ≠ some byteOrderMark) :
    (renderRecord record).head? ≠ some byteOrderMark := by
  rw [renderRecord]
  split
  · decide
  · cases record with
    | nil => exact nofun
    | cons f fields =>
      have first := head?_renderField (noMark f rfl)
      cases fields with
      | nil => exact first
      | cons g fields => exact head?_append_ne first (by simp [byteOrderMark])

theorem withoutMarkChar_eq_self {s : List Char} (noMark : s.head? ≠ some byteOrderMark) :
    withoutMarkChar s = s := by
  cases s with
  | nil => rfl
  | cons c s =>
    rw [withoutMarkChar, if_neg]
    rintro rfl
    exact noMark rfl

/-- Records with fields come back from the text in which they are written, if it does not
    begin with a byte order mark. -/
theorem records_render {header : List (List Char)} {rows : List (List (List Char))}
    (nonempty : ∀ r ∈ header :: rows, r ≠ [])
    (noMark : ∀ f ∈ header.head?, f.head? ≠ some byteOrderMark) :
    records (render (header :: rows)) = header :: rows := by
  have noMarkAhead : (render (header :: rows)).head? ≠ some byteOrderMark := by
    have first := head?_renderRecord noMark
    cases rows with
    | nil => exact first
    | cons r rows => exact head?_append_ne first (by simp [byteOrderMark])
  rw [records, withoutMarkChar_eq_self noMarkAhead, readFrom_render nonempty]

end TableQuery.Csv
