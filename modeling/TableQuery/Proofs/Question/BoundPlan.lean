import TableQuery.Proofs.Question.BoundCondition
import TableQuery.Proofs.Schema.Columns

/-! # The plan of a query of bounds

Bounds that are written out and joined by `and` are understood as just these bounds, in the
order of their columns, all of which must hold; joined by `or`, one of them must hold.
-/

namespace TableQuery.Question

variable {joiner : List Char} {bounds : List Bound}

/-! ## The joining word -/

theorem occursIn_or_eq_false (writable : Writable bounds) :
    Text.occursIn [' ', 'o', 'r', ' '] (boundQuery ['a', 'n', 'd'] bounds) = false := by
  rw [Bool.eq_false_iff]
  intro occurs
  obtain ⟨before, after, cut⟩ := Text.occursIn_iff.1 occurs
  have cut' : boundQuery ['a', 'n', 'd'] bounds =
      (before ++ [' ']) ++ (['o', 'r'] ++ ' ' :: after) := by
    rw [← cut]
    simp
  obtain ⟨left, right, rest, ending, isRight, at_⟩ :=
    atWord_of_letters writable cut' (by simp) (by decide)
  have letters := at_.letters (.inl rfl) writable
  -- The `or` fills a whole word: spaces stand around it, and the word has none.
  have noLeft : left = [] := by
    rcases List.eq_nil_or_concat left with isNil | ⟨stem, c, rfl⟩
    · exact isNil
    · obtain ⟨start, isEnd⟩ := ending
      rw [List.concat_eq_append, ← List.append_assoc] at isEnd
      have isSpace : c = ' ' := by simpa using (List.append_inj' isEnd rfl).2
      exact absurd (letters c (by simp)) (by rw [isSpace]; decide)
  have noRight : right = [] := by
    cases right with
    | nil => rfl
    | cons c right =>
      simp only [List.cons_append, List.cons.injEq] at isRight
      exact absurd (letters c (by simp)) (by rw [← isRight.1]; decide)
  subst noLeft noRight
  generalize isWord : [] ++ (['o', 'r'] ++ []) = word at at_
  cases at_ with
  | joiner member => cases isWord
  | @key b member tail ends =>
    refine (writable.plain b member).ne_or (String.toList_inj.1 ?_)
    rw [← isWord]
    rfl

theorem occursIn_or_eq_true (several : 2 ≤ bounds.length) :
    Text.occursIn [' ', 'o', 'r', ' '] (boundQuery ['o', 'r'] bounds) = true := by
  rw [Text.occursIn_iff]
  match bounds, several with
  | b :: c :: rest, _ =>
    rw [boundQuery_cons_cons]
    exact ⟨b.written, boundQuery ['o', 'r'] (c :: rest), by simp⟩

/-! ## The order of the conditions -/

def boundsByColumn (schema : Schema) (bounds : List Bound) : List Bound :=
  schema.columns.filterMap fun column => bounds.find? (·.key = column.key)

theorem boundsByColumn_perm {schema : Schema} (keysDistinct : (schema.columns.map (·.key)).Nodup)
    (distinct : (bounds.map (·.key)).Nodup)
    (onColumns : ∀ b ∈ bounds, ∃ column ∈ schema.columns, column.key = b.key) :
    (boundsByColumn schema bounds).Perm bounds := by
  have byKey : boundsByColumn schema bounds =
      (schema.columns.map (·.key)).filterMap fun key => bounds.find? (·.key = key) := by
    rw [List.filterMap_map]
    rfl
  have nodup : (boundsByColumn schema bounds).Nodup := by
    rw [byKey]
    refine keysDistinct.filterMap fun key key' b found found' => ?_
    have isKey : b.key = key := by simpa using List.find?_some found
    have isKey' : b.key = key' := by simpa using List.find?_some found'
    rw [← isKey, isKey']
  rw [List.perm_ext_iff_of_nodup nodup (List.Nodup.of_map _ distinct)]
  intro b
  rw [boundsByColumn, List.mem_filterMap]
  constructor
  · rintro ⟨column, -, found⟩
    exact List.mem_of_find?_eq_some found
  · intro member
    obtain ⟨column, inColumns, isKey⟩ := onColumns b member
    refine ⟨column, inColumns, ?_⟩
    rw [isKey]
    exact find?_key_eq_some distinct member

/-! ## The plan -/

def boundText (joiner : String) (bounds : List Bound) : String :=
  String.ofList (boundQuery joiner.toList bounds)

def planOfBounds (query : String) (bounds : List Bound) (junction : Junction) : Plan where
  query := query
  filter := some ⟨bounds.map Bound.condition, junction⟩
  sort := none
  limit := none
  explanation := String.intercalate ", " (bounds.map Bound.phrase)

/-- Do the rows have plain keys of which none is the end of another? -/
structure HasPlainKeys (rows : List Row) : Prop where
  plain : ∀ row ∈ rows, ∀ key ∈ row.keys, IsPlainKey key
  suffixFree : ∀ row ∈ rows, ∀ key ∈ row.keys, ∀ other ∈ row.keys,
    key.toList <:+ other.toList → key = other

section

variable {rows : List Row} {sampleSize : Nat} {schema : Schema}
  (built : Schema.build rows none sampleSize = .ok schema) (plainKeys : HasPlainKeys rows)
  (wellFormed : ∀ b ∈ bounds, b.WellFormed) (distinct : (bounds.map (·.key)).Nodup)
  (onColumns : ∀ b ∈ bounds, ∃ column ∈ schema.columns, column.key = b.key)

include built plainKeys wellFormed distinct onColumns

omit distinct in
theorem writable_of_onColumns : Writable bounds := by
  refine ⟨fun b member => ?_, wellFormed⟩
  obtain ⟨column, inColumns, isKey⟩ := onColumns b member
  obtain ⟨first, isFirst, inFirst, -⟩ := Schema.column_of_build built inColumns
  exact isKey ▸ plainKeys.plain first (List.mem_of_mem_head? isFirst) _ inFirst

/-- The conditions that the clauses for columns find are the bounds in the order of the
    columns. -/
theorem filterMap_columnCondition? (isJoiner : IsJoiner joiner) :
    schema.columns.filterMap (columnCondition? (boundQuery joiner bounds)) =
      (boundsByColumn schema bounds).map Bound.explained := by
  have writable := writable_of_onColumns built plainKeys wellFormed onColumns
  rw [boundsByColumn, List.map_filterMap]
  refine List.filterMap_congr fun column inColumns => ?_
  obtain ⟨first, isFirst, inFirst, label⟩ := Schema.column_of_build built inColumns
  have inRows : first ∈ rows := List.mem_of_mem_head? isFirst
  refine columnCondition?_boundQuery isJoiner writable distinct
    (plainKeys.plain first inRows _ inFirst) label fun b member suffix => ?_
  obtain ⟨other, otherInColumns, isKey⟩ := onColumns b member
  obtain ⟨first', isFirst', inFirst', -⟩ := Schema.column_of_build built otherInColumns
  obtain rfl := Option.some.inj (isFirst.symm.trans isFirst')
  rw [← isKey] at suffix ⊢
  exact plainKeys.suffixFree first inRows _ inFirst _ inFirst' suffix

theorem plan_eq_planOfBounds (nonempty : bounds ≠ []) (word : String)
    (isJoiner : IsJoiner word.toList) :
    plan schema (boundText word bounds) =
      planOfBounds (boundText word bounds) (boundsByColumn schema bounds)
        (if 1 < bounds.length &&
            Text.occursIn [' ', 'o', 'r', ' '] (boundQuery word.toList bounds)
          then .any else .all) := by
  have writable := writable_of_onColumns built plainKeys wellFormed onColumns
  have found := filterMap_columnCondition? built plainKeys wellFormed distinct onColumns isJoiner
  have reordered := boundsByColumn_perm (Schema.nodup_keys_of_build built) distinct onColumns
  have length_eq := reordered.length_eq
  obtain ⟨b, rest, isCons⟩ : ∃ b rest, boundsByColumn schema bounds = b :: rest := by
    refine List.exists_cons_of_ne_nil fun isNil => nonempty ?_
    rw [isNil] at reordered
    exact reordered.symm.eq_nil
  rw [isCons] at found length_eq
  have isSource : ∀ spans, sourceOf schema (boundQuery word.toList bounds) spans =
      .clauses ((b :: rest).map Bound.explained) := by
    intro spans
    rw [sourceOf, found]
    rfl
  have noSort : sortOf? schema (boundQuery word.toList bounds) = none := by
    rw [sortOf?, find?_sortClause_eq_none isJoiner writable]
  have noLimit : limitOf? (boundQuery word.toList bounds) = none := by
    rw [limitOf?, find?_limitClause_eq_none isJoiner writable, Option.map_none]
  rw [plan, boundText, String.toList_ofList, lower_boundQuery isJoiner writable, noSort, noLimit,
    isSource, isCons, planOfBounds, ← length_eq]
  simp [Source.conditions, Source.phrases, Source.junction, Bound.explained, Function.comp_def]

end

/-- Bounds on columns with plain keys come back from the text in which they are written out:
    joined by `and` they must all hold, joined by `or` one of several must hold. -/
theorem plan_boundText {rows : List Row} {sampleSize : Nat} {schema : Schema}
    (built : Schema.build rows none sampleSize = .ok schema) (plainKeys : HasPlainKeys rows)
    {bounds : List Bound} (nonempty : bounds ≠ []) (wellFormed : ∀ b ∈ bounds, b.WellFormed)
    (distinct : (bounds.map (·.key)).Nodup)
    (onColumns : ∀ b ∈ bounds, ∃ column ∈ schema.columns, column.key = b.key) :
    (boundsByColumn schema bounds).Perm bounds ∧
      plan schema (boundText "and" bounds) =
        planOfBounds (boundText "and" bounds) (boundsByColumn schema bounds) .all ∧
      (2 ≤ bounds.length → plan schema (boundText "or" bounds) =
        planOfBounds (boundText "or" bounds) (boundsByColumn schema bounds) .any) := by
  have writable := writable_of_onColumns built plainKeys wellFormed onColumns
  refine ⟨boundsByColumn_perm (Schema.nodup_keys_of_build built) distinct onColumns, ?_, ?_⟩
  · have isPlan := plan_eq_planOfBounds built plainKeys wellFormed distinct onColumns nonempty
      "and" (.inl rfl)
    have noOr : Text.occursIn [' ', 'o', 'r', ' '] (boundQuery "and".toList bounds) = false :=
      occursIn_or_eq_false writable
    rw [isPlan, noOr, Bool.and_false]
    rfl
  · intro several
    have isPlan := plan_eq_planOfBounds built plainKeys wellFormed distinct onColumns nonempty
      "or" (.inr rfl)
    have bareOr : Text.occursIn [' ', 'o', 'r', ' '] (boundQuery "or".toList bounds) = true :=
      occursIn_or_eq_true several
    have isSeveral : decide (1 < bounds.length) = true := decide_eq_true several
    rw [isPlan, bareOr, isSeveral]
    rfl

/-- The bound on the first column is written last. -/
theorem plan_boundText_total_and_at :
    ∃ schema, Schema.build [Row.ofList [("total", .number 1), ("at", .null)]] none 5 = .ok schema ∧
      plan schema "at <= 7 and total > 12.5" =
        planOfBounds "at <= 7 and total > 12.5"
          [⟨"total", .above, ['1', '2'], some ['5']⟩, ⟨"at", .atMost, ['7'], none⟩] .all := by
  have plainKeys : HasPlainKeys [Row.ofList [("total", .number 1), ("at", .null)]] := by
    have isKeys : (Row.ofList [("total", .number 1), ("at", .null)]).keys = ["total", "at"] := rfl
    constructor
    · simp only [List.mem_singleton, forall_eq, isKeys, List.forall_mem_cons]
      exact ⟨⟨by decide, by decide, by decide⟩, ⟨by decide, by decide, by decide⟩⟩
    · simp only [List.mem_singleton, forall_eq, isKeys]
      decide
  have wellFormed : ∀ b ∈ [⟨"at", .atMost, ['7'], none⟩, ⟨"total", .above, ['1', '2'], some ['5']⟩],
      Bound.WellFormed b := by
    simp only [List.forall_mem_cons]
    exact ⟨⟨by decide, by decide, by decide, by decide⟩,
      ⟨by decide, by decide, by decide, by simp⟩, by simp⟩
  exact ⟨_, rfl, (plan_boundText rfl plainKeys (List.cons_ne_nil _ _) wellFormed (by decide)
    (by decide)).2.1⟩

end TableQuery.Question
