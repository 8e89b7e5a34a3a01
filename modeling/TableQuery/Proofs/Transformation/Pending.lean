import Mathlib.Data.List.DropRight
import TableQuery.Transformation

/-! # Changes that are kept for review

The changes that wait for a review are those that came back from the last call whose
transformation asks for one, unless they were dropped since.  A call that fails, wherever it
fails, and a call of a transformation that asks for no review change nothing.
-/

namespace TableQuery.Workshop

def ofTransformations (transformations : List Transformation) : Workshop := ⟨transformations, []⟩

/-- What can be done in a workshop.  Each call has its own transformer, for what stands behind it
    may answer otherwise the next time. -/
inductive Action where
  | transformColumn (by_ : Transformer) (id : String) (rows : List Row) (column : Option String)
  | transformRow (by_ : Transformer) (id : String) (row : Row) (rowIndex : Nat)
  | clear

namespace Action

@[simp] def id? : Action → Option String
  | .transformColumn _ id _ _ => some id
  | .transformRow _ id _ _ => some id
  | .clear => none

@[simp] def isClear : Action → Bool
  | .clear => true
  | _ => false

def returned? (w : Workshop) : Action → Option (Except TransformError (List Change))
  | .transformColumn by_ id rows column => some (w.transformColumn by_ id rows column).1
  | .transformRow by_ id row rowIndex => some (w.transformRow by_ id row rowIndex).1
  | .clear => none

def apply (w : Workshop) : Action → Workshop
  | .transformColumn by_ id rows column => (w.transformColumn by_ id rows column).2
  | .transformRow by_ id row rowIndex => (w.transformRow by_ id row rowIndex).2
  | .clear => w.clearPending

end Action

/-- The workshop after a history, whose first action was the first one. -/
def after (w : Workshop) (history : List Action) : Workshop := history.foldl Action.apply w

/-- An action that was done, with what came back from it. -/
structure Event where
  action : Action
  returned? : Option (Except TransformError (List Change))

def events (w : Workshop) : List Action → List Event
  | [] => []
  | action :: later => ⟨action, action.returned? w⟩ :: events (action.apply w) later

namespace Event

def changes? (event : Event) : Option (List Change) := event.returned?.bind Except.toOption

/-- Is it a call of a transformation that asks for a review? -/
def asksReview (transformations : List Transformation) (event : Event) : Bool :=
  (event.action.id?.bind fun id => transformations.find? (·.id = id)).any (·.preview)

/-- The changes that came back for a review. -/
def forReview? (transformations : List Transformation) (event : Event) : Option (List Change) :=
  if event.asksReview transformations then event.changes? else none

end Event

/-- What happened since the changes that waited were dropped for the last time. -/
def sinceClear (events : List Event) : List Event := events.rtakeWhile (!·.action.isClear)

/-- The changes that wait for a review, told by what happened. -/
def toldPending (transformations : List Transformation) (events : List Event) : List Change :=
  ((sinceClear events).filterMap (Event.forReview? transformations)).getLast?.getD []

/-- Is there nothing to keep from a call?  The transformation is not known, no column is named,
    what stands behind it fails, or no review is asked for. -/
inductive KeepsNothing (w : Workshop) : Action → Prop where
  | unknown {action : Action} {id : String} (called : action.id? = some id)
      (notFound : w.find? id = none) : KeepsNothing w action
  | noColumn {by_ : Transformer} {id : String} {t : Transformation} {rows : List Row}
      (found : w.find? id = some t) (noTarget : t.targetColumn = none) :
      KeepsNothing w (.transformColumn by_ id rows none)
  | columnFails {by_ : Transformer} {id key : String} {t : Transformation} {rows : List Row}
      {column : Option String} {why : TransformError} (found : w.find? id = some t)
      (named : column.or t.targetColumn = some key)
      (fails : by_.mapValues t key (distinct (rows.map (·.cell key))) = .error why) :
      KeepsNothing w (.transformColumn by_ id rows column)
  | rowFails {by_ : Transformer} {id : String} {t : Transformation} {row : Row} {rowIndex : Nat}
      {why : TransformError} (found : w.find? id = some t)
      (fails : by_.reviseRow (Template.fill row t.template) t row = .error why) :
      KeepsNothing w (.transformRow by_ id row rowIndex)
  | noReview {action : Action} {id : String} {t : Transformation} (called : action.id? = some id)
      (found : w.find? id = some t) (notAsked : t.preview = false) : KeepsNothing w action

/-! ## One call -/

def answered (w : Workshop) (id : String) (answer : Except TransformError (List Change)) :
    Workshop :=
  match w.find? id with
  | none => w
  | some t =>
    match answer with
    | .error _ => w
    | .ok changes => w.keep t changes

variable {w : Workshop} {by_ : Transformer} {id : String} {action : Action}

theorem transformColumn_snd (rows : List Row) (column : Option String) :
    (w.transformColumn by_ id rows column).2 =
      w.answered id (w.transformColumn by_ id rows column).1 := by
  unfold transformColumn answered
  cases w.find? id with
  | none => rfl
  | some t =>
    simp only
    cases column <|> t.targetColumn with
    | none => rfl
    | some key =>
      simp only
      cases by_.mapValues t key (distinct (rows.map (·.cell key))) <;> rfl

theorem transformRow_snd (row : Row) (rowIndex : Nat) :
    (w.transformRow by_ id row rowIndex).2 =
      w.answered id (w.transformRow by_ id row rowIndex).1 := by
  unfold transformRow answered
  cases w.find? id with
  | none => rfl
  | some t =>
    simp only
    cases by_.reviseRow (Template.fill row t.template) t row <;> rfl

theorem exists_answer (w : Workshop) (called : action.id? = some id) :
    ∃ answer, action.returned? w = some answer ∧ action.apply w = w.answered id answer := by
  cases action with
  | transformColumn by_ id' rows column =>
    cases called
    exact ⟨_, rfl, transformColumn_snd rows column⟩
  | transformRow by_ id' row rowIndex =>
    cases called
    exact ⟨_, rfl, transformRow_snd row rowIndex⟩
  | clear => cases called

theorem pending_answered (w : Workshop) (id : String)
    (answer : Except TransformError (List Change)) : (w.answered id answer).pending =
      if (w.find? id).any (·.preview) then answer.toOption.getD w.pending else w.pending := by
  unfold answered
  cases w.find? id with
  | none => rfl
  | some t =>
    cases answer with
    | error why => simp [Except.toOption]
    | ok changes => cases isAsked : t.preview <;> simp [keep, isAsked, Except.toOption]

theorem transformations_answered (w : Workshop) (id : String)
    (answer : Except TransformError (List Change)) :
    (w.answered id answer).transformations = w.transformations := by
  unfold answered
  cases w.find? id with
  | none => rfl
  | some t =>
    cases answer with
    | error why => rfl
    | ok changes => cases isAsked : t.preview <;> simp [keep, isAsked]

theorem Action.call_or_clear (action : Action) :
    (∃ id, action.id? = some id ∧ action.isClear = false) ∨ action = .clear := by
  cases action with
  | transformColumn by_ id rows column => exact .inl ⟨id, rfl, rfl⟩
  | transformRow by_ id row rowIndex => exact .inl ⟨id, rfl, rfl⟩
  | clear => exact .inr rfl

theorem transformations_apply (w : Workshop) (action : Action) :
    (action.apply w).transformations = w.transformations := by
  rcases action.call_or_clear with ⟨id, called, -⟩ | rfl
  · obtain ⟨answer, -, isAnswered⟩ := exists_answer w called
    rw [isAnswered, transformations_answered]
  · rfl

theorem pending_apply (w : Workshop) (action : Action) : (action.apply w).pending =
    if action.isClear then []
    else (Event.forReview? w.transformations ⟨action, action.returned? w⟩).getD w.pending := by
  rcases action.call_or_clear with ⟨id, called, notClear⟩ | rfl
  · obtain ⟨answer, returned, isAnswered⟩ := exists_answer w called
    have asksReview : Event.asksReview w.transformations ⟨action, action.returned? w⟩ =
        (w.find? id).any (·.preview) := by
      rw [Event.asksReview, called]
      rfl
    rw [isAnswered, pending_answered, notClear, if_neg Bool.false_ne_true, Event.forReview?,
      asksReview, Event.changes?, returned]
    split <;> rfl
  · rfl

theorem KeepsNothing.apply_eq (keepsNothing : KeepsNothing w action) : action.apply w = w := by
  cases keepsNothing with
  | unknown called notFound =>
    obtain ⟨answer, -, isAnswered⟩ := exists_answer w called
    rw [isAnswered]
    simp [answered, notFound]
  | noColumn found noTarget => simp [Action.apply, transformColumn, found, noTarget]
  | columnFails found named fails => simp [Action.apply, transformColumn, found, named, fails]
  | rowFails found fails => simp [Action.apply, transformRow, found, fails]
  | noReview called found notAsked =>
    obtain ⟨answer, -, isAnswered⟩ := exists_answer w called
    rw [isAnswered]
    cases answer <;> simp [answered, found, keep, notAsked]

/-! ## A history -/

theorem events_concat (w : Workshop) (history : List Action) (action : Action) :
    w.events (history ++ [action]) =
      w.events history ++ [⟨action, action.returned? (w.after history)⟩] := by
  induction history generalizing w with
  | nil => rfl
  | cons first later inductionHypothesis =>
    rw [List.cons_append, events, inductionHypothesis]
    rfl

theorem after_concat (w : Workshop) (history : List Action) (action : Action) :
    w.after (history ++ [action]) = action.apply (w.after history) := by
  rw [after, List.foldl_append]
  rfl

theorem transformations_after (w : Workshop) (history : List Action) :
    (w.after history).transformations = w.transformations := by
  induction history using List.reverseRecOn with
  | nil => rfl
  | append_singleton history action inductionHypothesis =>
    rw [after_concat, transformations_apply, inductionHypothesis]

theorem sinceClear_concat (events : List Event) (event : Event) : sinceClear (events ++ [event]) =
    if event.action.isClear then [] else sinceClear events ++ [event] := by
  rw [sinceClear, List.rtakeWhile_concat]
  cases event.action.isClear <;> rfl

theorem toldPending_concat (transformations : List Transformation) (events : List Event)
    (event : Event) : toldPending transformations (events ++ [event]) =
      if event.action.isClear then []
      else (event.forReview? transformations).getD (toldPending transformations events) := by
  rw [toldPending, sinceClear_concat]
  cases event.action.isClear with
  | false =>
    cases isKept : event.forReview? transformations <;> simp [toldPending, isKept]
  | true => rfl

theorem pending_eq_told (transformations : List Transformation) (history : List Action) :
    ((ofTransformations transformations).after history).pending =
      toldPending transformations ((ofTransformations transformations).events history) := by
  -- From the end, for the last action decides whether what waited before it still waits.
  induction history using List.reverseRecOn with
  | nil => rfl
  | append_singleton history action inductionHypothesis =>
    rw [after_concat, pending_apply, events_concat, toldPending_concat, ← inductionHypothesis,
      transformations_after]
    rfl

/-- Whatever is done in whatever order, the changes that wait for a review are those that came back
    from the last call for one since the last time they were dropped, and a call from which there
    is nothing to keep leaves the workshop as it was. -/
theorem after_keepsLastReview (transformations : List Transformation) (history : List Action) :
    ((ofTransformations transformations).after history).pending =
        toldPending transformations ((ofTransformations transformations).events history) ∧
      ((ofTransformations transformations).after history).transformations = transformations ∧
      ∀ action, KeepsNothing ((ofTransformations transformations).after history) action →
        action.apply ((ofTransformations transformations).after history) =
          (ofTransformations transformations).after history :=
  ⟨pending_eq_told transformations history, transformations_after _ history,
    fun _ keepsNothing => keepsNothing.apply_eq⟩

/-- The changes of the first call wait for a review; no later call came back with others. -/
theorem after_keepsLastReview_categorize :
    let categorize : Transformation := ⟨"categorize", "Categorize", .column, some "city", "", true⟩
    let tidy : Transformation := ⟨"tidy", "Tidy up", .column, none, "", false⟩
    let rome : Row := ⟨[("city", .text "Rome")], by decide⟩
    let history : List Action :=
      [.transformColumn .offline "categorize" [rome] none,
        .transformColumn .offline "classify" [rome] (some "city"),
        .transformColumn .offline "tidy" [rome] (some "city"), .transformRow .offline "tidy" rome 0]
    let w := (ofTransformations [categorize, tidy]).after history
    w.pending = [⟨0, "city", .text "Rome", .text "Category A"⟩] ∧
      w.pending = toldPending [categorize, tidy]
        ((ofTransformations [categorize, tidy]).events history) ∧
      KeepsNothing w (.transformColumn .offline "tidy" [rome] none) ∧
      Action.apply w (.transformColumn .offline "tidy" [rome] none) = w := by
  refine ⟨rfl, (after_keepsLastReview _ _).1, ?noColumn,
    (after_keepsLastReview _ _).2.2 _ ?noColumn⟩
  exact .noColumn (t := ⟨"tidy", "Tidy up", .column, none, "", false⟩) rfl rfl

end TableQuery.Workshop
