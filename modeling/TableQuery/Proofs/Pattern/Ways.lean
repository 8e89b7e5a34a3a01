import TableQuery.Pattern.Search

/-! # All ways in which a pattern takes a piece

From a place of a text a pattern can take pieces in several ways, and it prefers some to
others.  `ways` lists them, the preferred first.  A run of the pattern tries them in this
order, so the first match of a text is the first way at the first place that has one.
-/

namespace TableQuery.Pattern

abbrev Way := Place × Pieces

def waysTimes (step : Place → Pieces → List Way) : Nat → Place → Pieces → List Way
  | 0, at_, ps => [(at_, ps)]
  | n + 1, at_, ps => (step at_ ps).flatMap fun way => waysTimes step n way.1 way.2

/-- The ways to take at most so many pieces in a row, each of which moves on. -/
def waysUpTo (step : Place → Pieces → List Way) (greedy : Bool) :
    Nat → Place → Pieces → List Way
  | 0, at_, ps => [(at_, ps)]
  | n + 1, at_, ps =>
    let further := (step at_ ps).flatMap fun way =>
      if way.1.after.length < at_.after.length then waysUpTo step greedy n way.1 way.2 else []
    if greedy then further ++ [(at_, ps)] else (at_, ps) :: further

/-- The greatest number of further pieces that a repetition can take at a place. -/
def furtherBound (least : Nat) (most : Option Nat) (at_ : Place) : Nat :=
  match most with
  | some m => m - least
  | none => at_.after.length

/-- The ways in which a pattern takes a piece from a place on, the preferred first. -/
def ways : Pattern → Place → Pieces → List Way
  | .empty, at_, ps => [(at_, ps)]
  | .one set, ⟨before, after⟩, ps =>
    match after with
    | [] => []
    | c :: rest => if set.contains c then [(⟨c :: before, rest⟩, ps)] else []
  | .edge b, at_, ps => if b.holds at_.before.head? at_.after.head? then [(at_, ps)] else []
  | .seq p q, at_, ps => (ways p at_ ps).flatMap fun way => ways q way.1 way.2
  | .alt p q, at_, ps => ways p at_ ps ++ ways q at_ ps
  | .rep least most greedy p, at_, ps =>
    (waysTimes (ways p) least at_ ps).flatMap fun way =>
      waysUpTo (ways p) greedy (furtherBound least most at_) way.1 way.2
  | .group number p, at_, ps =>
    (ways p at_ ps).map fun way => (way.1, ⟨number, at_.index, way.1.since at_⟩ :: way.2)

/-! ## A run tries the ways in order -/

theorem findSome?_flatMap {α β γ : Type} (items : List α) (parts : α → List β)
    (test : β → Option γ) :
    (items.flatMap parts).findSome? test = items.findSome? fun a => (parts a).findSome? test := by
  induction items with
  | nil => rfl
  | cons first rest inductionHypothesis =>
    rw [List.flatMap_cons, List.findSome?_append, inductionHypothesis, List.findSome?_cons]
    cases (parts first).findSome? test <;> rfl

section

variable {β : Type} {step : Place → Pieces → Rest β → Option β}
  {stepWays : Place → Pieces → List Way}

/-- Does a step of a run try these ways in order? -/
def Tries (step : Place → Pieces → Rest β → Option β) (stepWays : Place → Pieces → List Way) :
    Prop :=
  ∀ at_ ps k, step at_ ps k = (stepWays at_ ps).findSome? fun way => k way.1 way.2

theorem Tries.runTimes (tries : Tries step stepWays) (n : Nat) :
    Tries (runTimes step n) (waysTimes stepWays n) := by
  induction n with
  | zero =>
    intro at_ ps k
    simp [Pattern.runTimes, waysTimes, List.findSome?_cons]
    cases k at_ ps <;> rfl
  | succ n inductionHypothesis =>
    intro at_ ps k
    rw [Pattern.runTimes, tries, waysTimes, findSome?_flatMap]
    congr 1
    funext way
    exact inductionHypothesis _ _ _

theorem Tries.runUpTo (tries : Tries step stepWays) (greedy : Bool) (n : Nat) :
    Tries (runUpTo step greedy n) (waysUpTo stepWays greedy n) := by
  induction n with
  | zero =>
    intro at_ ps k
    simp [Pattern.runUpTo, waysUpTo, List.findSome?_cons]
    cases k at_ ps <;> rfl
  | succ n inductionHypothesis =>
    intro at_ ps k
    -- Both the run and the ways drop a piece that does not move on.
    have further : (step at_ ps fun next ps =>
          if next.after.length < at_.after.length then Pattern.runUpTo step greedy n next ps k
          else none) =
        ((stepWays at_ ps).flatMap fun way =>
          if way.1.after.length < at_.after.length then
            waysUpTo stepWays greedy n way.1 way.2 else []).findSome?
          fun way => k way.1 way.2 := by
      rw [tries, findSome?_flatMap]
      congr 1
      funext way
      split
      · exact inductionHypothesis _ _ _
      · rfl
    simp only [Pattern.runUpTo, waysUpTo, further]
    -- Only the order of going on and stopping depends on the greed.
    cases greedy with
    | true =>
      simp only [if_true, List.findSome?_append, List.findSome?_cons, List.findSome?_nil]
      cases List.findSome? _ _ with
      | some r => rfl
      | none => cases k at_ ps <;> rfl
    | false =>
      simp only [Bool.false_eq_true, if_false, List.findSome?_cons]
      cases k at_ ps <;> rfl

end

theorem tries_ways {β : Type} (p : Pattern) : Tries (β := β) (run p) (ways p) := by
  induction p with
  | empty =>
    intro at_ ps k
    simp only [run, ways, List.findSome?_cons, List.findSome?_nil]
    cases k at_ ps <;> rfl
  | one set =>
    rintro ⟨before, after⟩ ps k
    cases after with
    | nil => rfl
    | cons c rest =>
      simp only [run, ways]
      split
      · simp only [List.findSome?_cons, List.findSome?_nil]
        cases k ⟨c :: before, rest⟩ ps <;> rfl
      · rfl
  | edge b =>
    intro at_ ps k
    simp only [run, ways]
    split
    · simp only [List.findSome?_cons, List.findSome?_nil]
      cases k at_ ps <;> rfl
    · rfl
  | seq p q firstTries secondTries =>
    intro at_ ps k
    rw [run, firstTries, ways, findSome?_flatMap]
    congr 1
    funext way
    exact secondTries _ _ _
  | alt p q leftTries rightTries =>
    intro at_ ps k
    rw [run, leftTries, rightTries, ways, List.findSome?_append]
    cases List.findSome? _ (ways p at_ ps) <;> rfl
  | rep least most greedy p pieceTries =>
    intro at_ ps k
    have unfolded : run (.rep least most greedy p) at_ ps k =
        runTimes (run p) least at_ ps fun next ps =>
          runUpTo (run p) greedy (furtherBound least most at_) next ps k := by
      cases most <;> rfl
    rw [unfolded, ways, findSome?_flatMap, Tries.runTimes pieceTries least]
    congr 1
    funext way
    exact Tries.runUpTo pieceTries greedy _ _ _ _
  | group number p pieceTries =>
    intro at_ ps k
    rw [run, pieceTries, ways, List.findSome?_map]
    rfl

/-! ## Matches -/

/-- The match that a way makes from a place on. -/
def Found.ofWay (start : Place) (way : Way) : Found :=
  ⟨start.index, way.1.since start, way.1.after, way.2⟩

theorem matchAt?_eq (p : Pattern) (start : Place) :
    matchAt? p start = (ways p start []).head?.map (Found.ofWay start) := by
  rw [matchAt?, tries_ways]
  cases ways p start [] <;> rfl

theorem mem_allFrom {before s : List Char} {place : Place} :
    place ∈ Place.allFrom before s ↔
      ∃ pre, s = pre ++ place.after ∧ place.before = pre.reverse ++ before := by
  induction s generalizing before with
  | nil =>
    simp only [Place.allFrom, List.mem_singleton]
    constructor
    · rintro rfl
      exact ⟨[], rfl, rfl⟩
    · rintro ⟨pre, cut, prior⟩
      obtain ⟨rfl, afterNil⟩ := List.append_eq_nil_iff.1 cut.symm
      obtain ⟨b, a⟩ := place
      exact Place.mk.injEq .. ▸ ⟨prior, afterNil⟩
  | cons c rest inductionHypothesis =>
    simp only [Place.allFrom, List.mem_cons, inductionHypothesis]
    constructor
    · rintro (rfl | ⟨pre, cut, prior⟩)
      · exact ⟨[], rfl, rfl⟩
      · exact ⟨c :: pre, by rw [cut]; rfl, by simp [prior]⟩
    · rintro ⟨pre, cut, prior⟩
      cases pre with
      | nil =>
        obtain ⟨b, a⟩ := place
        exact .inl (Place.mk.injEq .. ▸ ⟨prior, cut.symm⟩)
      | cons d pre =>
        simp only [List.cons_append, List.cons.injEq] at cut
        obtain ⟨rfl, cut⟩ := cut
        exact .inr ⟨pre, cut, by simpa using prior⟩

theorem find?_eq_none {p : Pattern} {s : List Char}
    (never : ∀ place : Place, (∃ pre, s = pre ++ place.after) → ways p place [] = []) :
    find? p s = none := by
  rw [find?, List.findSome?_eq_none_iff]
  intro place member
  obtain ⟨pre, cut, -⟩ := mem_allFrom.1 member
  rw [matchAt?_eq, never place ⟨pre, cut⟩]
  rfl

theorem exists_way_of_find? {p : Pattern} {s : List Char} {found : Found}
    (isFound : find? p s = some found) :
    ∃ (place : Place) (way : Way), (∃ pre, s = pre ++ place.after ∧ place.before = pre.reverse) ∧
      (ways p place []).head? = some way ∧ found = Found.ofWay place way := by
  obtain ⟨place, member, matched⟩ := List.exists_of_findSome?_eq_some isFound
  obtain ⟨pre, cut, prior⟩ := mem_allFrom.1 member
  rw [matchAt?_eq, Option.map_eq_some_iff] at matched
  obtain ⟨way, first, made⟩ := matched
  exact ⟨place, way, ⟨pre, cut, by simpa using prior⟩, first, made.symm⟩

theorem isSome_find? {p : Pattern} {pre post : List Char}
    (able : ways p ⟨pre.reverse, post⟩ [] ≠ []) : (find? p (pre ++ post)).isSome = true := by
  rw [find?, List.findSome?_isSome_iff]
  refine ⟨⟨pre.reverse, post⟩, mem_allFrom.2 ⟨pre, rfl, by simp⟩, ?_⟩
  rw [matchAt?_eq]
  cases able' : ways p ⟨pre.reverse, post⟩ [] with
  | nil => exact absurd able' able
  | cons way rest => rfl

end TableQuery.Pattern
