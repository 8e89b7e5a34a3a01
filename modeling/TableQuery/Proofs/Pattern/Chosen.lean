import TableQuery.Proofs.Pattern.Gives

/-! # What a preferred way tells

The preferred way of a sequence goes on from one of the ways of its first part, and it is the
preferred one from there.  A lazy repetition in front of another pattern stops where that pattern
can go on for the first time, and patterns without groups remember nothing.
-/

namespace TableQuery.Pattern

/-! ## Sequences -/

section

variable {p q : Pattern} {place : Place} {ps : Pieces} {way : Way}

theorem exists_of_head?_flatMap {α β : Type} {items : List α} {parts : α → List β} {b : β}
    (first : (items.flatMap parts).head? = some b) :
    ∃ a ∈ items, (parts a).head? = some b := by
  rw [List.head?_flatMap] at first
  exact List.exists_of_findSome?_eq_some first

theorem exists_prefers_of_seq (prefers : Prefers (.seq p q) place ps way) :
    ∃ mid ∈ ways p place ps, Prefers q mid.1 mid.2 way :=
  exists_of_head?_flatMap prefers

theorem ways_sequence_cons (parts : List Pattern) : ways (sequence (p :: parts)) place ps =
    (ways p place ps).flatMap fun mid => ways (sequence parts) mid.1 mid.2 := by
  cases parts with
  | nil => exact (List.flatMap_singleton' _).symm
  | cons q parts => rfl

/-- The last part of a sequence goes on from one of the ways of the parts before it. -/
theorem exists_prefers_of_sequence_concat {lead : List Pattern}
    (prefers : Prefers (sequence (lead ++ [p])) place ps way) :
    ∃ mid ∈ ways (sequence lead) place ps, Prefers p mid.1 mid.2 way := by
  induction lead generalizing place ps with
  | nil => exact ⟨(place, ps), List.mem_singleton.2 rfl, prefers⟩
  | cons q lead inductionHypothesis =>
    rw [Prefers, List.cons_append, ways_sequence_cons] at prefers
    obtain ⟨first, firstMember, others⟩ := exists_of_head?_flatMap prefers
    obtain ⟨mid, member, last⟩ := inductionHypothesis others
    refine ⟨mid, ?_, last⟩
    rw [ways_sequence_cons, List.mem_flatMap]
    exact ⟨first, firstMember, member⟩

end

/-! ## Lazy repetitions -/

section

variable {set : CharSet} {before s : List Char} {ps : Pieces} {way : Way}

/-- A lazy repetition has passed over the places where what comes next could not go on. -/
theorem exists_of_head?_waysUpTo_lazy {next : Way → List Way} {n : Nat}
    (first : ((waysUpTo (ways (.one set)) false n ⟨before, s⟩ ps).flatMap next).head? = some way) :
    ∃ taken tail, s = taken ++ tail ∧ (∀ c ∈ taken, set.contains c = true) ∧
      (∀ left c right, taken = left ++ c :: right →
        next (⟨left.reverse ++ before, c :: (right ++ tail)⟩, ps) = []) ∧
      (next (⟨taken.reverse ++ before, tail⟩, ps)).head? = some way := by
  induction n generalizing before s with
  | zero =>
    rw [waysUpTo, List.flatMap_singleton] at first
    exact ⟨[], s, rfl, by simp, by simp, first⟩
  | succ n inductionHypothesis =>
    simp only [waysUpTo, Bool.false_eq_true, if_false, List.flatMap_cons, List.head?_append] at first
    cases isHere : next (⟨before, s⟩, ps) with
    | cons here others =>
      rw [isHere, List.head?_cons, Option.some_or] at first
      exact ⟨[], s, rfl, by simp, by simp, by simpa [isHere] using first⟩
    | nil =>
      rw [isHere, List.head?_nil, Option.none_or] at first
      cases s with
      | nil => cases first
      | cons c s =>
        by_cases held : set.contains c = true
        · have step : ways (.one set) ⟨before, c :: s⟩ ps = [(⟨c :: before, s⟩, ps)] := by
            simp [ways, held]
          rw [step, List.flatMap_singleton, if_pos (by simp)] at first
          obtain ⟨taken, tail, rfl, allHeld, never, goesOn⟩ := inductionHypothesis first
          refine ⟨c :: taken, tail, rfl, ?_, ?_, by simpa using goesOn⟩
          · simpa using ⟨held, allHeld⟩
          · intro left d right split
            cases left with
            | nil =>
              obtain ⟨rfl, rfl⟩ := List.cons.inj split
              exact isHere
            | cons e left =>
              obtain ⟨rfl, rfl⟩ := List.cons.inj split
              simpa using never left d right rfl
        · have step : ways (.one set) ⟨before, c :: s⟩ ps = [] := by
            simp [ways, held]
          rw [step] at first
          cases first

theorem exists_of_prefers_few1_group {n : Nat} {q : Pattern}
    (prefers : Prefers (.seq (.group n (few1 (.one set))) q) ⟨before, s⟩ ps way) :
    ∃ c taken tail, s = c :: taken ++ tail ∧ (∀ d ∈ c :: taken, set.contains d = true) ∧
      (∀ left d right, taken = left ++ d :: right →
        ∃ before ps, ways q ⟨before, d :: (right ++ tail)⟩ ps = []) ∧
      Prefers q ⟨(c :: taken).reverse ++ before, tail⟩ (⟨n, before.length, c :: taken⟩ :: ps) way := by
  rw [Prefers, ways, ways, List.flatMap_map, few1, ways] at prefers
  cases s with
  | nil => cases prefers
  | cons c s =>
    by_cases held : set.contains c = true
    · have first : ways (.one set) ⟨before, c :: s⟩ ps = [(⟨c :: before, s⟩, ps)] := by
        simp [ways, held]
      rw [waysTimes, first, List.flatMap_singleton, waysTimes, List.flatMap_singleton] at prefers
      obtain ⟨taken, tail, rfl, allHeld, never, goesOn⟩ := exists_of_head?_waysUpTo_lazy prefers
      refine ⟨c, taken, tail, rfl, by simpa using ⟨held, allHeld⟩,
        fun left d right split => ⟨_, _, never left d right split⟩, ?_⟩
      have since : Place.since ⟨(c :: taken).reverse ++ before, tail⟩
          ⟨before, c :: (taken ++ tail)⟩ = c :: taken := since_append _ _ _ _
      simp only [Prefers, Place.index, List.reverse_cons, List.append_assoc, List.cons_append,
        List.nil_append] at since goesOn ⊢
      rwa [since] at goesOn
    · have first : ways (.one set) ⟨before, c :: s⟩ ps = [] := by
        simp [ways, held]
      rw [waysTimes, first] at prefers
      cases prefers

end

/-! ## Groups -/

/-- Does the pattern remember nothing? -/
def isGroupless : Pattern → Bool
  | .empty | .one _ | .edge _ => true
  | .seq p q | .alt p q => p.isGroupless && q.isGroupless
  | .rep _ _ _ p => p.isGroupless
  | .group _ _ => false

theorem pieces_eq_of_mem_ways {p : Pattern} (groupless : p.isGroupless = true) {place : Place}
    {ps : Pieces} : ∀ way ∈ ways p place ps, way.2 = ps := by
  induction p generalizing place ps with
  | empty =>
    intro way member
    rw [List.mem_singleton.1 member]
  | one set =>
    intro way member
    obtain ⟨before, after⟩ := place
    cases after with
    | nil => cases member
    | cons c rest =>
      simp only [ways] at member
      split at member
      case isTrue => rw [List.mem_singleton.1 member]
      case isFalse => cases member
  | edge boundary =>
    intro way member
    rw [ways] at member
    split at member
    case isTrue => rw [List.mem_singleton.1 member]
    case isFalse => cases member
  | seq p q firstKeeps secondKeeps =>
    rw [isGroupless, Bool.and_eq_true] at groupless
    intro way member
    obtain ⟨first, firstMember, others⟩ := List.mem_flatMap.1 member
    rw [secondKeeps groupless.2 way others, firstKeeps groupless.1 first firstMember]
  | alt p q leftKeeps rightKeeps =>
    rw [isGroupless, Bool.and_eq_true] at groupless
    intro way member
    exact (List.mem_append.1 member).elim (leftKeeps groupless.1 way) (rightKeeps groupless.2 way)
  | rep least most greedy p pieceKeeps =>
    have keeps : Keeps (fun start stop => stop.2 = start.2) (ways p) :=
      fun start => pieceKeeps groupless
    have keepsAll := keeps.rep (fun _ => rfl) (fun _ _ _ here later => later.trans here)
      least most greedy
    exact keepsAll (place, ps)
  | group n p _ => cases groupless

end TableQuery.Pattern
