import TableQuery.Proofs.Pattern.Ways

/-! # Pieces that patterns take

Two views of the ways of a pattern.  `Takes` says that some way leads from a text to a rest
of it, and its lemmas take a pattern apart to tell what the piece looks like.  `Prefers`
names the first way at a place, and its lemmas put the first way of a pattern together from
those of its parts.
-/

namespace TableQuery.Pattern

/-! ## Some way leads to a rest -/

/-- Can the pattern take a piece of the text that leaves the rest? -/
def Takes (p : Pattern) (s rest : List Char) : Prop :=
  ∃ before ps, ∃ way ∈ ways p ⟨before, s⟩ ps, way.1.after = rest

theorem takes_of_prefers {p : Pattern} {place : Place} {ps : Pieces} {way : Way}
    (first : (ways p place ps).head? = some way) : Takes p place.after way.1.after :=
  ⟨place.before, ps, way, List.mem_of_mem_head? first, rfl⟩

theorem ways_eq_nil_of_not_takes {p : Pattern} {place : Place} {ps : Pieces}
    (never : ∀ rest, ¬ Takes p place.after rest) : ways p place ps = [] := by
  rw [List.eq_nil_iff_forall_not_mem]
  intro way member
  exact never way.1.after ⟨place.before, ps, way, member, rfl⟩

theorem takes_empty {s rest : List Char} (takes : Takes .empty s rest) : rest = s := by
  obtain ⟨before, ps, way, member, rfl⟩ := takes
  rw [ways, List.mem_singleton] at member
  rw [member]

theorem takes_one {set : CharSet} {s rest : List Char} (takes : Takes (.one set) s rest) :
    ∃ c, set.contains c = true ∧ s = c :: rest := by
  obtain ⟨before, ps, way, member, rfl⟩ := takes
  cases s with
  | nil => cases member
  | cons c s =>
    simp only [ways] at member
    split at member
    case isTrue held => exact ⟨c, held, by rw [List.mem_singleton.1 member]⟩
    case isFalse => cases member

theorem takes_seq {p q : Pattern} {s rest : List Char} (takes : Takes (.seq p q) s rest) :
    ∃ mid, Takes p s mid ∧ Takes q mid rest := by
  obtain ⟨before, ps, way, member, rfl⟩ := takes
  rw [ways, List.mem_flatMap] at member
  obtain ⟨first, firstMember, secondMember⟩ := member
  exact ⟨first.1.after, ⟨before, ps, first, firstMember, rfl⟩,
    first.1.before, first.2, way, secondMember, rfl⟩

theorem takes_alt {p q : Pattern} {s rest : List Char} (takes : Takes (.alt p q) s rest) :
    Takes p s rest ∨ Takes q s rest := by
  obtain ⟨before, ps, way, member, left⟩ := takes
  rw [ways, List.mem_append] at member
  cases member with
  | inl member => exact .inl ⟨before, ps, way, member, left⟩
  | inr member => exact .inr ⟨before, ps, way, member, left⟩

theorem takes_group {n : Nat} {p : Pattern} {s rest : List Char}
    (takes : Takes (.group n p) s rest) : Takes p s rest := by
  obtain ⟨before, ps, way, member, rfl⟩ := takes
  rw [ways, List.mem_map] at member
  obtain ⟨inner, innerMember, rfl⟩ := member
  exact ⟨before, ps, inner, innerMember, rfl⟩

theorem takes_sequence_cons {p : Pattern} {parts : List Pattern} {s rest : List Char}
    (takes : Takes (sequence (p :: parts)) s rest) :
    ∃ mid, Takes p s mid ∧ Takes (sequence parts) mid rest := by
  cases parts with
  | nil => exact ⟨rest, takes, [], [], (⟨[], rest⟩, []), List.mem_singleton.2 rfl, rfl⟩
  | cons q parts => exact takes_seq takes

theorem takes_choice {branches : List Pattern} {s rest : List Char}
    (takes : Takes (choice branches) s rest) : ∃ p ∈ branches, Takes p s rest := by
  induction branches with
  | nil =>
    obtain ⟨c, held, -⟩ := takes_one takes
    cases held
  | cons p branches inductionHypothesis =>
    cases branches with
    | nil => exact ⟨p, by simp, takes⟩
    | cons q branches =>
      cases takes_alt takes with
      | inl left => exact ⟨p, by simp, left⟩
      | inr right =>
        obtain ⟨other, member, taken⟩ := inductionHypothesis right
        exact ⟨other, List.mem_cons_of_mem _ member, taken⟩

theorem takes_literal {word s rest : List Char} (takes : Takes (literal word) s rest) :
    s = word ++ rest := by
  induction word generalizing s with
  | nil => exact (takes_empty takes).symm
  | cons c word inductionHypothesis =>
    obtain ⟨mid, first, others⟩ := takes_sequence_cons takes
    obtain ⟨d, held, rfl⟩ := takes_one first
    rw [CharSet.contains_single, beq_iff_eq] at held
    rw [inductionHypothesis others, held]
    rfl

theorem takes_oneOf {words : List String} {s rest : List Char}
    (takes : Takes (oneOf words) s rest) : ∃ word ∈ words, s = word.toList ++ rest := by
  obtain ⟨p, member, taken⟩ := takes_choice takes
  obtain ⟨word, wordMember, rfl⟩ := List.mem_map.1 member
  exact ⟨word, wordMember, takes_literal taken⟩

/-! ### Repetitions -/

theorem mem_waysTimes_one {set : CharSet} {n : Nat} {place : Place} {ps : Pieces} {way : Way}
    (member : way ∈ waysTimes (ways (.one set)) n place ps) :
    ∃ taken, taken.length = n ∧ (∀ c ∈ taken, set.contains c = true) ∧
      place.after = taken ++ way.1.after := by
  induction n generalizing place ps with
  | zero =>
    rw [waysTimes, List.mem_singleton] at member
    exact ⟨[], rfl, by simp, by rw [member]; rfl⟩
  | succ n inductionHypothesis =>
    rw [waysTimes, List.mem_flatMap] at member
    obtain ⟨first, firstMember, others⟩ := member
    obtain ⟨c, held, cut⟩ := takes_one ⟨place.before, ps, first, firstMember, rfl⟩
    obtain ⟨taken, length_eq, allHeld, cut'⟩ := inductionHypothesis others
    refine ⟨c :: taken, by simp [length_eq], ?_, by rw [cut, cut']; rfl⟩
    simpa using ⟨held, allHeld⟩

theorem eq_or_exists_of_mem_waysUpTo {step : Place → Pieces → List Way} {greedy : Bool} {n : Nat}
    {place : Place} {ps : Pieces} {way : Way}
    (member : way ∈ waysUpTo step greedy (n + 1) place ps) :
    way = (place, ps) ∨
      ∃ first ∈ step place ps, way ∈ waysUpTo step greedy n first.1 first.2 := by
  simp only [waysUpTo] at member
  cases greedy <;> grind

theorem mem_waysUpTo_one {set : CharSet} {greedy : Bool} {n : Nat} {place : Place} {ps : Pieces}
    {way : Way} (member : way ∈ waysUpTo (ways (.one set)) greedy n place ps) :
    ∃ taken, (∀ c ∈ taken, set.contains c = true) ∧ place.after = taken ++ way.1.after := by
  induction n generalizing place ps with
  | zero =>
    rw [waysUpTo, List.mem_singleton] at member
    exact ⟨[], by simp, by rw [member]; rfl⟩
  | succ n inductionHypothesis =>
    rcases eq_or_exists_of_mem_waysUpTo member with rfl | ⟨first, firstMember, others⟩
    · exact ⟨[], by simp, rfl⟩
    · obtain ⟨c, held, cut⟩ := takes_one ⟨place.before, ps, first, firstMember, rfl⟩
      obtain ⟨taken, allHeld, cut'⟩ := inductionHypothesis others
      refine ⟨c :: taken, ?_, by rw [cut, cut']; rfl⟩
      simpa using ⟨held, allHeld⟩

theorem takes_rep_one {least : Nat} {most : Option Nat} {greedy : Bool} {set : CharSet}
    {s rest : List Char} (takes : Takes (.rep least most greedy (.one set)) s rest) :
    ∃ taken, least ≤ taken.length ∧ (∀ c ∈ taken, set.contains c = true) ∧
      s = taken ++ rest := by
  obtain ⟨before, ps, way, member, rfl⟩ := takes
  rw [ways, List.mem_flatMap] at member
  obtain ⟨first, firstMember, others⟩ := member
  obtain ⟨taken, length_eq, allHeld, cut⟩ := mem_waysTimes_one firstMember
  obtain ⟨more, moreHeld, cut'⟩ := mem_waysUpTo_one others
  refine ⟨taken ++ more, by simp [length_eq], ?_, ?_⟩
  · intro c member
    exact (List.mem_append.1 member).elim (allHeld c) (moreHeld c)
  · rw [List.append_assoc, ← cut', ← cut]

theorem takes_many_one {set : CharSet} {s rest : List Char}
    (takes : Takes (many (.one set)) s rest) :
    ∃ taken, (∀ c ∈ taken, set.contains c = true) ∧ s = taken ++ rest := by
  obtain ⟨taken, -, held, cut⟩ := takes_rep_one takes
  exact ⟨taken, held, cut⟩

theorem takes_many1_one {set : CharSet} {s rest : List Char}
    (takes : Takes (many1 (.one set)) s rest) :
    ∃ c taken, (∀ d ∈ c :: taken, set.contains d = true) ∧ s = c :: (taken ++ rest) := by
  obtain ⟨taken, long, held, cut⟩ := takes_rep_one takes
  cases taken with
  | nil => simp at long
  | cons c taken => exact ⟨c, taken, held, cut⟩

theorem takes_optional {p : Pattern} {s rest : List Char} (takes : Takes (optional p) s rest) :
    rest = s ∨ Takes p s rest := by
  obtain ⟨before, ps, way, member, rfl⟩ := takes
  simp only [optional, ways, waysTimes, furtherBound, waysUpTo, if_true, List.flatMap_cons,
    List.flatMap_nil, List.append_nil, List.mem_append, List.mem_flatMap, List.mem_singleton]
    at member
  rcases member with ⟨moved, movedMember, inMoved⟩ | rfl
  · split at inMoved
    · rw [List.mem_singleton.1 inMoved]
      exact .inr ⟨before, ps, moved, movedMember, rfl⟩
    · cases inMoved
  · exact .inl rfl

/-! ## The preferred way -/

/-- Is this the first way of the pattern at the place? -/
def Prefers (p : Pattern) (place : Place) (ps : Pieces) (way : Way) : Prop :=
  (ways p place ps).head? = some way

theorem ne_nil_of_prefers {p : Pattern} {place : Place} {ps : Pieces} {way : Way}
    (prefers : Prefers p place ps way) : ways p place ps ≠ [] := by
  intro empty
  rw [Prefers, empty] at prefers
  cases prefers

theorem head?_flatMap_of_head? {α β : Type} {items : List α} {parts : α → List β} {a : α} {b : β}
    (first : items.head? = some a) (firstPart : (parts a).head? = some b) :
    (items.flatMap parts).head? = some b := by
  obtain ⟨rest, rfl⟩ := List.head?_eq_some_iff.1 first
  rw [List.flatMap_cons, List.head?_append, firstPart, Option.some_or]

theorem prefers_seq {p q : Pattern} {place : Place} {ps : Pieces} {mid way : Way}
    (first : Prefers p place ps mid) (second : Prefers q mid.1 mid.2 way) :
    Prefers (.seq p q) place ps way :=
  head?_flatMap_of_head? first second

theorem prefers_group {n : Nat} {p : Pattern} {place : Place} {ps : Pieces} {way : Way}
    (inner : Prefers p place ps way) :
    Prefers (.group n p) place ps (way.1, ⟨n, place.index, way.1.since place⟩ :: way.2) := by
  rw [Prefers] at inner ⊢
  rw [ways, List.head?_map, inner]
  rfl

theorem prefers_choice_cons {p : Pattern} {place : Place} {ps : Pieces} {way : Way}
    (branches : List Pattern) (first : Prefers p place ps way) :
    Prefers (choice (p :: branches)) place ps way := by
  cases branches with
  | nil => exact first
  | cons q branches =>
    rw [Prefers] at first ⊢
    rw [choice, ways, List.head?_append, first, Option.some_or]
    simp

theorem prefers_literal (word before rest : List Char) (ps : Pieces) :
    Prefers (literal word) ⟨before, word ++ rest⟩ ps (⟨word.reverse ++ before, rest⟩, ps) := by
  induction word generalizing before with
  | nil => rfl
  | cons c word inductionHypothesis =>
    have one : Prefers (.one (.single c)) ⟨before, c :: (word ++ rest)⟩ ps
        (⟨c :: before, word ++ rest⟩, ps) := by
      simp [Prefers, ways]
    cases word with
    | nil => exact one
    | cons d word =>
      have others := inductionHypothesis (c :: before)
      rw [List.reverse_cons, List.append_assoc]
      exact prefers_seq one others

theorem prefers_waysUpTo_one {set : CharSet} {taken : List Char} {rest : List Char}
    (held : ∀ c ∈ taken, set.contains c = true) (stop : ∀ c ∈ rest.head?, set.contains c = false)
    (before : List Char) (ps : Pieces) {n : Nat} (enough : taken.length ≤ n) :
    (waysUpTo (ways (.one set)) true n ⟨before, taken ++ rest⟩ ps).head? =
      some (⟨taken.reverse ++ before, rest⟩, ps) := by
  induction taken generalizing before n with
  | nil =>
    cases n with
    | zero => rfl
    | succ n =>
      cases rest with
      | nil => rfl
      | cons c rest =>
        have stopped : set.contains c = false := stop c rfl
        simp [waysUpTo, ways, stopped]
  | cons c taken inductionHypothesis =>
    cases n with
    | zero => simp at enough
    | succ n =>
      have step : ways (.one set) ⟨before, c :: taken ++ rest⟩ ps =
          [(⟨c :: before, taken ++ rest⟩, ps)] := by
        simp [ways, held c (by simp)]
      have others := inductionHypothesis (fun d member => held d (by simp [member])) (c :: before)
        (n := n) (by simpa using enough)
      simp only [waysUpTo, step, List.flatMap_singleton, if_true, List.head?_append]
      simp [others]

/-- A greedy repetition of a set takes all characters of the set that follow. -/
theorem prefers_many_one {set : CharSet} (taken rest : List Char)
    (held : ∀ c ∈ taken, set.contains c = true) (stop : ∀ c ∈ rest.head?, set.contains c = false)
    (before : List Char) (ps : Pieces) :
    Prefers (many (.one set)) ⟨before, taken ++ rest⟩ ps
      (⟨taken.reverse ++ before, rest⟩, ps) := by
  refine head?_flatMap_of_head? (a := (⟨before, taken ++ rest⟩, ps)) rfl ?_
  exact prefers_waysUpTo_one held stop before ps (by simp [furtherBound])

theorem prefers_many1_one {set : CharSet} (c : Char) (taken rest : List Char)
    (held : ∀ d ∈ c :: taken, set.contains d = true)
    (stop : ∀ d ∈ rest.head?, set.contains d = false) (before : List Char) (ps : Pieces) :
    Prefers (many1 (.one set)) ⟨before, c :: taken ++ rest⟩ ps
      (⟨(c :: taken).reverse ++ before, rest⟩, ps) := by
  have first : set.contains c = true := held c (by simp)
  refine head?_flatMap_of_head? (a := (⟨c :: before, taken ++ rest⟩, ps)) ?_ ?_
  · simp [waysTimes, ways, first]
  · rw [List.reverse_cons, List.append_assoc]
    exact prefers_waysUpTo_one (fun d member => held d (by simp [member])) stop (c :: before) ps
      (by simp [furtherBound]; omega)

theorem prefers_optional {p : Pattern} {place : Place} {ps : Pieces} {way : Way}
    (prefers : Prefers p place ps way) (moves : way.1.after.length < place.after.length) :
    Prefers (optional p) place ps way := by
  refine head?_flatMap_of_head? (a := (place, ps)) rfl ?_
  simp only [furtherBound, waysUpTo, if_true]
  rw [List.head?_append, head?_flatMap_of_head? prefers (b := way) (by simp [moves]),
    Option.some_or]

theorem prefers_optional_stay {p : Pattern} {place : Place} {ps : Pieces}
    (never : ways p place ps = []) : Prefers (optional p) place ps (place, ps) := by
  refine head?_flatMap_of_head? (a := (place, ps)) rfl ?_
  simp [furtherBound, waysUpTo, never]

/-- What may be taken or not is not taken where nothing that follows could go on behind it. -/
theorem prefers_optional_seq_stay {p q : Pattern} {place : Place} {ps : Pieces} {way : Way}
    (never : ∀ rest, ¬ Takes (.seq p q) place.after rest) (stays : Prefers q place ps way) :
    Prefers (.seq (optional p) q) place ps way := by
  have noFurther : ∀ first ∈ ways p place ps, ways q first.1 first.2 = [] :=
    List.flatMap_eq_nil_iff.1 (ways_eq_nil_of_not_takes never)
  have isLast : ways (optional p) place ps = ((ways p place ps).flatMap fun first =>
      if first.1.after.length < place.after.length then [first] else []) ++ [(place, ps)] := by
    simp [optional, ways, waysTimes, furtherBound, waysUpTo]
  rw [Prefers, ways, isLast, List.flatMap_append, List.flatMap_singleton, List.head?_append]
  rw [List.flatMap_eq_nil_iff.2, List.head?_nil, Option.none_or]
  · exact stays
  · intro first member
    obtain ⟨moved, movedMember, inMoved⟩ := List.mem_flatMap.1 member
    split at inMoved
    · rw [List.mem_singleton.1 inMoved]
      exact noFurther moved movedMember
    · cases inMoved

/-- The characters between two places with the piece between them spelled out. -/
theorem since_append (taken before rest rest' : List Char) :
    Place.since ⟨taken.reverse ++ before, rest⟩ ⟨before, rest'⟩ = taken := by
  have length_eq : (taken.reverse ++ before).length - before.length = taken.reverse.length := by
    simp
  rw [Place.since, Place.index, Place.index, length_eq, List.take_left, List.reverse_reverse]

end TableQuery.Pattern
