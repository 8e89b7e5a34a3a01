import TableQuery.Proofs.Pattern.Takes

/-! # The first match along a text

A text is searched place by place: where a pattern takes nothing in a first part of the text, the
search goes on behind that part.  A lazy repetition of a set stops at the first character where
the rest of the pattern can go on, so a group around it remembers what comes before.
-/

namespace TableQuery.Pattern

/-! ## Searching place by place -/

/-- The first match in a text that something comes before. -/
def findFrom? (p : Pattern) (before s : List Char) : Option Found :=
  (Place.allFrom before s).findSome? (matchAt? p)

section

variable {p : Pattern} {s : List Char}

theorem findFrom?_cons {c : Char} (never : ∀ rest, ¬ Takes p (c :: s) rest) (before : List Char) :
    findFrom? p before (c :: s) = findFrom? p (c :: before) s := by
  have notHere : ways p ⟨before, c :: s⟩ [] = [] := ways_eq_nil_of_not_takes never
  rw [findFrom?, Place.allFrom, List.findSome?_cons, matchAt?_eq, notHere]
  rfl

/-- A first part of a text where the pattern takes nothing is passed over. -/
theorem findFrom?_append {pre : List Char}
    (never : ∀ left c right, pre = left ++ c :: right → ∀ rest, ¬ Takes p (c :: (right ++ s)) rest)
    (before : List Char) :
    findFrom? p before (pre ++ s) = findFrom? p (pre.reverse ++ before) s := by
  induction pre generalizing before with
  | nil => rfl
  | cons c pre inductionHypothesis =>
    rw [List.cons_append, findFrom?_cons (never [] c pre rfl)]
    rw [inductionHypothesis fun left d right split =>
      never (c :: left) d right (by rw [split]; rfl)]
    simp

theorem findFrom?_eq_none (never : ∀ left right, s = left ++ right → ∀ rest, ¬ Takes p right rest)
    (before : List Char) : findFrom? p before s = none := by
  rw [findFrom?, List.findSome?_eq_none_iff]
  intro place member
  obtain ⟨left, cut, -⟩ := mem_allFrom.1 member
  rw [matchAt?_eq, ways_eq_nil_of_not_takes (never left place.after cut)]
  rfl

theorem findFrom?_of_prefers {before : List Char} {way : Way}
    (prefers : Prefers p ⟨before, s⟩ [] way) :
    findFrom? p before s = some (Found.ofWay ⟨before, s⟩ way) := by
  have isFirst : ∃ later, Place.allFrom before s = ⟨before, s⟩ :: later := by
    cases s <;> exact ⟨_, rfl⟩
  obtain ⟨later, isCons⟩ := isFirst
  rw [Prefers] at prefers
  rw [findFrom?, isCons, List.findSome?_cons, matchAt?_eq, prefers]
  rfl

theorem find?_of_prefers {way : Way} (prefers : Prefers p ⟨[], s⟩ [] way) :
    find? p s = some (Found.ofWay ⟨[], s⟩ way) :=
  findFrom?_of_prefers prefers

end

/-! ## Lazy repetitions -/

section

variable {set : CharSet} {taken tail : List Char} {way : Way}

theorem head?_flatMap_waysUpTo_lazy (held : ∀ c ∈ taken, set.contains c = true)
    {next : Way → List Way} (before : List Char) (ps : Pieces)
    (never : ∀ left c right, taken = left ++ c :: right →
      next (⟨left.reverse ++ before, c :: (right ++ tail)⟩, ps) = [])
    (goesOn : (next (⟨taken.reverse ++ before, tail⟩, ps)).head? = some way) {n : Nat}
    (enough : taken.length ≤ n) :
    ((waysUpTo (ways (.one set)) false n ⟨before, taken ++ tail⟩ ps).flatMap next).head? =
      some way := by
  -- At each character that is taken `next` fails, so the repetition goes one further.
  induction taken generalizing before n with
  | nil =>
    have here : (next (⟨before, tail⟩, ps)).head? = some way := goesOn
    cases n with
    | zero => simp [waysUpTo, here]
    | succ n => simp [waysUpTo, here]
  | cons c taken inductionHypothesis =>
    cases n with
    | zero => simp at enough
    | succ n =>
      have notHere : next (⟨before, c :: (taken ++ tail)⟩, ps) = [] := never [] c taken rfl
      have step : ways (.one set) ⟨before, c :: (taken ++ tail)⟩ ps =
          [(⟨c :: before, taken ++ tail⟩, ps)] := by
        simp [ways, held c List.mem_cons_self]
      have further := inductionHypothesis (fun d member => held d (List.mem_cons_of_mem _ member))
        (c :: before) (fun left d right split => by
          simpa using never (c :: left) d right (by rw [split]; rfl))
        (by simpa using goesOn) (Nat.le_of_succ_le_succ enough)
      simp only [waysUpTo, List.cons_append, Bool.false_eq_true, if_false, List.flatMap_cons,
        notHere, List.nil_append, step, List.flatMap_nil, List.append_nil]
      rw [if_pos (by simp)]
      exact further

theorem prefers_few1_group {n : Nat} {c : Char} {q : Pattern}
    (held : ∀ d ∈ c :: taken, set.contains d = true) (before : List Char) (ps : Pieces)
    (never : ∀ d ∈ taken, ∀ right before ps, ways q ⟨before, d :: right⟩ ps = [])
    (goesOn : Prefers q ⟨(c :: taken).reverse ++ before, tail⟩
      (⟨n, before.length, c :: taken⟩ :: ps) way) :
    Prefers (.seq (.group n (few1 (.one set))) q) ⟨before, c :: taken ++ tail⟩ ps way := by
  have first : ways (.one set) ⟨before, c :: taken ++ tail⟩ ps =
      [(⟨c :: before, taken ++ tail⟩, ps)] := by
    simp [ways, held c List.mem_cons_self]
  have since : Place.since ⟨(c :: taken).reverse ++ before, tail⟩ ⟨before, c :: taken ++ tail⟩ =
      c :: taken := since_append _ _ _ _
  rw [Prefers, ways, ways, List.flatMap_map, few1, ways, waysTimes, first, List.flatMap_singleton]
  simp only [waysTimes, List.flatMap_singleton]
  refine head?_flatMap_waysUpTo_lazy (fun d member => held d (List.mem_cons_of_mem _ member))
    (c :: before) ps (fun left d right split => ?_) ?_ ?_
  · -- Inside of what is taken the rest cannot go on.
    exact never d (by simp [split]) (right ++ tail) _ _
  · simp only [Prefers, List.reverse_cons, List.append_assoc, List.cons_append, List.nil_append,
      Place.index] at goesOn since ⊢
    rw [since]
    exact goesOn
  · simp [furtherBound]
    omega

end

end TableQuery.Pattern
