import TableQuery.Proofs.Pattern.Takes

/-! # Pieces that patterns can take

A third view of the ways of a pattern.  `Gives` says that one of the ways takes a given piece
where a given rest follows, whatever stands before it and is remembered so far.  Its lemmas put
such a way together from those of the parts, wherever the pattern lists them.  Every way moves
along the text, so a group remembers just the piece that its way takes.
-/

namespace TableQuery.Pattern

/-! ## Some way takes a piece -/

/-- Does one of the ways of the pattern take the piece where the rest follows it? -/
def Gives (p : Pattern) (piece rest : List Char) : Prop :=
  ∀ before ps, ∃ ps', (⟨piece.reverse ++ before, rest⟩, ps') ∈ ways p ⟨before, piece ++ rest⟩ ps

section

variable {p q : Pattern} {piece more rest : List Char}

theorem isSome_find?_of_gives (gives : Gives p piece rest) (before : List Char) :
    (find? p (before ++ (piece ++ rest))).isSome = true := by
  obtain ⟨ps, member⟩ := gives before.reverse []
  exact isSome_find? (List.ne_nil_of_mem member)

theorem gives_of_prefers (prefers : ∀ before ps,
    Prefers p ⟨before, piece ++ rest⟩ ps (⟨piece.reverse ++ before, rest⟩, ps)) :
    Gives p piece rest := fun before ps =>
  ⟨ps, List.mem_of_mem_head? (prefers before ps)⟩

theorem gives_literal (word rest : List Char) : Gives (literal word) word rest :=
  gives_of_prefers fun before ps => prefers_literal word before rest ps

theorem gives_textEnd : Gives (.edge .textEnd) [] [] := fun _ ps => ⟨ps, List.mem_singleton.2 rfl⟩

theorem gives_seq (first : Gives p piece (more ++ rest)) (second : Gives q more rest) :
    Gives (.seq p q) (piece ++ more) rest := by
  intro before ps
  obtain ⟨mid, firstMember⟩ := first before ps
  obtain ⟨ps', secondMember⟩ := second (piece.reverse ++ before) mid
  refine ⟨ps', ?_⟩
  rw [ways, List.mem_flatMap, List.append_assoc, List.reverse_append, List.append_assoc]
  exact ⟨_, firstMember, secondMember⟩

theorem gives_choice {branches : List Pattern} (member : p ∈ branches)
    (gives : Gives p piece rest) : Gives (choice branches) piece rest := by
  induction branches with
  | nil => cases member
  | cons first branches inductionHypothesis =>
    cases branches with
    | nil => exact List.mem_singleton.1 member ▸ gives
    | cons second branches =>
      intro before ps
      rcases List.mem_cons.1 member with rfl | later
      · obtain ⟨ps', isWay⟩ := gives before ps
        exact ⟨ps', List.mem_append_left _ isWay⟩
      · obtain ⟨ps', isWay⟩ := inductionHypothesis later before ps
        exact ⟨ps', List.mem_append_right _ isWay⟩

theorem gives_oneOf {words : List String} {word : String} (member : word ∈ words)
    (rest : List Char) : Gives (oneOf words) word.toList rest :=
  gives_choice (List.mem_map_of_mem member) (gives_literal _ rest)

theorem gives_group (n : Nat) (gives : Gives p piece rest) : Gives (.group n p) piece rest := by
  intro before ps
  obtain ⟨ps', member⟩ := gives before ps
  exact ⟨_, List.mem_map_of_mem member⟩

theorem gives_optional_stay (p : Pattern) (rest : List Char) : Gives (optional p) [] rest :=
  fun before ps => ⟨ps, by simp [optional, ways, waysTimes, furtherBound, waysUpTo]⟩

theorem gives_optional (gives : Gives p piece rest) (nonempty : piece ≠ []) :
    Gives (optional p) piece rest := by
  intro before ps
  obtain ⟨ps', member⟩ := gives before ps
  have moves : rest.length < (piece ++ rest).length := by
    have := List.length_pos_iff.2 nonempty
    rw [List.length_append]
    omega
  refine ⟨ps', ?_⟩
  simp only [optional, ways, waysTimes, furtherBound, waysUpTo, if_true, List.flatMap_cons,
    List.flatMap_nil, List.append_nil, List.mem_append, List.mem_flatMap]
  exact .inl ⟨_, member, by rw [if_pos moves]; exact List.mem_singleton.2 rfl⟩

end

/-! ### Repetitions -/

section

variable {set : CharSet} {taken : List Char}

theorem mem_waysTimes_one_of_held (held : ∀ c ∈ taken, set.contains c = true)
    (before rest : List Char) (ps : Pieces) :
    (⟨taken.reverse ++ before, rest⟩, ps) ∈
      waysTimes (ways (.one set)) taken.length ⟨before, taken ++ rest⟩ ps := by
  induction taken generalizing before with
  | nil => exact List.mem_singleton.2 rfl
  | cons c taken inductionHypothesis =>
    have step : ways (.one set) ⟨before, c :: taken ++ rest⟩ ps =
        [(⟨c :: before, taken ++ rest⟩, ps)] := by
      simp [ways, held c List.mem_cons_self]
    have others := inductionHypothesis (fun d member => held d (List.mem_cons_of_mem _ member))
      (c :: before)
    rw [List.length_cons, waysTimes, step, List.flatMap_singleton]
    simpa using others

theorem mem_waysUpTo_one_of_held (greedy : Bool) (held : ∀ c ∈ taken, set.contains c = true)
    (before rest : List Char) (ps : Pieces) {n : Nat} (enough : taken.length ≤ n) :
    (⟨taken.reverse ++ before, rest⟩, ps) ∈
      waysUpTo (ways (.one set)) greedy n ⟨before, taken ++ rest⟩ ps := by
  induction taken generalizing before n with
  | nil => cases n <;> cases greedy <;> simp [waysUpTo]
  | cons c taken inductionHypothesis =>
    cases n with
    | zero => cases enough
    | succ n =>
      have step : ways (.one set) ⟨before, c :: taken ++ rest⟩ ps =
          [(⟨c :: before, taken ++ rest⟩, ps)] := by
        simp [ways, held c List.mem_cons_self]
      have others := inductionHypothesis (fun d member => held d (List.mem_cons_of_mem _ member))
        (c :: before) (Nat.le_of_succ_le_succ enough)
      have further : (⟨(c :: taken).reverse ++ before, rest⟩, ps) ∈
          (ways (.one set) ⟨before, c :: taken ++ rest⟩ ps).flatMap fun way =>
            if way.1.after.length < (c :: taken ++ rest).length then
              waysUpTo (ways (.one set)) greedy n way.1 way.2 else [] := by
        rw [step, List.flatMap_singleton, if_pos (by simp)]
        simpa using others
      cases greedy with
      | true => exact List.mem_append_left _ further
      | false => exact List.mem_cons_of_mem _ further

/-- A repetition of a set can take any characters of the set, if they are enough. -/
theorem gives_rep_one {least : Nat} (greedy : Bool) (long : least ≤ taken.length)
    (held : ∀ c ∈ taken, set.contains c = true) (rest : List Char) :
    Gives (.rep least none greedy (.one set)) taken rest := by
  intro before ps
  -- The first characters are those that must be taken, the others those that may be.
  obtain ⟨first, more, rfl, isLeast⟩ : ∃ first more, taken = first ++ more ∧
      first.length = least :=
    ⟨taken.take least, taken.drop least, (List.take_append_drop _ _).symm,
      List.length_take_of_le long⟩
  have must := mem_waysTimes_one_of_held (fun c member => held c (List.mem_append_left _ member))
    before (more ++ rest) ps
  have may := mem_waysUpTo_one_of_held greedy
    (fun c member => held c (List.mem_append_right _ member)) (first.reverse ++ before) rest ps
    (n := furtherBound least none ⟨before, first ++ more ++ rest⟩) (by simp [furtherBound]; omega)
  refine ⟨ps, ?_⟩
  rw [isLeast] at must
  rw [ways, List.mem_flatMap, List.reverse_append]
  simp only [List.append_assoc] at must may ⊢
  exact ⟨_, must, may⟩

end

/-! ## Ways move along the text -/

/-- Is this the piece between two places? -/
def Place.Leads (start : Place) (piece : List Char) (stop : Place) : Prop :=
  stop.before = piece.reverse ++ start.before ∧ start.after = piece ++ stop.after

theorem Place.leads_nil (place : Place) : place.Leads [] place := ⟨rfl, rfl⟩

theorem Place.Leads.trans {start mid stop : Place} {piece more : List Char}
    (first : start.Leads piece mid) (second : mid.Leads more stop) :
    start.Leads (piece ++ more) stop :=
  ⟨by rw [second.1, first.1, List.reverse_append, List.append_assoc],
    by rw [first.2, second.2, List.append_assoc]⟩

section

variable {relates : Way → Way → Prop} {step : Place → Pieces → List Way}

/-- Do all ways of a step keep this relation to where they begin? -/
def Keeps (relates : Way → Way → Prop) (step : Place → Pieces → List Way) : Prop :=
  ∀ start : Way, ∀ way ∈ step start.1 start.2, relates start way

variable (keeps : Keeps relates step) (stays : ∀ way, relates way way)
  (goesOn : ∀ start mid stop, relates start mid → relates mid stop → relates start stop)

include keeps stays goesOn

theorem Keeps.waysTimes (n : Nat) : Keeps relates (waysTimes step n) := by
  induction n with
  | zero =>
    intro start way member
    rw [List.mem_singleton.1 member]
    exact stays start
  | succ n inductionHypothesis =>
    intro start way member
    obtain ⟨first, firstMember, others⟩ := List.mem_flatMap.1 member
    exact goesOn _ _ _ (keeps start first firstMember) (inductionHypothesis first way others)

theorem Keeps.waysUpTo (greedy : Bool) (n : Nat) :
    Keeps relates (waysUpTo step greedy n) := by
  induction n with
  | zero =>
    intro start way member
    rw [List.mem_singleton.1 member]
    exact stays start
  | succ n inductionHypothesis =>
    intro start way member
    rcases eq_or_exists_of_mem_waysUpTo member with rfl | ⟨first, firstMember, others⟩
    · exact stays start
    · exact goesOn _ _ _ (keeps start first firstMember) (inductionHypothesis first way others)

end

theorem Keeps.rep {relates : Way → Way → Prop} {p : Pattern} (keeps : Keeps relates (ways p))
    (stays : ∀ way, relates way way)
    (goesOn : ∀ start mid stop, relates start mid → relates mid stop → relates start stop)
    (least : Nat) (most : Option Nat) (greedy : Bool) :
    Keeps relates (ways (.rep least most greedy p)) := by
  intro start way member
  obtain ⟨first, firstMember, others⟩ := List.mem_flatMap.1 member
  exact goesOn _ _ _ (keeps.waysTimes stays goesOn least start first firstMember)
    (keeps.waysUpTo stays goesOn greedy _ first way others)

theorem leads_of_mem_ways (p : Pattern) (place : Place) (ps : Pieces) :
    ∀ way ∈ ways p place ps, ∃ piece, place.Leads piece way.1 := by
  induction p generalizing place ps with
  | empty =>
    intro way member
    rw [List.mem_singleton.1 member]
    exact ⟨[], place.leads_nil⟩
  | one set =>
    intro way member
    obtain ⟨before, after⟩ := place
    cases after with
    | nil => cases member
    | cons c rest =>
      simp only [ways] at member
      split at member
      case isTrue =>
        rw [List.mem_singleton.1 member]
        exact ⟨[c], rfl, rfl⟩
      case isFalse => cases member
  | edge boundary =>
    intro way member
    rw [ways] at member
    split at member
    case isTrue =>
      rw [List.mem_singleton.1 member]
      exact ⟨[], place.leads_nil⟩
    case isFalse => cases member
  | seq p q firstLeads secondLeads =>
    intro way member
    obtain ⟨first, firstMember, others⟩ := List.mem_flatMap.1 member
    obtain ⟨piece, here⟩ := firstLeads _ _ first firstMember
    obtain ⟨more, later⟩ := secondLeads _ _ way others
    exact ⟨_, here.trans later⟩
  | alt p q leftLeads rightLeads =>
    intro way member
    exact (List.mem_append.1 member).elim (leftLeads _ _ way) (rightLeads _ _ way)
  | rep least most greedy p pieceLeads =>
    have keeps : Keeps (fun start stop => ∃ piece, start.1.Leads piece stop.1) (ways p) :=
      fun start => pieceLeads start.1 start.2
    refine keeps.rep (fun way => ⟨[], way.1.leads_nil⟩) ?_ least most greedy (place, ps)
    rintro start mid stop ⟨piece, here⟩ ⟨more, later⟩
    exact ⟨_, here.trans later⟩
  | group n p pieceLeads =>
    intro way member
    obtain ⟨inner, innerMember, rfl⟩ := List.mem_map.1 member
    exact pieceLeads _ _ inner innerMember

theorem exists_piece_of_takes {p : Pattern} {s rest : List Char} (takes : Takes p s rest) :
    ∃ piece, s = piece ++ rest := by
  obtain ⟨before, ps, way, member, rfl⟩ := takes
  obtain ⟨piece, leads⟩ := leads_of_mem_ways p _ ps way member
  exact ⟨piece, leads.2⟩

theorem mem_ways_seq {p q : Pattern} {place : Place} {ps : Pieces} {way : Way}
    (member : way ∈ ways (.seq p q) place ps) :
    ∃ mid : Way, (∃ piece, place.after = piece ++ mid.1.after) ∧ way ∈ ways q mid.1 mid.2 := by
  obtain ⟨mid, first, second⟩ := List.mem_flatMap.1 member
  obtain ⟨piece, leads⟩ := leads_of_mem_ways p place ps mid first
  exact ⟨mid, ⟨piece, leads.2⟩, second⟩

theorem Place.Leads.since_eq {start stop : Place} {piece : List Char}
    (leads : start.Leads piece stop) : stop.since start = piece := by
  have since := since_append piece start.before stop.after start.after
  rwa [← leads.1] at since

theorem get?_of_mem_ways_group {n : Nat} {p : Pattern} {place : Place} {ps : Pieces} {way : Way}
    (member : way ∈ ways (.group n p) place ps) :
    ∃ piece, way.2.get? n = some piece ∧ place.after = piece ++ way.1.after := by
  obtain ⟨inner, innerMember, rfl⟩ := List.mem_map.1 member
  obtain ⟨piece, leads⟩ := leads_of_mem_ways p place ps inner innerMember
  exact ⟨piece, by simp [Pieces.get?, leads.since_eq], leads.2⟩

theorem exists_cut_of_find? {p : Pattern} {s : List Char} {found : Found}
    (isFound : find? p s = some found) :
    ∃ before, before.length = found.start ∧ s = before ++ (found.chars ++ found.after) := by
  obtain ⟨place, way, ⟨before, cut, prior⟩, first, rfl⟩ := exists_way_of_find? isFound
  obtain ⟨piece, leads⟩ := leads_of_mem_ways p place [] way (List.mem_of_mem_head? first)
  refine ⟨before, by simp [Found.ofWay, Place.index, prior], ?_⟩
  rw [cut, leads.2, Found.ofWay, leads.since_eq]

end TableQuery.Pattern
