import TableQuery.Proofs.Text.Lower

/-! # Upper case

The upper case of a character may be several characters, of which the first has no other upper case
than itself.  This is a fact of the case tables, checked run by run.
-/

namespace TableQuery.Text

/-! ## Where the runs of the table lead -/

namespace ShiftRun

/-- Does no code point that the run reaches belong to the other run?  It lies outside of it or
    between its members, on whichever side of them the run begins. -/
def avoids (r other : ShiftRun) : Bool :=
  Nat.blt r.imageHi other.lo || Nat.blt other.hi r.imageLo ||
    ((r.stride % other.stride == 0 || r.lo == r.hi) &&
      r.imageLo % other.stride != other.lo % other.stride)

theorem not_covers_of_avoids {r other : ShiftRun} {n : Nat} (avoids : r.avoids other = true)
    (covers : r.covers n = true) (positive : 0 < r.imageLo) :
    other.covers ((n : Int) + r.shift).toNat = false := by
  have bounds := bounds_of_covers covers
  simp only [ShiftRun.avoids, Bool.or_eq_true, Bool.and_eq_true, Nat.blt_eq, beq_iff_eq,
    bne_iff_ne] at avoids
  simp only [ShiftRun.covers, Bool.and_eq_true, decide_eq_true_eq, beq_iff_eq] at covers
  rw [Bool.eq_false_iff]
  intro inOther
  simp only [ShiftRun.covers, Bool.and_eq_true, decide_eq_true_eq, beq_iff_eq] at inOther
  obtain (isBelow | isAbove) | ⟨step, between⟩ := avoids
  · omega
  · omega
  · -- The code points reached have the same remainder by the stride of the other run, and so have
    -- the members of the other run.
    have isSum : ((n : Int) + r.shift).toNat = r.imageLo + (n - r.lo) := by
      rw [imageLo] at positive ⊢
      omega
    have multiple : (n - r.lo) % other.stride = 0 := by
      rcases step with divides | single
      · exact Nat.mod_eq_zero_of_dvd ((Nat.dvd_of_mod_eq_zero divides).trans
          (Nat.dvd_of_mod_eq_zero covers.2))
      · rw [show n - r.lo = 0 by omega, Nat.zero_mod]
    have reached : ((n : Int) + r.shift).toNat % other.stride = r.imageLo % other.stride := by
      rw [isSum, Nat.add_mod, multiple, Nat.add_zero, Nat.mod_mod]
    have member : ((n : Int) + r.shift).toNat % other.stride = other.lo % other.stride := by
      obtain ⟨⟨begins, -⟩, isMultiple⟩ := inOther
      rw [← Nat.sub_add_cancel begins, Nat.add_mod, isMultiple, Nat.zero_add, Nat.mod_mod]
    exact between (reached.symm.trans member)

end ShiftRun

/-! ## Characters -/

def StaysUpper (c : Char) : Prop := upperChar c = [c]

instance (c : Char) : Decidable (StaysUpper c) := inferInstanceAs (Decidable (_ = _))

/-- The letters whose upper case takes several characters, as runs of their own. -/
def expandingRuns : List ShiftRun := upperExpansions.map fun entry => ⟨entry.1, entry.1, 1, 0⟩

/-- No run leads to a code point that has another upper case, of one character or of several. -/
theorem avoids_of_mem_upperRuns {r other : ShiftRun} (inRuns : r ∈ upperRuns)
    (isOther : other ∈ expandingRuns ++ upperRuns) : r.avoids other = true := by
  have each : (upperRuns.all fun r => (expandingRuns ++ upperRuns).all r.avoids) = true := by
    decide +kernel
  exact List.all_eq_true.1 (List.all_eq_true.1 each r inRuns) other isOther

/-- Does the run lead to characters above ASCII only, or else to one letter that stays as it is? -/
def ShiftRun.leadsToCapitals (r : ShiftRun) : Bool :=
  (Nat.ble 0x80 r.imageLo &&
      (Nat.blt r.imageHi 0xD800 || (Nat.blt 0xDFFF r.imageLo && Nat.blt r.imageHi 0x110000))) ||
    (r.imageLo == r.imageHi && Nat.blt 0 r.imageLo && decide (StaysUpper (Char.ofNat r.imageLo)))

theorem leadsToCapitals_of_mem_upperRuns {r : ShiftRun} (inRuns : r ∈ upperRuns) :
    r.leadsToCapitals = true := by
  have each : (upperRuns.all ShiftRun.leadsToCapitals) = true := by decide +kernel
  exact List.all_eq_true.1 each r inRuns

theorem lookup_eq_none_of_not_covers {n : Nat}
    (missed : ∀ other ∈ expandingRuns, other.covers n = false) :
    upperExpansions.lookup n = none := by
  rw [List.lookup_eq_none_iff]
  intro entry member
  rw [bne_iff_ne]
  rintro rfl
  have notCovered := missed ⟨entry.1, entry.1, 1, 0⟩ (List.mem_map_of_mem member)
  simp [ShiftRun.covers] at notCovered

theorem staysUpper_of_covers {r : ShiftRun} {n : Nat} (inRuns : r ∈ upperRuns)
    (covers : r.covers n = true) : StaysUpper (Char.ofNat ((n : Int) + r.shift).toNat) := by
  obtain ⟨above, below⟩ := ShiftRun.bounds_of_covers covers
  have leads := leadsToCapitals_of_mem_upperRuns inRuns
  simp only [ShiftRun.leadsToCapitals, Bool.or_eq_true, Bool.and_eq_true, beq_iff_eq, Nat.ble_eq,
    Nat.blt_eq, decide_eq_true_eq] at leads
  have missed : ∀ other ∈ expandingRuns ++ upperRuns,
      other.covers ((n : Int) + r.shift).toNat = false := fun other isOther =>
    ShiftRun.not_covers_of_avoids (avoids_of_mem_upperRuns inRuns isOther) covers (by omega)
  generalize ((n : Int) + r.shift).toNat = image at *
  rcases leads with ⟨notAscii, valid⟩ | ⟨⟨single, -⟩, stays⟩
  · have toNat_eq : (Char.ofNat image).toNat = image := by
      apply toNat_ofNat_of_valid
      show image < 0xD800 ∨ 0xDFFF < image ∧ image < 0x110000
      omega
    have noImage : ShiftRun.image? upperRuns image = none := by
      rw [ShiftRun.image?, Option.map_eq_none_iff, List.find?_eq_none]
      intro other isOther
      rw [missed other (List.mem_append_right _ isOther)]
      exact Bool.false_ne_true
    have noExpansion := lookup_eq_none_of_not_covers fun other isOther =>
      missed other (List.mem_append_left _ isOther)
    rw [StaysUpper, upperChar, toNat_eq, if_neg (by omega), noExpansion, noImage]
  · obtain rfl : image = r.imageLo := by omega
    exact stays

theorem staysUpper_of_mem_upperExpansions {entry : Nat × List Nat}
    (member : entry ∈ upperExpansions) :
    ∃ n rest, entry.2 = n :: rest ∧ StaysUpper (Char.ofNat n) := by
  have each : (upperExpansions.all fun entry => entry.2.head?.any fun n =>
      decide (StaysUpper (Char.ofNat n))) = true := by decide +kernel
  have isAny := List.all_eq_true.1 each entry member
  cases isList : entry.2 with
  | nil =>
    rw [isList] at isAny
    cases isAny
  | cons n rest =>
    rw [isList] at isAny
    exact ⟨n, rest, rfl, of_decide_eq_true isAny⟩

theorem exists_upperChar_eq (c : Char) : ∃ d rest, upperChar c = d :: rest ∧ StaysUpper d := by
  rw [upperChar]
  split
  · next ascii =>
    have stays : StaysUpper c.toUpper :=
      of_ascii (motive := fun c => StaysUpper c.toUpper) (by decide +kernel) ascii
    exact ⟨_, _, rfl, stays⟩
  next notAscii =>
  split
  · next ns isFound =>
    obtain ⟨before, after, isSplit, -⟩ := List.lookup_eq_some_iff.1 isFound
    have member : (c.toNat, ns) ∈ upperExpansions := by simp [isSplit]
    obtain ⟨n, rest, rfl, stays⟩ := staysUpper_of_mem_upperExpansions member
    exact ⟨_, _, rfl, stays⟩
  next noExpansion =>
  split
  · next n isImage =>
    obtain ⟨r, isFound, rfl⟩ := Option.map_eq_some_iff.1 isImage
    have covers := List.find?_some (p := fun r : ShiftRun => r.covers c.toNat) isFound
    exact ⟨_, _, rfl, staysUpper_of_covers (List.mem_of_find?_eq_some isFound) covers⟩
  · next noImage =>
    refine ⟨c, [], rfl, ?_⟩
    rw [StaysUpper, upperChar, if_neg notAscii, noExpansion, noImage]

end TableQuery.Text
