import TableQuery.Proofs.Text.Lower

/-! # The lower case of a part of a text

The lower case of a part depends on what surrounds it, but through its capital sigmas only:
a sigma that ends a word becomes `ς`, any other one `σ`.  So a part in lower case is found
in every text around it just if nothing that surrounds the part can begin or end a word at
one of its sigmas (`lower_infix_iff`).
-/

namespace TableQuery.Text

/-! ## Within surroundings -/

/-- Does a capital sigma between the two texts end a word? -/
def endsWord (left right : List Char) : Bool := meetsCased left.reverse && !meetsCased right

/-- The lower case of a character between the two texts. -/
def lowerAt (left : List Char) (c : Char) (right : List Char) : List Char :=
  if c == capitalSigma then if endsWord left right then ['ς'] else ['σ'] else lowerChar c

/-- The lower case of a part of a text, between what is before it and what is after it. -/
def lowerWithin (before after : List Char) : List Char → List Char
  | [] => []
  | c :: rest => lowerAt before c (rest ++ after) ++ lowerWithin (before ++ [c]) after rest

theorem lowerAt_of_ne {c : Char} (notSigma : c ≠ capitalSigma) (left right : List Char) :
    lowerAt left c right = lowerChar c := by
  simp [lowerAt, notSigma]

theorem lowerAt_sigma (left right : List Char) :
    lowerAt left capitalSigma right = if endsWord left right then ['ς'] else ['σ'] := by
  simp [lowerAt]

theorem lowerFrom_reverse (before s : List Char) :
    lowerFrom before.reverse s = lowerWithin before [] s := by
  induction s generalizing before with
  | nil => rfl
  | cons c rest inductionHypothesis =>
    have further : c :: before.reverse = (before ++ [c]).reverse := by simp
    rw [lowerFrom, lowerWithin, further, inductionHypothesis, List.append_nil]
    rfl

theorem lower_eq_lowerWithin (s : List Char) : lower s = lowerWithin [] [] s :=
  lowerFrom_reverse [] s

theorem lowerWithin_append (before after s t : List Char) :
    lowerWithin before after (s ++ t) =
      lowerWithin before (t ++ after) s ++ lowerWithin (before ++ s) after t := by
  induction s generalizing before with
  | nil => simp [lowerWithin]
  | cons c s inductionHypothesis =>
    simp only [List.cons_append, lowerWithin, inductionHypothesis, List.append_assoc,
      List.nil_append]

/-- The lower case of a text holds that of each part within its surroundings. -/
theorem lowerWithin_infix (before s after : List Char) :
    lowerWithin before after s <:+: lower (before ++ s ++ after) := by
  rw [lower_eq_lowerWithin, lowerWithin_append, lowerWithin_append]
  simp only [List.nil_append, List.append_nil]
  exact List.infix_append _ _ _

theorem lowerWithin_congr {before after before' after' s : List Char}
    (same : ∀ left right, s = left ++ capitalSigma :: right →
      endsWord (before ++ left) (right ++ after) = endsWord (before' ++ left) (right ++ after')) :
    lowerWithin before after s = lowerWithin before' after' s := by
  induction s generalizing before before' with
  | nil => rfl
  | cons c rest inductionHypothesis =>
    have here : lowerAt before c (rest ++ after) = lowerAt before' c (rest ++ after') := by
      by_cases isSigma : c = capitalSigma
      · subst isSigma
        have alike := same [] rest rfl
        rw [List.append_nil, List.append_nil] at alike
        rw [lowerAt_sigma, lowerAt_sigma, alike]
      · rw [lowerAt_of_ne isSigma, lowerAt_of_ne isSigma]
    rw [lowerWithin, lowerWithin, here]
    congr 1
    apply inductionHypothesis
    intro left right split
    have alike := same (c :: left) right (by rw [split, List.cons_append])
    simpa only [List.append_assoc, List.singleton_append] using alike

/-! ## Counting sigmas -/

theorem count_lowerAt_sigma (left right : List Char) :
    (lowerAt left capitalSigma right).count 'ς' = (endsWord left right).toNat ∧
      (lowerAt left capitalSigma right).count 'σ' = (!endsWord left right).toNat := by
  rw [lowerAt_sigma]
  cases endsWord left right <;> decide

/-- Do all sigmas of the text that end a word in the one surroundings end one in the other? -/
def EndsMore (before after before' after' s : List Char) : Prop :=
  ∀ left right, s = left ++ capitalSigma :: right →
    endsWord (before ++ left) (right ++ after) = true →
    endsWord (before' ++ left) (right ++ after') = true

namespace EndsMore

variable {before after before' after' : List Char}

theorem append_left {s t : List Char} (more : EndsMore before after before' after' (s ++ t)) :
    EndsMore before (t ++ after) before' (t ++ after') s := by
  intro left right split
  have here := more left (right ++ t) (by rw [split]; simp)
  simpa only [List.append_assoc] using here

theorem append_right {s t : List Char} (more : EndsMore before after before' after' (s ++ t)) :
    EndsMore (before ++ s) after (before' ++ s) after' t := by
  intro left right split
  have here := more (s ++ left) right (by rw [split, List.append_assoc])
  simpa only [List.append_assoc] using here

theorem tail {c : Char} {s : List Char} (more : EndsMore before after before' after' (c :: s)) :
    EndsMore (before ++ [c]) after (before' ++ [c]) after' s := by
  have split : EndsMore before after before' after' ([c] ++ s) := more
  exact split.append_right

/-- Where more sigmas end a word, there are no fewer `ς` and no more `σ`. -/
theorem count_le {s : List Char} (more : EndsMore before after before' after' s) :
    (lowerWithin before after s).count 'ς' ≤ (lowerWithin before' after' s).count 'ς' ∧
      (lowerWithin before' after' s).count 'σ' ≤ (lowerWithin before after s).count 'σ' := by
  induction s generalizing before before' with
  | nil => exact ⟨Nat.le_refl _, Nat.le_refl _⟩
  | cons c rest inductionHypothesis =>
    have later := inductionHypothesis more.tail
    simp only [lowerWithin, List.count_append]
    by_cases isSigma : c = capitalSigma
    · subst isSigma
      have here := more [] rest rfl
      simp only [List.append_nil] at here
      have counts := count_lowerAt_sigma before (rest ++ after)
      have counts' := count_lowerAt_sigma before' (rest ++ after')
      cases ends : endsWord before (rest ++ after) with
      | true =>
        rw [ends] at counts
        rw [here ends] at counts'
        omega
      | false =>
        have atMost := Bool.toNat_le (!endsWord before' (rest ++ after'))
        rw [ends] at counts
        simp only [Bool.toNat_false, Bool.not_false, Bool.toNat_true] at counts
        omega
    · rw [lowerAt_of_ne isSigma, lowerAt_of_ne isSigma]
      omega

theorem count_lt {left right : List Char}
    (more : EndsMore before after before' after' (left ++ capitalSigma :: right))
    (noEnd : endsWord (before ++ left) (right ++ after) = false)
    (ends : endsWord (before' ++ left) (right ++ after') = true) :
    (lowerWithin before after (left ++ capitalSigma :: right)).count 'ς' <
        (lowerWithin before' after' (left ++ capitalSigma :: right)).count 'ς' ∧
      (lowerWithin before' after' (left ++ capitalSigma :: right)).count 'σ' <
        (lowerWithin before after (left ++ capitalSigma :: right)).count 'σ' := by
  have ahead := more.append_left.count_le
  have behind := more.append_right.tail.count_le
  have counts := count_lowerAt_sigma (before ++ left) (right ++ after)
  have counts' := count_lowerAt_sigma (before' ++ left) (right ++ after')
  rw [noEnd] at counts
  rw [ends] at counts'
  simp only [Bool.toNat_false, Bool.toNat_true, Bool.not_false, Bool.not_true] at counts counts'
  simp only [lowerWithin_append, lowerWithin, List.count_append]
  omega

end EndsMore

/-! ## Sigmas that are settled -/

theorem meetsCased_append_of_meetsCased {s : List Char} (cased : meetsCased s = true)
    (more : List Char) : meetsCased (s ++ more) = true := by
  rw [meetsCased_append]
  split
  · next ignorable =>
    rw [meetsCased_of_ignorable ignorable] at cased
    cases cased
  · exact cased

theorem endsWord_append (before left right after : List Char) :
    endsWord (before ++ left) (right ++ after) =
      ((if left.all isCaseIgnorable then meetsCased before.reverse else meetsCased left.reverse) &&
        !(if right.all isCaseIgnorable then meetsCased after else meetsCased right)) := by
  rw [endsWord, List.reverse_append, meetsCased_append, meetsCased_append, List.all_reverse]

theorem endsWord_of_append {left right after : List Char}
    (ends : endsWord left (right ++ after) = true) : endsWord left right = true := by
  simp only [endsWord, Bool.and_eq_true, Bool.not_eq_true'] at ends ⊢
  refine ⟨ends.1, Bool.eq_false_iff.2 fun cased => ?_⟩
  rw [meetsCased_append_of_meetsCased cased] at ends
  cases ends.2

theorem endsWord_append_left {left right : List Char} (ends : endsWord left right = true)
    (before : List Char) : endsWord (before ++ left) right = true := by
  simp only [endsWord, Bool.and_eq_true, List.reverse_append] at ends ⊢
  exact ⟨meetsCased_append_of_meetsCased ends.1 _, ends.2⟩

theorem endsMore_before (before s : List Char) : EndsMore [] [] before [] s :=
  fun _ _ _ ends => endsWord_append_left ends before

theorem endsMore_without (after s : List Char) : EndsMore [] after [] [] s := by
  intro left right _ ends
  rw [List.append_nil]
  exact endsWord_of_append ends

/-- Does a capital sigma between the two texts become the same, whatever surrounds them? -/
def IsSettled (left right : List Char) : Prop :=
  ∀ before after, endsWord (before ++ left) (right ++ after) = endsWord left right

theorem isSettled_iff {left right : List Char} :
    IsSettled left right ↔
      endsWord left (right ++ ['a']) = endsWord left right ∧
        endsWord ('a' :: left) right = endsWord left right := by
  constructor
  · intro settled
    have behind := settled [] ['a']
    have ahead := settled ['a'] []
    rw [List.append_nil] at ahead
    exact ⟨behind, ahead⟩
  · rintro ⟨behind, ahead⟩ before after
    have alone := endsWord_append [] left right []
    have followed := endsWord_append [] left right ['a']
    have preceded := endsWord_append ['a'] left right []
    have letter : meetsCased ['a'] = true := by decide
    have nothing : meetsCased [] = false := rfl
    simp only [List.nil_append, List.append_nil, List.singleton_append, List.reverse_nil,
      List.reverse_singleton, letter, nothing] at alone followed preceded
    rw [alone] at behind ahead
    rw [followed] at behind
    rw [preceded] at ahead
    rw [endsWord_append, alone]
    generalize left.all isCaseIgnorable = lookedThroughLeft at behind ahead ⊢
    generalize right.all isCaseIgnorable = lookedThroughRight at behind ahead ⊢
    cases lookedThroughLeft <;> cases lookedThroughRight <;> simp_all

instance (left right : List Char) : Decidable (IsSettled left right) :=
  decidable_of_iff _ isSettled_iff.symm

/-- A sigma before a letter or behind a digit is settled, one at the end of a word is not. -/
example : IsSettled ['Μ', 'Ε'] ['Η'] ∧ IsSettled ['7'] [] ∧ ¬ IsSettled ['Α'] [] := by
  decide +kernel

/-! ## Parts that are found everywhere -/

/-- A part is found in lower case where its sigmas end words just as they do in the part alone. -/
theorem lower_infix_of_endsWord_eq {before s after : List Char}
    (same : ∀ left right, s = left ++ capitalSigma :: right →
      endsWord (before ++ left) (right ++ after) = endsWord left right) :
    lower s <:+: lower (before ++ s ++ after) := by
  have alone : lower s = lowerWithin before after s := by
    rw [lower_eq_lowerWithin]
    apply lowerWithin_congr
    intro left right split
    rw [List.nil_append, List.append_nil, same left right split]
  rw [alone]
  exact lowerWithin_infix before s after

theorem lower_append_a (s : List Char) : lower (s ++ ['a']) = lowerWithin [] ['a'] s ++ ['a'] := by
  rw [lower_eq_lowerWithin, lowerWithin_append, lowerWithin, lowerAt_of_ne (by decide), lowerWithin]
  rfl

theorem lower_a_cons (s : List Char) : lower ('a' :: s) = 'a' :: lowerWithin ['a'] [] s := by
  rw [lower_eq_lowerWithin, lowerWithin, lowerAt_of_ne (by decide)]
  rfl

/-- A `ς` of a part is missed where a letter behind the part turns it into `σ`. -/
theorem not_infix_lower_append_a {left right : List Char} (ends : endsWord left right = true)
    (followed : endsWord left (right ++ ['a']) = false) :
    ¬ lower (left ++ capitalSigma :: right) <:+:
      lower (left ++ capitalSigma :: right ++ ['a']) := by
  intro found
  have fewer := (endsMore_without ['a'] _).count_lt followed
    (by rw [List.nil_append, List.append_nil, ends])
  have atMost := found.sublist.count_le 'ς'
  rw [lower_append_a, lower_eq_lowerWithin, List.count_append] at atMost
  have ofLetter : ['a'].count 'ς' = 0 := by decide
  omega

/-- A `σ` of a part is missed where a letter before the part turns it into `ς`. -/
theorem not_infix_lower_a_cons {left right : List Char} (noEnd : endsWord left right = false)
    (preceded : endsWord ('a' :: left) right = true) :
    ¬ lower (left ++ capitalSigma :: right) <:+:
      lower ('a' :: (left ++ capitalSigma :: right)) := by
  intro found
  have fewer := (endsMore_before ['a'] (left ++ capitalSigma :: right)).count_lt
    (by rw [List.nil_append, List.append_nil, noEnd]) (by rw [List.append_nil]; exact preceded)
  have atMost := found.sublist.count_le 'σ'
  rw [lower_a_cons, lower_eq_lowerWithin, List.count_cons_of_ne (by decide)] at atMost
  omega

/-- A text is found in lower case in every text that holds it just if its sigmas are settled. -/
theorem lower_infix_iff {s : List Char} :
    (∀ before after, lower s <:+: lower (before ++ s ++ after)) ↔
      ∀ left right, s = left ++ capitalSigma :: right → IsSettled left right := by
  constructor
  · rintro found left right rfl
    rw [isSettled_iff]
    constructor
    · cases ends : endsWord left right with
      | false =>
        by_contra followed
        rw [endsWord_of_append (Bool.eq_true_of_not_eq_false followed)] at ends
        contradiction
      | true =>
        by_contra followed
        exact not_infix_lower_append_a ends (Bool.eq_false_of_not_eq_true followed)
          (found [] ['a'])
    · cases ends : endsWord left right with
      | false =>
        by_contra preceded
        have foundBehind := found ['a'] []
        rw [List.append_nil] at foundBehind
        exact not_infix_lower_a_cons ends (Bool.eq_true_of_not_eq_false preceded) foundBehind
      | true => exact endsWord_append_left ends ['a']
  · intro settled before after
    exact lower_infix_of_endsWord_eq fun left right split => settled left right split before after

end TableQuery.Text
