import Mathlib.Data.List.Basic
import Mathlib.Data.List.Induction
import Mathlib.Data.List.Nodup
import TableQuery.Assoc

/-! # Keys and their order

A key that is written again keeps the place where it was written first.  So entries that are
written one after another have their keys in the order in which they came up, which is that of all
keys without the repetitions.
-/

namespace TableQuery

/-! ## Keys in their order -/

/-- Does one key come up before another? -/
def ComesUpBefore (keys : List String) (k k' : String) : Prop := keys.idxOf k < keys.idxOf k'

section

variable {keys : List String} {k k' : String}

theorem ComesUpBefore.append (before : ComesUpBefore keys k k') (here : k ∈ keys)
    (here' : k' ∈ keys) (more : List String) : ComesUpBefore (keys ++ more) k k' := by
  rw [ComesUpBefore, List.idxOf_append_of_mem here, List.idxOf_append_of_mem here']
  exact before

theorem comesUpBefore_of_new (here : k ∈ keys) (isNew : k' ∉ keys) (more : List String) :
    ComesUpBefore (keys ++ more) k k' := by
  have within := List.idxOf_lt_length_iff.2 here
  rw [ComesUpBefore, List.idxOf_append_of_mem here, List.idxOf_append_of_notMem isNew]
  omega

theorem comesUpBefore_or (here : k ∈ keys) (differ : k ≠ k') :
    ComesUpBefore keys k k' ∨ ComesUpBefore keys k' k := by
  apply Nat.lt_or_gt_of_ne
  intro same
  exact differ ((List.idxOf_inj here).1 same)

end

/-! ## Keys without repetitions -/

theorem eraseDups_concat {κ : Type} [DecidableEq κ] (keys : List κ) (last : κ) :
    (keys ++ [last]).eraseDups =
      if last ∈ keys.eraseDups then keys.eraseDups else keys.eraseDups ++ [last] := by
  rw [List.eraseDups_append]
  by_cases known : last ∈ keys <;> simp [List.removeAll, List.eraseDups_cons, known]

theorem pairwise_eraseDups (keys : List String) :
    keys.eraseDups.Pairwise (ComesUpBefore keys) := by
  induction keys using List.reverseRecOn with
  | nil => exact .nil
  | append_singleton earlier last inductionHypothesis =>
    have before : earlier.eraseDups.Pairwise (ComesUpBefore (earlier ++ [last])) := by
      apply inductionHypothesis.imp_of_mem
      intro k k' here here' before
      exact before.append (List.mem_eraseDups.1 here) (List.mem_eraseDups.1 here') [last]
    rw [eraseDups_concat]
    by_cases known : last ∈ earlier.eraseDups
    · rw [if_pos known]
      exact before
    · rw [if_neg known, List.pairwise_append]
      refine ⟨before, List.pairwise_singleton _ _, ?_⟩
      intro k here k' isLast
      rw [List.mem_singleton.1 isLast]
      exact comesUpBefore_of_new (List.mem_eraseDups.1 here) (mt List.mem_eraseDups.2 known) _

/-! ## Entries under their keys -/

namespace Assoc

variable {κ α : Type} [DecidableEq κ]

theorem get?_eq_some_iff {key : κ} {value : α} {entries : List (κ × α)}
    (distinct : (keys entries).Nodup) :
    get? key entries = some value ↔ (key, value) ∈ entries := by
  induction entries with
  | nil => simp [get?]
  | cons e rest inductionHypothesis =>
    obtain ⟨k, v⟩ := e
    rw [keys_cons, List.nodup_cons] at distinct
    rw [get?, List.mem_cons]
    by_cases here : k = key
    · subst here
      have notLater : (k, value) ∉ rest := fun member =>
        distinct.1 (List.mem_map.2 ⟨(k, value), member, rfl⟩)
      simp [notLater, eq_comm]
    · have differ : (key, value) ≠ (k, v) := fun same => here (Prod.mk.inj same).1.symm
      simp [here, differ, inductionHypothesis distinct.2]

theorem insert_of_mem {key : κ} (value : α) {entries : List (κ × α)}
    (distinct : (keys entries).Nodup) (member : key ∈ keys entries) :
    insert key value entries = entries.map fun e => if e.1 = key then (key, value) else e := by
  induction entries with
  | nil => cases member
  | cons e rest inductionHypothesis =>
    obtain ⟨k, v⟩ := e
    rw [keys_cons, List.nodup_cons] at distinct
    rw [insert, List.map_cons]
    by_cases here : k = key
    · subst here
      have unchanged : (rest.map fun e => if e.1 = k then (k, value) else e) = rest.map id := by
        refine List.map_congr_left fun e isLater => ?_
        have differ : e.1 ≠ k := by
          rintro rfl
          exact distinct.1 (List.mem_map.2 ⟨e, isLater, rfl⟩)
        rw [if_neg differ]
        rfl
      rw [if_pos rfl, if_pos rfl, unchanged, List.map_id]
    · have later : key ∈ keys rest := (List.mem_cons.1 member).resolve_left (Ne.symm here)
      rw [if_neg here, if_neg here, inductionHypothesis distinct.2 later]

theorem ofList_append_singleton (items : List (κ × α)) (last : κ × α) :
    ofList (items ++ [last]) = insert last.1 last.2 (ofList items) := by
  rw [ofList, List.foldl_append]
  rfl

/-- Entries that are written one after another have the keys in the order in which they came up. -/
theorem keys_ofList (items : List (κ × α)) : keys (ofList items) = (keys items).eraseDups := by
  induction items using List.reverseRecOn with
  | nil => rfl
  | append_singleton items last inductionHypothesis =>
    have isAppend : keys (items ++ [last]) = keys items ++ [last.1] := List.map_append
    rw [ofList_append_singleton, keys_insert, inductionHypothesis, isAppend, eraseDups_concat]

/-- An entry that no later one has the key of is what is found under its key. -/
theorem get?_ofList_append_cons {key : κ} (value : α) {before after : List (κ × α)}
    (isLast : key ∉ keys after) :
    get? key (ofList (before ++ (key, value) :: after)) = some value := by
  induction after using List.reverseRecOn with
  | nil => rw [ofList_append_singleton, get?_insert, if_pos rfl]
  | append_singleton after last inductionHypothesis =>
    have isAppend : keys (after ++ [last]) = keys after ++ [last.1] := List.map_append
    rw [isAppend, List.mem_append, not_or, List.mem_singleton] at isLast
    rw [← List.cons_append, ← List.append_assoc, ofList_append_singleton, get?_insert,
      if_neg (Ne.symm isLast.2), inductionHypothesis isLast.1]

end Assoc

end TableQuery
