/-! # Ordered entries

Lists of keyed entries in which each key stands once and keeps the place where it was
first put: writing to a key that is present replaces its value where it stands, writing
to a new key appends an entry. The lemmas say what writing does to the keys and to the
values that are read back.
-/

namespace TableQuery.Assoc

variable {κ : Type} {α : Type} [DecidableEq κ]

def get? (key : κ) : List (κ × α) → Option α
  | [] => none
  | (k, v) :: rest => if k = key then some v else get? key rest

def insert (key : κ) (value : α) : List (κ × α) → List (κ × α)
  | [] => [(key, value)]
  | (k, v) :: rest => if k = key then (k, value) :: rest else (k, v) :: insert key value rest

def erase (key : κ) (entries : List (κ × α)) : List (κ × α) :=
  entries.filter fun e => e.1 ≠ key

def keys (entries : List (κ × α)) : List κ := entries.map Prod.fst

def ofList (entries : List (κ × α)) : List (κ × α) :=
  entries.foldl (fun acc e => insert e.1 e.2 acc) []

omit [DecidableEq κ] in
@[simp] theorem keys_nil : keys ([] : List (κ × α)) = [] := rfl

omit [DecidableEq κ] in
@[simp] theorem keys_cons (e : κ × α) (rest : List (κ × α)) :
    keys (e :: rest) = e.1 :: keys rest := rfl

theorem keys_insert (key : κ) (value : α) (entries : List (κ × α)) :
    keys (insert key value entries) =
      if key ∈ keys entries then keys entries else keys entries ++ [key] := by
  induction entries with
  | nil => simp [insert]
  | cons e rest inductionHypothesis =>
    obtain ⟨k, v⟩ := e
    by_cases isKey : k = key
    · subst isKey
      simp [insert]
    · have notKey : ¬ key = k := fun same => isKey same.symm
      simp only [insert, isKey, if_false, keys_cons, List.mem_cons, notKey, false_or,
        inductionHypothesis]
      split <;> simp

theorem nodup_keys_insert (key : κ) (value : α) {entries : List (κ × α)}
    (distinct : (keys entries).Nodup) : (keys (insert key value entries)).Nodup := by
  rw [keys_insert]
  split
  · exact distinct
  · next fresh =>
    refine List.nodup_append.2 ⟨distinct, by simp, ?_⟩
    intro other isOther new isNew same
    rw [List.mem_singleton] at isNew
    exact fresh (isNew ▸ same ▸ isOther)

theorem get?_insert (key other : κ) (value : α) (entries : List (κ × α)) :
    get? other (insert key value entries) =
      if key = other then some value else get? other entries := by
  induction entries with
  | nil => simp [insert, get?]
  | cons e rest inductionHypothesis =>
    obtain ⟨k, v⟩ := e
    by_cases isKey : k = key
    · subst isKey
      by_cases isOther : k = other <;> simp [insert, get?, isOther]
    · simp only [insert, isKey, if_false, get?, inductionHypothesis]
      by_cases isOther : k = other
      · subst isOther
        have notKey : ¬ key = k := fun same => isKey same.symm
        simp [notKey]
      · simp [isOther]

theorem nodup_keys_foldl_insert (items : List (κ × α)) {entries : List (κ × α)}
    (distinct : (keys entries).Nodup) :
    (keys (items.foldl (fun acc e => insert e.1 e.2 acc) entries)).Nodup := by
  induction items generalizing entries with
  | nil => exact distinct
  | cons e rest inductionHypothesis =>
    exact inductionHypothesis (nodup_keys_insert e.1 e.2 distinct)

theorem nodup_keys_ofList (items : List (κ × α)) : (keys (ofList items)).Nodup :=
  nodup_keys_foldl_insert items (by simp)

theorem insert_of_not_mem {key : κ} (value : α) {entries : List (κ × α)}
    (fresh : key ∉ keys entries) : insert key value entries = entries ++ [(key, value)] := by
  induction entries with
  | nil => rfl
  | cons e rest inductionHypothesis =>
    obtain ⟨k, v⟩ := e
    rw [keys_cons, List.mem_cons, not_or] at fresh
    rw [insert, if_neg (Ne.symm fresh.1), inductionHypothesis fresh.2]
    rfl

theorem foldl_insert_eq_append {items entries : List (κ × α)}
    (distinct : (keys (entries ++ items)).Nodup) :
    items.foldl (fun acc e => insert e.1 e.2 acc) entries = entries ++ items := by
  induction items generalizing entries with
  | nil => simp
  | cons e rest inductionHypothesis =>
    have fresh : e.1 ∉ keys entries := by
      rw [keys, List.map_append, List.map_cons, List.nodup_append] at distinct
      exact fun member => distinct.2.2 e.1 member e.1 List.mem_cons_self rfl
    have isAppend : entries ++ [e] ++ rest = entries ++ e :: rest := by simp
    rw [List.foldl_cons, insert_of_not_mem e.2 fresh, inductionHypothesis (by rwa [isAppend]),
      isAppend]

/-- The entries are made of their keys and the values that are found under them. -/
theorem map_keys_get? {β : Type} {entries : List (κ × α)} (distinct : (keys entries).Nodup)
    (f : κ → Option α → β) :
    (keys entries).map (fun key => f key (get? key entries)) =
      entries.map fun e => f e.1 (some e.2) := by
  induction entries with
  | nil => rfl
  | cons e rest inductionHypothesis =>
    obtain ⟨k, v⟩ := e
    rw [keys_cons, List.nodup_cons] at distinct
    rw [keys_cons, List.map_cons, List.map_cons, get?, if_pos rfl,
      ← inductionHypothesis distinct.2]
    congr 1
    refine List.map_congr_left fun key member => ?_
    have differ : k ≠ key := fun same => distinct.1 (same ▸ member)
    rw [get?, if_neg differ]

theorem ofList_eq_self {items : List (κ × α)} (distinct : (keys items).Nodup) :
    ofList items = items :=
  foldl_insert_eq_append distinct

end TableQuery.Assoc
