/-!
Values under text keys, kept in ascending order of the keys. Inserting and erasing change what is
found under their own key and nothing else.
-/

namespace RuleTree

abbrev Entries (α : Type) := List (String × α)

namespace Entries

variable {α : Type}

/-- The value of the first entry with the given key. -/
def get? (key : String) : List (String × α) → Option α
  | [] => none
  | (k, v) :: rest => if k = key then some v else get? key rest

/-- Puts a value in its place, for the one that was there under the same key. -/
def insert (key : String) (value : α) : List (String × α) → List (String × α)
  | [] => [(key, value)]
  | (k, v) :: rest =>
    if key < k then (key, value) :: (k, v) :: rest
    else if k < key then (k, v) :: insert key value rest
    else (key, value) :: rest

def erase (key : String) (entries : List (String × α)) : List (String × α) :=
  entries.filter fun (k, _) => k ≠ key

/-- The entries in ascending order; of entries with the same key the last one counts. -/
def ofList (entries : List (String × α)) : List (String × α) :=
  entries.foldl (fun sorted (k, v) => insert k v sorted) []

@[simp] theorem get?_nil (key : String) : get? key ([] : List (String × α)) = none := rfl

@[simp] theorem get?_cons (key k : String) (v : α) (rest : List (String × α)) :
    get? key ((k, v) :: rest) = if k = key then some v else get? key rest := rfl

theorem get?_append (key : String) (before after : List (String × α)) :
    get? key (before ++ after) = (get? key before).or (get? key after) := by
  induction before with
  | nil => rfl
  | cons e rest ih =>
    obtain ⟨k, v⟩ := e
    by_cases h : k = key <;> simp [h, ih]

theorem get?_eq_none {key : String} {entries : List (String × α)}
    (h : key ∉ entries.map Prod.fst) : get? key entries = none := by
  induction entries with
  | nil => rfl
  | cons e rest ih =>
    obtain ⟨k, v⟩ := e
    rw [List.map_cons, List.mem_cons, not_or] at h
    rw [get?_cons, if_neg (Ne.symm h.1), ih h.2]

@[simp] theorem get?_insert_self (key : String) (value : α) (entries : List (String × α)) :
    get? key (insert key value entries) = some value := by
  induction entries with
  | nil => simp [insert]
  | cons e rest ih =>
    obtain ⟨k, v⟩ := e
    unfold insert
    split
    · simp
    · split
      · have : k ≠ key := by rintro rfl; exact String.lt_irrefl _ ‹_›
        simp [this, ih]
      · simp

@[simp] theorem get?_insert_of_ne {key other : String} (h : key ≠ other) (value : α)
    (entries : List (String × α)) :
    get? other (insert key value entries) = get? other entries := by
  induction entries with
  | nil => simp [insert, h]
  | cons e rest ih =>
    obtain ⟨k, v⟩ := e
    unfold insert
    split
    · simp [h]
    · split
      · simp [ih]
      · have : k = key := String.le_antisymm (String.not_lt.1 ‹_›) (String.not_lt.1 ‹_›)
        simp [this, h]

@[simp] theorem get?_erase_self (key : String) (entries : List (String × α)) :
    get? key (erase key entries) = none := by
  induction entries with
  | nil => rfl
  | cons e rest ih =>
    obtain ⟨k, v⟩ := e
    by_cases h : k = key <;> simp_all [erase]

@[simp] theorem get?_erase_of_ne {key other : String} (h : key ≠ other)
    (entries : List (String × α)) :
    get? other (erase key entries) = get? other entries := by
  induction entries with
  | nil => rfl
  | cons e rest ih =>
    obtain ⟨k, v⟩ := e
    by_cases hk : k = key
    · subst hk; simp_all [erase]
    · by_cases ho : k = other <;> simp_all [erase]

theorem isSome_get?_iff {key : String} {entries : List (String × α)} :
    (get? key entries).isSome = true ↔ key ∈ entries.map Prod.fst := by
  induction entries with
  | nil => simp
  | cons e rest ih =>
    obtain ⟨k, v⟩ := e
    by_cases h : k = key
    · simp [h]
    · simp [h, Ne.symm h, ih]

theorem mem_insert {key : String} {value : α} {entries : List (String × α)} {e : String × α}
    (h : e ∈ insert key value entries) : e = (key, value) ∨ e ∈ entries := by
  induction entries with
  | nil => simpa [insert] using h
  | cons first rest ih =>
    obtain ⟨k, v⟩ := first
    unfold insert at h
    split at h
    · exact List.mem_cons.mp h
    · split at h
      · rcases List.mem_cons.mp h with rfl | hr
        · exact .inr List.mem_cons_self
        · exact (ih hr).imp_right (List.mem_cons_of_mem _)
      · exact (List.mem_cons.mp h).imp_right (List.mem_cons_of_mem _)

/-! Keys that ascend: each of them stands there once. -/

def Ascending (entries : List (String × α)) : Prop :=
  (entries.map Prod.fst).Pairwise (· < ·)

theorem ascending_cons_iff {key : String} {value : α} {rest : List (String × α)} :
    Ascending ((key, value) :: rest) ↔ (∀ e ∈ rest, key < e.1) ∧ Ascending rest := by
  simp [Ascending]

theorem Ascending.insert {entries : List (String × α)} (h : Ascending entries) (key : String)
    (value : α) : Ascending (insert key value entries) := by
  induction entries with
  | nil => simp [Ascending, Entries.insert]
  | cons e rest ih =>
    obtain ⟨k, v⟩ := e
    obtain ⟨hfirst, hrest⟩ := ascending_cons_iff.mp h
    unfold Entries.insert
    split
    next hlt =>
      refine ascending_cons_iff.mpr ⟨fun e he => ?_, h⟩
      rcases List.mem_cons.mp he with rfl | hm
      · exact hlt
      · exact String.lt_trans hlt (hfirst e hm)
    next hnot =>
      split
      next hlt =>
        refine ascending_cons_iff.mpr ⟨fun e he => ?_, ih hrest⟩
        rcases mem_insert he with rfl | hm
        · exact hlt
        · exact hfirst e hm
      next hnot' =>
        obtain rfl : k = key := String.le_antisymm (String.not_lt.1 hnot) (String.not_lt.1 hnot')
        exact ascending_cons_iff.mpr ⟨hfirst, hrest⟩

theorem Ascending.erase {entries : List (String × α)} (h : Ascending entries) (key : String) :
    Ascending (erase key entries) :=
  List.Pairwise.sublist (List.Sublist.map _ List.filter_sublist) h

theorem Ascending.get?_eq_some_iff {entries : List (String × α)} (h : Ascending entries)
    {key : String} {value : α} : get? key entries = some value ↔ (key, value) ∈ entries := by
  induction entries with
  | nil => simp
  | cons e rest ih =>
    obtain ⟨k, v⟩ := e
    obtain ⟨hfirst, hrest⟩ := ascending_cons_iff.mp h
    rw [get?_cons, List.mem_cons, Prod.mk.injEq, ← ih hrest]
    by_cases hk : k = key
    · subst hk
      have hnone : get? k rest = none := by
        refine get?_eq_none fun hm => ?_
        obtain ⟨e, he, hek⟩ := List.mem_map.mp hm
        exact String.lt_irrefl k (hek ▸ hfirst e he)
      simp [hnone, eq_comm]
    · simp [hk, Ne.symm hk]

end Entries

end RuleTree
