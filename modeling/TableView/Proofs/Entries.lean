import TableView.Entries

/-!
# Ordered maps as maps

What an assignment does to the values of an ordered map, the map that is built by giving each of
some names a value of its own, and the map that is built by assignments to distinct keys.
-/

namespace TableView.Entries

variable {α : Type}

theorem get?_cons (e : String × α) (m : Entries α) (key : String) :
    get? (e :: m) key = if e.1 = key then some e.2 else get? m key := by
  rcases e with ⟨k, a⟩
  by_cases hk : k = key
  · simp [get?, hk]
  · simp [get?, List.lookup_cons, hk, beq_eq_false_iff_ne.mpr (Ne.symm hk)]

/-- A key is present exactly if it has a value. -/
theorem has_iff (m : Entries α) (key : String) : m.has key = true ↔ ∃ a, m.get? key = some a := by
  induction m with
  | nil => simp [has, get?]
  | cons e rest ih =>
    rw [get?_cons]
    by_cases he : e.1 = key
    · simp [has, he]
    · rw [if_neg he, ← ih]
      simp [has, he]

/-- The value of a key stands in an entry with the key. -/
theorem mem_of_get? {m : Entries α} {key : String} {a : α} (h : m.get? key = some a) :
    (key, a) ∈ m := by
  induction m with
  | nil => cases h
  | cons e rest ih =>
    rw [get?_cons] at h
    split at h
    · next same =>
      cases h
      exact same ▸ List.mem_cons_self
    · exact List.mem_cons_of_mem _ (ih h)

/-- An assignment gives its key the value and leaves all others as they are. -/
theorem get?_put (m : Entries α) (key other : String) (a : α) :
    (m.put key a).get? other = if key = other then some a else m.get? other := by
  induction m with
  | nil => simp only [put, get?_cons]
  | cons e rest ih =>
    simp only [put]
    split
    · next he =>
      subst he
      simp only [get?_cons]
      split <;> rfl
    · next he =>
      rw [get?_cons, get?_cons, ih]
      split
      · next ho => rw [if_neg (fun h ↦ he (ho.trans h.symm))]
      · rfl

private theorem get?_putAll_map (m : Entries α) (names : List String) (f : String → α)
    (key : String) :
    (m.putAll (names.map fun n ↦ (n, f n))).get? key =
      if key ∈ names then some (f key) else m.get? key := by
  induction names generalizing m with
  | nil => simp [putAll]
  | cons n rest ih =>
    have hp : m.putAll ((n :: rest).map fun n ↦ (n, f n)) =
        (m.put n (f n)).putAll (rest.map fun n ↦ (n, f n)) := rfl
    rw [hp, ih, get?_put]
    by_cases hn : n = key
    · subst hn
      simp
    · by_cases hr : key ∈ rest
      · simp [hr]
      · simp [hr, hn, Ne.symm hn]

/-- The map of some names to values has these names and no others. -/
theorem get?_ofList_map (names : List String) (f : String → α) (key : String) :
    (ofList (names.map fun n ↦ (n, f n))).get? key =
      if key ∈ names then some (f key) else none :=
  get?_putAll_map [] names f key

theorem has_ofList_map (names : List String) (f : String → α) (key : String) :
    (ofList (names.map fun n ↦ (n, f n))).has key = true ↔ key ∈ names := by
  rw [has_iff, get?_ofList_map]
  by_cases hk : key ∈ names <;> simp [hk]

theorem mem_of_mem_put {m : Entries α} {key : String} {a : α} {e : String × α}
    (h : e ∈ m.put key a) : e ∈ m ∨ e = (key, a) := by
  induction m with
  | nil => exact .inr (List.mem_singleton.mp h)
  | cons first rest ih =>
    rw [put] at h
    split at h
    · rcases List.mem_cons.mp h with same | h
      · exact .inr same
      · exact .inl (List.mem_cons_of_mem _ h)
    · rcases List.mem_cons.mp h with rfl | h
      · exact .inl List.mem_cons_self
      · exact (ih h).imp_left (List.mem_cons_of_mem _)

private theorem mem_of_mem_putAll {m : Entries α} {pairs : List (String × α)} {e : String × α}
    (h : e ∈ m.putAll pairs) : e ∈ m ∨ e ∈ pairs := by
  induction pairs generalizing m with
  | nil => exact .inl h
  | cons first rest ih =>
    have next : e ∈ (m.put first.1 first.2).putAll rest := h
    rcases ih next with put | later
    · rcases mem_of_mem_put put with old | rfl
      · exact .inl old
      · exact .inr List.mem_cons_self
    · exact .inr (List.mem_cons_of_mem _ later)

/-- Every entry of a map that is built by assignments was assigned. -/
theorem mem_of_mem_ofList {pairs : List (String × α)} {e : String × α} (h : e ∈ ofList pairs) :
    e ∈ pairs :=
  (mem_of_mem_putAll h).resolve_left List.not_mem_nil

theorem put_of_absent (m : Entries α) (key : String) (a : α) (h : key ∉ m.keys) :
    m.put key a = m ++ [(key, a)] := by
  induction m with
  | nil => rfl
  | cons e rest ih =>
    have he : e.1 ≠ key := fun he ↦ h (he ▸ List.mem_cons_self)
    rw [put, if_neg he, ih fun hr ↦ h (List.mem_cons_of_mem _ hr), List.cons_append]

private theorem putAll_of_distinct (m more : Entries α) (h : (keys (m ++ more)).Nodup) :
    m.putAll more = m ++ more := by
  induction more generalizing m with
  | nil => exact (List.append_nil m).symm
  | cons e rest ih =>
    have hs : m ++ e :: rest = m ++ [e] ++ rest := by simp
    have absent : e.1 ∉ m.keys := by
      rw [keys, List.map_append, List.nodup_append] at h
      exact fun hm ↦ h.2.2 _ hm _ List.mem_cons_self rfl
    rw [hs] at h ⊢
    have first : m.putAll (e :: rest) = (m.put e.1 e.2).putAll rest := rfl
    rw [first, put_of_absent m e.1 e.2 absent]
    exact ih _ h

/-- Assignments to distinct keys build the map of these assignments. -/
theorem ofList_of_distinct (m : Entries α) (h : m.keys.Nodup) : ofList m = m :=
  putAll_of_distinct [] m h

end TableView.Entries
