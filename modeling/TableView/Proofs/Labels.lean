import Mathlib.Data.List.Infix
import TableView.Labels
import TableView.Proofs.Entries
import TableView.Proofs.Text.Trim

/-!
# Labels read back

The text of labels has no way to write a separator inside a name or a label, and reading trims both.
What is read is therefore always plain (`plain_of_mem_pairs`): no commas, no arrow in a name,
nothing to trim. Labels that are plain come back as they were, in the same order, and no others do
(`decode_encode_iff`). An arrow in a label does no harm, since a pair is split at its first one.
-/

namespace TableView.Labels

/-- A name and a label that their text shows as they are. -/
structure Plain (e : String × String) : Prop where
  name_comma : ',' ∉ e.1.toList
  label_comma : ',' ∉ e.2.toList
  name_arrow : ¬ arrow <:+: e.1.toList
  name_trimmed : Text.trim e.1 = e.1
  label_trimmed : Text.trim e.2 = e.2

instance (e : String × String) : Decidable (Plain e) :=
  decidable_of_iff ((',' ∉ e.1.toList ∧ ',' ∉ e.2.toList) ∧ ¬ arrow <:+: e.1.toList ∧
      Text.trim e.1 = e.1 ∧ Text.trim e.2 = e.2)
    ⟨fun ⟨⟨name, label⟩, arrow, trimmed, trimmed'⟩ ↦ ⟨name, label, arrow, trimmed, trimmed'⟩,
      fun h ↦ ⟨⟨h.name_comma, h.label_comma⟩, h.name_arrow, h.name_trimmed, h.label_trimmed⟩⟩

/-! ### Parts -/

private theorem not_mem_of_mem_splitOn {cs part : List Char} {c : Char}
    (h : part ∈ cs.splitOn c) : c ∉ part := by
  induction cs generalizing part with
  | nil =>
    rw [List.splitOn_nil, List.mem_singleton] at h
    exact h ▸ List.not_mem_nil
  | cons d rest ih =>
    rw [List.splitOn_cons_eq_if_modifyHead] at h
    split at h
    · rcases List.mem_cons.mp h with rfl | h
      · exact List.not_mem_nil
      · exact ih h
    · next other =>
      -- The first part of the rest is continued by a character that does not separate.
      cases parts : rest.splitOn c with
      | nil => exact absurd parts (List.splitOn_ne_nil c rest)
      | cons first more =>
        rw [parts] at h ih
        rcases List.mem_cons.mp h with rfl | h
        · intro mem
          rcases List.mem_cons.mp mem with rfl | mem
          · exact other (beq_self_eq_true _)
          · exact ih List.mem_cons_self mem
        · exact ih (List.mem_cons_of_mem _ h)

private theorem not_starts_arrow {c : Char} {name rest : List Char}
    (h : ¬ arrow <+: c :: (name ++ arrow ++ rest)) : ¬ arrow <+: c :: name := by
  intro starts
  rw [List.append_assoc] at h
  exact h (starts.trans (List.prefix_append (c :: name) (arrow ++ rest)))

/-- A pair is split at its first arrow. -/
theorem splitArrow_eq_some_iff (cs name label : List Char) :
    splitArrow cs = some (name, label) ↔ cs = name ++ arrow ++ label ∧ ¬ arrow <:+: name := by
  induction cs generalizing name with
  | nil => simp [splitArrow, arrow]
  | cons c rest ih =>
    rw [splitArrow]
    split
    · next starts =>
      obtain ⟨more, same⟩ := List.isPrefixOf_iff_prefix.mp starts
      cases same
      constructor
      · rintro ⟨⟩
        exact ⟨rfl, by decide⟩
      · rintro ⟨same, free⟩
        -- A name of one character would put a second '=' before the '>' of the arrow.
        match name, same with
        | [], same =>
          cases same
          rfl
        | [d], same => cases same
        | d :: e :: name, same =>
          cases same
          exact absurd ⟨[], name, rfl⟩ free
    · next apart =>
      have apart : ¬ arrow <+: c :: rest := fun h ↦ apart (List.isPrefixOf_iff_prefix.mpr h)
      rw [Option.map_eq_some_iff]
      constructor
      · rintro ⟨⟨name, label⟩, found, ⟨⟩⟩
        obtain ⟨rfl, free⟩ := (ih name).mp found
        refine ⟨rfl, fun within ↦ ?_⟩
        exact (List.infix_cons_iff.mp within).elim (not_starts_arrow apart) free
      · rintro ⟨same, free⟩
        cases name with
        | nil => exact absurd ⟨label, same.symm⟩ apart
        | cons d name =>
          cases same
          refine ⟨(name, label), (ih name).mpr ⟨rfl, fun within ↦ free ?_⟩, rfl⟩
          exact within.trans (List.suffix_cons c name).isInfix

/-! ### What is read -/

private theorem plain_of_parts {part name label : List Char} (comma : ',' ∉ part)
    (split : splitArrow part = some (name, label)) :
    Plain (String.ofList (Text.trimBy Text.isBlank name),
      String.ofList (Text.trimBy Text.isBlank label)) := by
  obtain ⟨rfl, free⟩ := (splitArrow_eq_some_iff part name label).mp split
  have name' := Text.trimBy_infix Text.isBlank name
  have label' := Text.trimBy_infix Text.isBlank label
  constructor
  · rw [String.toList_ofList]
    exact fun mem ↦ comma (List.mem_append_left _ (List.mem_append_left _ (name'.mem mem)))
  · rw [String.toList_ofList]
    exact fun mem ↦ comma (List.mem_append_right _ (label'.mem mem))
  · rw [String.toList_ofList]
    exact fun within ↦ free (within.trans name')
  · rw [Text.trim, String.toList_ofList, Text.trimBy_trimBy]
  · rw [Text.trim, String.toList_ofList, Text.trimBy_trimBy]

/-- Whatever text is read, its pairs are plain. -/
theorem plain_of_mem_pairs {cs : List Char} {e : String × String} (h : e ∈ pairs cs) :
    Plain e := by
  obtain ⟨part, mem, found⟩ := List.mem_filterMap.mp h
  obtain ⟨⟨name, label⟩, split, rfl⟩ := Option.map_eq_some_iff.mp found
  exact plain_of_parts (not_mem_of_mem_splitOn mem) split

/-! ### What is written -/

/-- The text of one pair. -/
def pairText (e : String × String) : List Char := e.1.toList ++ arrow ++ e.2.toList

private theorem toList_encode (m : Entries String) :
    (encode m).toList = [','].intercalate (m.map pairText) := by
  have text (e : String × String) :
      (e.1 ++ String.ofList arrow ++ e.2).toList = pairText e := by
    rw [String.toList_append, String.toList_append, String.toList_ofList, pairText]
  rw [encode, String.toList_intercalate, List.map_map]
  exact congrArg _ (List.map_congr_left fun e _ ↦ text e)

private theorem comma_not_mem_pairText {e : String × String} (h : Plain e) :
    ',' ∉ pairText e := by
  have arrow' : ',' ∉ arrow := by decide
  simp only [pairText, List.mem_append, not_or]
  exact ⟨⟨h.name_comma, arrow'⟩, h.label_comma⟩

private theorem splitArrow_pairText {e : String × String} (h : Plain e) :
    splitArrow (pairText e) = some (e.1.toList, e.2.toList) :=
  (splitArrow_eq_some_iff _ _ _).mpr ⟨rfl, h.name_arrow⟩

/-- Plain labels are read pair by pair as they were written. -/
theorem pairs_encode {m : Entries String} (plain : ∀ e ∈ m, Plain e) :
    pairs (encode m).toList = m := by
  cases m with
  | nil => rfl
  | cons first rest =>
    have parts : (encode (first :: rest)).toList.splitOn ',' = (first :: rest).map pairText := by
      rw [toList_encode]
      refine List.splitOn_intercalate ',' (fun part mem ↦ ?_) (List.cons_ne_nil _ _)
      obtain ⟨e, he, rfl⟩ := List.mem_map.mp mem
      exact comma_not_mem_pairText (plain e he)
    rw [pairs, parts, List.filterMap_map]
    refine Eq.trans (List.filterMap_congr fun e he ↦ ?_) List.filterMap_some
    simp only [Function.comp, splitArrow_pairText (plain e he), Option.map_some]
    exact congrArg some (Prod.ext (plain e he).name_trimmed (plain e he).label_trimmed)

/-- Labels come back from their text, in the same order, exactly if no name and no label holds a
comma, no name holds an arrow, and none of them is changed by trimming. -/
theorem decode_encode_iff (m : Entries String) (distinct : m.keys.Nodup) :
    decode (encode m) = m ↔ ∀ e ∈ m, Plain e := by
  constructor
  · intro same e mem
    rw [← same, decode] at mem
    exact plain_of_mem_pairs (Entries.mem_of_mem_ofList mem)
  · intro plain
    rw [decode, pairs_encode plain, Entries.ofList_of_distinct m distinct]

/-- Names that end like an arrow starts, labels that start like one ends, and empty ones. -/
theorem decode_encode_touching :
    let m : Entries String := [("Name=", ">Account name"), ("Id", "a=>b"), ("", "")]
    m.keys.Nodup ∧ decode (encode m) = m :=
  ⟨by decide, (decode_encode_iff _ (by decide)).mpr (by decide +kernel)⟩

end TableView.Labels
