import TableView.RequestLog.Search

/-!
# What a pattern describes

A search term is matched by trying, with fuel for the characters of both texts. Here the same is
said without the fuel, one rule for each kind of character (`Describes`). What is tried then finds a
part of the text that the term describes if there is one (`patternOccurs_iff`). Of both only what
stands before a null character counts, and where a term has one, nothing may follow the part.
-/

namespace TableView

/-- The pattern describes the whole text: `%` stands for any text, `_` for any one character, and
every other character for itself, the letter case of ASCII letters aside. -/
inductive Describes : List Char → List Char → Prop
  | nil : Describes [] []
  | any (skipped : List Char) {pattern text : List Char} (rest : Describes pattern text) :
    Describes ('%' :: pattern) (skipped ++ text)
  | one (t : Char) {pattern text : List Char} (rest : Describes pattern text) :
    Describes ('_' :: pattern) (t :: text)
  | same {c t : Char} {pattern text : List Char} (notAny : c ≠ '%') (notOne : c ≠ '_')
    (alike : c.toLower = t.toLower) (rest : Describes pattern text) :
    Describes (c :: pattern) (t :: text)

/-- A part of the text is described by the pattern: its last part, if a null character cuts the
pattern off. -/
def Occurs (pattern text : String) : Prop :=
  ∃ before part after, beforeNull text.toList = before ++ part ++ after ∧
    Describes (beforeNull pattern.toList) part ∧ ('\x00' ∈ pattern.toList → after = [])

namespace Describes

variable {c t : Char} {pattern text rest : List Char}

private theorem nil_iff : Describes [] text ↔ text = [] := by
  constructor
  · rintro ⟨⟩
    rfl
  · rintro rfl
    exact nil

private theorem any_iff : Describes ('%' :: pattern) text ↔
    ∃ skipped rest, text = skipped ++ rest ∧ Describes pattern rest := by
  constructor
  · intro h
    cases h with
    | any skipped h => exact ⟨skipped, _, rfl, h⟩
    | same notAny => exact absurd rfl notAny
  · rintro ⟨skipped, rest, rfl, h⟩
    exact any skipped h

private theorem any_nil_iff : Describes ('%' :: pattern) [] ↔ Describes pattern [] := by
  rw [any_iff]
  constructor
  · rintro ⟨skipped, rest, split, h⟩
    obtain ⟨-, rfl⟩ := List.append_eq_nil_iff.mp split.symm
    exact h
  · exact fun h ↦ ⟨[], [], rfl, h⟩

private theorem any_cons_iff : Describes ('%' :: pattern) (t :: rest) ↔
    Describes pattern (t :: rest) ∨ Describes ('%' :: pattern) rest := by
  rw [any_iff, any_iff]
  constructor
  · rintro ⟨skipped, left, split, h⟩
    cases skipped with
    | nil =>
      rw [List.nil_append] at split
      exact .inl (split ▸ h)
    | cons d skipped =>
      obtain ⟨-, split⟩ := List.cons.inj split
      exact .inr ⟨skipped, left, split, h⟩
  · rintro (h | ⟨skipped, left, rfl, h⟩)
    · exact ⟨[], _, rfl, h⟩
    · exact ⟨t :: skipped, left, rfl, h⟩

private theorem exists_of_one (h : Describes ('_' :: pattern) text) :
    ∃ t rest, text = t :: rest ∧ Describes pattern rest := by
  cases h with
  | one t h => exact ⟨t, _, rfl, h⟩
  | same notAny notOne => exact absurd rfl notOne

private theorem exists_of_same (notAny : c ≠ '%') (notOne : c ≠ '_')
    (h : Describes (c :: pattern) text) :
    ∃ t rest, text = t :: rest ∧ c.toLower = t.toLower ∧ Describes pattern rest := by
  cases h with
  | any => exact absurd rfl notAny
  | one => exact absurd rfl notOne
  | same notAny notOne alike h => exact ⟨_, _, rfl, alike, h⟩

/-- A pattern of two parts describes a text of two parts. -/
theorem append_iff {first second : List Char} : Describes (first ++ second) text ↔
    ∃ left right, text = left ++ right ∧ Describes first left ∧ Describes second right := by
  constructor
  · intro h
    induction first generalizing text with
    | nil => exact ⟨[], text, rfl, nil, h⟩
    | cons c first ih =>
      rw [List.cons_append] at h
      cases h with
      | any skipped h =>
        obtain ⟨left, right, rfl, left', right'⟩ := ih h
        exact ⟨skipped ++ left, right, (List.append_assoc ..).symm, any skipped left', right'⟩
      | one t h =>
        obtain ⟨left, right, rfl, left', right'⟩ := ih h
        exact ⟨t :: left, right, rfl, one t left', right'⟩
      | same notAny notOne alike h =>
        obtain ⟨left, right, rfl, left', right'⟩ := ih h
        exact ⟨_ :: left, right, rfl, same notAny notOne alike left', right'⟩
  · rintro ⟨left, right, rfl, left', right'⟩
    induction left' with
    | nil => exact right'
    | any skipped h ih =>
      rw [List.append_assoc]
      exact any skipped ih
    | one t h ih => exact one t ih
    | same notAny notOne alike h ih => exact same notAny notOne alike ih

end Describes

/-- With fuel for the characters of both, trying tells whether the pattern describes the text. -/
theorem patternFits_iff {fuel : Nat} {pattern text : List Char}
    (enough : pattern.length + text.length ≤ fuel) :
    patternFits fuel pattern text = true ↔ Describes pattern text := by
  induction fuel generalizing pattern text with
  | zero =>
    obtain ⟨noPattern, noText⟩ := Nat.add_eq_zero_iff.mp (Nat.le_zero.mp enough)
    rw [List.eq_nil_of_length_eq_zero noPattern, List.eq_nil_of_length_eq_zero noText]
    exact iff_of_true rfl .nil
  | succ fuel ih =>
    cases pattern with
    | nil =>
      rw [patternFits, List.isEmpty_iff]
      exact Describes.nil_iff.symm
    | cons c pattern =>
      rw [List.length_cons] at enough
      by_cases many : c = '%'
      · subst many
        cases text with
        | nil =>
          rw [patternFits, Describes.any_nil_iff]
          exact ih (by simp only [List.length_nil] at enough ⊢; omega)
        | cons t rest =>
          rw [List.length_cons] at enough
          rw [patternFits, Bool.or_eq_true, Describes.any_cons_iff,
            ih (by rw [List.length_cons]; omega), ih (by rw [List.length_cons]; omega)]
      · cases text with
        | nil =>
          have none : patternFits (fuel + 1) (c :: pattern) [] = false := by
            rw [patternFits]
            exact many
          rw [none]
          refine iff_of_false Bool.false_ne_true fun h ↦ ?_
          by_cases single : c = '_'
          · subst single
            obtain ⟨t, rest, ⟨⟩, -⟩ := h.exists_of_one
          · obtain ⟨t, rest, ⟨⟩, -⟩ := h.exists_of_same many single
        | cons t rest =>
          rw [List.length_cons] at enough
          have rest' : patternFits fuel pattern rest = true ↔ Describes pattern rest :=
            ih (by omega)
          by_cases single : c = '_'
          · subst single
            rw [patternFits, rest']
            refine ⟨.one t, fun h ↦ ?_⟩
            obtain ⟨d, left, ⟨⟩, h⟩ := h.exists_of_one
            exact h
          · rw [patternFits, Bool.and_eq_true, beq_iff_eq, rest']
            · refine ⟨fun ⟨alike, h⟩ ↦ .same many single alike h, fun h ↦ ?_⟩
              obtain ⟨d, left, ⟨⟩, alike, h⟩ := h.exists_of_same many single
              exact ⟨alike, h⟩
            · exact many
            · exact single

private theorem beforeNull_append {cs : List Char} (h : '\x00' ∉ cs) (rest : List Char) :
    beforeNull (cs ++ rest) = cs ++ beforeNull rest := by
  refine List.takeWhile_append_of_pos fun c mem ↦ ?_
  rw [bne_iff_ne]
  rintro rfl
  exact h mem

private theorem beforeNull_append_of_mem {cs : List Char} (h : '\x00' ∈ cs) (rest : List Char) :
    beforeNull (cs ++ rest) = beforeNull cs := by
  obtain ⟨first, last, rfl, fresh⟩ := List.eq_append_cons_of_mem h
  rw [List.append_assoc, List.cons_append, beforeNull_append fresh, beforeNull_append fresh]
  rfl

/-- A pattern occurs in a text exactly if it describes a part of it. -/
theorem patternOccurs_iff (pattern text : String) :
    patternOccurs pattern text = true ↔ Occurs pattern text := by
  have around : patternOccurs pattern text = true ↔
      Describes ('%' :: beforeNull (pattern.toList ++ ['%'])) (beforeNull text.toList) :=
    patternFits_iff (Nat.le_refl _)
  rw [around, Describes.any_iff, Occurs]
  by_cases cut : '\x00' ∈ pattern.toList
  · -- Nothing stands after the pattern, so the part is at the end of the text.
    rw [beforeNull_append_of_mem cut]
    constructor
    · rintro ⟨before, part, split, here⟩
      exact ⟨before, part, [], by rw [split, List.append_nil], here, fun _ ↦ rfl⟩
    · rintro ⟨before, part, after, split, here, last⟩
      rw [last cut, List.append_nil] at split
      exact ⟨before, part, split, here⟩
  · have whole : beforeNull pattern.toList = pattern.toList := by
      have same := beforeNull_append cut []
      rwa [List.append_nil, show beforeNull [] = [] from rfl, List.append_nil] at same
    rw [beforeNull_append cut, whole]
    constructor
    · rintro ⟨before, rest, split, h⟩
      obtain ⟨part, after, rfl, here, -⟩ := Describes.append_iff.mp h
      exact ⟨before, part, after, by rw [split, List.append_assoc], here, fun h ↦ absurd h cut⟩
    · rintro ⟨before, part, after, split, here, -⟩
      refine ⟨before, part ++ after, by rw [split, List.append_assoc], ?_⟩
      have last : Describes ['%'] after := List.append_nil after ▸ .any after .nil
      exact Describes.append_iff.mpr ⟨part, after, rfl, here, last⟩

end TableView
