import TableView.Proofs.Number.Text

/-!
# Binary numbers are not written like integers

The text of a binary number shows what kind of number it is: it has a point or an exponent, or it is
one of the words for what is no finite number, and all of these have an `n`. The text of an integer
has digits and a sign only, so the two are never the same (`Binary64.text_ne_int`), not even for a
whole number.
-/

namespace TableView.Number

private theorem mem_toString_int {n : Int} {c : Char} (h : c ∈ (toString n).toList) :
    c.isDigit = true ∨ c = '-' := by
  have digit {d : Char} (mem : d ∈ Nat.toDigits 10 n.natAbs) : d.isDigit = true :=
    Nat.isDigit_of_mem_toDigits (by decide) (by decide) mem
  rw [toList_toString_int] at h
  split at h
  · rcases List.mem_cons.mp h with rfl | h
    · exact .inr rfl
    · exact .inl (digit h)
  · exact .inl (digit h)

private theorem point_mem_positional (d : DecimalDigits) : '.' ∈ d.positional := by
  unfold DecimalDigits.positional
  extract_lets n
  split
  · simp
  · split
    · simp
    · simp

private theorem exponent_mem_scientific (d : DecimalDigits) : 'e' ∈ d.scientific := by
  unfold DecimalDigits.scientific
  extract_lets exponent sign power fraction
  simp

namespace Binary64

/-- What the text of a binary number has, and the text of an integer has not. -/
private def marks : List Char := ['.', 'e', 'n']

private theorem exists_mark_of_magnitude (significand : Nat) (exponent : Int) :
    ∃ c ∈ marks, c ∈ magnitudeText significand exponent := by
  unfold magnitudeText
  split
  · exact ⟨'.', by decide, by decide⟩
  · extract_lets d
    split
    · exact ⟨'.', by decide, point_mem_positional d⟩
    · exact ⟨'e', by decide, exponent_mem_scientific d⟩

private theorem exists_mark (x : Binary64) : ∃ c ∈ marks, c ∈ x.text.toList := by
  cases x with
  | finite negative significand exponent =>
    obtain ⟨c, mark, mem⟩ := exists_mark_of_magnitude significand exponent
    rw [text, String.toList_ofList]
    exact ⟨c, mark, List.mem_append_right _ mem⟩
  | infinite negative =>
    refine ⟨'n', by decide, ?_⟩
    cases negative with
    | true => decide
    | false => decide
  | nan => exact ⟨'n', by decide, by decide⟩

/-- No binary number is written like an integer. -/
theorem text_ne_int (x : Binary64) (n : Int) : x.text ≠ toString n := by
  intro same
  obtain ⟨c, mark, mem⟩ := exists_mark x
  rw [same] at mem
  have cases : c = '.' ∨ c = 'e' ∨ c = 'n' := by simpa [marks] using mark
  have neither : ¬ (c.isDigit = true ∨ c = '-') := by
    rcases cases with rfl | rfl | rfl
    · decide
    · decide
    · decide
  exact neither (mem_toString_int mem)

end Binary64

end TableView.Number
