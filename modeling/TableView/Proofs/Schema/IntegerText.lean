import TableView.Proofs.Number.Text
import TableView.Schema.Reader

/-!
# Numbers that are written are read

The digits of a number have no blanks, no point and no underscores, so nothing of the leniency with
which an integer is read from a text touches them: what is read is the number that was written
(`integerText_toString`).
-/

namespace TableView.Schema

open TableView.Number

private theorem ne_of_digit {c d : Char} (digit : c.isDigit = true) (other : d.isDigit = false) :
    c ≠ d := by
  rintro rfl
  rw [digit] at other
  cases other

private theorem not_isSpace_of_digit {c : Char} (digit : c.isDigit = true) :
    Text.isSpace c = false := by
  have low : '0'.val ≤ c.val ∧ c.val ≤ '9'.val := by simpa [Char.isDigit] using digit
  have bounds : 48 ≤ c.toNat ∧ c.toNat ≤ 57 := ⟨low.1, low.2⟩
  simp only [Text.isSpace, Bool.or_eq_false_iff, Bool.and_eq_false_iff, decide_eq_false_iff_not,
    beq_eq_false_iff_ne]
  omega

private theorem asciiDigit?_of_digit {c : Char} (digit : c.isDigit = true) :
    asciiDigit? c = some (c.toNat - 48) := by
  have bounds : '0'.val ≤ c.val ∧ c.val ≤ '9'.val := by simpa [Char.isDigit] using digit
  exact if_pos bounds

section Digits

variable {cs : List Char} (digits : ∀ c ∈ cs, c.isDigit = true)
include digits

private theorem trimBy_isSpace : Text.trimBy Text.isSpace cs = cs := by
  have kept {ds : List Char} (all : ∀ c ∈ ds, c.isDigit = true) :
      ds.dropWhile Text.isSpace = ds := by
    cases ds with
    | nil => rfl
    | cons c rest =>
      rw [List.dropWhile_cons, not_isSpace_of_digit (all c List.mem_cons_self)]
      rfl
  rw [Text.trimBy, Text.dropWhileEnd, kept digits,
    kept fun c mem ↦ digits c (List.mem_reverse.mp mem), List.reverse_reverse]

private theorem dropZeroFraction_eq : dropZeroFraction cs = cs := by
  have whole : ∀ c ∈ cs, (c != '.') = true := fun c mem ↦
    bne_iff_ne.mpr (ne_of_digit (digits c mem) (by decide))
  have fraction : cs.dropWhile (· != '.') = [] := List.dropWhile_eq_nil_iff.mpr whole
  rw [dropZeroFraction, fraction]
  exact List.takeWhile_eq_self_iff.mpr whole

private theorem digitGroups?_eq (some : cs ≠ []) :
    digitGroups? asciiDigit? cs = Option.some (cs.map fun c ↦ c.toNat - 48) := by
  induction cs with
  | nil => exact absurd rfl some
  | cons c rest ih =>
    have first := asciiDigit?_of_digit (digits c List.mem_cons_self)
    have others : ∀ d ∈ rest, d.isDigit = true := fun d mem ↦
      digits d (List.mem_cons_of_mem c mem)
    cases rest with
    | nil =>
      rw [digitGroups?, first]
      rfl
    | cons d rest =>
      have plain : d ≠ '_' := ne_of_digit (others d List.mem_cons_self) (by decide)
      rw [digitGroups?, first, ih others (List.cons_ne_nil d rest)]
      · rfl
      · exact List.cons_ne_nil d rest
      · exact fun rest' h ↦ plain (List.cons.inj h).1

private theorem splitSign_eq : splitSign cs = (false, cs) := by
  cases cs with
  | nil => rfl
  | cons c rest =>
    have digit := digits c List.mem_cons_self
    rw [splitSign]
    · exact fun rest' h ↦ ne_of_digit digit (by decide) (List.cons.inj h).1
    · exact fun rest' h ↦ ne_of_digit digit (by decide) (List.cons.inj h).1

end Digits

/-- What is written of a number that fits 64 bits is read as this number. -/
theorem integerText_toString {n : Int} (nonneg : 0 ≤ n) (small : n ≤ 9223372036854775807) :
    integerText (toString n) = .ok n := by
  obtain ⟨m, rfl⟩ := Int.eq_ofNat_of_zero_le nonneg
  have chars : (toString (m : Int)).toList = Nat.toDigits 10 m := by
    rw [toList_toString_int, if_neg (Int.not_lt.mpr nonneg)]
    rfl
  have digits : ∀ c ∈ Nat.toDigits 10 m, c.isDigit = true := fun c mem ↦
    Nat.isDigit_of_mem_toDigits (by decide) (by decide) mem
  have few : (Nat.toDigits 10 m).length ≤ 20 :=
    (Nat.length_toDigits_le_iff (by decide) (by decide)).mpr (by omega)
  have short : ¬ maxIntegerDigits < (Nat.toDigits 10 m).length := by
    rw [maxIntegerDigits]
    omega
  have value : natOfValues ((Nat.toDigits 10 m).map fun c ↦ c.toNat - 48) = m := by
    rw [natOfValues, List.foldl_map]
    exact Nat.ofDigitChars_ten_toDigits
  have number : signedInteger? asciiDigit? (Nat.toDigits 10 m) = some (m : Int) := by
    rw [signedInteger?, splitSign_eq digits]
    dsimp only
    rw [digitGroups?_eq digits Nat.toDigits_ne_nil]
    dsimp only
    rw [List.length_map, if_neg short, value]
    rfl
  rw [integerText, chars, trimBy_isSpace digits, if_neg short, dropZeroFraction_eq digits, number]

end TableView.Schema
