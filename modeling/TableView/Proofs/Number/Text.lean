import Mathlib.Data.List.DropRight
import Mathlib.Data.Nat.Basic
import TableView.Number.FloatText
import TableView.Number.Reader

/-!
# How the text of a number starts

The text of a finite number starts with a digit, after the sign if it is negative
(`Binary64.startsNumber_text`, `Decimal.startsNumber_text`, `startsNumber_int`). For a binary number
this rests on the shortest digits that read back, which are never none, because only grid points
other than zero are tried.
-/

namespace TableView.Number

/-- The text starts with a digit. -/
def StartsDigit (cs : List Char) : Prop := ∃ c rest, cs = c :: rest ∧ c.isDigit = true

/-- The text starts with a digit or with a minus sign. -/
def StartsNumber (cs : List Char) : Prop :=
  ∃ c rest, cs = c :: rest ∧ (c.isDigit = true ∨ c = '-')

theorem StartsDigit.append {cs : List Char} (h : StartsDigit cs) (more : List Char) :
    StartsDigit (cs ++ more) := by
  obtain ⟨c, rest, rfl, digit⟩ := h
  exact ⟨c, rest ++ more, rfl, digit⟩

theorem StartsDigit.take {cs : List Char} (h : StartsDigit cs) {n : Nat} (pos : 0 < n) :
    StartsDigit (cs.take n) := by
  obtain ⟨c, rest, rfl, digit⟩ := h
  cases n with
  | zero => exact absurd pos (Nat.lt_irrefl 0)
  | succ n => exact ⟨c, rest.take n, rfl, digit⟩

theorem startsDigit_zero (rest : List Char) : StartsDigit ('0' :: rest) := ⟨'0', rest, rfl, rfl⟩

theorem startsDigit_toDigits (n : Nat) : StartsDigit (Nat.toDigits 10 n) := by
  obtain ⟨c, rest, digits⟩ := List.exists_cons_of_ne_nil (Nat.toDigits_ne_nil (b := 10) (n := n))
  have mem : c ∈ Nat.toDigits 10 n := by
    rw [digits]
    exact List.mem_cons_self
  exact ⟨c, rest, digits, Nat.isDigit_of_mem_toDigits (by decide) (by decide) mem⟩

/-- A sign in front of digits. -/
theorem startsNumber_signed {cs : List Char} (h : StartsDigit cs) (negative : Bool) :
    StartsNumber ((if negative then ['-'] else []) ++ cs) := by
  obtain ⟨c, rest, rfl, digit⟩ := h
  cases negative with
  | true => exact ⟨'-', c :: rest, rfl, .inr rfl⟩
  | false => exact ⟨c, rest, rfl, .inl digit⟩

/-- The digits of a positive number do not start with zero. -/
theorem head_toDigits (n : Nat) (hn : 0 < n) :
    ∃ c cs, Nat.toDigits 10 n = c :: cs ∧ c ≠ '0' := by
  induction n using Nat.strong_induction_on with
  | _ n ih =>
    by_cases hs : n < 10
    · refine ⟨Nat.digitChar n, [], Nat.toDigits_of_lt_base hs, ?_⟩
      intro h
      have hz := Nat.digitChar_eq_zero.mp h
      omega
    · obtain ⟨c, cs, hd, hc⟩ := ih (n / 10) (by omega) (by omega)
      refine ⟨c, cs ++ [Nat.digitChar (n % 10)], ?_, hc⟩
      rw [Nat.toDigits_of_base_le (by decide) (by omega), hd, List.cons_append]

/-- The text of an integer: its digits, after a sign if it is negative. -/
theorem toList_toString_int (n : Int) : (toString n).toList =
    if n < 0 then '-' :: Nat.toDigits 10 n.natAbs else Nat.toDigits 10 n.natAbs := by
  cases n with
  | ofNat n =>
    rw [if_neg (by simp)]
    exact Nat.toList_repr
  | negSucc n =>
    rw [if_pos (Int.negSucc_lt_zero n)]
    change ("-" ++ Nat.repr (n + 1)).toList = _
    rw [String.toList_append, Nat.toList_repr]
    rfl

theorem startsNumber_int (n : Int) : StartsNumber (toString n).toList := by
  have digits := startsDigit_toDigits n.natAbs
  rw [toList_toString_int]
  split
  · exact startsNumber_signed digits true
  · exact startsNumber_signed digits false

/-! ### Decimals -/

private theorem Decimal.startsDigit_magnitudeText (coefficient : Nat) (exponent : Int) :
    StartsDigit (magnitudeText coefficient exponent) := by
  have start := startsDigit_toDigits coefficient
  unfold magnitudeText
  extract_lets digits left positional point mantissa
  have mantissa' : StartsDigit mantissa := by
    unfold mantissa
    split
    · exact startsDigit_zero _
    · next pos =>
      split
      · exact start.append _
      · exact (start.take (Int.lt_toNat.mpr (Int.not_le.mp pos))).append _
  split
  · exact mantissa'
  · exact mantissa'.append _

/-- The text of a decimal starts like a number, or it is one of the words for what is none. -/
theorem Decimal.startsNumber_text (d : Decimal) :
    StartsNumber d.text.toList ∨ d.text = "Infinity" ∨ d.text = "NaN" := by
  cases d with
  | finite negative coefficient exponent =>
    rw [text, String.toList_ofList]
    exact .inl (startsNumber_signed (startsDigit_magnitudeText coefficient exponent) negative)
  | infinite negative =>
    cases negative with
    | true => exact .inl ⟨'-', _, rfl, .inr rfl⟩
    | false => exact .inr (.inl rfl)
  | nan => exact .inr (.inr rfl)

/-! ### Binary numbers -/

namespace Binary64

/-- Without the zeros at its end a number other than zero still has its first digit. -/
private theorem startsDigit_ofGrid {n : Nat} (h : n ≠ 0) (unit : Int) :
    StartsDigit (DecimalDigits.ofGrid n unit).digits := by
  obtain ⟨c, cs, digits, first⟩ := head_toDigits n (Nat.pos_of_ne_zero h)
  have mem : c ∈ Nat.toDigits 10 n := by
    rw [digits]
    exact List.mem_cons_self
  have kept : (Nat.toDigits 10 n).rdropWhile (· == '0') ≠ [] := by
    intro none
    exact first (beq_iff_eq.mp (List.rdropWhile_eq_nil_iff.mp none c mem))
  obtain ⟨d, ds, same⟩ := List.exists_cons_of_ne_nil kept
  obtain ⟨rest, whole⟩ := List.rdropWhile_prefix (· == '0') (l := Nat.toDigits 10 n)
  refine ⟨d, ds, same, Nat.isDigit_of_mem_toDigits (n := n) (b := 10) (by decide) (by decide) ?_⟩
  rw [← whole, same]
  exact List.mem_cons_self

/-- Only grid points other than zero are tried. -/
private theorem neighbour?_ne_zero {x : Binary64} {r : Ratio} {count n : Nat} {unit : Int}
    (h : x.neighbour? r count = some (n, unit)) : n ≠ 0 := by
  unfold neighbour? at h
  extract_lets unit scaled below reads at h
  have tried (m : Nat) (read : reads m = true) : m ≠ 0 :=
    bne_iff_ne.mp (Bool.and_eq_true_iff.mp read).1
  split at h
  · next first second =>
    obtain ⟨rfl, -⟩ := Prod.mk.inj (Option.some.inj h)
    split
    · exact tried _ first
    · exact tried _ second
  · next first second =>
    obtain ⟨rfl, -⟩ := Prod.mk.inj (Option.some.inj h)
    exact tried _ first
  · next first second =>
    obtain ⟨rfl, -⟩ := Prod.mk.inj (Option.some.inj h)
    exact tried _ second
  · cases h

private theorem startsDigit_shortest (significand : Nat) (exponent : Int) :
    StartsDigit (shortest significand exponent).digits := by
  unfold shortest
  dsimp only
  split
  · next n unit found =>
    obtain ⟨i, -, tried⟩ := List.exists_of_findSome?_eq_some found
    exact startsDigit_ofGrid (neighbour?_ne_zero tried) unit
  · exact startsDigit_zero []

private theorem startsDigit_positional {d : DecimalDigits} (h : StartsDigit d.digits) :
    StartsDigit d.positional := by
  unfold DecimalDigits.positional
  extract_lets n
  split
  · exact startsDigit_zero _
  · next pos =>
    split
    · exact (h.append _).append _
    · exact (h.take (Int.lt_toNat.mpr (Int.not_le.mp pos))).append _

private theorem startsDigit_scientific {d : DecimalDigits} (h : StartsDigit d.digits) :
    StartsDigit d.scientific := by
  unfold DecimalDigits.scientific
  extract_lets exponent sign power fraction
  exact (((h.take Nat.one_pos).append _).append _).append _

private theorem startsDigit_magnitudeText (significand : Nat) (exponent : Int) :
    StartsDigit (magnitudeText significand exponent) := by
  have digits := startsDigit_shortest significand exponent
  unfold magnitudeText
  split
  · exact startsDigit_zero _
  · extract_lets d
    split
    · exact startsDigit_positional digits
    · exact startsDigit_scientific digits

/-- The text of a binary number starts like a number, or it is one of the words for what is
none. -/
theorem startsNumber_text (x : Binary64) :
    StartsNumber x.text.toList ∨ x.text = "inf" ∨ x.text = "nan" := by
  cases x with
  | finite negative significand exponent =>
    rw [text, String.toList_ofList]
    exact .inl (startsNumber_signed (startsDigit_magnitudeText significand exponent) negative)
  | infinite negative =>
    cases negative with
    | true => exact .inl ⟨'-', _, rfl, .inr rfl⟩
    | false => exact .inr (.inl rfl)
  | nan => exact .inr (.inr rfl)

end Binary64

end TableView.Number
