import Mathlib.Data.Nat.Basic
import TableView.Json.Quoted

/-!
# JSON strings read back

What is written between two quotes is read as the text it was written for, whatever the text holds
and whatever follows (`decodeString_encodeString`). The writer makes of every character one escape,
a surrogate pair of two escapes, or the character itself, and each of them is one unit for the
reader (`decodeUnit_encodeChar`).
-/

namespace TableView.Json

/-! ### Hexadecimal digits -/

/-- The last digit of a padded number stands alone, the others are those of the rest of it. -/
private theorem hexPadded_succ (width n : Nat) (hw : 0 < width) :
    Text.hexPadded (width + 1) n = Text.hexPadded width (n / 16) ++ [Nat.digitChar (n % 16)] := by
  unfold Text.hexPadded
  dsimp only
  by_cases hn : n < 16
  · have hz : n / 16 = 0 := Nat.div_eq_of_lt hn
    have hr : width = width - 1 + 1 := by omega
    rw [hz, Nat.mod_eq_of_lt hn, Nat.toDigits_of_lt_base hn, Nat.toDigits_zero]
    simp only [List.length_singleton, Nat.add_sub_cancel]
    rw [← List.replicate_succ', ← hr]
  · have hb : 16 ≤ n := by omega
    rw [Nat.toDigits_of_base_le (by decide) hb, List.length_append, List.length_singleton,
      Nat.add_sub_add_right, List.append_assoc]

private theorem hexPadded_one (n : Nat) (hn : n < 16) :
    Text.hexPadded 1 n = [Nat.digitChar n] := by
  unfold Text.hexPadded
  rw [Nat.toDigits_of_lt_base hn]
  rfl

/-- The four digits of a 16-bit unit. -/
theorem hexPadded_four (n : Nat) (hn : n < 0x10000) :
    Text.hexPadded 4 n = [Nat.digitChar (n / 16 / 16 / 16), Nat.digitChar (n / 16 / 16 % 16),
      Nat.digitChar (n / 16 % 16), Nat.digitChar (n % 16)] := by
  rw [hexPadded_succ 3 n (by decide), hexPadded_succ 2 _ (by decide),
    hexPadded_succ 1 _ (by decide), hexPadded_one _ (by omega)]
  rfl

private theorem hexValue?_digitChar (d : Nat) (hd : d < 16) :
    hexValue? (Nat.digitChar d) = some d := by
  have all : ∀ d : Fin 16, hexValue? (Nat.digitChar d) = some d.val := by decide
  exact all ⟨d, hd⟩

/-- A unit is read back from its four digits, if anything follows them. -/
private theorem hexUnit?_hexPadded (n : Nat) (hn : n < 0x10000) (next : Char) (rest : List Char) :
    hexUnit? (Text.hexPadded 4 n ++ next :: rest) = some (n, next :: rest) := by
  have hv : ((16 * (n / 16 / 16 / 16) + n / 16 / 16 % 16) * 16 + n / 16 % 16) * 16 + n % 16 =
      n := by
    omega
  rw [hexPadded_four n hn]
  simp only [List.cons_append, List.nil_append, hexUnit?]
  rw [hexValue?_digitChar _ (by omega), hexValue?_digitChar _ (by omega),
    hexValue?_digitChar _ (by omega), hexValue?_digitChar _ (by omega)]
  simp only [Option.bind_eq_bind, Option.bind_some, hv]
  rfl

/-! ### Characters -/

/-- A character is no surrogate. -/
private theorem toNat_range (c : Char) :
    c.toNat < 0xd800 ∨ 0xe000 ≤ c.toNat ∧ c.toNat < 0x110000 := by
  rcases c.valid with h | h
  · exact .inl h
  · exact .inr ⟨h.1, h.2⟩

private theorem charOfUnit_toNat (c : Char) : charOfUnit c.toNat = c := by
  unfold charOfUnit
  rw [if_neg, Char.ofNat_toNat]
  rw [Bool.and_eq_true, decide_eq_true_eq, decide_eq_true_eq]
  have range := toNat_range c
  omega

/-- The escape of one unit that is no high surrogate. -/
private theorem decodeNumeric_unit (n : Nat) (hn : n < 0x10000) (low : n < 0xd800 ∨ 0xdc00 ≤ n)
    (next : Char) (rest : List Char) :
    decodeNumeric (Text.hexPadded 4 n ++ next :: rest) = .ok (charOfUnit n, next :: rest) := by
  have single : ¬ (decide (0xd800 ≤ n) && decide (n < 0xdc00)) = true := by
    rw [Bool.and_eq_true, decide_eq_true_eq, decide_eq_true_eq]
    omega
  unfold decodeNumeric
  rw [hexUnit?_hexPadded n hn]
  dsimp only
  rw [if_neg single]

private theorem lowSurrogate?_unit (n : Nat) (hn : 0xdc00 ≤ n ∧ n < 0xe000) (next : Char)
    (rest : List Char) :
    lowSurrogate? ('\\' :: 'u' :: (Text.hexPadded 4 n ++ next :: rest)) =
      .ok (some (n, next :: rest)) := by
  have length : ¬ (Text.hexPadded 4 n ++ next :: rest).length < 5 := by
    rw [hexPadded_four n (by omega)]
    simp
  have isLow : (decide (0xdc00 ≤ n) && decide (n < 0xe000)) = true := by
    rw [Bool.and_eq_true, decide_eq_true_eq, decide_eq_true_eq]
    exact hn
  simp only [lowSurrogate?]
  rw [if_neg length, hexUnit?_hexPadded n (by omega)]
  dsimp only
  rw [if_pos isLow]

/-- The escapes of a high and a low surrogate are read as one character. -/
private theorem decodeNumeric_pair (high low : Nat) (hh : 0xd800 ≤ high ∧ high < 0xdc00)
    (hl : 0xdc00 ≤ low ∧ low < 0xe000) (next : Char) (rest : List Char) :
    decodeNumeric (Text.hexPadded 4 high ++ (unicodeEscape low ++ next :: rest)) =
      .ok (Char.ofNat (0x10000 + (high - 0xd800) * 0x400 + (low - 0xdc00)), next :: rest) := by
  have isHigh : (decide (0xd800 ≤ high) && decide (high < 0xdc00)) = true := by
    rw [Bool.and_eq_true, decide_eq_true_eq, decide_eq_true_eq]
    exact hh
  unfold decodeNumeric unicodeEscape
  simp only [List.cons_append]
  rw [hexUnit?_hexPadded high (by omega)]
  dsimp only
  rw [if_pos isHigh, lowSurrogate?_unit low hl]

/-- The two halves of a character past U+FFFF make it up again. -/
private theorem ofNat_halves (c : Char) (hc : 0x10000 ≤ c.toNat) :
    Char.ofNat (0x10000 + (0xd800 + (c.toNat - 0x10000) / 0x400 - 0xd800) * 0x400 +
      (0xdc00 + (c.toNat - 0x10000) % 0x400 - 0xdc00)) = c := by
  rw [Nat.add_sub_cancel_left, Nat.add_sub_cancel_left, Nat.add_assoc, Nat.div_add_mod',
    Nat.add_sub_cancel' hc, Char.ofNat_toNat]

private theorem unicodeEscape_append (unit : Nat) (cs : List Char) :
    unicodeEscape unit ++ cs = '\\' :: 'u' :: (Text.hexPadded 4 unit ++ cs) := rfl

private theorem decodeUnit_of_numeric (opening : List Char) {cs after : List Char} {c : Char}
    (h : decodeNumeric cs = .ok (c, after)) :
    decodeUnit opening ('\\' :: 'u' :: cs) = .ok (some c, after) := by
  simp only [decodeUnit, h]

/-- The numeric escape of a character is one unit for the reader. -/
private theorem decodeUnit_numericEscape (opening : List Char) (c next : Char)
    (rest : List Char) :
    decodeUnit opening (numericEscape c ++ next :: rest) = .ok (some c, next :: rest) := by
  have range := toNat_range c
  by_cases hc : c.toNat < 0x10000
  · have single : numericEscape c = unicodeEscape c.toNat := if_pos hc
    have unit := decodeNumeric_unit c.toNat hc (by omega) next rest
    rw [charOfUnit_toNat] at unit
    rw [single, unicodeEscape_append]
    exact decodeUnit_of_numeric opening unit
  · have two : numericEscape c = unicodeEscape (0xd800 + (c.toNat - 0x10000) / 0x400) ++
        unicodeEscape (0xdc00 + (c.toNat - 0x10000) % 0x400) := if_neg hc
    have pair := decodeNumeric_pair (0xd800 + (c.toNat - 0x10000) / 0x400)
      (0xdc00 + (c.toNat - 0x10000) % 0x400) (by omega) (by omega) next rest
    rw [ofNat_halves c (by omega)] at pair
    rw [two, List.append_assoc, unicodeEscape_append (0xd800 + (c.toNat - 0x10000) / 0x400)]
    exact decodeUnit_of_numeric opening pair

/-- The escape of one letter is one unit for the reader. -/
private theorem decodeUnit_shortEscape (opening : List Char) (c letter : Char)
    (h : shortEscapes.lookup c = some letter) (rest : List Char) :
    decodeUnit opening ('\\' :: letter :: rest) = .ok (some c, rest) := by
  have all : ∀ e ∈ shortEscapes, e.2 ≠ 'u' ∧ shortEscape? e.2 = some e.1 := by decide
  obtain ⟨before, after, he, -⟩ := List.lookup_eq_some_iff.mp h
  have mem : (c, letter) ∈ shortEscapes := by
    rw [he]
    exact List.mem_append_right _ List.mem_cons_self
  obtain ⟨numeric, stands⟩ := all _ mem
  dsimp only at numeric stands
  rw [decodeUnit, stands]
  exact numeric

/-- A character that stands for itself is one unit for the reader. -/
private theorem decodeUnit_plain (opening : List Char) (c : Char)
    (h : shortEscapes.lookup c = none) (printable : 0x20 ≤ c.toNat) (rest : List Char) :
    decodeUnit opening (c :: rest) = .ok (some c, rest) := by
  have quote : c ≠ '"' := by
    rintro rfl
    cases h
  have backslash : c ≠ '\\' := by
    rintro rfl
    cases h
  rw [decodeUnit]
  · exact if_neg (Nat.not_lt.mpr printable)
  · exact quote
  · exact fun hb _ ↦ backslash hb
  · exact fun _ hb _ ↦ backslash hb
  · exact fun _ _ hb _ ↦ backslash hb

/-- However a character is written, it is one unit for the reader. -/
theorem decodeUnit_encodeChar (ascii : Bool) (opening : List Char) (c next : Char)
    (rest : List Char) :
    decodeUnit opening (encodeChar ascii c ++ next :: rest) = .ok (some c, next :: rest) := by
  unfold encodeChar
  cases hl : shortEscapes.lookup c with
  | some letter => exact decodeUnit_shortEscape opening c letter hl (next :: rest)
  | none =>
    dsimp only
    split
    · exact decodeUnit_numericEscape opening c next rest
    · next hc =>
      refine decodeUnit_plain opening c hl ?_ (next :: rest)
      rw [Bool.or_eq_true, decide_eq_true_eq] at hc
      omega

/-! ### Texts -/

private theorem unicodeEscape_ne_nil (unit : Nat) : unicodeEscape unit ≠ [] :=
  List.cons_ne_nil _ _

private theorem numericEscape_ne_nil (c : Char) : numericEscape c ≠ [] := by
  unfold numericEscape
  dsimp only
  split
  · exact unicodeEscape_ne_nil _
  · exact List.append_ne_nil_of_left_ne_nil (unicodeEscape_ne_nil _) _

private theorem encodeChar_ne_nil (ascii : Bool) (c : Char) : encodeChar ascii c ≠ [] := by
  unfold encodeChar
  split
  · exact List.cons_ne_nil _ _
  · split
    · exact numericEscape_ne_nil c
    · exact List.cons_ne_nil _ _

/-- A written text is not shorter than the text, so the fuel for its length reads it. -/
private theorem length_le_flatMap_encodeChar (ascii : Bool) (cs : List Char) :
    cs.length ≤ (cs.flatMap (encodeChar ascii)).length := by
  induction cs with
  | nil => exact Nat.le_refl _
  | cons c rest ih =>
    have hc := List.length_pos_iff.mpr (encodeChar_ne_nil ascii c)
    rw [List.flatMap_cons, List.length_append, List.length_cons]
    omega

private theorem decodeUnits_flatMap_encodeChar (ascii : Bool) (opening : List Char)
    (cs rest : List Char) (fuel : Nat) (hf : cs.length < fuel) :
    decodeUnits opening fuel (cs.flatMap (encodeChar ascii) ++ '"' :: rest) = .ok (cs, rest) := by
  induction cs generalizing fuel with
  | nil =>
    obtain ⟨fuel, rfl⟩ := Nat.exists_eq_succ_of_ne_zero (Nat.ne_of_gt hf)
    rfl
  | cons c cs ih =>
    obtain ⟨fuel, rfl⟩ := Nat.exists_eq_succ_of_ne_zero (Nat.ne_of_gt (Nat.zero_lt_of_lt hf))
    -- What follows a character is never empty: at least the closing quote is to come.
    obtain ⟨next, more, hm⟩ : ∃ next more,
        cs.flatMap (encodeChar ascii) ++ '"' :: rest = next :: more :=
      List.exists_cons_of_ne_nil (by simp)
    have units := ih fuel (Nat.lt_of_succ_lt_succ hf)
    rw [hm] at units
    rw [List.flatMap_cons, List.append_assoc, hm, decodeUnits, decodeUnit_encodeChar]
    dsimp only
    rw [units]

/-- A text is read back from what is written for it, whatever follows the closing quote. -/
theorem decodeString_encodeString (ascii : Bool) (s : String) (rest : List Char) :
    decodeString (s.toList.flatMap (encodeChar ascii) ++ '"' :: rest) = .ok (s, rest) := by
  have fuel : s.toList.length <
      (s.toList.flatMap (encodeChar ascii) ++ '"' :: rest).length + 1 := by
    have hl := length_le_flatMap_encodeChar ascii s.toList
    rw [List.length_append]
    omega
  unfold decodeString
  rw [decodeUnits_flatMap_encodeChar ascii _ _ _ _ fuel]
  dsimp only
  rw [String.ofList_toList]

end TableView.Json
