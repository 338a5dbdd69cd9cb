import Mathlib.Data.Nat.Basic
import TableView.Json.Printer
import TableView.Json.Reader
import TableView.Proofs.Entries
import TableView.Proofs.Json.Quoted
import TableView.Proofs.Number.Text

/-!
# JSON documents read back

A stored document is read as the value it was written for (`read_print`), if the value is one of
those that JSON has a form for and that keep their kind in it (`Plain`). The reader is followed
against whatever stands after a value: inside a document that is a comma or a closing bracket, which
ends a number too (`Ends`). The induction is on the value, and the fuel is counted against the
length of its text (`value_encode`, `items_encode`, `members_encode`).
-/

namespace TableView.Json

open TableView.Number

/-- What may follow a value inside a document or at its end: nothing, or a character that parts or
closes. None of these goes on a number. -/
def Ends (rest : List Char) : Prop :=
  ∀ c ∈ rest.head?, c = ',' ∨ c = ']' ∨ c = '}'

theorem Ends.nil : Ends [] := fun _ h ↦ nomatch h

theorem Ends.cons {c : Char} (h : c = ',' ∨ c = ']' ∨ c = '}') (rest : List Char) :
    Ends (c :: rest) := by
  rintro _ ⟨⟩
  exact h

/-! ### Integers -/

private theorem isAsciiDigit_of_isDigit {c : Char} (h : c.isDigit = true) :
    isAsciiDigit c = true := h

private theorem isAsciiDigit_of_mem {n : Nat} {c : Char} (h : c ∈ Nat.toDigits 10 n) :
    isAsciiDigit c = true :=
  isAsciiDigit_of_isDigit (Nat.isDigit_of_mem_toDigits (by decide) (by decide) h)

private theorem natOfDigits_toDigits (n : Nat) : natOfDigits (Nat.toDigits 10 n) = n :=
  Nat.ofDigitChars_ten_toDigits

/-- Digits end where no digit follows. -/
private theorem takeWhile_digits {ds rest : List Char} (hd : ∀ c ∈ ds, isAsciiDigit c = true)
    (hr : Ends rest) : (ds ++ rest).takeWhile isAsciiDigit = ds ∧
      (ds ++ rest).dropWhile isAsciiDigit = rest := by
  have stop : rest.takeWhile isAsciiDigit = [] ∧ rest.dropWhile isAsciiDigit = rest := by
    cases rest with
    | nil => exact ⟨rfl, rfl⟩
    | cons c rest =>
      have hc : isAsciiDigit c = false := by
        rcases hr c rfl with rfl | rfl | rfl
        · rfl
        · rfl
        · rfl
      rw [List.takeWhile_cons, List.dropWhile_cons, hc]
      exact ⟨rfl, rfl⟩
  rw [List.takeWhile_append_of_pos hd, List.dropWhile_append_of_pos hd, stop.1, stop.2,
    List.append_nil]
  exact ⟨rfl, rfl⟩

private theorem splitWhole_toDigits (n : Nat) {rest : List Char} (hr : Ends rest) :
    splitWhole (Nat.toDigits 10 n ++ rest) = some (Nat.toDigits 10 n, rest) := by
  rcases Nat.eq_zero_or_pos n with rfl | hn
  · rw [Nat.toDigits_zero]
    rfl
  · obtain ⟨c, cs, hd, hc⟩ := head_toDigits n hn
    have digits : ∀ c ∈ Nat.toDigits 10 n, isAsciiDigit c = true := fun _ ↦ isAsciiDigit_of_mem
    obtain ⟨whole, after⟩ := takeWhile_digits digits hr
    have digit : isAsciiDigit c = true := digits c (by simp [hd])
    rw [hd, List.cons_append] at whole after ⊢
    rw [splitWhole, if_pos digit, whole, after]
    exact hc

private theorem splitFraction_ends {rest : List Char} (hr : Ends rest) :
    splitFraction rest = ([], rest) := by
  cases rest with
  | nil => rfl
  | cons c rest =>
    rcases hr c rfl with rfl | rfl | rfl
    · rfl
    · rfl
    · rfl

private theorem splitExponent_ends {rest : List Char} (hr : Ends rest) :
    splitExponent rest = (none, rest) := by
  cases rest with
  | nil => rfl
  | cons c rest =>
    rcases hr c rfl with rfl | rfl | rfl
    · rfl
    · rfl
    · rfl

/-- The digits of an integer are few enough to be read. -/
private theorem length_toDigits_le {n : Nat} (hn : digitCount n ≤ maxIntegerDigits) :
    ¬ maxIntegerDigits < (Nat.toDigits 10 n).length := by
  rcases Nat.eq_zero_or_pos n with rfl | hp
  · rw [Nat.toDigits_zero]
    decide
  · rw [digitCount, if_neg (Nat.ne_of_gt hp)] at hn
    exact Nat.not_lt.mpr hn

private theorem number_toDigits (n : Nat) (hn : digitCount n ≤ maxIntegerDigits)
    {rest : List Char} (hr : Ends rest) :
    number (Nat.toDigits 10 n ++ rest) = .ok (.int n, rest) := by
  have positive : ((Nat.toDigits 10 n ++ rest).head? == some '-') = false := by
    obtain ⟨c, cs, hd⟩ := List.exists_cons_of_ne_nil (Nat.toDigits_ne_nil (b := 10) (n := n))
    have digit : isAsciiDigit c = true := isAsciiDigit_of_mem (n := n) (by simp [hd])
    rw [hd, List.cons_append, List.head?_cons, beq_eq_false_iff_ne]
    rintro ⟨⟩
    cases digit
  unfold number
  rw [positive]
  simp only [Bool.false_eq_true, ite_false]
  rw [splitWhole_toDigits n hr]
  simp only [splitFraction_ends hr, splitExponent_ends hr, List.isEmpty_nil, Option.isNone_none,
    Bool.and_self, ite_true]
  rw [if_neg (length_toDigits_le hn), natOfDigits_toDigits]

private theorem number_neg_toDigits (n : Nat) (hn : digitCount n ≤ maxIntegerDigits)
    {rest : List Char} (hr : Ends rest) :
    number ('-' :: (Nat.toDigits 10 n ++ rest)) = .ok (.int (-n), rest) := by
  unfold number
  simp only [List.head?_cons, beq_self_eq_true, ite_true, List.tail_cons]
  rw [splitWhole_toDigits n hr]
  simp only [splitFraction_ends hr, splitExponent_ends hr, List.isEmpty_nil, Option.isNone_none,
    Bool.and_self, ite_true]
  rw [if_neg (length_toDigits_le hn), natOfDigits_toDigits]

private theorem number_int (n : Int) (hn : digitCount n.natAbs ≤ maxIntegerDigits)
    {rest : List Char} (hr : Ends rest) :
    number ((toString n).toList ++ rest) = .ok (.int n, rest) := by
  rw [toList_toString_int]
  split
  · next h =>
    have neg : -(n.natAbs : Int) = n := by omega
    have read := number_neg_toDigits n.natAbs hn hr
    rwa [neg] at read
  · next h =>
    have pos : (n.natAbs : Int) = n := by omega
    have read := number_toDigits n.natAbs hn hr
    rwa [pos] at read

/-- An integer starts with a digit or a minus sign before a digit. -/
private theorem toString_int_eq_cons (n : Int) : ∃ c cs, (toString n).toList = c :: cs ∧
    (isAsciiDigit c = true ∨ c = '-' ∧ ∃ d ds, cs = d :: ds ∧ isAsciiDigit d = true) := by
  obtain ⟨d, ds, hd⟩ := List.exists_cons_of_ne_nil (Nat.toDigits_ne_nil (b := 10) (n := n.natAbs))
  have digit : isAsciiDigit d = true := isAsciiDigit_of_mem (n := n.natAbs) (by simp [hd])
  rw [toList_toString_int, hd]
  split
  · exact ⟨'-', d :: ds, rfl, .inr ⟨rfl, d, ds, rfl, digit⟩⟩
  · exact ⟨d, ds, rfl, .inl digit⟩

/-- No name is taken for the start of a number. -/
private theorem find?_names_digit {c : Char} (hc : isAsciiDigit c = true) (cs : List Char) :
    (names.find? fun n ↦ n.1.isPrefixOf (c :: cs)) = none := by
  refine List.find?_eq_none.mpr fun n hn hp ↦ ?_
  have all : ∀ n ∈ names, ∃ d ds, n.1 = d :: ds ∧ isAsciiDigit d = false := by
    intro n hn
    simp only [names, List.mem_cons, List.not_mem_nil, or_false] at hn
    rcases hn with rfl | rfl | rfl | rfl | rfl | rfl
    all_goals exact ⟨_, _, rfl, rfl⟩
  obtain ⟨d, ds, hd, digit⟩ := all n hn
  rw [hd, List.isPrefixOf_cons_cons, Bool.and_eq_true, beq_iff_eq] at hp
  rw [hp.1, hc] at digit
  cases digit

private theorem find?_names_minus {d : Char} (hd : isAsciiDigit d = true) (ds : List Char) :
    (names.find? fun n ↦ n.1.isPrefixOf ('-' :: d :: ds)) = none := by
  have infinity : d ≠ 'I' := by
    rintro rfl
    cases hd
  simp [names, List.isPrefixOf, infinity.symm]

private theorem scalar_int (n : Int) (hn : digitCount n.natAbs ≤ maxIntegerDigits)
    {rest : List Char} (hr : Ends rest) :
    scalar ((toString n).toList ++ rest) = .ok (.int n, rest) := by
  have unnamed : (names.find? fun e ↦ e.1.isPrefixOf ((toString n).toList ++ rest)) = none := by
    obtain ⟨c, cs, hc, digit | ⟨rfl, d, ds, rfl, digit⟩⟩ := toString_int_eq_cons n
    · rw [hc]
      exact find?_names_digit digit _
    · rw [hc]
      exact find?_names_minus digit _
  rw [scalar, unnamed]
  exact number_int n hn hr

/-! ### Documents -/

mutual

/-- A value of the kinds that are read as they were written: no floating-point number, decimal, date
or byte string, no integer of too many digits, and no name twice in one object. -/
def Plain : Value → Prop
  | .null | .bool _ | .text _ => True
  | .int n => digitCount n.natAbs ≤ maxIntegerDigits
  | .list items => PlainItems items
  | .object entries => (Entries.keys entries).Nodup ∧ PlainMembers entries
  | _ => False

/-- Items that are all plain. -/
def PlainItems : List Value → Prop
  | [] => True
  | v :: rest => Plain v ∧ PlainItems rest

/-- Members whose values are all plain. -/
def PlainMembers : List (String × Value) → Prop
  | [] => True
  | (_, v) :: rest => Plain v ∧ PlainMembers rest

end

private theorem start_of_digit {c : Char} (hc : isAsciiDigit c = true) :
    isJsonSpace c = false ∧ c ≠ ']' ∧ c ≠ '\uFEFF' ∧ c ≠ '"' ∧ c ≠ '{' ∧ c ≠ '[' := by
  refine ⟨Bool.eq_false_iff.mpr fun hs ↦ ?_, ?_, ?_, ?_, ?_, ?_⟩
  · simp only [isJsonSpace, Bool.or_eq_true, beq_iff_eq] at hs
    rcases hs with ((rfl | rfl) | rfl) | rfl
    all_goals cases hc
  all_goals
    rintro rfl
    cases hc

/-- An integer starts like no other value, and with no blank. -/
private theorem start_of_int (n : Int) : ∃ c cs, (toString n).toList = c :: cs ∧
    isJsonSpace c = false ∧ c ≠ ']' ∧ c ≠ '\uFEFF' ∧ c ≠ '"' ∧ c ≠ '{' ∧ c ≠ '[' := by
  obtain ⟨c, cs, hc, digit | ⟨rfl, -⟩⟩ := toString_int_eq_cons n
  · exact ⟨c, cs, hc, start_of_digit digit⟩
  · exact ⟨'-', cs, hc, by decide⟩

/-- What is written for a value starts with a character that is no blank, closes no list and is no
byte order mark. -/
private theorem encode_eq_cons (v : Value) (hv : Plain v) : ∃ c cs, encode .stored v = c :: cs ∧
    isJsonSpace c = false ∧ c ≠ ']' ∧ c ≠ '\uFEFF' := by
  cases v with
  | null => exact ⟨_, _, rfl, rfl, by decide, by decide⟩
  | bool b =>
    cases b
    · exact ⟨_, _, rfl, rfl, by decide, by decide⟩
    · exact ⟨_, _, rfl, rfl, by decide, by decide⟩
  | int n =>
    obtain ⟨c, cs, hc, blank, close, mark, -⟩ := start_of_int n
    exact ⟨c, cs, by rw [encode, hc], blank, close, mark⟩
  | text s => exact ⟨_, _, rfl, rfl, by decide, by decide⟩
  | list items => exact ⟨_, _, by rw [encode]; rfl, rfl, by decide, by decide⟩
  | object entries => exact ⟨_, _, by rw [encode]; rfl, rfl, by decide, by decide⟩
  | _ => exact hv.elim

private theorem skipSpace_cons {c : Char} (hc : isJsonSpace c = false) (cs : List Char) :
    skipSpace (c :: cs) = c :: cs := by
  rw [skipSpace, List.dropWhile_cons, hc]
  rfl

private theorem skipSpace_encode (v : Value) (hv : Plain v) (rest : List Char) :
    skipSpace (encode .stored v ++ rest) = encode .stored v ++ rest := by
  obtain ⟨c, cs, hc, blank, -⟩ := encode_eq_cons v hv
  rw [hc, List.cons_append, skipSpace_cons blank]

private theorem value_int (fuel : Nat) (n : Int) (hn : digitCount n.natAbs ≤ maxIntegerDigits)
    {rest : List Char} (hr : Ends rest) :
    value (fuel + 1) ((toString n).toList ++ rest) = .ok (.int n, rest) := by
  obtain ⟨c, cs, hc, -, -, -, quote, brace, bracket⟩ := start_of_int n
  have read := scalar_int n hn hr
  rw [hc, List.cons_append] at read ⊢
  rw [value, read]
  · exact fun _ h ↦ quote (List.cons.inj h).1
  · exact fun _ h ↦ brace (List.cons.inj h).1
  · exact fun _ h ↦ bracket (List.cons.inj h).1

private theorem value_text (fuel : Nat) (s : String) (rest : List Char) :
    value (fuel + 1) (encodeString true s ++ rest) = .ok (.text s, rest) := by
  have read := decodeString_encodeString true s rest
  simp only [encodeString, List.cons_append, List.append_assoc, List.nil_append, value]
  rw [read]

private theorem value_list (fuel : Nat) {c : Char} {cs after : List Char} {vs : List Value}
    (blank : isJsonSpace c = false) (close : c ≠ ']')
    (read : items fuel (c :: cs) = .ok (vs, after)) :
    value (fuel + 1) ('[' :: c :: cs) = .ok (.list vs, after) := by
  simp only [value]
  rw [skipSpace_cons blank]
  split
  · next h => exact absurd (List.cons.inj h).1 close
  · rw [read]

private theorem items_last (fuel : Nat) {cs after : List Char} {v : Value}
    (read : value fuel cs = .ok (v, ']' :: after)) :
    items (fuel + 1) cs = .ok ([v], after) := by
  simp only [items, read]
  rfl

private theorem items_more (fuel : Nat) {cs more after : List Char} {v : Value} {vs : List Value}
    (read : value fuel cs = .ok (v, ',' :: ' ' :: more)) (start : skipSpace more = more)
    (others : items fuel more = .ok (vs, after)) :
    items (fuel + 1) cs = .ok (v :: vs, after) := by
  have first : skipSpace (',' :: ' ' :: more) = ',' :: ' ' :: more := rfl
  have next : skipSpace (' ' :: more) = more := start
  simp only [items, read, first, next, others]

private theorem value_object (fuel : Nat) {cs after : List Char} {m : Entries Value}
    (distinct : m.keys.Nodup) (read : members fuel ('"' :: cs) = .ok (m, after)) :
    value (fuel + 1) ('{' :: '"' :: cs) = .ok (.object m, after) := by
  have start : skipSpace ('"' :: cs) = '"' :: cs := rfl
  simp only [value, start]
  split
  · next h => cases (List.cons.inj h).1
  · rw [read]
    dsimp only
    rw [Entries.ofList_of_distinct m distinct]

private theorem members_last (fuel : Nat) (key : String) {cs after : List Char} {v : Value}
    (read : value fuel cs = .ok (v, '}' :: after)) (start : skipSpace cs = cs) :
    members (fuel + 1) (encodeString true key ++ ':' :: ' ' :: cs) = .ok ([(key, v)], after) := by
  have name := decodeString_encodeString true key (':' :: ' ' :: cs)
  have colon : skipSpace (':' :: ' ' :: cs) = ':' :: ' ' :: cs := rfl
  have body : skipSpace (' ' :: cs) = cs := start
  have close : skipSpace ('}' :: after) = '}' :: after := rfl
  simp only [encodeString, List.cons_append, List.append_assoc, List.nil_append, members, name,
    colon, body, read, close]

private theorem members_more (fuel : Nat) (key : String) {cs more after : List Char} {v : Value}
    {m : Entries Value} (read : value fuel cs = .ok (v, ',' :: ' ' :: more))
    (start : skipSpace cs = cs) (next : skipSpace more = more)
    (others : members fuel more = .ok (m, after)) :
    members (fuel + 1) (encodeString true key ++ ':' :: ' ' :: cs) =
      .ok ((key, v) :: m, after) := by
  have name := decodeString_encodeString true key (':' :: ' ' :: cs)
  have colon : skipSpace (':' :: ' ' :: cs) = ':' :: ' ' :: cs := rfl
  have body : skipSpace (' ' :: cs) = cs := start
  have comma : skipSpace (',' :: ' ' :: more) = ',' :: ' ' :: more := rfl
  have rest : skipSpace (' ' :: more) = more := next
  simp only [encodeString, List.cons_append, List.append_assoc, List.nil_append, members, name,
    colon, body, read, comma, rest, others]

private theorem encodeItems_two (v w : Value) (ws : List Value) :
    encodeItems .stored (v :: w :: ws) =
      encode .stored v ++ ',' :: ' ' :: encodeItems .stored (w :: ws) := by
  rw [encodeItems, List.append_assoc]
  · rfl
  · exact List.cons_ne_nil w ws

private theorem encodeMembers_one (key : String) (v : Value) :
    encodeMembers .stored [(key, v)] =
      encodeString true key ++ ':' :: ' ' :: encode .stored v := by
  rw [encodeMembers, List.append_assoc]
  rfl

private theorem encodeMembers_two (key : String) (v : Value) (e : String × Value)
    (m : List (String × Value)) : encodeMembers .stored ((key, v) :: e :: m) =
      encodeString true key ++
        ':' :: ' ' :: (encode .stored v ++ ',' :: ' ' :: encodeMembers .stored (e :: m)) := by
  rw [encodeMembers, List.append_assoc, List.append_assoc, List.append_assoc]
  · rfl
  · exact List.cons_ne_nil e m

private theorem encodeItems_eq_cons (v : Value) (vs : List Value) (hv : Plain v) :
    ∃ c cs, encodeItems .stored (v :: vs) = c :: cs ∧ isJsonSpace c = false ∧ c ≠ ']' := by
  obtain ⟨c, cs, hc, blank, close, -⟩ := encode_eq_cons v hv
  cases vs with
  | nil => exact ⟨c, cs, by rw [encodeItems, hc], blank, close⟩
  | cons w ws =>
    rw [encodeItems_two, hc]
    exact ⟨c, _, rfl, blank, close⟩

private theorem encodeMembers_eq_cons (e : String × Value) (m : List (String × Value)) :
    ∃ cs, encodeMembers .stored (e :: m) = '"' :: cs := by
  rcases e with ⟨key, v⟩
  cases m with
  | nil =>
    rw [encodeMembers_one]
    exact ⟨_, rfl⟩
  | cons e m =>
    rw [encodeMembers_two]
    exact ⟨_, rfl⟩

private theorem skipSpace_encodeItems (v : Value) (vs : List Value) (hv : Plain v)
    (rest : List Char) : skipSpace (encodeItems .stored (v :: vs) ++ rest) =
      encodeItems .stored (v :: vs) ++ rest := by
  obtain ⟨c, cs, hc, blank, -⟩ := encodeItems_eq_cons v vs hv
  rw [hc, List.cons_append, skipSpace_cons blank]

private theorem skipSpace_encodeMembers (e : String × Value) (m : List (String × Value))
    (rest : List Char) : skipSpace (encodeMembers .stored (e :: m) ++ rest) =
      encodeMembers .stored (e :: m) ++ rest := by
  obtain ⟨cs, hc⟩ := encodeMembers_eq_cons e m
  rw [hc]
  rfl

mutual

/-- A document is read as the value it was written for, whatever follows it. -/
theorem value_encode (v : Value) (hv : Plain v) (fuel : Nat)
    (hf : 2 * (encode .stored v).length ≤ fuel) (rest : List Char) (hr : Ends rest) :
    value fuel (encode .stored v ++ rest) = .ok (v, rest) := by
  obtain ⟨c, cs, hc, -⟩ := encode_eq_cons v hv
  have positive : 0 < (encode .stored v).length := by
    rw [hc]
    exact Nat.succ_pos _
  obtain ⟨fuel, rfl⟩ := Nat.exists_eq_succ_of_ne_zero (n := fuel) (by omega)
  cases v with
  | null => rfl
  | bool b => cases b <;> rfl
  | int n => exact value_int fuel n hv hr
  | text s => exact value_text fuel s rest
  | list vs =>
    cases vs with
    | nil => rfl
    | cons w ws =>
      have read := items_encode (w :: ws) (List.cons_ne_nil _ _) hv fuel
        (by simp only [encode, List.length_cons, List.length_append] at hf; omega) rest
      obtain ⟨c, cs, hs, blank, close⟩ := encodeItems_eq_cons w ws hv.1
      simp only [encode, hs, List.cons_append, List.append_assoc, List.nil_append] at read ⊢
      exact value_list fuel blank close read
  | object m =>
    cases m with
    | nil => rfl
    | cons e m =>
      have read := members_encode (e :: m) (List.cons_ne_nil _ _) hv.2 fuel
        (by simp only [encode, List.length_cons, List.length_append] at hf; omega) rest
      obtain ⟨cs, hs⟩ := encodeMembers_eq_cons e m
      simp only [encode, hs, List.cons_append, List.append_assoc, List.nil_append] at read ⊢
      exact value_object fuel hv.1 read
  | _ => exact hv.elim

/-- The items of a list are read as they were written, up to the closing bracket. -/
theorem items_encode (vs : List Value) (some : vs ≠ []) (hv : PlainItems vs) (fuel : Nat)
    (hf : 2 * (encodeItems .stored vs).length < fuel) (rest : List Char) :
    items fuel (encodeItems .stored vs ++ ']' :: rest) = .ok (vs, rest) := by
  obtain ⟨fuel, rfl⟩ := Nat.exists_eq_succ_of_ne_zero (n := fuel) (by omega)
  cases vs with
  | nil => exact absurd rfl some
  | cons v ws =>
    cases ws with
    | nil =>
      simp only [encodeItems] at hf ⊢
      exact items_last fuel (value_encode v hv.1 fuel (by omega) _ (.cons (by decide) rest))
    | cons w ws =>
      rw [encodeItems_two, List.length_append, List.length_cons, List.length_cons] at hf
      have first := value_encode v hv.1 fuel (by omega)
        (',' :: ' ' :: (encodeItems .stored (w :: ws) ++ ']' :: rest)) (.cons (by decide) _)
      have others := items_encode (w :: ws) (List.cons_ne_nil _ _) hv.2 fuel (by omega) rest
      rw [encodeItems_two, List.append_assoc]
      exact items_more fuel first (skipSpace_encodeItems w ws hv.2.1 _) others

/-- The members of an object are read as they were written, up to the closing brace. -/
theorem members_encode (m : List (String × Value)) (some : m ≠ []) (hm : PlainMembers m)
    (fuel : Nat) (hf : 2 * (encodeMembers .stored m).length < fuel) (rest : List Char) :
    members fuel (encodeMembers .stored m ++ '}' :: rest) = .ok (m, rest) := by
  obtain ⟨fuel, rfl⟩ := Nat.exists_eq_succ_of_ne_zero (n := fuel) (by omega)
  cases m with
  | nil => exact absurd rfl some
  | cons e m =>
    rcases e with ⟨key, v⟩
    cases m with
    | nil =>
      rw [encodeMembers_one, List.length_append, List.length_cons, List.length_cons] at hf
      have read := value_encode v hm.1 fuel (by omega) ('}' :: rest) (.cons (by decide) rest)
      rw [encodeMembers_one, List.append_assoc]
      exact members_last fuel key read (skipSpace_encode v hm.1 _)
    | cons e m =>
      rw [encodeMembers_two, List.length_append, List.length_cons, List.length_cons,
        List.length_append, List.length_cons, List.length_cons] at hf
      have first := value_encode v hm.1 fuel (by omega)
        (',' :: ' ' :: (encodeMembers .stored (e :: m) ++ '}' :: rest)) (.cons (by decide) _)
      have others := members_encode (e :: m) (List.cons_ne_nil _ _) hm.2 fuel (by omega) rest
      rw [encodeMembers_two, List.append_assoc, List.cons_append, List.cons_append,
        List.append_assoc]
      exact members_more fuel key first (skipSpace_encode v hm.1 _)
        (skipSpace_encodeMembers e m _) others

end

private theorem readChars_encode (v : Value) (hv : Plain v) :
    readChars (encode .stored v) = .ok v := by
  have start := skipSpace_encode v hv []
  have whole := value_encode v hv (2 * (encode .stored v).length + 1) (by omega) [] .nil
  rw [List.append_nil] at start whole
  unfold readChars
  rw [start, whole]
  rfl

/-- A stored document is read as the value it was written for. -/
theorem read_print (v : Value) (hv : Plain v) : read (print .stored v) = .ok v := by
  obtain ⟨c, cs, hc, -, -, mark⟩ := encode_eq_cons v hv
  have chars : (print .stored v).toList = c :: cs := by
    rw [print, String.toList_ofList, hc]
  have decoded : readDecoded (print .stored v) = .ok v := by
    rw [readDecoded, chars, ← hc, readChars_encode v hv]
    rfl
  unfold read
  rw [chars]
  split
  · next h => exact absurd (List.cons.inj h).1 mark
  · exact decoded

end TableView.Json
