import Mathlib.Data.List.DropRight
import TableView.Text.Blank

/-!
# Trimmed texts

To trim a text takes a part out of it (`trimBy_infix`), and leaves nothing that is to be trimmed
(`trim_trim`). A text that is not blank is not blank afterwards. What is put at the end of a trimmed
text leaves it trimmed, if it does not end in a blank character itself (`trim_append`).
-/

namespace TableView.Text

/-- What is left is a part of the text, without a gap. -/
theorem trimBy_infix (p : Char → Bool) (cs : List Char) : trimBy p cs <:+: cs :=
  (List.rdropWhile_prefix p (cs.dropWhile p)).isInfix.trans (List.dropWhile_suffix p).isInfix

/-- The start of what nothing is dropped from is nothing to drop from. -/
private theorem dropWhile_of_prefix (p : Char → Bool) {cs ds : List Char} (h : cs <+: ds)
    (hd : ds.dropWhile p = ds) : cs.dropWhile p = cs := by
  cases cs with
  | nil => rfl
  | cons c cs =>
    obtain ⟨rest, rfl⟩ := h
    rw [List.cons_append, List.dropWhile_cons] at hd
    rw [List.dropWhile_cons]
    split at hd
    · have short := congrArg List.length hd
      have le := (List.dropWhile_suffix (l := cs ++ rest) p).length_le
      simp only [List.length_cons] at short
      omega
    · next hc => rw [if_neg hc]

/-- Nothing is left to drop at the start of what was trimmed. -/
theorem dropWhile_trimBy (p : Char → Bool) (cs : List Char) :
    (trimBy p cs).dropWhile p = trimBy p cs :=
  dropWhile_of_prefix p (List.rdropWhile_prefix p _) (List.dropWhile_idempotent p cs)

/-- Nothing is left to drop at the end of what was trimmed. -/
theorem dropWhileEnd_trimBy (p : Char → Bool) (cs : List Char) :
    dropWhileEnd p (trimBy p cs) = trimBy p cs :=
  List.rdropWhile_idempotent p (cs.dropWhile p)

theorem trimBy_trimBy (p : Char → Bool) (cs : List Char) :
    trimBy p (trimBy p cs) = trimBy p cs := by
  rw [trimBy, dropWhile_trimBy, dropWhileEnd_trimBy]

/-- A text is trimmed exactly if there is nothing to drop at its ends. -/
theorem trimBy_eq_self_iff {p : Char → Bool} {cs : List Char} :
    trimBy p cs = cs ↔ cs.dropWhile p = cs ∧ dropWhileEnd p cs = cs := by
  constructor
  · intro trimmed
    have start := dropWhile_trimBy p cs
    have ends := dropWhileEnd_trimBy p cs
    rw [trimmed] at start ends
    exact ⟨start, ends⟩
  · rintro ⟨start, ends⟩
    rw [trimBy, start, ends]

theorem trim_trim (s : String) : trim (trim s) = trim s := by
  rw [trim, trim, String.toList_ofList, trimBy_trimBy]

theorem trim_eq_self_iff {s : String} : trim s = s ↔ trimBy isBlank s.toList = s.toList := by
  rw [trim, ← String.toList_inj, String.toList_ofList]

private theorem dropWhile_append_of_self {p : Char → Bool} {cs : List Char} (ds : List Char)
    (start : cs.dropWhile p = cs) (filled : cs ≠ []) : (cs ++ ds).dropWhile p = cs ++ ds := by
  rw [List.dropWhile_append, start, if_neg (by rwa [List.isEmpty_iff])]

private theorem dropWhileEnd_append_of_self {p : Char → Bool} (cs : List Char) {ds : List Char}
    (ends : dropWhileEnd p ds = ds) (filled : ds ≠ []) :
    dropWhileEnd p (cs ++ ds) = cs ++ ds := by
  have start : ds.reverse.dropWhile p = ds.reverse := List.reverse_eq_iff.mp ends
  rw [dropWhileEnd, List.reverse_append,
    dropWhile_append_of_self _ start (List.reverse_ne_nil_iff.mpr filled), ← List.reverse_append,
    List.reverse_reverse]

/-- A trimmed text is still trimmed after something was put at its end that does not end in a blank
character. -/
theorem trim_append {s t : String} (trimmed : trim s = s) (filled : s ≠ "")
    (ends : dropWhileEnd isBlank t.toList = t.toList) (added : t ≠ "") :
    trim (s ++ t) = s ++ t := by
  obtain ⟨start, -⟩ := trimBy_eq_self_iff.mp (trim_eq_self_iff.mp trimmed)
  rw [trim_eq_self_iff, trimBy_eq_self_iff, String.toList_append]
  exact ⟨dropWhile_append_of_self _ start (by simpa using filled),
    dropWhileEnd_append_of_self _ ends (by simpa using added)⟩

/-- What is not dropped stays. -/
private theorem mem_dropWhile {p : Char → Bool} {cs : List Char} {c : Char} (hc : c ∈ cs)
    (stays : p c = false) : c ∈ cs.dropWhile p := by
  induction cs with
  | nil => nomatch hc
  | cons d rest ih =>
    rw [List.dropWhile_cons]
    split
    · next hd =>
      rcases List.mem_cons.mp hc with rfl | hc
      · rw [stays] at hd
        cases hd
      · exact ih hc
    · exact hc

private theorem mem_trimBy {p : Char → Bool} {cs : List Char} {c : Char} (hc : c ∈ cs)
    (stays : p c = false) : c ∈ trimBy p cs :=
  List.mem_reverse.mpr
    (mem_dropWhile (List.mem_reverse.mpr (mem_dropWhile hc stays)) stays)

/-- A text that is not blank is not blank after it was trimmed. -/
theorem isBlankText_trim {s : String} (h : isBlankText s = false) :
    isBlankText (trim s) = false := by
  rw [isBlankText, List.all_eq_false] at h ⊢
  obtain ⟨c, hc, shown⟩ := h
  rw [trim, String.toList_ofList]
  exact ⟨c, mem_trimBy hc (Bool.eq_false_iff.mpr shown), shown⟩

end TableView.Text
