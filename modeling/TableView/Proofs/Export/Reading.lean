import TableView.Export.Separated

/-!
# Reading comma-separated text

A reader takes one character after another and keeps where it is: before a line, before a field, in
a field, in quotes, or after a quote in quotes, of which only the next character tells whether it
was a doubled one. Every exported table is read back as its header and its cells
(`read_separated`): quotes are put wherever a separator would be taken for the end of a field, and
an empty field that is alone on its line keeps the line from being read as one without fields.
-/

namespace TableView.Separated

/-- Where a reader is. -/
inductive Place
  | line
  | field
  | plain
  | quoted
  | closing
  deriving DecidableEq

/-- The lines that were read, the fields that were read of the next one, and the characters that
were read of the next field. -/
structure Reader where
  lines : List (List String)
  fields : List String
  content : List Char
  place : Place

namespace Reader

/-- A reader before a line. -/
def before (lines : List (List String)) : Reader := ⟨lines, [], [], .line⟩

/-- Add a character to the field. -/
def take (r : Reader) (c : Char) (place : Place) : Reader :=
  { r with content := r.content ++ [c], place := place }

/-- End the field. -/
def endField (r : Reader) : Reader :=
  { r with fields := r.fields ++ [String.ofList r.content], content := [], place := .field }

/-- End the line. -/
def endLine (r : Reader) : Reader := before (r.lines ++ [r.fields])

/-- Take a character that is not in quotes. -/
def separate (r : Reader) (c : Char) : Reader :=
  if c = ',' then r.endField
  else if c = '\n' then r.endField.endLine
  else r.take c .plain

/-- Take a character. A quote opens a field only at its start, and a line feed before a line makes
a line without fields. -/
def step (r : Reader) (c : Char) : Reader :=
  match r.place with
  | .line =>
    if c = '\n' then r.endLine
    else if c = '"' then { r with place := .quoted }
    else r.separate c
  | .field => if c = '"' then { r with place := .quoted } else r.separate c
  | .plain => r.separate c
  | .quoted => if c = '"' then { r with place := .closing } else r.take c .quoted
  | .closing => if c = '"' then r.take c .quoted else r.separate c

/-- Take some characters. -/
def run (r : Reader) (cs : List Char) : Reader := cs.foldl step r

/-- The lines that were read at the end of the text. -/
def finish (r : Reader) : List (List String) :=
  if r.place = .line then r.lines else r.endField.endLine.lines

theorem run_append (r : Reader) (cs ds : List Char) : r.run (cs ++ ds) = (r.run cs).run ds :=
  List.foldl_append

theorem run_cons (r : Reader) (c : Char) (cs : List Char) : r.run (c :: cs) = (r.step c).run cs :=
  rfl

end Reader

/-- Read a text: the fields of its lines. -/
def read (text : String) : List (List String) := ((Reader.before []).run text.toList).finish

namespace Reader

variable {lines : List (List String)} {fields : List String} {written cs : List Char} {c : Char}

/-! ### Fields -/

private theorem separate_plain (r : Reader) (h : needsQuotes c = false) :
    r.separate c = r.take c .plain := by
  obtain ⟨⟨comma, -⟩, feed⟩ : (c ≠ ',' ∧ c ≠ '"') ∧ c ≠ '\n' := by simpa [needsQuotes] using h
  rw [separate, if_neg comma, if_neg feed]

/-- Characters that need no quotes are taken as they are. -/
private theorem run_plain (plain : ∀ c ∈ cs, needsQuotes c = false) :
    (⟨lines, fields, written, .plain⟩ : Reader).run cs =
      ⟨lines, fields, written ++ cs, .plain⟩ := by
  induction cs generalizing written with
  | nil => rw [List.append_nil]; rfl
  | cons c rest ih =>
    obtain ⟨here, later⟩ := List.forall_mem_cons.mp plain
    have stepped : (⟨lines, fields, written, .plain⟩ : Reader).step c =
        ⟨lines, fields, written ++ [c], .plain⟩ := separate_plain _ here
    rw [run_cons, stepped, ih later, List.append_assoc, List.singleton_append]

/-- Between quotes every character is taken, and a doubled quote as one. -/
private theorem run_doubled :
    (⟨lines, fields, written, .quoted⟩ : Reader).run (doubled cs) =
      ⟨lines, fields, written ++ cs, .quoted⟩ := by
  induction cs generalizing written with
  | nil => rw [List.append_nil]; rfl
  | cons c rest ih =>
    have taken : written ++ c :: rest = written ++ [c] ++ rest := by
      rw [List.append_assoc, List.singleton_append]
    by_cases quote : c = '"'
    · subst quote
      rw [doubled, if_pos rfl, taken, ← ih]
      rfl
    · have stepped : (⟨lines, fields, written, .quoted⟩ : Reader).step c =
          ⟨lines, fields, written ++ [c], .quoted⟩ := if_neg quote
      rw [doubled, if_neg quote, run_cons, stepped, ih, taken]

/-- What a separator does after a written field does not depend on whether it has quotes. A line
feed before a line is the one exception. -/
private theorem run_field {place : Place} {separator : Char}
    (separates : separator = ',' ∨ separator = '\n')
    (starts : place = .field ∨ place = .line ∧ (cs ≠ [] ∨ separator = ',')) :
    (⟨lines, fields, [], place⟩ : Reader).run (field cs ++ [separator]) =
      (⟨lines, fields, cs, .plain⟩ : Reader).separate separator := by
  have noQuote : separator ≠ '"' := by
    rcases separates with rfl | rfl
    · decide
    · decide
  rw [field]
  split
  · have opened : (⟨lines, fields, [], place⟩ : Reader).step '"' =
        ⟨lines, fields, [], .quoted⟩ := by
      rcases starts with rfl | ⟨rfl, -⟩
      · rfl
      · rfl
    have whole : '"' :: doubled cs ++ ['"'] ++ [separator] =
        '"' :: (doubled cs ++ ['"', separator]) := by
      rw [List.append_assoc, List.cons_append]
      rfl
    rw [whole, run_cons, opened, run_append, run_doubled]
    have closed : (⟨lines, fields, cs, .closing⟩ : Reader).step separator =
        (⟨lines, fields, cs, .closing⟩ : Reader).separate separator := if_neg noQuote
    exact closed
  · next none =>
    have plain : ∀ c ∈ cs, needsQuotes c = false := fun c mem ↦
      Bool.eq_false_iff.mpr fun needs ↦ none (List.any_eq_true.mpr ⟨c, mem, needs⟩)
    cases cs with
    | nil =>
      rcases starts with rfl | ⟨rfl, some | rfl⟩
      · exact if_neg noQuote
      · exact absurd rfl some
      · rfl
    | cons c rest =>
      obtain ⟨here, later⟩ := List.forall_mem_cons.mp plain
      obtain ⟨⟨-, quote⟩, feed⟩ : (c ≠ ',' ∧ c ≠ '"') ∧ c ≠ '\n' := by
        simpa [needsQuotes] using here
      have first : (⟨lines, fields, [], place⟩ : Reader).step c = ⟨lines, fields, [c], .plain⟩ := by
        rcases starts with rfl | ⟨rfl, -⟩
        · rw [step, if_neg quote, separate_plain _ here]
          rfl
        · rw [step, if_neg feed, if_neg quote, separate_plain _ here]
          rfl
      rw [List.cons_append, run_cons, first, run_append, run_plain later]
      rfl

/-! ### Lines -/

/-- Fields with commas between them and a line feed make a line of these fields. -/
private theorem run_joined {place : Place} {f : List Char} {rest : List (List Char)}
    (starts : place = .field ∨ place = .line ∧ f :: rest ≠ [[]]) :
    (⟨lines, fields, [], place⟩ : Reader).run (joined (f :: rest) ++ ['\n']) =
      before (lines ++ [fields ++ (f :: rest).map String.ofList]) := by
  induction rest generalizing place fields f with
  | nil =>
    have starts' : place = .field ∨ place = .line ∧ (f ≠ [] ∨ '\n' = ',') :=
      starts.imp_right fun ⟨line, alone⟩ ↦ ⟨line, .inl fun none ↦ alone (none ▸ rfl)⟩
    rw [joined, run_field (.inr rfl) starts']
    rfl
  | cons g rest ih =>
    have starts' : place = .field ∨ place = .line ∧ (f ≠ [] ∨ ',' = ',') :=
      starts.imp_right fun ⟨line, _⟩ ↦ ⟨line, .inr rfl⟩
    have split : joined (f :: g :: rest) ++ ['\n'] =
        (field f ++ [',']) ++ (joined (g :: rest) ++ ['\n']) := by
      rw [joined, List.append_assoc, List.append_assoc]
      · rfl
      · exact List.cons_ne_nil g rest
    have next : (⟨lines, fields, f, .plain⟩ : Reader).separate ',' =
        ⟨lines, fields ++ [String.ofList f], [], .field⟩ := rfl
    rw [split, run_append, run_field (.inl rfl) starts', next, ih (.inl rfl), List.append_assoc]
    rfl

/-- A line is read as its fields. -/
theorem run_line (lines : List (List String)) (fields : List (List Char)) :
    (before lines).run (line fields) = before (lines ++ [fields.map String.ofList]) := by
  rw [line]
  split
  · next alone =>
    rw [alone]
    rfl
  · next other =>
    cases fields with
    | nil => rfl
    | cons f rest => exact run_joined (.inr ⟨rfl, other⟩)

theorem run_lines (lines : List (List String)) (more : List (List (List Char))) :
    (before lines).run (more.flatMap line) =
      before (lines ++ more.map (List.map String.ofList)) := by
  induction more generalizing lines with
  | nil => exact congrArg before (List.append_nil lines).symm
  | cons fields rest ih =>
    rw [List.flatMap_cons, run_append, run_line, ih, List.append_assoc]
    rfl

end Reader

/-! ### Tables -/

private theorem ofList_toList (fields : List String) :
    (fields.map String.toList).map String.ofList = fields := by
  rw [List.map_map]
  exact (List.map_congr_left fun s _ ↦ String.ofList_toList).trans (List.map_id fields)

/-- An exported table is read back as its header and the texts of its cells. -/
theorem read_separated (t : ExportTable) :
    read t.separated = t.header :: t.rows.map fun row ↦ row.map cellText := by
  have chars : t.separated.toList = line (t.header.map String.toList) ++
      (t.rows.map fun row ↦ row.map fun v ↦ (cellText v).toList).flatMap line := by
    rw [ExportTable.separated, String.toList_ofList, List.flatMap_map]
  have cells : (t.rows.map fun row ↦ row.map fun v ↦ (cellText v).toList).map
      (List.map String.ofList) = t.rows.map fun row ↦ row.map cellText := by
    rw [List.map_map]
    refine List.map_congr_left fun row _ ↦ ?_
    have texts : (row.map fun v ↦ (cellText v).toList) = (row.map cellText).map String.toList := by
      rw [List.map_map]
      rfl
    rw [Function.comp_apply, texts, ofList_toList]
  rw [read, chars, Reader.run_append, Reader.run_line, Reader.run_lines, cells, ofList_toList]
  rfl

example : read "a,\"b, \"\"c\"\"\"\n\"\"\n\n,\n" = [["a", "b, \"c\""], [""], [], ["", ""]] := by
  decide +kernel

end TableView.Separated
