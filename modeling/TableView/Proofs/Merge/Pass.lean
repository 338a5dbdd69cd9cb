import TableView.Proofs.Merge.Filling

/-!
# Previews in one pass

What a resolved preview fills in are the merge tokens of its query and the ids that are known
(`fillings`). To fill them in one after another is a single pass (`fillEach_eq_fillAll`); in which
order they come makes no difference to it (`fillAll_congr`), and it leaves no merge token behind
(`tokenNames_fillAll`). Together these say what the preview is (`preview_eq_fillAll`).
-/

namespace TableView.Merge

/-- What stands in a query for a merge token; one without a value stands for null. -/
def tokenLiteral (values : Entries Value) (name : String) : String :=
  ((values.get? name).getD .null).queryLiteral

/-- What stands in a query for an id. -/
def idLiteral (id : String) : String := "'" ++ id ++ "'"

/-- A placeholder with what stands for it. -/
def Placeholder.filledBy (p : Placeholder) (literal : String) : Filling := ⟨p, literal.toList⟩

/-- The fillings of some merge tokens and of the ids that are known, in the order in which they
are filled in. -/
def fillings (names : List String) (values : Entries Value) (viewer record : Option String) :
    List Filling :=
  names.map (fun name ↦ (Placeholder.token name).filledBy (tokenLiteral values name)) ++
    (viewer.toList.map (fun id ↦ Placeholder.viewer.filledBy (idLiteral id)) ++
      record.toList.map (fun id ↦ Placeholder.record.filledBy (idLiteral id)))

/-- Fill placeholders in one after another, each in a pass of its own. -/
def fillEach (fs : List Filling) (cs : List Char) : List Char :=
  fs.foldl (fun text f ↦ fillAll [f] text) cs

variable {names others : List String} {values : Entries Value} {viewer record : Option String}
variable {fs gs : List Filling} {f : Filling} {query : List Char}

/-! ### What a preview fills in -/

private theorem fillFrom_eq_fillAllFrom (f : Filling) (skip : Nat) (cs : List Char) :
    fillFrom f.placeholder.text f.literal skip cs = fillAllFrom [f] skip cs := by
  have some : f.placeholder.text.isEmpty = false := by
    rw [Placeholder.text_eq]
    rfl
  induction cs generalizing skip with
  | nil => rw [fillFrom, fillAllFrom, some, if_neg Bool.false_ne_true]
  | cons c rest ih =>
    cases skip with
    | succ skip => exact ih skip
    | zero =>
      rw [fillFrom, fillAllFrom, ih, ih, some, if_neg Bool.false_ne_true, fillingAt?,
        List.find?_cons, List.find?_nil]
      cases occursAt f.placeholder.text (c :: rest) with
      | true => rfl
      | false => rfl

private theorem toList_fill (query text literal : String) (p : Placeholder)
    (same : text.toList = p.text) :
    (fill query text literal).toList = fillAll [p.filledBy literal] query.toList := by
  rw [fill, String.toList_ofList, same]
  exact fillFrom_eq_fillAllFrom (p.filledBy literal) 0 query.toList

private theorem toList_fillTokens (query : String) (names : List String)
    (values : Entries Value) :
    (fillTokens query names values).toList =
      fillEach (names.map fun name ↦ (Placeholder.token name).filledBy (tokenLiteral values name))
        query.toList := by
  induction names generalizing query with
  | nil => rfl
  | cons name names ih =>
    have same : (tokenText name).toList = (Placeholder.token name).text := by
      rw [tokenText, String.toList_append, String.toList_ofList]
      rfl
    have first := toList_fill query (tokenText name) (tokenLiteral values name) (.token name) same
    refine (ih (fill query (tokenText name) (tokenLiteral values name))).trans ?_
    rw [first]
    rfl

private theorem toList_fillId (query text : String) (p : Placeholder)
    (same : text.toList = p.text) (id? : Option String) :
    (fillId query text id?).toList =
      fillEach (id?.toList.map fun id ↦ p.filledBy (idLiteral id)) query.toList := by
  cases id? with
  | none => rfl
  | some id => exact toList_fill query text (idLiteral id) p same

theorem toList_preview (query : String) (names : List String) (values : Entries Value)
    (viewer record : Option String) :
    (preview query names .resolved values viewer record).toList =
      fillEach (fillings names values viewer record) query.toList := by
  rw [preview, fillIds, toList_fillId _ recordPlaceholder .record rfl,
    toList_fillId _ viewerPlaceholder .viewer rfl, toList_fillTokens]
  simp only [fillings, fillEach, List.foldl_append]

/-! ### One pass -/

theorem fillAll_nil (cs : List Char) : fillAll [] cs = cs := by
  induction cs with
  | nil => rfl
  | cons c rest ih => rw [fillAll_keep rfl, ih]

private theorem fillEach_fillAll (fits : ∀ f ∈ fs ++ gs, f.Fits query) :
    fillEach gs (fillAll fs query) = fillAll (fs ++ gs) query := by
  induction gs generalizing fs with
  | nil =>
    rw [List.append_nil]
    rfl
  | cons g gs ih =>
    -- What has been filled in so far is one pass, and the next filling makes it a longer one.
    have first (f : Filling) (mem : f ∈ fs) : f.Fits query :=
      fits f (List.mem_append_left _ mem)
    have next : g.Fits query := fits g (List.mem_append_right _ List.mem_cons_self)
    have both := fillAll_fillAll first next.proper [] query rfl
    have split : fs ++ g :: gs = fs ++ [g] ++ gs := by simp
    rw [split] at fits ⊢
    rw [← ih fits, ← both]
    rfl

theorem fillEach_eq_fillAll (fits : ∀ f ∈ fs, f.Fits query) :
    fillEach fs query = fillAll fs query := by
  have run : fillEach fs (fillAll [] query) = fillAll ([] ++ fs) query := fillEach_fillAll fits
  rw [fillAll_nil] at run
  exact run

/-! ### The order of the fillings -/

/-- A placeholder is filled in by one literal only. -/
def Coherent (fs : List Filling) : Prop :=
  ∀ f ∈ fs, ∀ g ∈ fs, f.placeholder = g.placeholder → f = g

private theorem fillingAt?_congr (proper : ∀ f ∈ fs, f.placeholder.Proper)
    (coherent : Coherent fs) (same : ∀ f, f ∈ fs ↔ f ∈ gs) (cs : List Char) :
    fillingAt? fs cs = fillingAt? gs cs := by
  cases found : fillingAt? fs cs with
  | none =>
    refine (fillingAt?_eq_none_iff.mpr fun f mem ↦ ?_).symm
    exact fillingAt?_eq_none_iff.mp found f ((same f).mpr mem)
  | some f =>
    obtain ⟨mem, occurs⟩ := occursAt_of_fillingAt? found
    cases found' : fillingAt? gs cs with
    | none =>
      rw [fillingAt?_eq_none_iff.mp found' f ((same f).mp mem)] at occurs
      cases occurs
    | some g =>
      obtain ⟨mem', occurs'⟩ := occursAt_of_fillingAt? found'
      have mem'' := (same g).mpr mem'
      have one := Placeholder.eq_of_occursAt (proper f mem) (proper g mem'') occurs occurs'
      rw [coherent f mem g mem'' one]

/-- Where at most one placeholder occurs, it does not matter which one is looked for first. -/
theorem fillAll_congr (proper : ∀ f ∈ fs, f.placeholder.Proper) (coherent : Coherent fs)
    (same : ∀ f, f ∈ fs ↔ f ∈ gs) (cs : List Char) : fillAll fs cs = fillAll gs cs := by
  induction cs using fillAll_induction fs with
  | nil => rfl
  | keep c rest none ih =>
    have none' := none
    rw [fillingAt?_congr proper coherent same] at none'
    rw [fillAll_keep none, fillAll_keep none', ih]
  | fill f rest found ih =>
    have found' := found
    rw [fillingAt?_congr proper coherent same] at found'
    rw [fillAll_fill found, fillAll_fill found', ih]

/-! ### What is left -/

/-- Where every merge token is filled in, none is left. -/
theorem tokenNames_fillAll (fits : ∀ f ∈ fs, f.Fits query)
    (covered : ∀ name ∈ tokenNames query, ∃ f ∈ fs, f.placeholder = .token name)
    (before cs : List Char) (same : query = before ++ cs) : tokenNames (fillAll fs cs) = [] := by
  induction cs using fillAll_induction fs generalizing before with
  | nil => rfl
  | keep c rest none ih =>
    have later := ih (before ++ [c]) (by rw [same, List.append_assoc]; rfl)
    -- A token that is read here afterwards was there before, and would have been filled in.
    have unread (name : String) : tokenAt? (c :: fillAll fs rest) ≠ some name.toList := by
      intro read
      obtain ⟨proper, occurs⟩ := (Placeholder.tokenAt?_iff name).mp read
      by_cases sigil : c = '$'
      · subst sigil
        rw [occursAt_fillAll fits same proper] at occurs
        have read' := (Placeholder.tokenAt?_iff name).mpr ⟨proper, occurs⟩
        obtain ⟨f, mem, token⟩ :=
          covered name ((mem_tokenNames_iff name query).mpr ⟨before, _, same, read'⟩)
        rw [← token, fillingAt?_eq_none_iff.mp none f mem] at occurs
        cases occurs
      · rw [Placeholder.occursAt_of_ne sigil] at occurs
        cases occurs
    rw [fillAll_keep none, tokenNames]
    split
    · next name read =>
      rw [← String.toList_ofList (l := name)] at read
      exact absurd read (unread (String.ofList name))
    · exact later
  | fill f rest found ih =>
    have later := ih (before ++ f.placeholder.text) (by rw [same, List.append_assoc])
    have plain := (fits f (occursAt_of_fillingAt? found).1).plain
    rw [fillAll_fill found, tokenNames_append _ _ plain, later]

/-! ### Previews -/

private theorem mem_fillings (h : f ∈ fillings names values viewer record) :
    (∃ name ∈ names, f = (Placeholder.token name).filledBy (tokenLiteral values name)) ∨
      (∃ id, viewer = some id ∧ f = Placeholder.viewer.filledBy (idLiteral id)) ∨
      ∃ id, record = some id ∧ f = Placeholder.record.filledBy (idLiteral id) := by
  rw [fillings, List.mem_append, List.mem_append, List.mem_map, List.mem_map, List.mem_map] at h
  rcases h with ⟨name, mem, rfl⟩ | ⟨id, mem, rfl⟩ | ⟨id, mem, rfl⟩
  · exact .inl ⟨name, mem, rfl⟩
  · exact .inr (.inl ⟨id, Option.mem_toList.mp mem, rfl⟩)
  · exact .inr (.inr ⟨id, Option.mem_toList.mp mem, rfl⟩)

/-- What stands for a placeholder, as far as it is known. -/
private def literal? (values : Entries Value) (viewer record : Option String) :
    Placeholder → Option String
  | .token name => some (tokenLiteral values name)
  | .viewer => viewer.map idLiteral
  | .record => record.map idLiteral

private theorem literal?_of_mem (h : f ∈ fillings names values viewer record) :
    (literal? values viewer record f.placeholder).map String.toList = some f.literal := by
  rcases mem_fillings h with ⟨name, -, rfl⟩ | ⟨id, rfl, rfl⟩ | ⟨id, rfl, rfl⟩
  · rfl
  · rfl
  · rfl

private theorem coherent_fillings : Coherent (fillings names values viewer record) := by
  intro f hf g hg same
  have first := literal?_of_mem hf
  rw [same, literal?_of_mem hg] at first
  cases f
  cases g
  cases same
  cases first
  rfl

private theorem mem_fillings_congr (same : ∀ name, name ∈ names ↔ name ∈ others) (f : Filling) :
    f ∈ fillings names values viewer record ↔ f ∈ fillings others values viewer record := by
  simp only [fillings, List.mem_append, List.mem_map, same]

private theorem fits_id (p : Placeholder) (proper : p.Proper) {id : String}
    (plain : '$' ∉ id.toList) : (p.filledBy (idLiteral id)).Fits query where
  proper := proper
  plain := by simpa [Placeholder.filledBy, idLiteral] using plain
  seamless := seamless_of_quoted query (by simp [Placeholder.filledBy, idLiteral])

private theorem fits_token {name : String} (mem : name ∈ tokenNames query)
    (plain : '$' ∉ (tokenLiteral values name).toList)
    (apart : ∀ before rest, query = before ++ rest → tokenAt? rest = some name.toList →
      ¬ Quoted (tokenLiteral values name) → ¬ EndsInPlaceholder before) :
    ((Placeholder.token name).filledBy (tokenLiteral values name)).Fits query := by
  obtain ⟨_, _, _, read⟩ := (mem_tokenNames_iff name query).mp mem
  have proper := ((Placeholder.tokenAt?_iff name).mp read).1
  refine ⟨proper, plain, ?_⟩
  by_cases quoted : Quoted (tokenLiteral values name)
  · exact seamless_of_quoted query quoted
  · refine seamless_of_inert (inert_of_not_quoted _ quoted) fun before rest same occurs ↦ ?_
    have read' := (Placeholder.tokenAt?_iff name).mpr ⟨proper, occurs⟩
    exact apart before rest same read' quoted

/-- The preview is one pass over the query that fills in all its placeholders at once, whatever the
order of its merge tokens, and no merge token is left in it: as long as literals have no sigil, and
one without quotes does not come right after a placeholder or a sigil. -/
theorem preview_eq_fillAll (query : String) (names : List String)
    (values : Entries Value) (viewer record : Option String)
    (order : names.Perm (tokens query))
    (literals : ∀ name ∈ tokens query, '$' ∉ (tokenLiteral values name).toList)
    (ids : ∀ id, viewer = some id ∨ record = some id → '$' ∉ id.toList)
    (apart : ∀ before name rest, query.toList = before ++ rest →
      tokenAt? rest = some name.toList → ¬ Quoted (tokenLiteral values name) →
      ¬ EndsInPlaceholder before) :
    preview query names .resolved values viewer record =
        String.ofList (fillAll (fillings (tokens query) values viewer record) query.toList) ∧
      tokens (preview query names .resolved values viewer record) = [] := by
  have same (name : String) : name ∈ names ↔ name ∈ tokens query := order.mem_iff
  have fits (f : Filling) (mem : f ∈ fillings names values viewer record) :
      f.Fits query.toList := by
    rcases mem_fillings mem with ⟨name, listed, rfl⟩ | ⟨id, known, rfl⟩ | ⟨id, known, rfl⟩
    · have token := (same name).mp listed
      exact fits_token ((mem_tokens_iff name query).mp token) (literals name token)
        fun before rest ↦ apart before name rest
    · exact fits_id .viewer trivial (ids id (.inl known))
    · exact fits_id .record trivial (ids id (.inr known))
  have covered (name : String) (mem : name ∈ tokenNames query.toList) :
      ∃ f ∈ fillings names values viewer record, f.placeholder = .token name :=
    ⟨_, List.mem_append_left _ (List.mem_map_of_mem
      ((same name).mpr ((mem_tokens_iff name query).mpr mem))), rfl⟩
  have text := toList_preview query names values viewer record
  rw [fillEach_eq_fillAll fits] at text
  have none := tokenNames_fillAll fits covered [] query.toList rfl
  rw [← text] at none
  refine ⟨?_, by rw [tokens, none]; rfl⟩
  rw [← fillAll_congr (fun f mem ↦ (fits f mem).proper) coherent_fillings
    (mem_fillings_congr same), ← text, String.ofList_toList]

-- A literal without quotes right after the sigil makes a merge token of its own.
example : tokens (preview "$record.$record.N" ["N"] .resolved [("N", .bool true)] none none) =
    ["true"] := by decide +kernel

/-- A query in which names start with one another and literals stand side by side. -/
def crowded : String := "n<$record.N AND $record.Na$record.No=$CurrentUserId"

/-- Values for the merge tokens of `crowded`; one of them is written without quotes. -/
def crowdedValues : Entries Value := [("No", .text "y"), ("N", .int 5), ("Na", .text "x")]

private theorem tokens_crowded : tokens crowded = ["N", "Na", "No"] := by decide +kernel

private theorem apart_crowded (before : List Char) (name : String) (rest : List Char)
    (same : crowded.toList = before ++ rest) (read : tokenAt? rest = some name.toList)
    (bare : ¬ Quoted (tokenLiteral crowdedValues name)) : ¬ EndsInPlaceholder before := by
  have places : ∀ i ≤ crowded.toList.length, ∀ name ∈ tokenAt? (crowded.toList.drop i),
      Quoted (tokenLiteral crowdedValues (String.ofList name)) ∨ i = 2 := by decide +kernel
  have within : before.length ≤ crowded.toList.length := by
    rw [same, List.length_append]
    exact Nat.le_add_right _ _
  have after : crowded.toList.drop before.length = rest := by rw [same, List.drop_left]
  rw [← after] at read
  rcases places before.length within name.toList read with quoted | two
  · rw [String.ofList_toList] at quoted
    exact absurd quoted bare
  · have start : crowded.toList.take before.length = before := by rw [same, List.take_left]
    rw [← start, two]
    exact not_endsInPlaceholder (c := '<') (by decide) (by decide) ['n']

theorem preview_crowded :
    ¬ Quoted (tokenLiteral crowdedValues "N") ∧
      preview crowded ["No", "N", "Na"] .resolved crowdedValues (some "u1") none =
        "n<5 AND 'x''y'='u1'" ∧
      tokens (preview crowded ["No", "N", "Na"] .resolved crowdedValues (some "u1") none) = [] := by
  have order : ["No", "N", "Na"].Perm (tokens crowded) := by
    rw [tokens_crowded]
    decide
  have literals : ∀ name ∈ tokens crowded, '$' ∉ (tokenLiteral crowdedValues name).toList := by
    rw [tokens_crowded]
    decide +kernel
  have ids (id : String) (known : some "u1" = some id ∨ none = some id) : '$' ∉ id.toList := by
    rcases known with known | known
    · cases known
      decide
    · cases known
  obtain ⟨text, none⟩ :=
    preview_eq_fillAll crowded _ crowdedValues (some "u1") .none order literals ids apart_crowded
  refine ⟨by decide +kernel, text.trans ?_, none⟩
  decide +kernel

end TableView.Merge
