import TableView.Proofs.Config.Reading
import TableView.Proofs.Editor.Discovery
import TableView.Proofs.Field.Arrangement

/-!
# Sessions in order

A session is in order if its draft could be put together again from what is saved of it: the fields
arrange those that are discovered for one object, the sort field is one of them, the row limit is
positive, and the object and the record of the context are not empty texts (`Orderly`). Most
operations do no more to a session than to edit it (`Edits`), and no edit brings it out of order, as
long as no label is emptied. So a session is in order after every run in which no draft was taken
over as it is, whatever was loaded and whichever replies came first (`orderly_of_run`).
-/

namespace TableView

open TableView.Task (Event Run Scene Step mem_of_mem_around mem_of_mem_between mem_of_mem_beside)

/-- Neither the object nor the record is an empty text. -/
structure Resolution.Named (r : Resolution) : Prop where
  object : r.object ≠ some ""
  record : r.record ≠ some ""

theorem Resolution.Named.of_none {r : Resolution} (object : r.object = none)
    (record : r.record = none) : r.Named where
  object := by
    rw [object]
    exact (Option.some_ne_none _).symm
  record := by
    rw [record]
    exact (Option.some_ne_none _).symm

namespace Editor

/-- The sort field is a field of the draft, unless it has no fields at all. -/
def Draft.Sorted (d : Draft) : Prop :=
  d.fields = .empty ∨ Session.known d.fields d.sortField = d.sortField

/-- An edit of a session: the draft stays with its object and its names, no label gets empty, and
nothing that was in order gets out of order. The operation does not wait for the fields of a loaded
configuration. -/
structure Edits (s s' : Session) (w : List Suspension) : Prop where
  object : s'.draft.object = s.draft.object
  fields : s'.draft.fields.Arranges s.draft.fields
  sorted : s.draft.Sorted → s'.draft.Sorted
  limit : 0 < s.draft.limit → 0 < s'.draft.limit
  named : s.resolution.Named → s'.resolution.Named
  unloaded : ∀ id generation entry, .entryFields id generation entry ∉ w

theorem Session.known_congr {fields others : FieldList} (names : fields.names.Perm others.names)
    (name : Option String) : known fields name = known others name := by
  have same (n : String) : fields.has n = others.has n := by
    rw [Bool.eq_iff_iff, FieldList.has_iff, FieldList.has_iff]
    exact names.mem_iff
  rw [known, known, funext same]

theorem Session.known_known (fields : FieldList) (name : Option String) :
    known fields (known fields name) = known fields name := by
  rw [known, known, Option.filter_filter]
  simp

/-- A draft with the same names and the same sort field is sorted by one of its fields as well. -/
theorem Draft.Sorted.of_names {d d' : Draft} (h : d.Sorted)
    (names : d'.fields.names.Perm d.fields.names) (sort : d'.sortField = d.sortField) :
    d'.Sorted := by
  rcases h with empty | known
  · rw [empty] at names
    exact .inl (FieldList.eq_empty_of_names_perm names)
  · refine .inr ?_
    rw [sort, Session.known_congr names, known]

namespace Edits

variable {s s₁ s' : Session} {w v : List Suspension}

/-- The draft and the context stay as they are. -/
theorem of_eq (draft : s'.draft = s.draft) (object : s'.resolution.object = s.resolution.object)
    (record : s'.resolution.record = s.resolution.record)
    (unloaded : ∀ id generation entry, .entryFields id generation entry ∉ w) : Edits s s' w where
  object := by rw [draft]
  fields := by
    rw [draft]
    exact .refl _
  sorted h := by rwa [draft]
  limit h := by rwa [draft]
  named h := ⟨by rw [object]; exact h.object, by rw [record]; exact h.record⟩
  unloaded := unloaded

theorem refl (s : Session) : Edits s s [] := .of_eq rfl rfl rfl fun _ _ _ ↦ List.not_mem_nil

theorem trans (first : Edits s s₁ w) (second : Edits s₁ s' v) : Edits s s' v where
  object := second.object.trans first.object
  fields := second.fields.trans first.fields
  sorted h := second.sorted (first.sorted h)
  limit h := second.limit (first.limit h)
  named h := second.named (first.named h)
  unloaded := second.unloaded

/-- The fields are arranged anew. -/
theorem withFields {fields : FieldList} (h : fields.Arranges s.draft.fields) :
    Edits s (s.withFields fields) [] where
  object := rfl
  fields := h
  sorted before := before.of_names h.names rfl
  limit h := h
  named h := h
  unloaded _ _ _ := List.not_mem_nil

/-- A fetch is started or none is needed. -/
theorem of_fetched (h : Fetched s s' w) : Edits s s' w := by
  cases h with
  | unneeded => exact .refl s
  | begun => exact .of_eq rfl rfl rfl fun _ _ _ h ↦ nomatch List.mem_singleton.mp h

end Edits

namespace Session

variable (s : Session)

private theorem rescan_edits : Edits s s.rescan.2 [] := by
  obtain ⟨tokens, h⟩ := s.exists_rescan_snd
  rw [h]
  exact .of_eq rfl rfl rfl fun _ _ _ ↦ List.not_mem_nil

private theorem fetchIfNeeded_edits : Edits s s.fetchIfNeeded.1 s.fetchIfNeeded.2.waiting :=
  .of_fetched (fetchIfNeeded_fetched s)

private theorem andThen_edits (result : Except Failure Unit × Session) :
    Edits result.2 (andThen fetchIfNeeded result).1 (andThen fetchIfNeeded result).2.waiting := by
  rcases result with ⟨(f | u), s'⟩
  · exact .refl s'
  · exact fetchIfNeeded_edits s'

private theorem rescanAndFetch_edits : Edits s s.rescanAndFetch.1 s.rescanAndFetch.2.waiting :=
  (rescan_edits s).trans (andThen_edits s.rescan)

private theorem clone_edits : Edits s (conclude s.clone).1 (conclude s.clone).2.waiting := by
  have copied : Edits s s.copied [] :=
    ⟨rfl, .refl _, id, id, fun _ ↦ .of_none rfl rfl, fun _ _ _ ↦ List.not_mem_nil⟩
  rw [conclude_fst, conclude_waiting]
  exact copied.trans (rescan_edits s.copied)

private theorem setFieldFilter_edits (filter : Value) : Edits s
    (conclude (s.setFieldFilter filter)).1 (conclude (s.setFieldFilter filter)).2.waiting := by
  rw [setFieldFilter]
  split
  · exact ⟨rfl, .refl _, id, id, id, fun _ _ _ ↦ List.not_mem_nil⟩
  · exact .refl s

private theorem setRowLimit_edits (limit : Value) : Edits s
    (conclude (s.setRowLimit limit)).1 (conclude (s.setRowLimit limit)).2.waiting := by
  rw [setRowLimit]
  split
  · next n hn =>
    exact ⟨rfl, .refl _, id, fun _ ↦ RowLimit.pos_of_ofValue hn, id, fun _ _ _ ↦ List.not_mem_nil⟩
  · exact .refl s
  · exact .refl s

/-- A sort field that is taken over is a field of the draft. -/
private theorem known_given {fields : FieldList} {field : Option String}
    (h : (Resolution.given field).filter (!fields.has ·) = none) :
    known fields (Resolution.given field) = Resolution.given field := by
  cases hg : Resolution.given field with
  | none => rfl
  | some name =>
    rw [hg, Option.filter_eq_none_iff] at h
    have present : fields.has name = true := by simpa using h name rfl
    rw [known, Option.filter_some, if_pos present]

private theorem setDefaultSort_edits (field : Option String) (direction : Value) : Edits s
    (conclude (s.setDefaultSort field direction)).1
    (conclude (s.setDefaultSort field direction)).2.waiting := by
  rw [setDefaultSort]
  split
  · exact .refl s
  · next h =>
    dsimp only
    split
    · exact ⟨rfl, .refl _, fun _ ↦ .inr (known_given h), id, id, fun _ _ _ ↦ List.not_mem_nil⟩
    · exact ⟨rfl, .refl _, fun _ ↦ .inr (known_given h), id, id, fun _ _ _ ↦ List.not_mem_nil⟩

private theorem dropOn_edits (target : String) (after : Bool) :
    Edits s (s.dropOn target after) [] := by
  have ended : Edits s s.endDrag [] := .of_eq rfl rfl rfl fun _ _ _ ↦ List.not_mem_nil
  unfold dropOn
  split
  · exact ended.trans (.withFields (FieldList.reorder_arranges _ _ _ _))
  · exact ended

private theorem refreshValues_edits :
    Edits s (s.start .refreshValues).1 (s.start .refreshValues).2.waiting := by
  simp only [start]
  split
  · next h => exact .of_fetched (fetch_fetched s ((Resolution.getD_ne_empty_iff _).mp h.1))
  · exact .refl s

private theorem saveConfig_edits (name description : Option String) :
    Edits s (s.saveConfig name description).1 (s.saveConfig name description).2.waiting := by
  rcases s.saveConfig_cases name description with ⟨-, e, -, refused⟩ | ⟨-, handed⟩
  · rw [refused]
    exact .refl s
  · rw [handed]
    exact .of_eq rfl rfl rfl fun _ _ _ h ↦ nomatch List.mem_singleton.mp h

private theorem deleteConfig_edits : Edits s s.deleteConfig.1 s.deleteConfig.2.waiting := by
  unfold deleteConfig
  split
  · exact .refl s
  · exact .of_eq rfl rfl rfl fun _ _ _ h ↦ nomatch List.mem_singleton.mp h

private theorem selectContextObject_edits (object label : Option String) :
    Edits s (s.selectContextObject object label) [] where
  object := rfl
  fields := .refl _
  sorted h := h
  limit h := h
  named h := ⟨Resolution.given_ne_empty object,
    Resolution.selectObject_record_ne_empty s.resolution object h.record⟩
  unloaded _ _ _ := List.not_mem_nil

private theorem selectContextRecord_edits (record : Option String) :
    Edits s (s.selectContextRecord record) [] where
  object := rfl
  fields := .refl _
  sorted h := h
  limit h := h
  named h := ⟨h.object, Resolution.given_ne_empty record⟩
  unloaded _ _ _ := List.not_mem_nil

/-- Every operation that is started edits the session, but for the selection of an object, a new
draft and one that is taken over as it is. -/
theorem start_edits (c : Command) (unselected : ∀ name, c ≠ .selectObject name) (kept : c ≠ .new)
    (undrafted : ∀ config, c ≠ .applyDraft config)
    (labelled : ∀ name, c ≠ .setFieldLabel name "") :
    Edits s (s.start c).1 (s.start c).2.waiting := by
  cases c with
  | selectObject name => exact absurd rfl (unselected name)
  | new => exact absurd rfl kept
  | applyDraft config => exact absurd rfl (undrafted config)
  | setFieldVisible name visible =>
    exact (Edits.withFields (FieldList.setVisible_arranges _ _ _)).trans (rescanAndFetch_edits _)
  | setAllVisible visible =>
    exact (Edits.withFields (FieldList.setAllVisible_arranges _ _)).trans (rescanAndFetch_edits _)
  | setFieldLabel name label =>
    have filled : label ≠ "" := fun empty ↦ labelled name (empty ▸ rfl)
    exact .withFields (FieldList.setLabel_arranges _ _ filled)
  | setFieldSortable name sortable => exact .withFields (FieldList.setSortable_arranges _ _ _)
  | moveFieldUp name => exact .withFields (FieldList.moveUp_arranges _ _)
  | moveFieldDown name => exact .withFields (FieldList.moveDown_arranges _ _)
  | dropOn target after => exact dropOn_edits s target after
  | setFilter filter =>
    have given : Edits s { s with draft := { s.draft with filter := filter.getD "" } } [] :=
      ⟨rfl, .refl _, id, id, id, fun _ _ _ ↦ List.not_mem_nil⟩
    exact given.trans (rescanAndFetch_edits _)
  | setFieldFilter filter => exact setFieldFilter_edits s filter
  | setRowLimit limit => exact setRowLimit_edits s limit
  | setDefaultSort field direction => exact setDefaultSort_edits s field direction
  | setDisplay recordCount search refresh =>
    exact ⟨rfl, .refl _, id, id, id, fun _ _ _ ↦ List.not_mem_nil⟩
  | selectContextObject object label =>
    exact (selectContextObject_edits s object label).trans (fetchIfNeeded_edits _)
  | selectContextRecord record =>
    exact (selectContextRecord_edits s record).trans (fetchIfNeeded_edits _)
  | clearContext =>
    exact ⟨rfl, .refl _, id, id, fun _ ↦ .of_none rfl rfl, fun _ _ _ ↦ List.not_mem_nil⟩
  | clone => exact clone_edits s
  | refreshValues => exact refreshValues_edits s
  | ensureValues => exact fetchIfNeeded_edits s
  | saveConfig name description => exact saveConfig_edits s name description
  | deleteConfig => exact deleteConfig_edits s
  | startDrag name => exact .of_eq rfl rfl rfl fun _ _ _ ↦ List.not_mem_nil
  | endDrag => exact .of_eq rfl rfl rfl fun _ _ _ ↦ List.not_mem_nil
  | toConfig => exact .of_eq rfl rfl rfl fun _ _ _ ↦ List.not_mem_nil
  | loadObjects => exact .of_eq rfl rfl rfl fun _ _ _ h ↦ nomatch List.mem_singleton.mp h
  | searchContextObjects term =>
    exact .of_eq rfl rfl rfl fun _ _ _ h ↦ nomatch List.mem_singleton.mp h
  | loadConfig id => exact .of_eq rfl rfl rfl fun _ _ _ h ↦ nomatch List.mem_singleton.mp h
  | listConfigs => exact .of_eq rfl rfl rfl fun _ _ _ h ↦ nomatch List.mem_singleton.mp h

private theorem resumeObjects_edits (reply : Except Failure (List Source.ObjectOption)) :
    Edits s (s.resumeObjects reply).1 (s.resumeObjects reply).2.waiting := by
  cases reply with
  | ok found => exact .of_eq rfl rfl rfl fun _ _ _ ↦ List.not_mem_nil
  | error f =>
    simp only [resumeObjects]
    split
    · exact .of_eq rfl rfl rfl fun _ _ _ ↦ List.not_mem_nil
    · exact .refl s

private theorem resumeSearch_edits (term : String)
    (reply : Except Failure (List Source.ObjectOption)) :
    Edits s (s.resumeSearch term reply).1 (s.resumeSearch term reply).2.waiting := by
  cases reply with
  | error f => exact .refl s
  | ok found =>
    simp only [resumeSearch]
    split
    · exact .of_eq rfl rfl rfl fun _ _ _ ↦ List.not_mem_nil
    · exact .refl s

private theorem resumeValues_edits (ticket : Ticket) (reply : Except Failure (Entries Value)) :
    Edits s (s.resumeValues ticket reply).1 (s.resumeValues ticket reply).2.waiting := by
  rw [resumeValues_state]
  exact .of_eq rfl (Resolution.settle_object _ _ _) (Resolution.settle_record _ _ _)
    fun _ _ _ ↦ List.not_mem_nil

/-- Every reply edits the session, but for those with fields or a loaded configuration, and the end
of a deletion. -/
theorem resume_edits (p : Suspension) (reply : p.call.Reply)
    (unselected : ∀ requested, p ≠ .fields requested)
    (unloaded : ∀ id generation, p ≠ .entry id generation)
    (unapplied : ∀ id generation entry, p ≠ .entryFields id generation entry)
    (undeleted : ∀ id, p ≠ .deleting id) :
    Edits s (s.resume p reply).1 (s.resume p reply).2.waiting := by
  cases p with
  | fields requested => exact absurd rfl (unselected requested)
  | entry id generation => exact absurd rfl (unloaded id generation)
  | entryFields id generation entry => exact absurd rfl (unapplied id generation entry)
  | deleting id => exact absurd rfl (undeleted id)
  | objects => exact resumeObjects_edits s reply
  | search term => exact resumeSearch_edits s term reply
  | values ticket => exact resumeValues_edits s ticket reply
  | saving config name description own =>
    cases reply with
    | error f => exact .of_eq rfl rfl rfl fun _ _ _ ↦ List.not_mem_nil
    | ok given => exact ⟨rfl, .refl _, id, id, id, fun _ _ _ ↦ List.not_mem_nil⟩
  | configs =>
    cases reply with
    | error f => exact .refl s
    | ok found => exact .refl s

end Session

namespace SchemaSource

variable (source : SchemaSource)

/-- Replies as a fixed source and a store give them: fields are answered from the source, and a
configuration that is found has a positive row limit. -/
def Serves : (c : Call) → c.Reply → Prop
  | .fields object, reply => reply = source.look object
  | .config _, reply => ∀ entry, reply = .ok (some entry) → 0 < entry.config.limit
  | _, _ => True

/-- There are no fields, or they arrange those of one object: of the object of the draft, unless its
own fields are asked for or not to be had. -/
def Arranged (d : Draft) (waiting : List Suspension) : Prop :=
  d.fields = .empty ∨ ∃ object live, Session.discovered (source.look object) = .ok live ∧
    d.fields.Arranges live ∧
      (object = d.object ∨ .fields d.object ∈ waiting ∨ source.Breaks d.object)

/-- A session in order, with the operations that are suspended on it. -/
structure Orderly (x : Scene machine) : Prop where
  arranged : source.Arranged x.state.draft x.waiting
  sorted : x.state.draft.Sorted
  limit : 0 < x.state.draft.limit
  named : x.state.resolution.Named
  loads : ∀ id generation entry, .entryFields id generation entry ∈ x.waiting →
    0 < entry.config.limit

variable {source} {s s' : Session} {w w' v : List Suspension}

theorem orderly_opening (viewer : Option String) : source.Orderly (opening viewer) where
  arranged := .inl rfl
  sorted := .inl rfl
  limit := (by decide : 0 < RowLimit.standard)
  named := .of_none rfl rfl
  loads _ _ _ h := nomatch h

private theorem loads_of_old (h : source.Orderly ⟨s, w⟩)
    (unloaded : ∀ id generation entry, .entryFields id generation entry ∉ v)
    (old : ∀ p ∈ w', p ∈ v ∨ p ∈ w) (id : Option Int) (generation : Nat) (entry : SavedConfig)
    (hp : .entryFields id generation entry ∈ w') : 0 < entry.config.limit := by
  rcases old _ hp with new | before
  · exact absurd new (unloaded id generation entry)
  · exact h.loads id generation entry before

/-- An edit leaves a session in order. -/
private theorem orderly_of_edits (h : source.Orderly ⟨s, w⟩) (edits : Edits s s' v)
    (old : ∀ p ∈ w', p ∈ v ∨ p ∈ w)
    (stay : .fields s.draft.object ∈ w → .fields s.draft.object ∈ w') :
    source.Orderly ⟨s', w'⟩ where
  arranged := by
    rcases h.arranged with empty | ⟨object, live, hl, arranges, same⟩
    · have names := edits.fields.names
      rw [show s.draft.fields = .empty from empty] at names
      exact .inl (FieldList.eq_empty_of_names_perm names)
    · refine .inr ⟨object, live, hl, edits.fields.trans arranges, ?_⟩
      change object = s'.draft.object ∨ .fields s'.draft.object ∈ w' ∨
        source.Breaks s'.draft.object
      rw [edits.object]
      exact same.imp_right (Or.imp_left stay)
  sorted := edits.sorted h.sorted
  limit := edits.limit h.limit
  named := edits.named h.named
  loads := loads_of_old h edits.unloaded old

/-- A session without fields is in order if the rest of it is. -/
private theorem orderly_of_empty (h : source.Orderly ⟨s, w⟩) (empty : s'.draft.fields = .empty)
    (limit : 0 < s'.draft.limit) (named : s'.resolution.Named)
    (unloaded : ∀ id generation entry, .entryFields id generation entry ∉ v)
    (old : ∀ p ∈ w', p ∈ v ∨ p ∈ w) : source.Orderly ⟨s', w'⟩ :=
  ⟨.inl empty, .inl empty, limit, named, loads_of_old h unloaded old⟩

private theorem mem_of_mem_new {before after : List Suspension} {p : Suspension}
    (h : p ∈ before ++ v ++ after) : p ∈ v ∨ p ∈ before ++ after := by
  rcases List.mem_append.mp h with front | hp
  · rcases List.mem_append.mp front with hp | hp
    · exact .inr (List.mem_append_left _ hp)
    · exact .inl hp
  · exact .inr (List.mem_append_right _ hp)

private theorem mem_of_mem_next {before after : List Suspension} {p q : Suspension}
    (h : p ∈ before ++ v ++ after) : p ∈ v ∨ p ∈ before ++ q :: after := by
  rcases List.mem_append.mp h with front | hp
  · rcases List.mem_append.mp front with hp | hp
    · exact .inr (List.mem_append_left _ hp)
    · exact .inl hp
  · exact .inr (List.mem_append_right _ (List.mem_cons_of_mem _ hp))

private theorem orderly_selectObject {before after : List Suspension} (name : String)
    (h : source.Orderly ⟨s, before ++ after⟩) :
    source.Orderly ⟨(s.selectObject name).1,
      before ++ (s.selectObject name).2.waiting ++ after⟩ := by
  by_cases hn : name = ""
  · subst hn
    change source.Orderly ⟨(Session.dropFields _).finish.1, _⟩
    rw [Session.dropFields_eq]
    exact orderly_of_empty h rfl h.limit ⟨h.named.object, h.named.record⟩
      (fun _ _ _ ↦ List.not_mem_nil) fun _ ↦ mem_of_mem_new
  · rw [s.selectObject_of_ne_empty name hn]
    refine ⟨?_, h.sorted, h.limit, h.named, loads_of_old h (v := [.fields name])
      (fun _ _ _ hp ↦ nomatch List.mem_singleton.mp hp) fun _ ↦ mem_of_mem_new⟩
    -- The fields of the object before stay until those of the new one come.
    rcases h.arranged with empty | ⟨object, live, hl, arranges, -⟩
    · exact .inl empty
    · exact .inr ⟨object, live, hl, arranges,
        .inr (.inl (mem_of_mem_between before after (List.mem_singleton_self _)))⟩

private theorem orderly_start {before after : List Suspension} (c : Command)
    (undrafted : ∀ config, c ≠ .applyDraft config) (labelled : ∀ name, c ≠ .setFieldLabel name "")
    (h : source.Orderly ⟨s, before ++ after⟩) :
    source.Orderly ⟨(s.start c).1, before ++ (s.start c).2.waiting ++ after⟩ := by
  by_cases selects : ∃ name, c = .selectObject name
  · obtain ⟨name, rfl⟩ := selects
    exact orderly_selectObject _ h
  · by_cases renews : c = .new
    · subst renews
      exact orderly_of_empty h rfl (by decide : 0 < RowLimit.standard) (.of_none rfl rfl)
        (fun _ _ _ ↦ List.not_mem_nil) fun _ ↦ mem_of_mem_new
    · have edits := s.start_edits c (not_exists.mp selects) renews undrafted labelled
      exact orderly_of_edits h edits (fun _ ↦ mem_of_mem_new) (mem_of_mem_around _)

/-- The fields of the selected object put the session in order, or there are none, or nothing more
comes of the selection. -/
private theorem orderly_fields {before after : List Suspension} (requested : String)
    (h : source.Orderly ⟨s, before ++ .fields requested :: after⟩) :
    source.Orderly ⟨(s.resumeFields requested (source.look requested)).1,
      before ++ (s.resumeFields requested (source.look requested)).2.waiting ++ after⟩ := by
  have idle : Edits s { s with loading := false } [] :=
    .of_eq rfl rfl rfl fun _ _ _ ↦ List.not_mem_nil
  by_cases ho : s.draft.object = requested
  · subst ho
    simp only [Session.resumeFields, and_true, ite_true]
    split
    · next f hd =>
      split
      · rw [Session.dropFields_eq]
        exact orderly_of_empty h rfl h.limit ⟨h.named.object, h.named.record⟩
          (fun _ _ _ ↦ List.not_mem_nil) fun _ ↦ mem_of_mem_next
      · next other =>
        refine ⟨h.arranged.imp_right ?_, h.sorted, h.limit, h.named,
          loads_of_old h idle.unloaded fun _ ↦ mem_of_mem_next⟩
        rintro ⟨object, live, hl, arranges, -⟩
        have breaks := breaks_of_discovered hd (Bool.eq_false_iff.mpr other)
        exact ⟨object, live, hl, arranges, .inr (.inr breaks)⟩
    · next live hd =>
      have taken : source.Orderly
          ⟨({ s with loading := false } : Session).takeFields live, before ++ [] ++ after⟩ :=
        ⟨.inr ⟨_, live, hd, .refl live, .inl rfl⟩, .inr (Session.known_known live _), h.limit,
          h.named, loads_of_old h idle.unloaded fun _ ↦ mem_of_mem_next⟩
      rw [List.append_nil] at taken
      exact orderly_of_edits taken (Session.rescanAndFetch_edits _) (fun _ ↦ mem_of_mem_new)
        (mem_of_mem_around _)
  · have same (object : String) (hp : .fields object ∈ before ++ .fields requested :: after)
        (hr : object ≠ requested) : .fields object ∈ before ++ [] ++ after :=
      mem_of_mem_beside _ hp fun he ↦ hr (Suspension.fields.inj he)
    simp only [Session.resumeFields, ho, and_false, ite_false]
    split
    · exact orderly_of_edits h idle (fun _ ↦ mem_of_mem_next) fun hp ↦ same _ hp ho
    · exact orderly_of_edits h idle (fun _ ↦ mem_of_mem_next) fun hp ↦ same _ hp ho

/-- A configuration that has come changes nothing but what is waited for. -/
private theorem orderly_entry {before after : List Suspension} (id : Option Int) (generation : Nat)
    (reply : Except Failure (Option SavedConfig))
    (answer : ∀ entry, reply = .ok (some entry) → 0 < entry.config.limit)
    (h : source.Orderly ⟨s, before ++ .entry id generation :: after⟩) :
    source.Orderly ⟨(s.resumeEntry id generation reply).1,
      before ++ (s.resumeEntry id generation reply).2.waiting ++ after⟩ := by
  have other {v : List Suspension} (hp : .fields s.draft.object ∈
      before ++ .entry id generation :: after) : .fields s.draft.object ∈ before ++ v ++ after :=
    mem_of_mem_beside _ hp fun he ↦ nomatch he
  rcases reply with f | (_ | entry)
  · exact orderly_of_edits h (.refl s) (fun _ ↦ mem_of_mem_next) other
  · exact orderly_of_edits h (.refl s) (fun _ ↦ mem_of_mem_next) other
  · simp only [Session.resumeEntry]
    split
    · have kept : source.Orderly ⟨s, before ++ [] ++ after⟩ :=
        orderly_of_edits h (.refl s) (fun _ ↦ mem_of_mem_next) other
      rw [List.append_nil] at kept
      refine ⟨kept.arranged.imp_right ?_, h.sorted, h.limit, h.named, ?_⟩
      · rintro ⟨object, live, hl, arranges, same⟩
        exact ⟨object, live, hl, arranges, same.imp_right (Or.imp_left (mem_of_mem_around _))⟩
      · intro id' generation' entry' hp
        rcases mem_of_mem_new hp with new | old
        · cases List.mem_singleton.mp new
          exact answer _ rfl
        · exact kept.loads id' generation' entry' old
    · exact orderly_of_edits h (.refl s) (fun _ ↦ mem_of_mem_next) other

/-- A loaded configuration is merged with the live fields of its object. -/
private theorem orderly_entryFields {before after : List Suspension} (id : Option Int)
    (generation : Nat) (entry : SavedConfig) (reply : Except Failure (List DiscoveredField))
    (answer : reply = source.look entry.config.object)
    (h : source.Orderly ⟨s, before ++ .entryFields id generation entry :: after⟩) :
    source.Orderly ⟨(s.resumeEntryFields id generation entry reply).1,
      before ++ (s.resumeEntryFields id generation entry reply).2.waiting ++ after⟩ := by
  subst answer
  have idle : Edits s { s with loading := false } [] :=
    .of_eq rfl rfl rfl fun _ _ _ ↦ List.not_mem_nil
  have kept : source.Orderly ⟨{ s with loading := false }, before ++ [] ++ after⟩ :=
    orderly_of_edits h idle (fun _ ↦ mem_of_mem_next)
      fun hp ↦ mem_of_mem_beside _ hp fun he ↦ nomatch he
  have limit : 0 < entry.config.limit :=
    h.loads id generation entry (List.mem_append_right _ List.mem_cons_self)
  simp only [Session.resumeEntryFields]
  split
  · next f hd =>
    split
    · obtain ⟨tokens, name, description, taken⟩ :=
        Session.exists_applySaved_snd { s with loading := false } entry .empty id
      rw [taken]
      exact orderly_of_empty h rfl limit ⟨Resolution.given_ne_empty _, Resolution.given_ne_empty _⟩
        (fun _ _ _ ↦ List.not_mem_nil) fun _ ↦ mem_of_mem_next
    · exact kept
  · next live hd =>
    split
    · obtain ⟨nodup, -⟩ := lists_of_discovered hd
      have arranges := FieldList.reconcile_arranges entry.config.fields live nodup
      have taken : source.Orderly ⟨(({ s with loading := false } : Session).applySaved entry
          (.reconcile entry.config.fields live) id).2, before ++ [] ++ after⟩ := by
        obtain ⟨tokens, name, description, taken⟩ := Session.exists_applySaved_snd
          { s with loading := false } entry (.reconcile entry.config.fields live) id
        rw [taken]
        exact ⟨.inr ⟨_, live, hd, arranges, .inl rfl⟩, .inr (Session.known_known _ _), limit,
          ⟨Resolution.given_ne_empty _, Resolution.given_ne_empty _⟩,
          loads_of_old h idle.unloaded fun _ ↦ mem_of_mem_next⟩
      rw [List.append_nil] at taken
      exact orderly_of_edits taken (Session.andThen_edits _) (fun _ ↦ mem_of_mem_new)
        (mem_of_mem_around _)
    · exact kept

private theorem orderly_deleting {before after : List Suspension} (id : Option Int)
    (reply : Except Failure Bool) (h : source.Orderly ⟨s, before ++ .deleting id :: after⟩) :
    source.Orderly ⟨(s.resumeDeleting reply).1,
      before ++ (s.resumeDeleting reply).2.waiting ++ after⟩ := by
  cases reply with
  | error f =>
    exact orderly_of_edits h (.refl s) (fun _ ↦ mem_of_mem_next)
      fun hp ↦ mem_of_mem_beside _ hp fun he ↦ nomatch he
  | ok found =>
    exact orderly_of_empty h rfl (by decide : 0 < RowLimit.standard) (.of_none rfl rfl)
      (fun _ _ _ ↦ List.not_mem_nil) fun _ ↦ mem_of_mem_next

private theorem orderly_resume {before after : List Suspension} (p : Suspension)
    (reply : p.call.Reply) (answer : source.Serves p.call reply)
    (h : source.Orderly ⟨s, before ++ p :: after⟩) :
    source.Orderly ⟨(s.resume p reply).1, before ++ (s.resume p reply).2.waiting ++ after⟩ := by
  have edited (unselected : ∀ requested, p ≠ .fields requested)
      (unloaded : ∀ id generation, p ≠ .entry id generation)
      (unapplied : ∀ id generation entry, p ≠ .entryFields id generation entry)
      (undeleted : ∀ id, p ≠ .deleting id) :
      source.Orderly ⟨(s.resume p reply).1, before ++ (s.resume p reply).2.waiting ++ after⟩ :=
    orderly_of_edits h (s.resume_edits p reply unselected unloaded unapplied undeleted)
      (fun _ ↦ mem_of_mem_next) fun hp ↦ mem_of_mem_beside _ hp (unselected _).symm
  cases p with
  | fields requested =>
    have looked : reply = source.look requested := answer
    subst looked
    exact orderly_fields requested h
  | entry id generation => exact orderly_entry id generation reply answer h
  | entryFields id generation entry =>
    exact orderly_entryFields id generation entry reply answer h
  | deleting id => exact orderly_deleting id reply h
  | _ =>
    exact edited (fun _ he ↦ nomatch he) (fun _ _ he ↦ nomatch he) (fun _ _ _ he ↦ nomatch he)
      fun _ he ↦ nomatch he

/-- Every event leaves a session in order, but for a draft that is taken over as it is and a label
that is emptied. -/
theorem orderly_step {x y : Scene machine} {e : Event machine}
    (step : Step x e y) (undrafted : ∀ config, e ≠ .started (Command.applyDraft config))
    (labelled : ∀ name, e ≠ .started (Command.setFieldLabel name ""))
    (answer : e.Obeys source.Serves) (h : source.Orderly x) : source.Orderly y := by
  cases step with
  | start s before after c =>
    exact orderly_start c (fun config hc ↦ undrafted config (hc ▸ rfl))
      (fun name hc ↦ labelled name (hc ▸ rfl)) h
  | resume s before after p reply => exact orderly_resume p reply answer h

/-- A session is in order after every run in which no draft was taken over as it is and no label was
emptied. -/
theorem orderly_of_run (viewer : Option String)
    {es : List (Event machine)} {x : Scene machine} (run : Run (opening viewer) es x)
    (undrafted : ∀ config, .started (Command.applyDraft config) ∉ es)
    (labelled : ∀ name, .started (Command.setFieldLabel name "") ∉ es)
    (answered : ∀ e ∈ es, e.Obeys source.Serves) : source.Orderly x := by
  refine run.invariant
    (A := fun e ↦ (∀ config, e ≠ .started (Command.applyDraft config)) ∧
      (∀ name, e ≠ .started (Command.setFieldLabel name "")) ∧ e.Obeys source.Serves)
    (I := fun _ y ↦ source.Orderly y) ?_ (orderly_opening viewer) ?_
  · refine fun e he ↦ ⟨?_, ?_, answered e he⟩
    · rintro config rfl
      exact undrafted config he
    · rintro name rfl
      exact labelled name he
  · intro es y e z h may step
    exact orderly_step step may.1 may.2.1 may.2.2 h

end SchemaSource

end Editor

end TableView
