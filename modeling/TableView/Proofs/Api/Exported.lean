import TableView.Proofs.Api.Recorded
import TableView.Proofs.Config.Reading
import TableView.Proofs.Export.Cells
import TableView.Proofs.Merge.Scan
import TableView.Proofs.Panel.Columns
import TableView.Proofs.Store.Call

/-!
# Downloads of a shown table

A request for a download renders the configuration as any other rendering does and hands out the
comma-separated text of what is shown, unless the name of the file does not fit a header
(`handle_of_exports`). So whether the text says what was shown is a question of that name and of the
grid alone (`download_shows_iff`).
-/

namespace TableView.Api

open Separated

/-- The request asks for the comma-separated text of what a rendering shows. -/
structure Request.Exports (r : Request) (body : RenderBody) : Prop where
  method : r.method = "POST"
  path : r.path = "/api/tables/render/export"
  format : (r.query.get? "format").getD "csv" = "csv"
  read : r.renderBody = .ok (.ok body)

/-- The name of the file of a configuration fits a header. -/
def NameFits (configName : String) : Prop :=
  ∀ c ∈ (World.fileName configName .separated).toList, World.fitsHeader c = true

instance (configName : String) : Decidable (NameFits configName) :=
  List.decidableBAll _ _

/-- The response is a download of the text for a configuration. -/
structure Response.Downloads (r : Response) (configName text : String) : Prop where
  status : r.status = 200
  disposition : r.headers.get? Response.dispositionHeader =
    some ("attachment; filename=\"" ++ World.fileName configName .separated ++ "\"")
  content : r.content = .separated text

namespace Service

variable {s : Service} {now : Int} {r : Request} {body : RenderBody} {rendered : Rendered}

/-- A rendering without an error is handed out as a download if the name of its file fits. -/
theorem handle_of_exports (exports : r.Exports body)
    (shown : (s.world.render body).1 = .ok rendered)
    (fine : Resolution.given rendered.error = none) (text : String) :
    (s.handle now r).1.Downloads body.configName text ↔
      NameFits body.configName ∧ text = (ExportTable.ofGrid rendered.grid).separated := by
  have route : Route.find r.method r.path = .action .export := by
    rw [exports.method, exports.path]
    decide
  have answer : (s.answer now r).1 = World.exportOf .separated body.configName rendered := by
    have named : World.FileFormat.named? "csv" = some .separated := by decide
    rw [Service.answer, route]
    dsimp only
    rw [World.perform, World.answerRead, exports.read]
    dsimp only [Except.bind, Refusal.ofCheck]
    rw [World.exportConfig, World.FileFormat.ending]
    dsimp only
    rw [exports.format, named]
    dsimp only
    rw [shown]
    rfl
  have content : r.method ≠ "HEAD" := by
    rw [exports.method]
    decide
  have response : (s.handle now r).1 = finalResponse (respond (s.answer now r).1).1 :=
    Response.sentTo_of_method content _
  rw [response, answer, World.exportOf, fine]
  dsimp only [World.exportContent]
  split
  · next fits =>
    constructor
    · rintro ⟨-, -, content⟩
      exact ⟨List.all_eq_true.mp fits, (Content.separated.inj content).symm⟩
    · rintro ⟨-, rfl⟩
      exact ⟨rfl, rfl, rfl⟩
  · next wide =>
    constructor
    · rintro ⟨-, -, content⟩
      cases content
    · rintro ⟨fits, -⟩
      exact absurd (List.all_eq_true.mpr fits) wide

/-- A rendering without an error, whose file has a name that fits a header, is handed out as a
header of the labels and one line for each row in order, with one field for each column. The text
says what each integer and each text is exactly if, besides, none of these cells stands in a column
of the name that made-up keys have, and no integer in a column that has other numbers or empty cells
beside the integers and nothing else. -/
theorem download_shows_iff (exports : r.Exports body)
    (shown : (s.world.render body).1 = .ok rendered)
    (fine : Resolution.given rendered.error = none) :
    (NameFits body.configName → ∃ text, (s.handle now r).1.Downloads body.configName text ∧
      read text = rendered.grid.columns.map Column.label :: rendered.grid.rows.map fun row ↦
        rendered.grid.columns.map fun c ↦ rendered.grid.exportedText c row) ∧
    ((∃ text, (s.handle now r).1.Downloads body.configName text ∧
        rendered.grid.ShownBy (read text)) ↔
      NameFits body.configName ∧ rendered.grid.KeepsTexts) := by
  have downloads (text : String) : (s.handle now r).1.Downloads body.configName text ↔ _ :=
    handle_of_exports exports shown fine text
  constructor
  · intro fits
    exact ⟨_, (downloads _).mpr ⟨fits, rfl⟩, Grid.read_ofGrid rendered.grid⟩
  · constructor
    · rintro ⟨text, download, shows⟩
      obtain ⟨fits, rfl⟩ := (downloads text).mp download
      exact ⟨fits, (Grid.shownBy_iff rendered.grid).mp shows⟩
    · rintro ⟨fits, keeps⟩
      exact ⟨_, (downloads _).mpr ⟨fits, rfl⟩, (Grid.shownBy_iff rendered.grid).mpr keeps⟩

/-! ### A download of names and numbers -/

/-- A configuration of two columns. -/
def visits : NewConfig :=
  ⟨"Visits", none, { Store.single "Account" 50 with
    fields := [⟨"Name", none, true, none⟩, ⟨"Visits", some "Visits so far", true, none⟩] }, none⟩

/-- The query of the configuration. -/
def visitQuery : String := "SELECT Name, Visits FROM Account  LIMIT 50"

/-- A service with the configuration, whose source answers the query with the given rows. -/
def visitService (rows : List (List Value)) : Service :=
  { blank with world := ⟨⟨[], [(visitQuery, .rows ["Name", "Visits"] rows)], [], []⟩,
    ⟨[Store.empty.newRow visits]⟩⟩ }

/-- A request for the download. -/
def visitRequest : Request :=
  ⟨"POST", "/api/tables/render/export", [], "\x7b\"config_name\": \"Visits\"\x7d", none⟩

/-- What the request asks to be rendered. -/
def visitBody : RenderBody := ⟨"Visits", none, none, none, none, none⟩

/-- The labels of the columns. -/
def visitLabels : Entries String := [("Name", "Name"), ("Visits", "Visits so far")]

/-- The result of the query. -/
def visitResult (rows : List (List Value)) : QueryResult :=
  ⟨[⟨"Name", "Name", true⟩, ⟨"Visits", "Visits", true⟩],
    rows.map fun row ↦ Entries.ofList (["Name", "Visits"].zip row)⟩

/-- The grid that is shown. -/
def visitGrid (rows : List (List Value)) : Grid := Grid.load (visitResult rows) visitLabels

private theorem exports_visits : visitRequest.Exports visitBody :=
  ⟨rfl, by decide +kernel, rfl, by decide +kernel⟩

private theorem config_visits (rows : List (List Value)) :
    (visitService rows).world.store.loadByName "Visits" = .ok visits.config.current :=
  Config.read_print_current visits.config (by decide) (by decide +kernel)

private theorem renderLoaded_visits (s : Panel.State) (generation : Nat) :
    s.renderLoaded generation visits.config.current ⟨none, none, none⟩ =
      ({ s with labels := visitLabels, loading := true, error := "" },
        .pending (.execution generation visitQuery none)) := by
  have visible : (FieldList.ofSaved visits.config.current.fields).anyVisible = true := by decide
  have labels : Labels.ofFields (.ofSaved visits.config.current.fields) = visitLabels := by
    decide +kernel
  have query : Query.compileWith visits.config.current.object
      (.ofSaved visits.config.current.fields) visits.config.current.filter
      (.int visits.config.current.limit) = .ok visitQuery := by
    rw [Query.compileWith_of_writable rfl (by decide)]
    decide +kernel
  let r := Resolution.empty.withQuery visitQuery
  have ready : r.readiness = .noTokens := by decide +kernel
  have filled : Merge.preview visitQuery r.tokens r.readiness r.values none none = visitQuery := by
    decide +kernel
  unfold Panel.State.renderLoaded
  dsimp only
  rw [visible, labels, query, Bool.not_true, if_neg Bool.false_ne_true]
  dsimp only
  rw [if_pos ready, Panel.State.executeResolved, filled]
  rfl

/-- A rendering that is not to be sorted shows what its panel ends with. -/
private theorem render_of_stage {w : World} {body : RenderBody} {shown : Rendered}
    (unsorted : Resolution.given body.sortField = none)
    (stage : (Task.Desk.run World.panelReply ⟨Panel.State.initial, w, []⟩
      (Panel.Command.renderConfig (some body.configName)
        ⟨body.record, body.object, body.viewer⟩)).2.stage = .finished (.ok shown)) :
    (w.render body).1 = .ok shown := by
  rw [World.render, World.display, World.view]
  dsimp only
  rw [stage, unsorted]

private theorem render_visits (rows : List (List Value)) :
    ((visitService rows).world.render visitBody).1 =
      .ok ⟨some visitQuery, visitGrid rows, none⟩ := by
  have named : visitBody.configName ≠ "" := by decide
  obtain ⟨s, start⟩ := Panel.start_renderConfig named Panel.State.initial
    ⟨visitBody.record, visitBody.object, visitBody.viewer⟩
  have loaded : World.panelReply (visitService rows).world (Panel.Call.config "Visits") =
      (.ok visits.config.current, (visitService rows).world) :=
    congrArg (·, (visitService rows).world) (config_visits rows)
  have resumed := (Panel.resume_config s "Visits" ⟨none, none, none⟩ visits.config.current).trans
    (renderLoaded_visits _ _)
  obtain ⟨t, answered⟩ : ∃ t, Panel.machine.resume
      { s with loading := true, error := "", labels := visitLabels }
      (Panel.Suspension.execution s.generation visitQuery none) (.ok (visitResult rows)) =
        (t, .finished (.ok ⟨some visitQuery, visitGrid rows, none⟩)) :=
    ⟨_, congrArg Panel.State.finish (if_pos rfl)⟩
  obtain ⟨-, stage⟩ := Task.Desk.run_of_two_calls World.panelReply
    (d := ⟨Panel.State.initial, (visitService rows).world, []⟩) 1 start rfl loaded resumed rfl
    answered
  rw [Task.Desk.settle_finished] at stage
  exact render_of_stage rfl stage

/-- Rows with a number in each of them. -/
def countedVisits : List (List Value) :=
  [[.text "Acme, Inc.", .int 5], [.text "Globex \"North\"", .int 70]]

/-- Rows of which one has no number. -/
def openVisits : List (List Value) := [[.text "Acme", .int 5], [.text "Globex", .null]]

/-- Names that have to be quoted and numbers that stand among others are read back. -/
theorem download_of_countedVisits : ∃ text,
    ((visitService countedVisits).handle 0 visitRequest).1.Downloads "Visits" text ∧
      (visitGrid countedVisits).ShownBy (read text) := by
  have columns : ∀ c ∈ (visitGrid countedVisits).columns, c.name ≠ Grid.synthesizedColumn ∧
      ¬ ExportTable.Mixed ((visitGrid countedVisits).exportedCells c) := by
    decide
  have keeps : (visitGrid countedVisits).KeepsTexts :=
    ⟨fun c mem key ↦ absurd key (columns c mem).1, fun c mem _ _ _ _ _ ↦ (columns c mem).2⟩
  exact (download_shows_iff exports_visits (render_visits countedVisits) rfl).2.mpr
    ⟨by decide, keeps⟩

/-- A number beside an empty cell is exported as another text. -/
theorem exists_integer_exported_otherwise :
    ∃ (s : Service) (r : Request) (body : RenderBody) (rendered : Rendered) (text : String),
      r.Exports body ∧ (s.world.render body).1 = .ok rendered ∧
      Resolution.given rendered.error = none ∧
      (s.handle 0 r).1.Downloads body.configName text ∧
      read text = [["Name", "Visits so far"], ["Acme", "5.0"], ["Globex", ""]] ∧
      ¬ rendered.grid.ShownBy (read text) := by
  have loses : ¬ (visitGrid openVisits).ShownBy
      (read (ExportTable.ofGrid (visitGrid openVisits)).separated) := by
    rw [Grid.shownBy_iff]
    intro keeps
    have mixed : ExportTable.Mixed
        ((visitGrid openVisits).exportedCells ⟨"Visits", "Visits so far", true⟩) := by
      decide
    exact keeps.integers ⟨"Visits", "Visits so far", true⟩
      (List.mem_cons_of_mem _ List.mem_cons_self) (by decide) _ List.mem_cons_self 5 rfl mixed
  exact ⟨visitService openVisits, visitRequest, visitBody, _, _, exports_visits,
    render_visits openVisits, rfl,
    (handle_of_exports exports_visits (render_visits openVisits) rfl _).mpr ⟨by decide, rfl⟩,
    by decide +kernel, loses⟩

end Service

end TableView.Api
