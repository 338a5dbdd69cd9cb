import TableView.Value
import TableView.Text.Blank
import TableView.Text.LetterCase
import TableView.Number.IntegerText
import TableView.Json.Printer
import TableView.Json.Reader
import TableView.Text.Encoding
import TableView.Error
import TableView.RowLimit
import TableView.Schema.Reader
import TableView.Choice
import TableView.Config.Basic
import TableView.Config.Reader
import TableView.Field.Reconcile
import TableView.Grid
import TableView.Labels
import TableView.Merge.Preview
import TableView.Query
import TableView.Source.Database
import TableView.Source.Lookup
import TableView.Api.Body
import TableView.Editor.Call
import TableView.Editor.Operation
import TableView.Editor.Memory
import TableView.Panel.Memory
import TableView.Task.Desk
import TableView.Export.Separated
import TableView.Export.Sheet
import TableView.RequestLog.Basic
import TableView.RequestLog.Search
import TableView.Api.Message
import TableView.Api.Payload
import TableView.Api.Route
import TableView.Api.Handler
import TableView.Api.Service
import TableView.Proofs.Entries
import TableView.Proofs.Labels
import TableView.Proofs.Task.Scene
import TableView.Proofs.Task.Desk
import TableView.Proofs.Editor.Effect
import TableView.Proofs.Editor.Selection
import TableView.Proofs.Editor.Coverage
import TableView.Proofs.Editor.Confluence
import TableView.Proofs.Editor.Revision
import TableView.Proofs.Editor.Limit
import TableView.Proofs.Editor.Discovery
import TableView.Proofs.Editor.Replacement
import TableView.Proofs.Editor.Generation
import TableView.Proofs.Json.Quoted
import TableView.Proofs.Json.Document
import TableView.Proofs.Schema.Check
import TableView.Proofs.Config.Stored
import TableView.Proofs.Config.Reading
import TableView.Proofs.Field.Arrangement
import TableView.Proofs.Field.Columns
import TableView.Proofs.Field.Edits
import TableView.Proofs.Store.Saved
import TableView.Proofs.Editor.Upkeep
import TableView.Proofs.Editor.Restoring
import TableView.Proofs.Store.Failure
import TableView.Proofs.Store.Mirror
import TableView.Proofs.Panel.Columns
import TableView.Proofs.Task.Roster
import TableView.Proofs.Panel.Generation
import TableView.Proofs.Panel.Latest
import TableView.Proofs.Panel.Failure
import TableView.Proofs.Editor.Preview
import TableView.Proofs.Editor.Lookups
import TableView.Proofs.Panel.Preview
import TableView.Proofs.Merge.Filling
import TableView.Proofs.Merge.Pass
import TableView.Proofs.Merge.Place
import TableView.Proofs.Field.Merged
import TableView.Proofs.Api.Recorded
import TableView.Proofs.Api.ErrorType
import TableView.Proofs.Field.Reordering
import TableView.Proofs.Grid.Sorting
import TableView.Proofs.Grid.Keys
import TableView.Proofs.Editor.Quiet
import TableView.Proofs.Panel.Loading
import TableView.Proofs.Editor.Searching
import TableView.Proofs.Editor.Saving
import TableView.Proofs.Api.Pages
import TableView.Proofs.Api.Exported
