import FormPress.Command.Count
import FormPress.Command.Render
import FormPress.Form.Write
import FormPress.Main
import FormPress.Profile.Write
import FormPress.Settings.Write
import FormPress.Proofs.Pages.Numbering
import FormPress.Proofs.Markup.Document
import FormPress.Proofs.Job.Outcome
import FormPress.Proofs.Job.Direct
import FormPress.Proofs.Document.Answers
import FormPress.Proofs.Tables.Isolation
import FormPress.Proofs.Tables.Assembly
import FormPress.Proofs.Tables.Joining
import FormPress.Proofs.Browser.Sessions
import FormPress.Proofs.Browser.Failures
import FormPress.Proofs.Browser.Release
import FormPress.Proofs.Document.Containers
import FormPress.Proofs.Document.Balance
import FormPress.Proofs.Job.Pages
import FormPress.Proofs.Pages.Evaluation
import FormPress.Proofs.Logos.Tolerance
import FormPress.Proofs.Document.Stored
import FormPress.Proofs.Settings.Layers
import FormPress.Proofs.Command.Batch
import FormPress.Proofs.Pages.Grouping
import FormPress.Proofs.Document.UnitCode
import FormPress.Proofs.Markup.Reading
import FormPress.Proofs.Section.Details
import FormPress.Proofs.Section.Reading
import FormPress.Proofs.Data.Numerals
import FormPress.Proofs.Markup.Rows
import FormPress.Proofs.Section.Grid
import FormPress.Proofs.Section.Ratings
import FormPress.Proofs.Text.Blank
import FormPress.Proofs.Text.Search
import FormPress.Proofs.Section.Description
import FormPress.Proofs.Section.Signing
import FormPress.Proofs.Section.Breaks
