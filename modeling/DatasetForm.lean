import DatasetForm.Form.Run
import DatasetForm.Main
import DatasetForm.Proofs.Dates.Storage
import DatasetForm.Proofs.Dates.Token
import DatasetForm.Rule.Custom
import DatasetForm.Timer.Script
import DatasetForm.Proofs.Agenda
import DatasetForm.Proofs.Form.InStep
import DatasetForm.Proofs.Form.Agreement
import DatasetForm.Proofs.Form.Apart
import DatasetForm.Proofs.Title.RowName
import DatasetForm.Proofs.Form.History
import DatasetForm.Proofs.Form.Supersede
import DatasetForm.Proofs.Form.LastWrite
import DatasetForm.Proofs.Form.Verdict
import DatasetForm.Proofs.Rule.Field
import DatasetForm.Proofs.Rule.Titles
import DatasetForm.Proofs.Role.Label
import DatasetForm.Proofs.Record.Findings
import DatasetForm.Proofs.Record.Check
import DatasetForm.Proofs.Form.TitleRows
import DatasetForm.Proofs.Form.Tidy
import DatasetForm.Proofs.Record.TitleFindings
import DatasetForm.Proofs.Form.OnlyRows
import DatasetForm.Proofs.Form.Settled
import DatasetForm.Proofs.Timer.Moves
import DatasetForm.Proofs.Timer.TrailingEdge
import DatasetForm.Proofs.Dates.Inverse
import DatasetForm.Proofs.Form.Forgetting
import DatasetForm.Proofs.Form.Gate
import DatasetForm.Proofs.Rule.TitleOutcome
import DatasetForm.Proofs.Rule.TitleSpelling
import DatasetForm.Proofs.Settings.Precedence
import DatasetForm.Proofs.Record.Spelling
import DatasetForm.Proofs.Settings.Faults
import DatasetForm.Proofs.Settings.Masking
import DatasetForm.Proofs.Text.Half
import DatasetForm.Proofs.Text.Wrap
import DatasetForm.Proofs.Table
import DatasetForm.Proofs.Json.Written
import DatasetForm.Proofs.Record.Wording
import DatasetForm.Proofs.Value.Whole
import DatasetForm.Proofs.Record.Reading
import DatasetForm.Proofs.Record.Display
import DatasetForm.Proofs.CommandLine.Check
import DatasetForm.Proofs.Role.Kind
import DatasetForm.Proofs.Role.Collection
import DatasetForm.Proofs.Title.Uniqueness
import DatasetForm.Proofs.Title.Key
import DatasetForm.Proofs.Format.Orcid
import DatasetForm.Proofs.Format.Canonical
import DatasetForm.Proofs.Format.Version
import DatasetForm.Proofs.Format.Doi
import DatasetForm.Proofs.Format.Email
import DatasetForm.Proofs.Format.Script
import DatasetForm.Proofs.Rule.Precedence
import DatasetForm.Proofs.Dates.Day
import DatasetForm.Proofs.Format.Day
import DatasetForm.Proofs.Rule.DateOrder
import DatasetForm.Proofs.Format.Url
import DatasetForm.Proofs.Rule.Walk
import DatasetForm.Proofs.Rule.Tiers
import DatasetForm.Proofs.Rule.ByText
import DatasetForm.Proofs.Form.Hearing
import DatasetForm.Proofs.Form.Unclocked
import DatasetForm.Proofs.Title.Spelling
import DatasetForm.Proofs.Settings.Merge
import DatasetForm.Proofs.Title.Collision
import DatasetForm.Proofs.Title.Rewriting
import DatasetForm.Proofs.Role.Key
