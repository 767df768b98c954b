import PostQuery.Outcome
import PostQuery.Report
import PostQuery.Session
import PostQuery.Settings.Environment
import PostQuery.Settings.File
import PostQuery.Template
import PostQuery.Value.Lookup
import PostQuery.Yaml.Document
import PostQuery.Proofs.Filter.Grammar
import PostQuery.Proofs.Filter.Reading
import PostQuery.Proofs.Filter.Acceptance
import PostQuery.Proofs.Filter.Meaning
import PostQuery.Proofs.Filter.Negation
import PostQuery.Proofs.Clause.Built
import PostQuery.Proofs.Relation.Meaning
import PostQuery.Proofs.Arguments.Plain
import PostQuery.Proofs.Relation.Built
import PostQuery.Proofs.Relation.Language
import PostQuery.Proofs.Filter.Conditions
import PostQuery.Proofs.Relation.Form
import PostQuery.Proofs.Arguments.Order
import PostQuery.Proofs.Filter.Reuse
import PostQuery.Proofs.Relation.Defaults
import PostQuery.Proofs.Arguments.Total
import PostQuery.Proofs.Arguments.Canonical
import PostQuery.Proofs.Relation.Path
import PostQuery.Proofs.Value.Keys
import PostQuery.Proofs.Dict.Update
import PostQuery.Proofs.Arguments.Join
import PostQuery.Proofs.Arguments.Diagnosis
import PostQuery.Proofs.Filter.Entity
import PostQuery.Proofs.Clause.Compare
import PostQuery.Proofs.Relation.Sorts
import PostQuery.Proofs.Calendar.Stored
import PostQuery.Proofs.Value.Cast
import PostQuery.Proofs.Tree.Opposite
import PostQuery.Proofs.Value.Slots
import PostQuery.Proofs.Settings.Keys
import PostQuery.Proofs.Settings.Checked
import PostQuery.Proofs.Settings.Typed
import PostQuery.Proofs.Value.Calm
import PostQuery.Proofs.Value.Data
import PostQuery.Proofs.Document
import PostQuery.Proofs.Yaml.Held
import PostQuery.Proofs.Settings.File
import PostQuery.Proofs.Value.Equal
import PostQuery.Proofs.Relation.Words
import PostQuery.Proofs.Dict.Equal
import PostQuery.Proofs.Relation.Congruence
import PostQuery.Proofs.Arguments.Congruence
import PostQuery.Proofs.Arguments.Wording
import PostQuery.Proofs.Value.Nesting
