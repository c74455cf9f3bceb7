import Intake.Build.Basic
import Intake.Build.Entry
import Intake.Build.Fill
import Intake.Build.Node
import Intake.Calendar.Basic
import Intake.Calendar.Reading
import Intake.Calendar.Rendering
import Intake.Check.Format
import Intake.Check.Stage
import Intake.Check.Standard
import Intake.Check.Verdict
import Intake.Domain.Clause
import Intake.Domain.Evaluation
import Intake.Failure.Basic
import Intake.Failure.Rendering
import Intake.Fault
import Intake.Journal
import Intake.Log.Logger
import Intake.Log.Scrub
import Intake.Markup.Entity
import Intake.Markup.Entity.Table
import Intake.Markup.Event
import Intake.Markup.Filter
import Intake.Markup.Tag
import Intake.Net.Address
import Intake.Net.Url
import Intake.Number.Binary64
import Intake.Number.Reading
import Intake.Number.Shortest
import Intake.Path
import Intake.Pattern.Escape
import Intake.Pattern.Flaw
import Intake.Pattern.Matching
import Intake.Pattern.Reader
import Intake.Pattern.Reading
import Intake.Pattern.Syntax
import Intake.Pattern.Token
import Intake.Permission
import Intake.Proofs.Build.Absence
import Intake.Proofs.Build.Agreement
import Intake.Proofs.Build.Alternatives
import Intake.Proofs.Build.Anchors
import Intake.Proofs.Build.Breaches
import Intake.Proofs.Build.Comparison
import Intake.Proofs.Build.Copies
import Intake.Proofs.Build.Course
import Intake.Proofs.Build.Editing
import Intake.Proofs.Build.Evaluation
import Intake.Proofs.Build.Failures
import Intake.Proofs.Build.Gates
import Intake.Proofs.Build.Modes
import Intake.Proofs.Build.Raising
import Intake.Proofs.Build.Rearranging
import Intake.Proofs.Build.Rebuilding
import Intake.Proofs.Build.Refusals
import Intake.Proofs.Build.Reordering
import Intake.Proofs.Build.Report
import Intake.Proofs.Build.Respelling
import Intake.Proofs.Build.Results
import Intake.Proofs.Build.Schedule
import Intake.Proofs.Build.Sharing
import Intake.Proofs.Build.Slicing
import Intake.Proofs.Build.Soundness
import Intake.Proofs.Build.SpelledFields
import Intake.Proofs.Build.Spelling
import Intake.Proofs.Build.Steps
import Intake.Proofs.Build.Supplied
import Intake.Proofs.Build.Tracing
import Intake.Proofs.Build.Views
import Intake.Proofs.Build.Watch
import Intake.Proofs.Build.Within
import Intake.Proofs.Check.Alike
import Intake.Proofs.Check.Course
import Intake.Proofs.Check.Faults
import Intake.Proofs.Check.Findings
import Intake.Proofs.Check.Format
import Intake.Proofs.Check.Stage
import Intake.Proofs.Check.Standard
import Intake.Proofs.Course
import Intake.Proofs.Domain
import Intake.Proofs.Domain.Equality
import Intake.Proofs.Failure.Alike
import Intake.Proofs.Failure.Shape
import Intake.Proofs.Likeness
import Intake.Proofs.Lockstep
import Intake.Proofs.Log.Scrub
import Intake.Proofs.Markup.Entity
import Intake.Proofs.Markup.Filter
import Intake.Proofs.Markup.PlainText
import Intake.Proofs.Markup.Rereading
import Intake.Proofs.Markup.Tag
import Intake.Proofs.Number
import Intake.Proofs.Path
import Intake.Proofs.Path.Positions
import Intake.Proofs.Pattern.Language
import Intake.Proofs.Permission
import Intake.Proofs.Rule.Brackets
import Intake.Proofs.Rule.Enumerations
import Intake.Proofs.Rule.Forms
import Intake.Proofs.Rule.Joining
import Intake.Proofs.Rule.Literal
import Intake.Proofs.Rule.Misreading
import Intake.Proofs.Rule.Nesting
import Intake.Proofs.Rule.Pieces
import Intake.Proofs.Rule.Rereading
import Intake.Proofs.Rule.Scan
import Intake.Proofs.Rule.Split
import Intake.Proofs.Rule.Stages
import Intake.Proofs.Rule.Whole
import Intake.Proofs.Rule.Words
import Intake.Proofs.Run
import Intake.Proofs.Schema.Admission
import Intake.Proofs.Schema.Authoring
import Intake.Proofs.Schema.Cycles
import Intake.Proofs.Schema.Muting
import Intake.Proofs.Schema.Nodes
import Intake.Proofs.Schema.Order
import Intake.Proofs.Schema.Reordering
import Intake.Proofs.Schema.Waiting
import Intake.Proofs.Text
import Intake.Proofs.Text.Pieces
import Intake.Proofs.Tree
import Intake.Proofs.Tree.Alike
import Intake.Proofs.Unraised
import Intake.Proofs.Value.Alike
import Intake.Proofs.Value.Equality
import Intake.Proofs.Within
import Intake.Raising
import Intake.Reply
import Intake.Rule.Literal
import Intake.Rule.Literal.Token
import Intake.Rule.Malformed
import Intake.Rule.Reading
import Intake.Rule.Split
import Intake.Rule.Syntax
import Intake.Sanitize
import Intake.Schema.Authoring
import Intake.Schema.Basic
import Intake.Schema.Draft
import Intake.Schema.Keys
import Intake.Schema.Order
import Intake.Settings
import Intake.Text.Blank
import Intake.Text.Casing
import Intake.Text.Casing.Kin
import Intake.Text.Casing.Table
import Intake.Text.CharClass
import Intake.Text.CharName
import Intake.Text.CharName.BasicPlane
import Intake.Text.CharName.UpperPlanes
import Intake.Text.Digit
import Intake.Text.Identifier
import Intake.Text.Pieces
import Intake.Text.Printable
import Intake.Text.Quoted
import Intake.Text.Word
import Intake.Tree
import Intake.Uuid
import Intake.Value.Basic
import Intake.Value.Equality
import Intake.Value.Rendering
