import BroadcastGraphics.Animation
import BroadcastGraphics.Audit
import BroadcastGraphics.Canvas
import BroadcastGraphics.CommandLine
import BroadcastGraphics.Component
import BroadcastGraphics.ComponentScript
import BroadcastGraphics.Configuration.Operator
import BroadcastGraphics.Configuration.Studio
import BroadcastGraphics.ConflictPolicy
import BroadcastGraphics.Element
import BroadcastGraphics.Exchange.ComponentSource
import BroadcastGraphics.Exchange.Document
import BroadcastGraphics.Exchange.Files
import BroadcastGraphics.Fault
import BroadcastGraphics.FileTree
import BroadcastGraphics.FreshName
import BroadcastGraphics.Heap
import BroadcastGraphics.Identifier
import BroadcastGraphics.Json.Basic
import BroadcastGraphics.Json.Display
import BroadcastGraphics.Json.Name
import BroadcastGraphics.Json.Printer
import BroadcastGraphics.Json.Reader
import BroadcastGraphics.Layout
import BroadcastGraphics.Main
import BroadcastGraphics.Manifest
import BroadcastGraphics.Markup
import BroadcastGraphics.Moment
import BroadcastGraphics.Naming
import BroadcastGraphics.Number.Binary64
import BroadcastGraphics.Number.Decimal
import BroadcastGraphics.Path
import BroadcastGraphics.Placeholder
import BroadcastGraphics.Playback
import BroadcastGraphics.Playback.Command
import BroadcastGraphics.Preset
import BroadcastGraphics.Proofs.AcceptedRecords
import BroadcastGraphics.Proofs.ClockReading
import BroadcastGraphics.Proofs.DecimalNumber
import BroadcastGraphics.Proofs.FreshNames
import BroadcastGraphics.Proofs.HeapOrder
import BroadcastGraphics.Proofs.Identifiers
import BroadcastGraphics.Proofs.ImportPolicy
import BroadcastGraphics.Proofs.JsonText
import BroadcastGraphics.Proofs.Movement
import BroadcastGraphics.Proofs.MovementFate
import BroadcastGraphics.Proofs.NumberText
import BroadcastGraphics.Proofs.RecordReading
import BroadcastGraphics.Proofs.RecordWriting
import BroadcastGraphics.Proofs.RehearsalRun
import BroadcastGraphics.Proofs.Rounding
import BroadcastGraphics.Proofs.SessionAction
import BroadcastGraphics.Proofs.SingleTimer
import BroadcastGraphics.Proofs.StringText
import BroadcastGraphics.Proofs.TemplateEdit
import BroadcastGraphics.Proofs.TemplateValidity
import BroadcastGraphics.Proofs.TimedQueue
import BroadcastGraphics.Proofs.TimelineLoop
import BroadcastGraphics.Registry
import BroadcastGraphics.Rehearsal
import BroadcastGraphics.Service
import BroadcastGraphics.Service.Answer
import BroadcastGraphics.Service.Body
import BroadcastGraphics.Service.Editing
import BroadcastGraphics.Service.Preview
import BroadcastGraphics.Service.Request
import BroadcastGraphics.Service.Response
import BroadcastGraphics.Service.Route
import BroadcastGraphics.Session
import BroadcastGraphics.Session.Command
import BroadcastGraphics.Session.Export
import BroadcastGraphics.Session.Import
import BroadcastGraphics.Session.Succession
import BroadcastGraphics.Snapshot
import BroadcastGraphics.Stage
import BroadcastGraphics.Stage.Command
import BroadcastGraphics.Store
import BroadcastGraphics.Store.Command
import BroadcastGraphics.Store.Database
import BroadcastGraphics.Store.Directory
import BroadcastGraphics.Store.Memory
import BroadcastGraphics.Style
import BroadcastGraphics.Table
import BroadcastGraphics.Template
import BroadcastGraphics.Template.Call
import BroadcastGraphics.Template.Listeners
import BroadcastGraphics.Text.Blank
import BroadcastGraphics.Text.Case
import BroadcastGraphics.Text.Digit
import BroadcastGraphics.Text.Encoding
import BroadcastGraphics.Text.HalfPair
import BroadcastGraphics.Text.Printable
import BroadcastGraphics.Text.Quoted
import BroadcastGraphics.Text.Ranges
import BroadcastGraphics.Text.Search
import BroadcastGraphics.Timeline
import BroadcastGraphics.Timeline.Script
import BroadcastGraphics.Timeline.Span
import BroadcastGraphics.Troupe
import BroadcastGraphics.Validation.Checked
import BroadcastGraphics.Validation.Issue
import BroadcastGraphics.Validation.Record
import BroadcastGraphics.Validation.Scalar
import BroadcastGraphics.Yaml.Cursor
import BroadcastGraphics.Yaml.DateTime
import BroadcastGraphics.Yaml.Node
import BroadcastGraphics.Yaml.Reader
import BroadcastGraphics.Yaml.Scalar
import BroadcastGraphics.Yaml.ScalarText
import BroadcastGraphics.Yaml.Token
import BroadcastGraphics.Proofs.DataStandard
import BroadcastGraphics.Proofs.TemplateData
import BroadcastGraphics.Proofs.ComponentCache
import BroadcastGraphics.Proofs.ManifestEdit
import BroadcastGraphics.Proofs.SessionIndex
import BroadcastGraphics.Proofs.ServiceAction
import BroadcastGraphics.Proofs.JsonReading
import BroadcastGraphics.Proofs.ElementNames
import BroadcastGraphics.Proofs.ElementRequest
import BroadcastGraphics.Proofs.ElementSteps
import BroadcastGraphics.Proofs.PreviewSync
import BroadcastGraphics.Proofs.IncomingValidity
import BroadcastGraphics.Proofs.StoreShelf
import BroadcastGraphics.Proofs.TemplateText
import BroadcastGraphics.Proofs.SessionMirror
import BroadcastGraphics.Proofs.SessionRestart
import BroadcastGraphics.Proofs.StoreAgreement
import BroadcastGraphics.Proofs.MomentOrder
import BroadcastGraphics.Proofs.WholeTime
import BroadcastGraphics.Proofs.RehearsalView
import BroadcastGraphics.Proofs.Reloading
import BroadcastGraphics.Proofs.FileReading
import BroadcastGraphics.Proofs.WrittenData
import BroadcastGraphics.Proofs.CarriedData
import BroadcastGraphics.Proofs.SnapshotRoundTrip
import BroadcastGraphics.Proofs.StyleText
import BroadcastGraphics.Proofs.LiteralText
import BroadcastGraphics.Proofs.ComponentText
import BroadcastGraphics.Proofs.FlatDirectory
import BroadcastGraphics.Proofs.DirectoryStore
import BroadcastGraphics.Proofs.FailedSave
import BroadcastGraphics.Proofs.WrittenImport
import BroadcastGraphics.Proofs.DocumentRoundTrip
import BroadcastGraphics.Proofs.ExportedSource
import BroadcastGraphics.Proofs.BundleRoundTrip
import BroadcastGraphics.Proofs.SharedClock
import BroadcastGraphics.Proofs.StageOrder
import BroadcastGraphics.Proofs.PreviewData
import BroadcastGraphics.Proofs.OperatorAccess
import BroadcastGraphics.Proofs.ShownMarkup
import BroadcastGraphics.Proofs.SessionBookkeeping
import BroadcastGraphics.Proofs.StartUp
import BroadcastGraphics.Proofs.AuditAgreement
import BroadcastGraphics.Proofs.PlaceholderText
import BroadcastGraphics.Proofs.MarkupSigns
import BroadcastGraphics.Proofs.LayoutContent
import BroadcastGraphics.Proofs.ChangeAnnouncement
import BroadcastGraphics.Proofs.ReachedTemplate
import BroadcastGraphics.Proofs.ManifestFrame
import BroadcastGraphics.Proofs.ValueForm
import BroadcastGraphics.Proofs.EditEffect
import BroadcastGraphics.Proofs.ReturningRuns
import BroadcastGraphics.Proofs.FrameSteps
import BroadcastGraphics.Proofs.TimerDiary
import BroadcastGraphics.Proofs.AuditedLoading
import BroadcastGraphics.Proofs.ComponentNames
import BroadcastGraphics.Proofs.ExportedFiles
import BroadcastGraphics.Proofs.ImportReport
import BroadcastGraphics.Proofs.TagNames
import BroadcastGraphics.Proofs.AuditEndings
import BroadcastGraphics.Proofs.CleanedSource
import BroadcastGraphics.Playout
import BroadcastGraphics.Proofs.ScriptNumbers
import BroadcastGraphics.Proofs.PlayedContent
import BroadcastGraphics.Proofs.ElementNumbers
import BroadcastGraphics.Proofs.SettingsReading
import BroadcastGraphics.Proofs.LayeredSettings
import BroadcastGraphics.Proofs.SettingsShapes
