import BalanceSheet.Api.Server
import BalanceSheet.Api.Query
import BalanceSheet.Calendar.Date
import BalanceSheet.Command.Arguments
import BalanceSheet.Command.Setup
import BalanceSheet.Command.Options
import BalanceSheet.Command.Work
import BalanceSheet.Condition.Basic
import BalanceSheet.Condition.Clause
import BalanceSheet.Condition.Filter
import BalanceSheet.Condition.Json
import BalanceSheet.Config.Basic
import BalanceSheet.Config.Validation
import BalanceSheet.Decimal
import BalanceSheet.Registry.Parts
import BalanceSheet.Engine
import BalanceSheet.Exchange
import BalanceSheet.Request
import BalanceSheet.File.Tree
import BalanceSheet.Formula
import BalanceSheet.Guard
import BalanceSheet.Http.Message
import BalanceSheet.Http.Fault
import BalanceSheet.Json.Basic
import BalanceSheet.Json.Parser
import BalanceSheet.Json.Printer
import BalanceSheet.Main
import BalanceSheet.Net.Address
import BalanceSheet.Param
import BalanceSheet.Proofs.Api.Concealment
import BalanceSheet.Proofs.Api.Conditions
import BalanceSheet.Proofs.Api.Pages
import BalanceSheet.Proofs.Binding.Run
import BalanceSheet.Proofs.Calendar.Bucket
import BalanceSheet.Proofs.Calendar.Shift
import BalanceSheet.Proofs.Calendar.Text
import BalanceSheet.Proofs.Command.DryRun
import BalanceSheet.Proofs.Command.Filters
import BalanceSheet.Proofs.Command.RepeatedFilters
import BalanceSheet.Proofs.Condition.Alike
import BalanceSheet.Proofs.Condition.Days
import BalanceSheet.Proofs.Condition.Filled
import BalanceSheet.Proofs.Condition.Growth
import BalanceSheet.Proofs.Condition.Key
import BalanceSheet.Proofs.Condition.Outline
import BalanceSheet.Proofs.Condition.Placeholders
import BalanceSheet.Proofs.Condition.Window
import BalanceSheet.Proofs.Config.Client
import BalanceSheet.Proofs.Engine.Session
import BalanceSheet.Proofs.Except
import BalanceSheet.Proofs.Formula.FixedPoint
import BalanceSheet.Proofs.Formula.Leftover
import BalanceSheet.Proofs.Formula.Reading
import BalanceSheet.Proofs.Formula.Resolution
import BalanceSheet.Proofs.Formula.Simultaneous
import BalanceSheet.Proofs.Formula.Substitution
import BalanceSheet.Proofs.Guard.Admission
import BalanceSheet.Proofs.Guard.Statements
import BalanceSheet.Proofs.Guard.Unbound
import BalanceSheet.Proofs.Lists
import BalanceSheet.Proofs.Metric.Grouping
import BalanceSheet.Proofs.Params.Growth
import BalanceSheet.Proofs.Params.Names
import BalanceSheet.Proofs.Params.Placeholder
import BalanceSheet.Proofs.Query.Alike
import BalanceSheet.Proofs.Query.Buckets
import BalanceSheet.Proofs.Query.Capture
import BalanceSheet.Proofs.Query.Closure
import BalanceSheet.Proofs.Query.Columns
import BalanceSheet.Proofs.Query.Extension
import BalanceSheet.Proofs.Query.FilterOrder
import BalanceSheet.Proofs.Query.Lookups
import BalanceSheet.Proofs.Query.MetricOrder
import BalanceSheet.Proofs.Query.Names
import BalanceSheet.Proofs.Query.Output
import BalanceSheet.Proofs.Query.PeriodValues
import BalanceSheet.Proofs.Query.Placeholders
import BalanceSheet.Proofs.Query.Plans
import BalanceSheet.Proofs.Query.Quiet
import BalanceSheet.Proofs.Query.Refusals
import BalanceSheet.Proofs.Query.Scope
import BalanceSheet.Proofs.Query.Sources
import BalanceSheet.Proofs.Query.Standing
import BalanceSheet.Proofs.Query.Success
import BalanceSheet.Proofs.Query.ValueIndependence
import BalanceSheet.Proofs.Registry.Acceptance
import BalanceSheet.Proofs.Registry.Circular
import BalanceSheet.Proofs.Registry.Declaration
import BalanceSheet.Proofs.Registry.Fields
import BalanceSheet.Proofs.Registry.Filterable
import BalanceSheet.Proofs.Registry.Leftover
import BalanceSheet.Proofs.Registry.Lost
import BalanceSheet.Proofs.Registry.Names
import BalanceSheet.Proofs.Registry.Partition
import BalanceSheet.Proofs.Registry.Selection
import BalanceSheet.Proofs.Response.Conformance
import BalanceSheet.Proofs.Response.Projection
import BalanceSheet.Proofs.Response.Reported
import BalanceSheet.Proofs.Response.Tabulation
import BalanceSheet.Proofs.Sorted
import BalanceSheet.Proofs.Text.Basic
import BalanceSheet.Proofs.Text.Quiet
import BalanceSheet.Proofs.Text.Shows
import BalanceSheet.Proofs.Text.Spelling
import BalanceSheet.Proofs.Text.Utf8
import BalanceSheet.Proofs.Text.Words
import BalanceSheet.Proofs.Url.Form
import BalanceSheet.Proofs.Url.Place
import BalanceSheet.Query.Statement
import BalanceSheet.Query.Source
import BalanceSheet.Registry.Basic
import BalanceSheet.Registry.Builtin
import BalanceSheet.Registry.Diagnosis
import BalanceSheet.Registry.Json
import BalanceSheet.Response
import BalanceSheet.Store.Client
import BalanceSheet.Store.Rows
import BalanceSheet.Text.Bytes
import BalanceSheet.Text.Basic
import BalanceSheet.Text.Quoted
import BalanceSheet.Toml.Basic
import BalanceSheet.Toml.Parser
import BalanceSheet.Url.Basic
import BalanceSheet.Url.Reader
import BalanceSheet.Proofs.Json.Scalars
import BalanceSheet.Proofs.Json.Reading
import BalanceSheet.Proofs.Json.Grammar
import BalanceSheet.Proofs.Store.Body
import BalanceSheet.Proofs.Net.Text
import BalanceSheet.Proofs.Config.Host
import BalanceSheet.Proofs.Json.Records
import BalanceSheet.Proofs.Store.Request
import BalanceSheet.Proofs.Condition.Bounds
