import LeadFlow.Json.Reader
import LeadFlow.Json.Printer
import LeadFlow.Message.Personal
import LeadFlow.Message.SendTime
import LeadFlow.Workflow.Basic
import LeadFlow.Workflow.Condition
import LeadFlow.Settings
import LeadFlow.Value.Arithmetic
import LeadFlow.Retry
import LeadFlow.Workflow.Accumulate
import LeadFlow.Workflow.Run
import LeadFlow.Analytics.Log
import LeadFlow.Analytics.Nodes
import LeadFlow.Analytics.Summary
import LeadFlow.Program.Course
import LeadFlow.Program.Retried
import LeadFlow.Execution.Registry
import LeadFlow.Execution.Batch
import LeadFlow.Execution.Rehearsal
import LeadFlow.Writer.Client
import LeadFlow.Message.Delivery
import LeadFlow.Text.Placeholder
import LeadFlow.Logging
import LeadFlow.Storage.Row
import LeadFlow.Storage.Database
import LeadFlow.Storage.Selection
import LeadFlow.Storage.Session
import LeadFlow.Storage.Column
import LeadFlow.Storage.Leads
import LeadFlow.Storage.Workflows
import LeadFlow.Storage.Templates
import LeadFlow.Storage.Messages
import LeadFlow.Storage.Audits
import LeadFlow.Storage.Runs
import LeadFlow.Storage.Seed
import LeadFlow.Storage.Backed
import LeadFlow.Storage.Listing
import LeadFlow.Storage.Execute
import LeadFlow.Value.Part
import LeadFlow.Execution.Script
import LeadFlow.Storage.Deployment
import LeadFlow.Text.Utf8
import LeadFlow.Text.Percent
import LeadFlow.Service.Target
import LeadFlow.Service.Request
import LeadFlow.Service.Route
import LeadFlow.Service.Order
import LeadFlow.Service.View
import LeadFlow.Service.Answer
import LeadFlow.Service.Hosts
import LeadFlow.Service.Handler
import LeadFlow.Text.Ignorable
import LeadFlow.Calendar.Digits
import LeadFlow.Calendar.Timestamp
import LeadFlow.Service.Form
import LeadFlow.Main
import LeadFlow.Proofs.Execution.DeliveryAccount
import LeadFlow.Proofs.Execution.Results
import LeadFlow.Proofs.Execution.Accounting
import LeadFlow.Proofs.Execution.Knowledge
import LeadFlow.Proofs.Message.Leftover
import LeadFlow.Proofs.Storage.Isolation
import LeadFlow.Proofs.Storage.Ledger
import LeadFlow.Proofs.Execution.Viewed
import LeadFlow.Proofs.Storage.Booked
import LeadFlow.Proofs.Service.Tenancy
import LeadFlow.Proofs.Workflow.Folding
import LeadFlow.Proofs.Service.Bookkeeping
import LeadFlow.Proofs.Service.Malformed
import LeadFlow.Proofs.Workflow.Reloaded
import LeadFlow.Proofs.Storage.History
import LeadFlow.Proofs.Service.LogPage
import LeadFlow.Proofs.Execution.Appended
import LeadFlow.Proofs.Execution.Independent
import LeadFlow.Proofs.Workflow.Drift
import LeadFlow.Proofs.Storage.Concurrent
import LeadFlow.Proofs.Calendar.Years
import LeadFlow.Proofs.Calendar.Seasons
import LeadFlow.Proofs.Message.Earliest
import LeadFlow.Proofs.Program.Alike
import LeadFlow.Proofs.Execution.Wording
import LeadFlow.Proofs.Json.Recovered
import LeadFlow.Proofs.Program.Attempts
import LeadFlow.Proofs.Writer.Requests
import LeadFlow.Proofs.Writer.Accounted
import LeadFlow.Proofs.Storage.Collision
import LeadFlow.Proofs.Service.Totals
import LeadFlow.Proofs.Execution.RecordSteps
import LeadFlow.Proofs.Analytics.Recent
import LeadFlow.Proofs.Analytics.Nodes
import LeadFlow.Proofs.Decimal.Quotient
import LeadFlow.Proofs.Analytics.Triggers
import LeadFlow.Proofs.Storage.Selected
import LeadFlow.Proofs.Service.Selection
import LeadFlow.Proofs.Workflow.Range
import LeadFlow.Proofs.Execution.Tagging
import LeadFlow.Proofs.Message.Named
import LeadFlow.Proofs.Execution.Deadline
import LeadFlow.Proofs.Execution.Registered
import LeadFlow.Proofs.Storage.Appending
import LeadFlow.Proofs.Storage.Seeded
