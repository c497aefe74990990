import AdmissionForecast.Json.Print
import AdmissionForecast.Check.Standard
import AdmissionForecast.Pod.Json
import AdmissionForecast.Category
import AdmissionForecast.Resolution
import AdmissionForecast.Pass
import AdmissionForecast.Cluster.Admission
import AdmissionForecast.Status.Publisher
import AdmissionForecast.Storage
import AdmissionForecast.ExitCode
import AdmissionForecast.Config.Load
import AdmissionForecast.OutputFormat
import AdmissionForecast.Log.Filter
import AdmissionForecast.Log.Line
import AdmissionForecast.Command.Run
import AdmissionForecast.Main
import AdmissionForecast.Proofs.Check.Forbidden
import AdmissionForecast.Proofs.Check.Demands
import AdmissionForecast.Proofs.Check.Strictness
import AdmissionForecast.Proofs.Check.Hardened
import AdmissionForecast.Proofs.Check.Parts
import AdmissionForecast.Proofs.Cluster.Partition
import AdmissionForecast.Proofs.Cluster.Admission
import AdmissionForecast.Proofs.Level
import AdmissionForecast.Proofs.Resolution
import AdmissionForecast.Proofs.Detection.Inspection
import AdmissionForecast.Proofs.Detection.Offline
import AdmissionForecast.Pass.Workers
import AdmissionForecast.Proofs.Conditions
import AdmissionForecast.Proofs.Pass.Recording
import AdmissionForecast.Proofs.Detection.Requests
import AdmissionForecast.Proofs.Pass.Crew
import AdmissionForecast.Proofs.Pass.Schedule
import AdmissionForecast.Proofs.Pass.Accounting
import AdmissionForecast.Proofs.Status.History
import AdmissionForecast.Proofs.Cluster.Silence
import AdmissionForecast.Proofs.Cluster.Layouts
import AdmissionForecast.Proofs.Command.Evaluation
import AdmissionForecast.Proofs.Status.Calls
import AdmissionForecast.Proofs.Json.Value
import AdmissionForecast.Proofs.Json.Records
import AdmissionForecast.Proofs.Detection.Course
import AdmissionForecast.Proofs.Pod.Document
import AdmissionForecast.Proofs.Documents
import AdmissionForecast.Proofs.Pass.Reports
import AdmissionForecast.Proofs.Detection.Findings
import AdmissionForecast.Proofs.Pass.Attribution
import AdmissionForecast.Proofs.Pass.Settings
import AdmissionForecast.Proofs.Volumes
import AdmissionForecast.Proofs.Status.Base
import AdmissionForecast.Proofs.Rendering
import AdmissionForecast.Proofs.Config.Loading
import AdmissionForecast.Proofs.Edits
import AdmissionForecast.Proofs.Candidates
import AdmissionForecast.Proofs.Cluster.SharedSink
import AdmissionForecast.Proofs.Pass.Signals
import AdmissionForecast.Proofs.Detection.Events
import AdmissionForecast.Proofs.Pass.Log
import AdmissionForecast.Proofs.Text.Quoted
import AdmissionForecast.Proofs.Check.Capabilities
import AdmissionForecast.Proofs.Status.Foreign
