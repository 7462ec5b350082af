import Findings.Main
import Findings.Proofs.Json.Spelled
import Findings.Proofs.Json.NumberText
import Findings.Proofs.Ingest.Range
import Findings.Proofs.Issue.Codec
import Findings.Proofs.Json.Skip
import Findings.Proofs.Json.Schema
import Findings.Proofs.Json.Fields
import Findings.Proofs.Report.Schema
import Findings.Proofs.Process.Steps
import Findings.Proofs.Process.Capture
import Findings.Proofs.Process.Ending
import Findings.Proofs.Files.Folder
import Findings.Proofs.Bundle.Copying
import Findings.Proofs.Bundle.Lifetimes
import Findings.Proofs.Ingest.Account
import Findings.Proofs.Pass.Order
import Findings.Proofs.Host.Addressable
import Findings.Proofs.Files.Tree
import Findings.Proofs.Registry.Spelling
import Findings.Proofs.Json.Cut
import Findings.Proofs.Json.CutRecord
import Findings.Proofs.Report.Cut
import Findings.Proofs.Process.Verdict
import Findings.Proofs.Report.Shapes
import Findings.Proofs.CommandLine.Outcome
import Findings.Proofs.Bundle.Interchange
import Findings.Proofs.Registry.Components
import Findings.Proofs.Registry.Canonical
import Findings.Proofs.Ingest.Batches
import Findings.Proofs.Ingest.Respelled
import Findings.Proofs.Ingest.Reordered
import Findings.Proofs.Registry.History
import Findings.Proofs.Host.Kept
import Findings.Proofs.Host.Tracked
import Findings.Proofs.Bundle.Materialized
import Findings.Proofs.Pass.Repository
import Findings.Proofs.Settings.Effective
import Findings.Proofs.Settings.Decoding
import Findings.Proofs.Settings.Analyzer
