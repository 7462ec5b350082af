import Findings.CommandLine.Options
import Findings.Host.Recording
import Findings.Ingest.Basic
import Findings.Issue.Codec

/-!
Contract: what the program writes about a pass.

Owns:
- the text form: a line for each measure and each issue, and the counts;
- the JSON form: the same in one indented object;
- what the program tells about itself.
-/

namespace Findings.CommandLine

/-! ## Text -/

def measureLine (measure : RecordedMeasure) : String :=
  measure.file ++ " " ++ measure.metric.name ++ " = " ++ toString measure.value.toInt

def summaryLine (summary : Summary) : String :=
  toString summary.filesReported ++ " files reported, " ++ toString summary.filesMatched
    ++ " matched, " ++ toString summary.issuesApplied ++ " issues saved, "
    ++ toString summary.issuesRejected ++ " rejected"

def outputLines (summary : Summary) (host : RecordingHost) : List String :=
  host.measures.map measureLine ++ host.issues.map RecordedIssue.text ++ [summaryLine summary]

/-! ## JSON -/

def summaryJson (summary : Summary) : Json.Value :=
  .object [
    ("files_reported", .integer summary.filesReported),
    ("files_matched", .integer summary.filesMatched),
    ("files_skipped", .integer summary.filesSkipped),
    ("metrics_applied", .integer summary.metricsApplied),
    ("issues_applied", .integer summary.issuesApplied),
    ("issues_rejected", .integer summary.issuesRejected)]

def measureJson (measure : RecordedMeasure) : Json.Value :=
  .object [
    ("file", .text measure.file),
    ("metric", measure.metric.toJson),
    ("value", .integer measure.value.toInt)]

def issueJson (issue : RecordedIssue) : Json.Value :=
  .object [
    ("file", .text issue.file),
    ("rule", issue.rule.toJson),
    ("message", .text issue.message),
    ("line", .ofOption (issue.line.map fun line => (line.toNat : Int)))]

def outputJson (summary : Summary) (host : RecordingHost) : Json.Value :=
  .object [
    ("summary", summaryJson summary),
    ("measures", .list (host.measures.map measureJson)),
    ("issues", .list (host.issues.map issueJson))]

/-! ## Whole outputs -/

/-- Lines as a text. -/
def unlines (lines : List String) : String :=
  String.join (lines.map (· ++ "\n"))

/-- What is written about a pass. -/
def output (format : Format) (summary : Summary) (host : RecordingHost) : String :=
  match format with
  | .text => unlines (outputLines summary host)
  | .json => unlines [(outputJson summary host).indentedText]

def programName : String :=
  "goanalyzer-bridge"

def versionText : String :=
  unlines [programName ++ " 0.1.0"]

def helpText : String :=
  unlines [
    "Bridges the bundled Go static analyzer into a host analysis server",
    "",
    "Usage: " ++ programName ++ " [OPTIONS] <DIR>",
    "",
    "Arguments:",
    "  <DIR>  Project directory to analyze",
    "",
    "Options:",
    "      --config <CONFIG>      Config file (defaults to goanalyzer.toml in DIR, if present)",
    "      --bundle <BUNDLE>      Bundle holding the analyzers: a directory or a zip archive",
    "      --os-name <OS_NAME>    OS name used to pick the analyzer (e.g. \"Linux\", \"Mac OS X\")",
    "      --timeout <TIMEOUT>    Kill the analyzer if it runs longer than this many seconds",
    "      --language <LANGUAGE>  Language key of the tracked files",
    "      --absolute-paths       Key tracked files by absolute path instead of relative to DIR",
    "      --format <FORMAT>      [default: text] [possible values: text, json]",
    "  -h, --help                 Print help",
    "  -V, --version              Print version"]

end Findings.CommandLine
