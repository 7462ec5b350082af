import Findings.Host.Basic
import Findings.Text.Casing

/-!
Contract: a host that keeps all findings in memory.

Owns:
- `RecordingHost`, with the files it tracks and the number of lines of some of
  them;
- its two calls: a measure takes the place of an earlier one of the same file
  and metric and moves to the end; an issue is refused only beyond the last
  line of a file whose lines are known;
- the listing of files, which depends on the language up to the case of ASCII
  letters.

Files without a known number of lines take any line, whether they are tracked
or not.
-/

namespace Findings

structure RecordedMeasure where
  file : String
  metric : Metric
  value : Int64
deriving DecidableEq, Repr

structure RecordedIssue where
  file : String
  rule : RuleKey
  message : String
  line : Option UInt32
deriving DecidableEq, Repr

/-- An issue in one line; the line number is zero for a file as a whole. -/
def RecordedIssue.text (issue : RecordedIssue) : String :=
  issue.rule.rule ++ "|" ++ issue.message ++ "|" ++ issue.file ++ "("
    ++ toString ((issue.line.map UInt32.toNat).getD 0) ++ ")"

structure RecordingHost where
  language : String
  /-- The tracked paths, in order; a path may come twice. -/
  files : List String
  /-- The number of lines of the files that were read. -/
  lineCounts : List (String × UInt32)
  measures : List RecordedMeasure
  issues : List RecordedIssue
deriving DecidableEq, Repr

namespace RecordingHost

def ofLanguage (language : String) : RecordingHost :=
  ⟨language, [], [], [], []⟩

/-- Tracks a file whose lines are not known. -/
def track (host : RecordingHost) (path : String) : RecordingHost :=
  { host with files := host.files ++ [path] }

def trackLines (host : RecordingHost) (path : String) (lines : UInt32) : RecordingHost :=
  { host with
    files := host.files ++ [path]
    lineCounts := (path, lines) :: host.lineCounts }

def lineCount? (host : RecordingHost) (file : String) : Option UInt32 :=
  host.lineCounts.lookup file

/-- The files of a language: all of them or none. -/
def sourceFiles (host : RecordingHost) (language : String) : List (TrackedFile String) :=
  if Text.sameUpToAsciiCase language.toList host.language.toList then
    host.files.map fun path => ⟨path, path⟩
  else
    []

/-- Keeps a measure in place of an earlier one. -/
def saveMeasure (host : RecordingHost) (file : String) (metric : Metric) (value : Int64) :
    RecordingHost :=
  { host with
    measures := (host.measures.filter fun measure =>
      !(measure.file == file && measure.metric == metric)) ++ [⟨file, metric, value⟩] }

/-- The last line of a file, if an issue lies beyond it. -/
def beyond? (host : RecordingHost) (file : String) (issue : NewIssue) :
    Option (UInt32 × UInt32) := do
  let line ← issue.line
  let last ← host.lineCount? file
  if last < line then some (line, last) else none

/-- Keeps an issue unless it lies beyond the last line of its file. -/
def addIssue (host : RecordingHost) (file : String) (issue : NewIssue) :
    Answer × RecordingHost :=
  match host.beyond? file issue with
  | some (line, last) =>
    (.refused ("line " ++ toString line.toNat ++ " is out of range in " ++ file
      ++ ", which has " ++ toString last.toNat ++ " lines"), host)
  | none =>
    (.accepted,
      { host with issues := host.issues ++ [⟨file, issue.rule, issue.message, issue.line⟩] })

def host : Host RecordingHost String where
  saveMeasure := saveMeasure
  addIssue := addIssue
  sourceFiles := sourceFiles

end RecordingHost

end Findings
