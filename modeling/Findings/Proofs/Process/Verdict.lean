import Mathlib
import Findings.Proofs.Process.Capture
import Findings.Proofs.Text.Utf8
import Findings.Process.Launch

/-!
Contract: the verdict on an analyzer, told by the octets that it wrote.

Owns:
- the octets that end lines, and the texts that consist of them;
- `Timeline.Judged`, what a run comes to: the octets of the error stream decide,
  wherever they stand, and what is returned is decoded whole;
- the law for every run whose capture completes, and for every order in which its
  streams are emptied.

Does not own: runs that cannot be started, and captures that time out.
-/

namespace Findings

open Text

variable {timeline other : Timeline} {limit otherLimit : Option Nat}
  {captured otherCaptured : Captured} {octets : List UInt8} {octet : UInt8} {text : String}

/-! ## Line ends -/

/-- An octet that ends a line. -/
def EndsLine (octet : UInt8) : Prop :=
  octet = 0x0A ∨ octet = 0x0D

instance : Decidable (EndsLine octet) :=
  inferInstanceAs (Decidable (_ ∨ _))

theorem plain_isLineEnd : Plain isLineEnd where
  ascii c isEnd := by
    obtain rfl | rfl : c = '\n' ∨ c = '\r' := by simpa [isLineEnd] using isEnd
    · decide
    · decide
  notZero := rfl

theorem isOctetOf_isLineEnd_iff : IsOctetOf isLineEnd octet ↔ EndsLine octet := by
  have all : ∀ n < 256, isLineEnd (Char.ofNat n) = true ↔ n = 0x0A ∨ n = 0x0D := by
    decide +kernel
  rw [IsOctetOf, all octet.toNat octet.toNat_lt, EndsLine, ← UInt8.toNat_inj, ← UInt8.toNat_inj]
  rfl

/-- A stream is decoded to line ends alone exactly if nothing else was written. -/
theorem forall_isLineEnd_decodeLossy_iff :
    (∀ c ∈ decodeLossy octets, isLineEnd c = true) ↔ ∀ octet ∈ octets, EndsLine octet := by
  rw [forall_mem_decodeLossy_iff plain_isLineEnd]
  exact forall₂_congr fun octet _ => isOctetOf_isLineEnd_iff

/-- A text less the line ends at its front and at its back. -/
def trimLineEnds (text : List Char) : List Char :=
  ((text.dropWhile isLineEnd).reverse.dropWhile isLineEnd).reverse

/-- Line ends between other characters stay, but then so do the others. -/
theorem trimLineEnds_eq_nil_iff {chars : List Char} :
    trimLineEnds chars = [] ↔ ∀ c ∈ chars, isLineEnd c = true := by
  have front : chars.takeWhile isLineEnd ++ chars.dropWhile isLineEnd = chars :=
    List.takeWhile_append_dropWhile
  rw [trimLineEnds, List.reverse_eq_nil_iff, List.dropWhile_eq_nil_iff]
  constructor
  · intro back c inside
    rw [← front, List.mem_append] at inside
    rcases inside with first | later
    · exact List.mem_takeWhile_imp first
    · exact back c (List.mem_reverse.mpr later)
  · intro all c inside
    exact all c ((List.dropWhile_sublist _).mem (List.mem_reverse.mp inside))

/-! ## Verdicts -/

/-- What a run comes to, by what was written. -/
structure Timeline.Judged (timeline : Timeline) (outcome : Except ProcessError Captured) :
    Prop where
  /-- An error is reported exactly if an octet of the error stream ends no line; its
  text is the whole stream. -/
  reported : ∀ text, outcome = .error (.reported text)
    ↔ (∃ octet ∈ timeline.octets .stderr, ¬ EndsLine octet)
      ∧ text = String.ofList (decodeLossy (timeline.octets .stderr))
  /-- Otherwise both streams are returned with the number that the program ended
  with, if it ended with one. -/
  returned : ∀ captured, outcome = .ok captured
    ↔ (∀ octet ∈ timeline.octets .stderr, EndsLine octet)
      ∧ captured = ⟨String.ofList (decodeLossy (timeline.octets .stdout)),
          String.ofList (decodeLossy (timeline.octets .stderr)), timeline.exitCode⟩

theorem Captured.hasErrors_eq_false_iff :
    captured.hasErrors = false ↔ ∀ c ∈ captured.stderr.toList, isLineEnd c = true := by
  simp [hasErrors]

/-- There is no error exactly if every octet of the error stream ends a line. -/
theorem Timeline.hasErrors_captured_iff :
    timeline.captured.hasErrors = false ↔ ∀ octet ∈ timeline.octets .stderr, EndsLine octet := by
  rw [Captured.hasErrors_eq_false_iff, ← forall_isLineEnd_decodeLossy_iff]
  simp [captured, text]

theorem Timeline.judged_verdict (timeline : Timeline) :
    timeline.Judged timeline.captured.verdict := by
  by_cases quiet : ∀ octet ∈ timeline.octets .stderr, EndsLine octet
  · have returned : timeline.captured.verdict = .ok timeline.captured := by
      rw [Captured.verdict, hasErrors_captured_iff.mpr quiet]
      rfl
    have nothing : ¬ ∃ octet ∈ timeline.octets .stderr, ¬ EndsLine octet := by
      rintro ⟨octet, inside, other⟩
      exact other (quiet octet inside)
    constructor
    case reported => simp [returned, nothing]
    case returned =>
      intro captured
      rw [returned, Except.ok.injEq, eq_comm]
      exact (and_iff_right quiet).symm
  · have loud : timeline.captured.hasErrors = true := by
      rw [← Bool.not_eq_false, hasErrors_captured_iff]
      exact quiet
    have reported : timeline.captured.verdict = .error (.reported timeline.captured.stderr) := by
      rw [Captured.verdict, loud]
      rfl
    have something : ∃ octet ∈ timeline.octets .stderr, ¬ EndsLine octet := by
      simpa using quiet
    constructor
    case reported =>
      intro text
      rw [reported, Except.error.injEq, ProcessError.reported.injEq, eq_comm]
      exact (and_iff_right something).symm
    case returned => simp [reported, quiet]

/-- A capture that completes has everything, whatever the limit was. -/
theorem Timeline.eq_captured_of_capture
    (completed : timeline.capture limit = some (.ok captured)) : captured = timeline.captured := by
  unfold capture at completed
  split at completed
  · split at completed
    · exact (Except.ok.inj (Option.some.inj completed)).symm
    · cases completed
  · exact (Except.ok.inj (Option.some.inj completed)).symm
  · cases completed
  · cases completed

/-- Of two runs with the same error streams but for the line ends, both report
errors or neither does. -/
theorem Timeline.exists_solid_iff
    (same : (other.octets .stderr).filter (fun octet => ¬ EndsLine octet)
      = (timeline.octets .stderr).filter fun octet => ¬ EndsLine octet) :
    (∃ octet ∈ other.octets .stderr, ¬ EndsLine octet)
      ↔ ∃ octet ∈ timeline.octets .stderr, ¬ EndsLine octet := by
  have listed (timeline : Timeline) : (∃ octet ∈ timeline.octets .stderr, ¬ EndsLine octet)
      ↔ ∃ octet, octet ∈ (timeline.octets .stderr).filter fun octet => ¬ EndsLine octet := by
    simp only [List.mem_filter, decide_eq_true_eq]
  rw [listed, listed, same]

/-- A capture that completes is judged by the octets of the error stream alone.
- The run reports an error, with the whole stream as its text, exactly if one of these
  octets ends no line; otherwise it returns both streams and the exit code.
- So it is for a program that any launcher starts, and in whatever order the streams
  of a program and its descendants are emptied.
- Taking line ends away at the front and at the back of the text tells the same.
- The other stream, the exit code and line ends anywhere make no difference.
- A stream in UTF-8 is returned as it is. -/
theorem runAnalyzer_judged (completed : timeline.capture limit = some (.ok captured)) :
    timeline.Judged captured.verdict
      ∧ (∀ (ω : Type) (launcher : Launcher ω) invocation before after,
          launcher limit invocation before = .ok (timeline, after) →
            runAnalyzer launcher limit invocation before = some (captured.verdict, after))
      ∧ (∀ (setup : Capturing.Setup) (state : Capturing.State setup) reached,
          Capturing.Reachable state → state.phase.result? = some (.ok reached) →
            (state.timeline none).Judged reached.verdict)
      ∧ ((∃ text, captured.verdict = .error (.reported text))
          ↔ trimLineEnds captured.stderr.toList ≠ [])
      ∧ (∀ (other : Timeline) otherLimit otherCaptured,
          other.capture otherLimit = some (.ok otherCaptured) →
          (other.octets .stderr).filter (fun octet => ¬ EndsLine octet)
            = (timeline.octets .stderr).filter (fun octet => ¬ EndsLine octet) →
          ((∃ text, otherCaptured.verdict = .error (.reported text))
            ↔ ∃ text, captured.verdict = .error (.reported text)))
      ∧ ∀ chars,
          (timeline.octets .stdout = utf8 chars → captured.stdout = String.ofList chars)
          ∧ (timeline.octets .stderr = utf8 chars → captured.stderr = String.ofList chars) := by
  obtain rfl := Timeline.eq_captured_of_capture completed
  have fails (timeline : Timeline) : (∃ text, timeline.captured.verdict = .error (.reported text))
      ↔ ∃ octet ∈ timeline.octets .stderr, ¬ EndsLine octet := by
    simp [timeline.judged_verdict.reported]
  refine ⟨timeline.judged_verdict, ?started, ?interleaved, ?trimmed, ?alike, ?exact⟩
  case started =>
    intro ω launcher invocation before after launched
    simp only [runAnalyzer, capture, launched, completed]
    rfl
  case interleaved =>
    intro setup state reached reachable returned
    have whole := (reachable.sound.captured (Capturing.result?_eq_some.mp returned)).2.2
    rw [whole]
    exact (state.timeline none).judged_verdict
  case trimmed =>
    have quiet : trimLineEnds timeline.captured.stderr.toList = []
        ↔ ∀ octet ∈ timeline.octets .stderr, EndsLine octet := by
      rw [trimLineEnds_eq_nil_iff, ← Captured.hasErrors_eq_false_iff,
        Timeline.hasErrors_captured_iff]
    rw [fails, Ne, quiet]
    simp
  case alike =>
    intro other otherLimit otherCaptured otherCompleted same
    obtain rfl := Timeline.eq_captured_of_capture otherCompleted
    rw [fails, fails]
    exact Timeline.exists_solid_iff same
  case exact =>
    intro chars
    constructor
    · intro encoded
      simp only [Timeline.captured, Timeline.text, encoded, decodeLossy_utf8]
    · intro encoded
      simp only [Timeline.captured, Timeline.text, encoded, decodeLossy_utf8]

/-- A launcher that starts every program, with the number of those that were started
for its surroundings.  What a program does is to complain of its first argument. -/
def complainer : Launcher Nat := fun _ invocation started =>
  .ok (⟨[⟨.stderr, utf8 (invocation.arguments.headD "").toList⟩], some 1, some 0⟩, started + 1)

/-- An octet that is not UTF-8, between line ends, is reported after a signal, and so
is the complaint of a program that is started. -/
theorem runAnalyzer_judged_brokenOctet :
    let broken : Timeline :=
      ⟨[⟨.stderr, [0x0A, 0xFF]⟩, ⟨.stdout, [0x5B]⟩, ⟨.stderr, [0x0D]⟩], none, some 5⟩
    broken.capture (some 9) = some (.ok ⟨"[", "\n\ufffd\r", none⟩)
      ∧ (⟨"[", "\n\ufffd\r", none⟩ : Captured).verdict = .error (.reported "\n\ufffd\r")
      ∧ runAnalyzer complainer none ⟨"/a", ["no such file\n"], "/"⟩ 4
        = some (.error (.reported "no such file\n"), 5) := by
  intro broken
  have completed : broken.capture (some 9) = some (.ok ⟨"[", "\n\ufffd\r", none⟩) := by
    decide +kernel
  have reported : (⟨"[", "\n\ufffd\r", none⟩ : Captured).verdict
      = .error (.reported "\n\ufffd\r") :=
    ((runAnalyzer_judged completed).1.reported _).mpr
      ⟨⟨0xFF, by decide, by decide⟩, by decide +kernel⟩
  let complaint : Timeline := ⟨[⟨.stderr, utf8 "no such file\n".toList⟩], some 1, some 0⟩
  have ended : complaint.capture none = some (.ok ⟨"", "no such file\n", some 1⟩) := by
    decide +kernel
  refine ⟨completed, reported, ?_⟩
  rw [(runAnalyzer_judged ended).2.1 Nat complainer ⟨"/a", ["no such file\n"], "/"⟩ 4 5 rfl,
    ((runAnalyzer_judged ended).1.reported "no such file\n").mpr]
  exact ⟨⟨0x6E, by decide +kernel, by decide⟩, by decide +kernel⟩

end Findings
