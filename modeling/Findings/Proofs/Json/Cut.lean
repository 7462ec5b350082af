import Findings.Proofs.Json.Record

/-!
Contract: what readers make of a text that was cut off.

Owns:
- `Cut`, the beginnings of a text that are not the whole of it;
- `Starves`, a reader that finds the end of the text too early, and how it goes
  on to the readers that are built from it;
- `Takes`, the law that a reader takes a piece for a value and finds in no
  beginning of it more than that beginning;
- strings, cut anywhere, also inside an escape, and integers, a beginning of
  which may be an integer too.

A bound on the turns of a reader is the length of the whole text that is read, so
it is smaller for a text that was cut off; a reader that runs out of turns starves
all the same.

Does not own: texts that go on behind a value.
-/

namespace Findings.Json

variable {α β : Type} {front text piece rest : List Char} {c : Char}
  {reader : Reader α} {next : α → Reader β} {value : α}

/-! ## Beginnings -/

/-- A beginning of a text that is not the whole of it. -/
def Cut (front text : List Char) : Prop :=
  front <+: text ∧ front ≠ text

instance : Decidable (Cut front text) :=
  inferInstanceAs (Decidable (_ ∧ _))

theorem not_cut_nil : ¬ Cut front [] := by
  rintro ⟨begins, proper⟩
  exact proper (List.prefix_nil.mp begins)

theorem cut_cons_iff : Cut front (c :: text) ↔ front = [] ∨ ∃ more, front = c :: more ∧ Cut more text := by
  cases front with
  | nil => simp [Cut]
  | cons first more =>
    rw [Cut, List.cons_prefix_cons]
    constructor
    · rintro ⟨⟨rfl, begins⟩, proper⟩
      exact .inr ⟨more, rfl, begins, fun same => proper (same ▸ rfl)⟩
    · rintro (isEmpty | ⟨_, same, begins, proper⟩)
      · contradiction
      · obtain ⟨rfl, rfl⟩ := List.cons.inj same
        exact ⟨⟨rfl, begins⟩, fun whole => proper (List.cons.inj whole).2⟩

/-- A cut of two pieces is in the first or behind it. -/
theorem cut_append_iff :
    Cut front (piece ++ rest) ↔ Cut front piece ∨ ∃ more, front = piece ++ more ∧ Cut more rest := by
  induction piece generalizing front with
  | nil => simp [not_cut_nil]
  | cons c piece inductionHypothesis =>
    rw [List.cons_append, cut_cons_iff, cut_cons_iff]
    constructor
    · rintro (isEmpty | ⟨more, rfl, cut⟩)
      · exact .inl (.inl isEmpty)
      · rcases inductionHypothesis.mp cut with inside | ⟨further, rfl, behind⟩
        · exact .inl (.inr ⟨more, rfl, inside⟩)
        · exact .inr ⟨further, rfl, behind⟩
    · rintro ((isEmpty | ⟨more, rfl, cut⟩) | ⟨further, rfl, cut⟩)
      · exact .inl isEmpty
      · exact .inr ⟨more, rfl, inductionHypothesis.mpr (.inl cut)⟩
      · exact .inr ⟨_, rfl, inductionHypothesis.mpr (.inr ⟨further, rfl, cut⟩)⟩

/-- What comes after a value may still come after it when it is cut off. -/
theorem Bounded.of_cut (bounded : Bounded text) (cut : Cut front text) : Bounded front := by
  cases text with
  | nil => exact absurd cut not_cut_nil
  | cons c more =>
    rcases cut_cons_iff.mp cut with rfl | ⟨further, rfl, -⟩
    · exact bounded_nil
    · exact bounded_cons (bounded c rfl)

/-! ## Readers that starve -/

/-- A reader finds the end of the text too early. -/
def Starves (reader : Reader α) (text : List Char) : Prop :=
  ∃ fault, reader.run text = .error fault ∧ fault.cause.category = .truncated

theorem Starves.bind (starves : Starves reader text) : Starves (reader >>= next) text := by
  obtain ⟨fault, failed, early⟩ := starves
  exact ⟨fault, by rw [StateT.run_bind, failed]; rfl, early⟩

/-- A reader starves if what comes after its first step does. -/
theorem starves_bind
    (read : reader.run text = .ok (value, rest))
    (starves : Starves (next value) rest) :
    Starves (reader >>= next) text := by
  obtain ⟨fault, failed, early⟩ := starves
  exact ⟨fault, by rw [StateT.run_bind, read]; exact failed, early⟩

theorem Starves.map {change : α → β} (starves : Starves reader text) :
    Starves (change <$> reader) text := by
  obtain ⟨fault, failed, early⟩ := starves
  exact ⟨fault, by rw [StateT.run_map, failed]; rfl, early⟩

theorem starves_failHere {cause : Cause} (early : cause.category = .truncated) :
    Starves (Reader.failHere cause : Reader α) text :=
  ⟨⟨cause, text, 0⟩, rfl, early⟩

theorem starves_valueStart : Starves valueStart [] :=
  ⟨⟨.endInValue, [], 1⟩, rfl, rfl⟩

/-- A document that starves is cut off. -/
theorem Starves.document (starves : Starves reader text) :
    ∃ fault, document reader text = .error fault ∧ fault.cause.category = .truncated := by
  obtain ⟨fault, failed, early⟩ := starves
  exact ⟨fault, by rw [Json.document, failed]; rfl, early⟩

/-- A reader takes a piece of text for a value, if the piece fits a bound.  In a
beginning of the piece it starves or leaves nothing of it. -/
structure Takes (reader : Reader α) (bound : Nat) (piece : List Char) (value : α) : Prop where
  whole : piece.length ≤ bound → Reads reader piece value
  part : ∀ front, Cut front piece → front.length ≤ bound →
    Starves reader front ∨ ∃ other, reader.run front = .ok (other, [])

theorem Takes.map
    {bound : Nat}
    {change : α → β}
    (takes : Takes reader bound piece value) :
    Takes (change <$> reader) bound piece (change value) := by
  constructor
  case whole => exact fun fits => (takes.whole fits).map change
  case part =>
    intro front cut fits
    rcases takes.part front cut fits with starves | ⟨other, read⟩
    · exact .inl starves.map
    · exact .inr ⟨change other, by rw [StateT.run_map, read, map_ok]⟩

/-! ## Strings -/

theorem stringBody_cut_control
    {read : List Char}
    (control : c < ' ')
    (cut : Cut front
      ['\\', 'u', '0', '0', hexDigit (c.toNat / 16), hexDigit (c.toNat % 16)]) :
    stringBody read front = .error ⟨.endInString, [], 0⟩ := by
  have small : c.toNat < 32 := control
  -- Of the digits before the last one only the third varies.
  have third : hexDigit (c.toNat / 16) = '0' ∨ hexDigit (c.toNat / 16) = '1' := by
    have quotient : c.toNat / 16 = 0 ∨ c.toNat / 16 = 1 := by omega
    rcases quotient with same | same <;> rw [same] <;> decide
  simp only [cut_cons_iff, not_cut_nil, and_false, exists_false, or_false] at cut
  rcases cut with rfl | ⟨_, rfl, rfl | ⟨digits, rfl, few⟩⟩
  · rw [stringBody]
  · rw [stringBody]
    rfl
  · have ended : unescape ('u' :: digits) = .error ⟨.endInString, [], 0⟩ := by
      rcases few with rfl | ⟨_, rfl, rfl | ⟨_, rfl, rfl | ⟨_, rfl, rfl⟩⟩⟩
      · rfl
      · rfl
      · rfl
      · rcases third with same | same <;> rw [same] <;> rfl
    simp [stringBody, ended]

/-- An escape that is cut off ends inside its string. -/
theorem stringBody_cut_escapeChar {read : List Char} (cut : Cut front (escapeChar c)) :
    stringBody read front = .error ⟨.endInString, [], 0⟩ := by
  have ended : unescape [] = .error ⟨.endInString, [], 0⟩ := rfl
  unfold escapeChar at cut
  cases short : escapeLetter? c with
  | some letter =>
    simp only [short, cut_cons_iff, not_cut_nil, and_false, exists_false, or_false] at cut
    rcases cut with rfl | ⟨_, rfl, rfl⟩
    · rw [stringBody]
    · simp [stringBody, ended]
  | none =>
    by_cases control : c < ' '
    · simp only [short, if_pos control] at cut
      exact stringBody_cut_control control cut
    · simp only [short, if_neg control, cut_cons_iff, not_cut_nil, and_false, exists_false,
        or_false] at cut
      rw [cut, stringBody]

/-- A string that is cut off before its closing quote ends inside. -/
theorem stringBody_cut
    {read : List Char}
    (cut : Cut front (text.flatMap escapeChar ++ ['"'])) :
    stringBody read front = .error ⟨.endInString, [], 0⟩ := by
  induction text generalizing read front with
  | nil =>
    obtain rfl : front = [] := by simpa [cut_cons_iff, not_cut_nil] using cut
    rw [stringBody]
  | cons c text inductionHypothesis =>
    rw [List.flatMap_cons, List.append_assoc] at cut
    rcases cut_append_iff.mp cut with inside | ⟨more, rfl, behind⟩
    · exact stringBody_cut_escapeChar inside
    · rw [stringBody_escapeChar]
      exact inductionHypothesis behind

theorem starves_stringRest {name : String} (cut : Cut front (name.toList.flatMap escapeChar ++ ['"'])) :
    Starves stringRest front := by
  refine ⟨⟨.endInString, [], 0⟩, ?_, rfl⟩
  simp only [stringRest, Reader.run_ofStep, stringBody_cut cut]
  rfl

theorem takes_string {bound : Nat} {text expected : String} :
    Takes (string expected) bound (Value.text text).compact text := by
  constructor
  case whole => exact fun _ => reads_string
  case part =>
    intro front cut _
    rw [Value.compact, quote, List.cons_append] at cut
    rcases cut_cons_iff.mp cut with rfl | ⟨more, rfl, inside⟩
    · exact .inl starves_valueStart.bind
    · refine .inl (starves_bind (run_valueStart (by decide)) ?_)
      rw [if_pos rfl]
      exact starves_bind rfl (starves_stringRest inside)

/-! ## Integers -/

/-- A beginning of the digits of a number are the digits of a smaller one. -/
theorem cut_toDigits {n : Nat} (cut : Cut front (Nat.toDigits 10 n)) (given : front ≠ []) :
    ∃ m, 0 < m ∧ m ≤ n ∧ front = Nat.toDigits 10 m := by
  induction n using Nat.base_induction 10 (by decide) generalizing front with
  | single n small =>
    rw [Nat.toDigits_of_lt_base small, cut_cons_iff] at cut
    simp [given, not_cut_nil] at cut
  | digit n digit digitSmall leading inductionHypothesis =>
    rw [← Nat.toDigits_append_toDigits (by decide) leading digitSmall] at cut
    rcases cut_append_iff.mp cut with inside | ⟨more, rfl, last⟩
    · obtain ⟨m, positive, below, same⟩ := inductionHypothesis inside given
      exact ⟨m, positive, by omega, same⟩
    · rw [Nat.toDigits_of_lt_base digitSmall, cut_cons_iff] at last
      obtain rfl : more = [] := by simpa [not_cut_nil] using last
      exact ⟨n, leading, by omega, List.append_nil _⟩

/-- A beginning of an integer is nothing, a sign, or an integer between it and
zero. -/
theorem cut_integerText {value : Int} (cut : Cut front (Value.integerText value)) :
    front = [] ∨ front = ['-']
      ∨ ∃ part, front = Value.integerText part ∧ min value 0 ≤ part ∧ part ≤ max value 0 := by
  by_cases nonneg : 0 ≤ value
  · rw [integerText_of_nonneg nonneg] at cut
    by_cases given : front = []
    · exact .inl given
    · obtain ⟨m, positive, below, rfl⟩ := cut_toDigits cut given
      refine .inr (.inr ⟨m, ?_, by omega, by omega⟩)
      rw [integerText_of_nonneg (by omega), Int.toNat_natCast]
  · rw [integerText_of_neg (by omega)] at cut
    rcases cut_cons_iff.mp cut with isEmpty | ⟨digits, rfl, inside⟩
    · exact .inl isEmpty
    · by_cases given : digits = []
      · exact .inr (.inl (by rw [given]))
      · obtain ⟨m, positive, below, rfl⟩ := cut_toDigits inside given
        refine .inr (.inr ⟨-m, ?_, by omega, by omega⟩)
        rw [integerText_of_neg (by omega), Int.neg_neg, Int.toNat_natCast]

theorem takes_integer
    {least greatest value : Int}
    {bound : Nat}
    {expected : String}
    (inside : least ≤ value ∧ value ≤ greatest)
    (zero : least ≤ 0 ∧ 0 ≤ greatest)
    (representable : Int64.minValue.toInt ≤ value ∧ value ≤ significandLimit) :
    Takes (integer least greatest expected) bound (Value.integer value).compact value := by
  constructor
  case whole => exact fun _ => reads_integer inside representable
  case part =>
    intro front cut _
    rw [Value.compact] at cut
    rcases cut_integerText cut with rfl | rfl | ⟨part, rfl, low, high⟩
    · exact .inl starves_valueStart.bind
    · exact .inl ⟨⟨.endInValue, [], 0⟩, rfl, rfl⟩
    · have lowest : Int64.minValue.toInt = -9223372036854775808 := rfl
      have read : Reads (integer least greatest expected) (Value.integer part).compact part :=
        reads_integer (by omega) (by omega)
      have whole := read [] bounded_nil
      rw [List.append_nil, Value.compact] at whole
      exact .inr ⟨part, whole⟩

end Findings.Json
