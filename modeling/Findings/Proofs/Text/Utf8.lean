import Findings.Text.Utf8

/-!
Contract: what lossy decoding makes of octets.

Owns:
- a text in UTF-8 is decoded as it is, with nothing replaced;
- which octets decode to a text of some characters of ASCII: those characters, one
  octet for each.  Any other octet leaves a character that is none of ASCII.

Does not own: how many replacements stand for a part that is not UTF-8.
-/

namespace Findings.Text

variable {c : Char} {n high middle : Nat} {octet : UInt8} {octets : List UInt8}
  {written : List Char} {pending more : Partial}

namespace LossyState

/-! ## Steps -/

theorem toNat_toUInt8 (small : n < 0x100) : n.toUInt8.toNat = n := by
  rw [Nat.toUInt8, UInt8.toNat_ofNat']
  exact Nat.mod_eq_of_lt small

theorem step_first (small : n < 0x100) (started : firstOctet n = .more pending) :
    step ⟨none, written⟩ n.toUInt8 = ⟨some pending, written⟩ := by
  simp only [step, fresh, toNat_toUInt8 small, started]

theorem step_more (small : n < 0x100) (continued : nextOctet pending n = .more more) :
    step ⟨some pending, written⟩ n.toUInt8 = ⟨some more, written⟩ := by
  simp only [step, toNat_toUInt8 small, continued]

theorem step_complete (small : n < 0x100) (completed : nextOctet pending n = .complete c) :
    step ⟨some pending, written⟩ n.toUInt8 = ⟨none, c :: written⟩ := by
  simp only [step, toNat_toUInt8 small, completed]

/-! ## Characters -/

/-- The bounds of the second octet leave out what has a shorter form, and the
surrogates. -/
theorem firstOctet_three
    (high middle : Nat)
    (highSmall : high < 0x10)
    (long : high = 0 → 0x20 ≤ middle)
    (scalar : high = 0xD → middle < 0x20)
    (middleSmall : middle < 0x40) :
    ∃ least greatest, firstOctet (0xE0 + high) = .more ⟨2, least, greatest, high⟩
      ∧ least ≤ 0x80 + middle ∧ 0x80 + middle ≤ greatest := by
  have all : ∀ high < 0x10,
      firstOctet (0xE0 + high) = .more ⟨2, if high = 0 then 0xA0 else 0x80,
        if high = 0xD then 0x9F else 0xBF, high⟩ := by
    decide
  refine ⟨_, _, all high highSmall, ?_, ?_⟩ <;> split <;> omega

theorem firstOctet_four
    (high middle : Nat)
    (highSmall : high < 5)
    (long : high = 0 → 0x10 ≤ middle)
    (bounded : high = 4 → middle < 0x10)
    (middleSmall : middle < 0x40) :
    ∃ least greatest, firstOctet (0xF0 + high) = .more ⟨3, least, greatest, high⟩
      ∧ least ≤ 0x80 + middle ∧ 0x80 + middle ≤ greatest := by
  have all : ∀ high < 5,
      firstOctet (0xF0 + high) = .more ⟨3, if high = 0 then 0x90 else 0x80,
        if high = 4 then 0x8F else 0xBF, high⟩ := by
    decide
  refine ⟨_, _, all high highSmall, ?_, ?_⟩ <;> split <;> omega

/-- An octet in the middle of a character adds six bits to its code point. -/
theorem nextOctet_more
    (code : Nat)
    {owed least greatest bits : Nat}
    (later : 1 < owed)
    (inside : least ≤ 0x80 + bits ∧ 0x80 + bits ≤ greatest) :
    nextOctet ⟨owed, least, greatest, code⟩ (0x80 + bits)
      = .more ⟨owed - 1, 0x80, 0xBF, code * 0x40 + bits⟩ := by
  have notLast : ¬ owed ≤ 1 := by omega
  simp [nextOctet, inside, notLast]

/-- The last octet of a character completes its code point. -/
theorem nextOctet_last (code whole : Nat) {bits : Nat} (small : bits < 0x40)
    (joined : code * 0x40 + bits = whole) :
    nextOctet ⟨1, 0x80, 0xBF, code⟩ (0x80 + bits) = .complete (Char.ofNat whole) := by
  have inside : 0x80 + bits ≤ 0xBF := by omega
  simp [nextOctet, inside, joined]

/-- The octets of a character are read as the character. -/
theorem foldl_utf8Octets :
    (utf8Octets c).foldl step ⟨none, written⟩ = ⟨none, c :: written⟩ := by
  have valid : c.toNat < 0xD800 ∨ 0xDFFF < c.toNat ∧ c.toNat < 0x110000 := c.valid
  have back : Char.ofNat c.toNat = c := Char.ofNat_toNat c
  unfold utf8Octets
  generalize c.toNat = code at valid back
  have lowSmall : code % 0x40 < 0x40 := Nat.mod_lt _ (by decide)
  have middleSmall : code / 0x40 % 0x40 < 0x40 := Nat.mod_lt _ (by decide)
  have upperSmall : code / 0x1000 % 0x40 < 0x40 := Nat.mod_lt _ (by decide)
  dsimp only
  -- One case for each number of octets.
  split
  case isTrue one =>
    have only : firstOctet code = .complete (Char.ofNat code) := if_pos (by omega)
    have small : code < 0x100 := by omega
    simp only [List.foldl_cons, List.foldl_nil, step, fresh, toNat_toUInt8 small, only, back]
  case isFalse =>
    split
    case isTrue two =>
      have first : firstOctet (0xC0 + code / 0x40) = .more ⟨1, 0x80, 0xBF, code / 0x40⟩ := by
        rw [firstOctet, if_neg (by omega), if_pos (by omega), Nat.add_sub_cancel_left]
      have last := nextOctet_last (code / 0x40) code lowSmall (by omega)
      rw [List.foldl_cons, step_first (by omega) first, List.foldl_cons,
        step_complete (by omega) last, back, List.foldl_nil]
    case isFalse =>
      split
      case isTrue three =>
        obtain ⟨least, greatest, first, inside⟩ := firstOctet_three
          (code / 0x1000) (code / 0x40 % 0x40)
          (by omega) (by omega) (by omega) middleSmall
        have second := nextOctet_more (code / 0x1000) Nat.one_lt_two inside
        have last := nextOctet_last (code / 0x1000 * 0x40 + code / 0x40 % 0x40) code lowSmall
          (by omega)
        rw [List.foldl_cons, step_first (by omega) first, List.foldl_cons,
          step_more (by omega) second, List.foldl_cons, step_complete (by omega) last, back,
          List.foldl_nil]
      case isFalse four =>
        obtain ⟨least, greatest, first, inside⟩ := firstOctet_four
          (code / 0x40000) (code / 0x1000 % 0x40)
          (by omega) (by omega) (by omega) upperSmall
        have second := nextOctet_more (code / 0x40000) (by decide : 1 < 3) inside
        have middleInside : 0x80 ≤ 0x80 + code / 0x40 % 0x40
            ∧ 0x80 + code / 0x40 % 0x40 ≤ 0xBF := by
          omega
        have third := nextOctet_more (code / 0x40000 * 0x40 + code / 0x1000 % 0x40)
          Nat.one_lt_two middleInside
        have last := nextOctet_last
          ((code / 0x40000 * 0x40 + code / 0x1000 % 0x40) * 0x40 + code / 0x40 % 0x40) code
          lowSmall (by omega)
        rw [List.foldl_cons, step_first (by omega) first, List.foldl_cons,
          step_more (by omega) second, List.foldl_cons, step_more (by omega) third,
          List.foldl_cons, step_complete (by omega) last, back, List.foldl_nil]

/-- The octets of a text are read back as the text, with nothing pending behind it. -/
theorem foldl_utf8 {text : List Char} :
    (utf8 text).foldl step ⟨none, written⟩ = ⟨none, text.reverse ++ written⟩ := by
  induction text generalizing written with
  | nil => rfl
  | cons c text inductionHypothesis =>
      have front : utf8 (c :: text) = utf8Octets c ++ utf8 text := List.flatMap_cons
      rw [front, List.foldl_append, foldl_utf8Octets, inductionHypothesis]
      simp

end LossyState

/-- A text in UTF-8 is decoded as it is. -/
theorem decodeLossy_utf8 (text : List Char) : decodeLossy (utf8 text) = text := by
  rw [decodeLossy, LossyState.start, LossyState.foldl_utf8]
  simp [LossyState.finish]

/-! ## Characters of ASCII -/

namespace Partial

/-- Whatever comes next, the pending character is none of ASCII. -/
def Large (pending : Partial) : Prop :=
  2 ≤ pending.code * 0x40 + (pending.least - 0x80)
    ∧ (pending.owed ≤ 1 → 0x80 ≤ pending.code * 0x40 + (pending.least - 0x80))

/-- A character of several octets is none of ASCII, however it goes on. -/
theorem large_of_firstOctet (started : firstOctet n = .more pending) : pending.Large := by
  unfold firstOctet at started
  repeat' split at started
  all_goals cases started
  all_goals
    unfold Large
    dsimp only
    omega

theorem Large.nextOctet (large : pending.Large) (continued : nextOctet pending n = .more more) :
    more.Large := by
  obtain ⟨owed, least, greatest, code⟩ := pending
  simp only [Large, Text.nextOctet] at *
  split at continued
  case isTrue inside =>
    split at continued
    · cases continued
    · cases continued
      dsimp only
      omega
  case isFalse => cases continued

/-- A character that is completed is none of ASCII, but for the one that stands in
for numbers that have no character. -/
theorem Large.complete
    (large : pending.Large)
    (completed : Text.nextOctet pending n = .complete c) :
    c = '\x00' ∨ 0x80 ≤ c.toNat := by
  obtain ⟨owed, least, greatest, code⟩ := pending
  simp only [Large, Text.nextOctet] at *
  split at completed
  case isTrue inside =>
    split at completed
    case isTrue last =>
      obtain rfl := Utf8Step.complete.inj completed
      by_cases valid : (code * 0x40 + (n - 0x80)).isValidChar
      · right
        have number : (Char.ofNat (code * 0x40 + (n - 0x80))).toNat = code * 0x40 + (n - 0x80) := by
          rw [Char.ofNat, dif_pos valid]
          rfl
        omega
      · left
        rw [Char.ofNat, dif_neg valid]
        rfl
    case isFalse => cases completed
  case isFalse => cases completed

end Partial

/-- Characters of one kind, all of them in ASCII. -/
structure Plain (kind : Char → Bool) : Prop where
  ascii : ∀ c, kind c = true → c.toNat < 0x80
  notZero : kind '\x00' = false

theorem Plain.replacement {kind : Char → Bool} (plain : Plain kind) : kind replacement = false := by
  rw [Bool.eq_false_iff]
  intro isKind
  exact absurd (plain.ascii _ isKind) (by decide)

/-- An octet that is a character of a kind by itself. -/
def IsOctetOf (kind : Char → Bool) (octet : UInt8) : Prop :=
  kind (Char.ofNat octet.toNat) = true

namespace LossyState

variable {kind : Char → Bool} {state : LossyState}

/-- A pending character is none of ASCII. -/
def Sound (state : LossyState) : Prop :=
  ∀ pending, state.pending = some pending → pending.Large

/-- Nothing but characters of a kind was read. -/
def Only (kind : Char → Bool) (state : LossyState) : Prop :=
  state.pending = none ∧ ∀ c ∈ state.written, kind c = true

theorem sound_fresh : (fresh written octet).Sound := by
  intro pending waiting
  unfold fresh at waiting
  split at waiting
  case h_1 => cases waiting
  case h_2 started =>
    cases waiting
    exact Partial.large_of_firstOctet started
  case h_3 => cases waiting

/-- A step never leaves a pending character that could still be one of ASCII. -/
theorem Sound.step (sound : state.Sound) : (state.step octet).Sound := by
  unfold LossyState.step
  split
  case h_1 => exact sound_fresh
  case h_2 pending waiting =>
    have large := sound pending waiting
    split
    case h_1 => exact nofun
    case h_2 continued =>
      rintro _ ⟨⟩
      exact large.nextOctet continued
    case h_3 => exact sound_fresh

/-- From between characters an octet is read as a character of the kind, or leaves
one that is none. -/
theorem only_fresh_iff (plain : Plain kind) :
    (fresh written octet).Only kind ↔ (∀ c ∈ written, kind c = true) ∧ IsOctetOf kind octet := by
  have notKind : 0x7F < octet.toNat → ¬ IsOctetOf kind octet := by
    intro high isKind
    have small : octet.toNat < 0x100 := octet.toNat_lt
    have valid : octet.toNat.isValidChar := .inl (by omega)
    have number : (Char.ofNat octet.toNat).toNat = octet.toNat := by
      rw [Char.ofNat, dif_pos valid]
      rfl
    have bound := plain.ascii _ isKind
    omega
  by_cases low : octet.toNat ≤ 0x7F
  · have only : firstOctet octet.toNat = .complete (Char.ofNat octet.toNat) := if_pos low
    simp [fresh, only, Only, IsOctetOf, and_comm]
  · have neither := notKind (by omega)
    unfold fresh
    split
    case h_1 completed =>
      -- A single octet is a character only below 0x80.
      unfold firstOctet at completed
      rw [if_neg low] at completed
      repeat' split at completed
      all_goals cases completed
    case h_2 => simp [Only, neither]
    case h_3 => simp [Only, neither, plain.replacement]

/-- What was read is of a kind exactly if it was before and the octet is. -/
theorem only_step_iff (plain : Plain kind) (sound : state.Sound) :
    (state.step octet).Only kind ↔ state.Only kind ∧ IsOctetOf kind octet := by
  obtain ⟨waiting, written⟩ := state
  cases waiting with
  | none =>
      rw [step, only_fresh_iff plain]
      simp [Only]
  | some pending =>
      -- Whatever becomes of the pending character, it is none of the kind.
      have large := sound pending rfl
      refine iff_of_false ?_ (by simp [Only])
      simp only [step]
      split
      case h_1 c completed =>
        rintro ⟨-, all⟩
        have isKind := all c List.mem_cons_self
        rcases large.complete completed with rfl | high
        · rw [plain.notZero] at isKind
          contradiction
        · have low := plain.ascii c isKind
          omega
      case h_2 => simp [Only]
      case h_3 =>
        rw [only_fresh_iff plain]
        simp [plain.replacement]

/-- A run of octets reads characters of a kind exactly if each octet is one of them. -/
theorem only_foldl_iff (plain : Plain kind) (sound : state.Sound) :
    (octets.foldl step state).Only kind
      ↔ state.Only kind ∧ ∀ octet ∈ octets, IsOctetOf kind octet := by
  induction octets generalizing state with
  | nil => simp
  | cons octet octets inductionHypothesis =>
      rw [List.foldl_cons, inductionHypothesis sound.step, only_step_iff plain sound,
        List.forall_mem_cons, and_assoc]

/-- The end of the octets adds nothing of a kind: a pending character becomes a
replacement. -/
theorem forall_mem_finish_iff (plain : Plain kind) :
    (∀ c ∈ state.finish, kind c = true) ↔ state.Only kind := by
  obtain ⟨waiting, written⟩ := state
  cases waiting with
  | none => simp [finish, Only]
  | some pending => simp [finish, Only, plain.replacement]

end LossyState

/-- Octets are decoded to characters of a kind exactly if they are such characters
themselves. -/
theorem forall_mem_decodeLossy_iff {kind : Char → Bool} (plain : Plain kind) :
    (∀ c ∈ decodeLossy octets, kind c = true) ↔ ∀ octet ∈ octets, IsOctetOf kind octet := by
  have sound : LossyState.start.Sound := nofun
  have begin : LossyState.start.Only kind := ⟨rfl, nofun⟩
  rw [decodeLossy, LossyState.forall_mem_finish_iff plain, LossyState.only_foldl_iff plain sound]
  simp [begin]

end Findings.Text
