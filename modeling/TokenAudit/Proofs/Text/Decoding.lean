import TokenAudit.Text.Utf8

/-!
# Decoding bytes that are no text

A byte string is read from left to right, and what is held between two bytes is the beginning of one
character. That beginning only ever becomes a character beyond ASCII, and every byte that begins a
character ends it. So wherever the encoding of a text stands among other bytes, the text stands
among what they decode to; and the ASCII characters of a decoded string are the ASCII bytes, in
their order.
-/

set_option autoImplicit false

namespace TokenAudit.Text.Utf8

/-! ## Reading as a recursion over the bytes -/

/-- The pieces of a byte string that is read with the beginning of a character held. -/
def piecesFrom : Option Pending → List UInt8 → List Piece
  | none, [] => []
  | some p, [] => [.defect (p.defect .truncated)]
  | held, b :: rest => (step held b).2 ++ piecesFrom (step held b).1 rest

/-- The characters of a byte string that is read with the beginning of a character held. -/
def decodeFrom (held : Option Pending) (bytes : List UInt8) : List Char :=
  (piecesFrom held bytes).map Piece.toChar

/-- A byte gives its pieces and what is held for the next. -/
theorem piecesFrom_cons (held : Option Pending) (b : UInt8) (rest : List UInt8) :
    piecesFrom held (b :: rest) = (step held b).2 ++ piecesFrom (step held b).1 rest := by
  cases held with
  | none => rfl
  | some p => rfl

/-- So it gives its characters. -/
theorem decodeFrom_cons (held : Option Pending) (b : UInt8) (rest : List UInt8) :
    decodeFrom held (b :: rest) =
      (step held b).2.map Piece.toChar ++ decodeFrom (step held b).1 rest := by
  unfold decodeFrom
  rw [piecesFrom_cons, List.map_append]

/-- One step of the reader, with the pieces that are complete in reverse. -/
def stepReversed (state : Option Pending × List Piece) (b : UInt8) : Option Pending × List Piece :=
  ((step state.1 b).1, (step state.1 b).2.reverse ++ state.2)

/-- The reading from the left and the recursion over the bytes come to the same pieces. -/
theorem foldl_stepReversed (state : Option Pending × List Piece) (bytes : List UInt8) :
    (bytes.foldl stepReversed state).2.reverse ++
        piecesFrom (bytes.foldl stepReversed state).1 [] =
      state.2.reverse ++ piecesFrom state.1 bytes := by
  induction bytes generalizing state with
  | nil => rfl
  | cons b rest ih =>
    rw [List.foldl_cons, ih, piecesFrom_cons]
    simp [stepReversed]

/-- The pieces of a byte string are those of the recursion, with nothing held. -/
theorem pieces_eq (bytes : List UInt8) : pieces bytes = piecesFrom none bytes := by
  have h := foldl_stepReversed (none, []) bytes
  unfold pieces
  generalize hstate : bytes.foldl _ ((none, []) : Option Pending × List Piece) = state
  have hfold : bytes.foldl stepReversed (none, []) = state := hstate
  rw [hfold] at h
  obtain ⟨held, reversed⟩ := state
  cases held with
  | none => simpa [piecesFrom] using h
  | some p => simpa [piecesFrom] using h

/-- So are the characters. -/
theorem decodeLossy_eq (bytes : List UInt8) : decodeLossy bytes = decodeFrom none bytes := by
  unfold decodeLossy decodeFrom
  rw [pieces_eq]

/-! ## What may be held between two bytes -/

/-- A byte that goes on with a character. -/
def Continues (b : UInt8) : Prop :=
  0x80 ≤ b.toNat ∧ b.toNat ≤ 0xbf

/-- How many code points can be told apart by a number of bytes that go on with a character. -/
def reach : Nat → Nat
  | 0 => 1
  | count + 1 => 64 * reach count

/-- The bits that the beginning of a character has after the least byte that it accepts. -/
def Pending.least (p : Pending) : Nat :=
  p.bits * 64 + p.low.toNat % 64

/-- The bits that the beginning of a character has after the greatest byte that it accepts. -/
def Pending.greatest (p : Pending) : Nat :=
  p.bits * 64 + p.high.toNat % 64

/-- The beginning of a character is sound: only bytes that go on with a character are accepted
next, and whatever they are, what comes out is a code point beyond ASCII and no surrogate. -/
structure Pending.Sound (p : Pending) : Prop where
  missing : 1 ≤ p.missing ∧ p.missing ≤ 3
  low : 0x80 ≤ p.low.toNat
  high : p.high.toNat ≤ 0xbf
  beyondAscii : 0x80 ≤ p.least * reach (p.missing - 1)
  valid : (p.greatest + 1) * reach (p.missing - 1) ≤ 0xd800 ∨
    0xe000 ≤ p.least * reach (p.missing - 1) ∧
      (p.greatest + 1) * reach (p.missing - 1) ≤ 0x110000

/-- What is held is nothing, or the sound beginning of a character. -/
def SoundHeld (held : Option Pending) : Prop :=
  ∀ p ∈ held, p.Sound

/-- The first byte of a character is a sound beginning. -/
theorem lead_sound {b : UInt8} {p : Pending} (h : lead b = .pending p) : p.Sound := by
  unfold lead at h
  split at h
  next => cases h
  next =>
  split at h
  next => cases h
  next h1 =>
  split at h
  next h2 =>
    cases h
    simp only [UInt8.lt_iff_toNat_lt, UInt8.reduceToNat] at h1 h2
    constructor <;> simp [Pending.least, Pending.greatest, reach] <;> omega
  next h2 =>
  split at h
  next h3 =>
    cases h
    simp only [UInt8.lt_iff_toNat_lt, UInt8.reduceToNat] at h1 h2 h3
    by_cases hfirst : b = 0xe0
    · subst hfirst
      constructor <;> decide
    by_cases hsurrogate : b = 0xed
    · subst hsurrogate
      constructor <;> decide
    · simp only [← UInt8.toNat_inj, UInt8.reduceToNat] at hfirst hsurrogate
      constructor <;>
        simp [Pending.least, Pending.greatest, reach, ← UInt8.toNat_inj, hfirst, hsurrogate] <;>
        omega
  next h3 =>
  split at h
  next h4 =>
    cases h
    simp only [UInt8.lt_iff_toNat_lt, UInt8.reduceToNat] at h1 h2 h3 h4
    by_cases hfirst : b = 0xf0
    · subst hfirst
      constructor <;> decide
    by_cases hlast : b = 0xf4
    · subst hlast
      constructor <;> decide
    · simp only [← UInt8.toNat_inj, UInt8.reduceToNat] at hfirst hlast
      constructor <;>
        simp [Pending.least, Pending.greatest, reach, ← UInt8.toNat_inj, hfirst, hlast] <;> omega
  next => cases h

/-- A sound beginning accepts only bytes that go on with a character. -/
theorem Pending.Sound.continues {p : Pending} (hp : p.Sound) {b : UInt8}
    (hb : p.low ≤ b ∧ b ≤ p.high) : Continues b := by
  have hlow := hp.low
  have hhigh := hp.high
  simp only [UInt8.le_iff_toNat_le] at hb
  constructor <;> omega

/-- After a byte that is accepted the bits lie between those of the least and the greatest. -/
theorem Pending.Sound.bits_push {p : Pending} (hp : p.Sound) {b : UInt8}
    (hb : p.low ≤ b ∧ b ≤ p.high) : p.least ≤ (p.push b).bits ∧ (p.push b).bits ≤ p.greatest := by
  have hbounds : 0x80 ≤ b.toNat ∧ b.toNat ≤ 0xbf := hp.continues hb
  have hlow := hp.low
  have hhigh := hp.high
  simp only [UInt8.le_iff_toNat_le] at hb
  simp only [Pending.push, Pending.least, Pending.greatest]
  omega

/-- A byte that is accepted leaves one less to come. -/
theorem Pending.push_missing (p : Pending) (b : UInt8) :
    (p.push b).missing = p.missing - 1 := rfl

/-- It adds six bits. -/
theorem Pending.push_bits (p : Pending) (b : UInt8) :
    (p.push b).bits = p.bits * 64 + b.toNat % 64 := rfl

/-- After it any byte that goes on is accepted, from the least. -/
theorem Pending.push_low (p : Pending) (b : UInt8) : (p.push b).low = 0x80 := rfl

/-- And so it is up to the greatest. -/
theorem Pending.push_high (p : Pending) (b : UInt8) : (p.push b).high = 0xbf := rfl

/-- A sound beginning that is not yet a whole character stays sound. -/
theorem Pending.Sound.push {p : Pending} (hp : p.Sound) {b : UInt8}
    (hb : p.low ≤ b ∧ b ≤ p.high) (hmissing : (p.push b).missing ≠ 0) : (p.push b).Sound := by
  obtain ⟨hleast, hgreatest⟩ := hp.bits_push hb
  have hcount : 1 ≤ p.missing ∧ p.missing ≤ 3 := hp.missing
  have hbeyond := hp.beyondAscii
  have hvalid := hp.valid
  rw [Pending.push_missing] at hmissing
  have hnextLeast : (p.push b).least = (p.push b).bits * 64 := by
    rw [Pending.least, Pending.push_low]
    rfl
  have hnextGreatest : (p.push b).greatest = (p.push b).bits * 64 + 63 := by
    rw [Pending.greatest, Pending.push_high]
    rfl
  -- one byte fewer is missing, and sixty-four times as many bits are known
  have hreach : reach (p.missing - 1) = 64 * reach (p.missing - 1 - 1) := by
    obtain ⟨count, hm⟩ : ∃ count, p.missing = count + 2 := ⟨p.missing - 2, by omega⟩
    rw [hm]
    rfl
  rw [hreach] at hbeyond hvalid
  constructor
  · rw [Pending.push_missing]
    omega
  · rw [Pending.push_low]
    decide
  · rw [Pending.push_high]
    decide
  · rw [hnextLeast, p.push_missing b, Nat.mul_assoc]
    exact Nat.le_trans hbeyond (Nat.mul_le_mul_right _ hleast)
  · rw [hnextLeast, hnextGreatest, p.push_missing b, Nat.mul_assoc]
    have hlower := Nat.mul_le_mul_right (64 * reach (p.missing - 1 - 1)) hleast
    have hupper := Nat.mul_le_mul_right (64 * reach (p.missing - 1 - 1))
      (Nat.add_le_add_right hgreatest 1)
    have hnext : ((p.push b).bits * 64 + 63 + 1) * reach (p.missing - 1 - 1) =
        ((p.push b).bits + 1) * (64 * reach (p.missing - 1 - 1)) := by
      rw [← Nat.mul_assoc]
      congr 1
      omega
    rw [hnext]
    omega

/-- The character of a valid code point has that code point. -/
theorem toNat_ofNat_of_isValidChar {n : Nat} (h : n.isValidChar) : (Char.ofNat n).toNat = n := by
  unfold Char.ofNat
  rw [dif_pos h]
  rfl

/-- A sound beginning becomes a character beyond ASCII. -/
theorem Pending.Sound.toNat_of_push {p : Pending} (hp : p.Sound) {b : UInt8}
    (hb : p.low ≤ b ∧ b ≤ p.high) (hmissing : (p.push b).missing = 0) :
    0x80 ≤ (Char.ofNat (p.push b).bits).toNat := by
  obtain ⟨hleast, hgreatest⟩ := hp.bits_push hb
  have hcount : 1 ≤ p.missing ∧ p.missing ≤ 3 := hp.missing
  have hbeyond := hp.beyondAscii
  have hvalid := hp.valid
  have hreach : reach (p.missing - 1) = 1 := by
    rw [← p.push_missing b, hmissing]
    rfl
  rw [hreach, Nat.mul_one] at hbeyond
  rw [hreach, Nat.mul_one, Nat.mul_one] at hvalid
  have hchar : (p.push b).bits.isValidChar := by
    unfold Nat.isValidChar
    omega
  rw [toNat_ofNat_of_isValidChar hchar]
  omega

/-! ## One step -/

/-- A byte that is not accepted ends what was held as a defect, and begins anew. -/
theorem step_rejected {p : Pending} {b : UInt8} (h : ¬ (p.low ≤ b ∧ b ≤ p.high)) :
    step (some p) b = ((begin b).1, .defect (p.defect .continuation) :: (begin b).2) :=
  if_neg h

/-- A byte that is accepted last completes a character. -/
theorem step_completed {p : Pending} {b : UInt8} (h : p.low ≤ b ∧ b ≤ p.high)
    (hmissing : (p.push b).missing = 0) :
    step (some p) b = (none, [.char (Char.ofNat (p.push b).bits)]) :=
  (if_pos h).trans (if_pos hmissing)

/-- A byte that is accepted earlier is held with the rest. -/
theorem step_continued {p : Pending} {b : UInt8} (h : p.low ≤ b ∧ b ≤ p.high)
    (hmissing : (p.push b).missing ≠ 0) : step (some p) b = (some (p.push b), []) :=
  (if_pos h).trans (if_neg hmissing)

/-- What a single byte leaves held is sound. -/
theorem begin_sound (b : UInt8) : SoundHeld (begin b).1 := by
  unfold begin
  cases hlead : lead b with
  | ascii c => simp [SoundHeld]
  | stray => simp [SoundHeld]
  | pending p =>
    intro q hq
    cases hq
    exact lead_sound hlead

/-- So is what a step leaves held, if what was held before is. -/
theorem step_sound {held : Option Pending} (hheld : SoundHeld held) (b : UInt8) :
    SoundHeld (step held b).1 := by
  cases held with
  | none => exact begin_sound b
  | some p =>
    have hp : p.Sound := hheld p rfl
    by_cases hb : p.low ≤ b ∧ b ≤ p.high
    · by_cases hmissing : (p.push b).missing = 0
      · rw [step_completed hb hmissing]
        simp [SoundHeld]
      · rw [step_continued hb hmissing]
        intro q hq
        cases hq
        exact hp.push hb hmissing
    · rw [step_rejected hb]
      exact begin_sound b

/-! ## Bytes that begin a character -/

/-- A byte that does not go on with a character ends what is held, as the end of the bytes would. -/
theorem decodeFrom_interrupted {held : Option Pending} (hheld : SoundHeld held) {b : UInt8}
    (hb : ¬ Continues b) (rest : List UInt8) :
    decodeFrom held (b :: rest) = decodeFrom held [] ++ decodeFrom none (b :: rest) := by
  cases held with
  | none => rfl
  | some p =>
    have hreject : ¬ (p.low ≤ b ∧ b ≤ p.high) := fun h => hb ((hheld p rfl).continues h)
    rw [decodeFrom_cons, decodeFrom_cons, step_rejected hreject]
    rfl

/-- Bytes in front of one that begins a character are decoded by themselves. -/
theorem decodeFrom_append {held : Option Pending} (hheld : SoundHeld held) {b : UInt8}
    (hb : ¬ Continues b) (before rest : List UInt8) :
    decodeFrom held (before ++ b :: rest) =
      decodeFrom held before ++ decodeFrom none (b :: rest) := by
  induction before generalizing held with
  | nil => exact decodeFrom_interrupted hheld hb rest
  | cons a before ih =>
    rw [List.cons_append, decodeFrom_cons, decodeFrom_cons, ih (step_sound hheld a),
      List.append_assoc]

end TokenAudit.Text.Utf8
