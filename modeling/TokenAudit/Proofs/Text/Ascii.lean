import TokenAudit.Proofs.Text.Encoding

/-!
# The ASCII of decoded bytes

A byte of ASCII completes no character, and neither a character of more bytes nor a replacement is
of ASCII. So the ASCII characters of a decoded string are its ASCII bytes in their order, and bytes
of ASCII that stand together are decoded to characters that stand together.
-/

set_option autoImplicit false

namespace TokenAudit.Text.Utf8

/-- The character whose code point is a byte. -/
def charOfByte (b : UInt8) : Char :=
  Char.ofNat b.toNat

/-- The character of a byte has the byte for its code point. -/
theorem toNat_charOfByte (b : UInt8) : (charOfByte b).toNat = b.toNat := by
  apply toNat_ofNat_of_isValidChar
  have hb := b.toNat_lt
  left
  omega

/-- Different bytes have different characters. -/
theorem charOfByte_inj {a b : UInt8} (h : charOfByte a = charOfByte b) : a = b := by
  have hpoints := congrArg Char.toNat h
  rw [toNat_charOfByte, toNat_charOfByte] at hpoints
  exact UInt8.toNat_inj.1 hpoints

/-- A byte beyond ASCII begins no character of ASCII. -/
theorem lead_ne_ascii {b : UInt8} (hb : ¬ b.toNat < 0x80) (c : Char) : lead b ≠ .ascii c := by
  have hascii : ¬ b < 0x80 := by
    simpa only [UInt8.lt_iff_toNat_lt, UInt8.reduceToNat] using hb
  unfold lead
  rw [if_neg hascii]
  repeat' split
  all_goals exact Lead.noConfusion

/-- Of what a single byte comes to, the part in ASCII is that of the byte. -/
theorem begin_ascii (b : UInt8) :
    ((begin b).2.map Piece.toChar).filter (·.toNat < 0x80) =
      ([b].filter (·.toNat < 0x80)).map charOfByte := by
  by_cases hb : b.toNat < 0x80
  · have hbegin : (begin b).2 = [.char (charOfByte b)] := by
      simp only [begin, lead_of_ascii hb]
      rfl
    simp [hbegin, hb, Piece.toChar, toNat_charOfByte]
  · have hreplacement : ¬ RawText.replacement.toNat < 0x80 := by decide
    unfold begin
    cases hlead : lead b with
    | ascii c => exact absurd hlead (lead_ne_ascii hb c)
    | pending p => simp [hb]
    | stray => simp [hb, Piece.toChar, hreplacement]

/-- What one step completes has the byte in it when it is of ASCII, and else nothing of ASCII. -/
theorem step_ascii {held : Option Pending} (hheld : SoundHeld held) (b : UInt8) :
    ((step held b).2.map Piece.toChar).filter (·.toNat < 0x80) =
      ([b].filter (·.toNat < 0x80)).map charOfByte := by
  cases held with
  | none => exact begin_ascii b
  | some p =>
    have hp : p.Sound := hheld p rfl
    -- an accepted byte is beyond ASCII, and a rejected one is read again where a character begins
    by_cases hb : p.low ≤ b ∧ b ≤ p.high
    · have hbyte : ¬ b.toNat < 0x80 := by
        have hcontinues := (hp.continues hb).1
        omega
      by_cases hmissing : (p.push b).missing = 0
      · have hchar := hp.toNat_of_push hb hmissing
        rw [step_completed hb hmissing]
        simp [hbyte, Piece.toChar, hchar]
      · rw [step_continued hb hmissing]
        simp [hbyte]
    · have hreplacement : ¬ RawText.replacement.toNat < 0x80 := by decide
      rw [step_rejected hb, ← begin_ascii b]
      simp [Piece.toChar, hreplacement]

/-- Whatever is held, the part in ASCII of what is decoded is that of the bytes. -/
theorem decodeFrom_ascii {held : Option Pending} (hheld : SoundHeld held) (bytes : List UInt8) :
    (decodeFrom held bytes).filter (·.toNat < 0x80) =
      (bytes.filter (·.toNat < 0x80)).map charOfByte := by
  induction bytes generalizing held with
  | nil =>
    cases held with
    | none => rfl
    | some p => rfl
  | cons b bytes ih =>
    rw [decodeFrom_cons, List.filter_append, step_ascii hheld, ih (step_sound hheld b),
      ← List.map_append, ← List.filter_append, List.singleton_append]

/-- The ASCII characters of a decoded string are its ASCII bytes, in their order. -/
theorem decodeLossy_ascii (bytes : List UInt8) :
    (decodeLossy bytes).filter (·.toNat < 0x80) =
      (bytes.filter (·.toNat < 0x80)).map charOfByte := by
  rw [decodeLossy_eq]
  exact decodeFrom_ascii (by simp [SoundHeld]) bytes

/-- A character of ASCII occurs as often as its byte. -/
theorem count_decodeLossy {b : UInt8} (hb : b.toNat < 0x80) (bytes : List UInt8) :
    (decodeLossy bytes).count (charOfByte b) = bytes.count b := by
  have hchar : (charOfByte b).toNat < 0x80 := by rwa [toNat_charOfByte]
  calc (decodeLossy bytes).count (charOfByte b)
      = ((decodeLossy bytes).filter (·.toNat < 0x80)).count (charOfByte b) := by
        rw [List.count_filter]
        simpa using hchar
    _ = ((bytes.filter (·.toNat < 0x80)).map charOfByte).count (charOfByte b) := by
        rw [decodeLossy_ascii]
    _ = (bytes.filter (·.toNat < 0x80)).count b := by
        unfold List.count
        rw [List.countP_map]
        apply List.countP_congr
        intro a _
        simpa using ⟨charOfByte_inj, congrArg charOfByte⟩
    _ = bytes.count b := by
        rw [List.count_filter]
        simpa using hb

/-- Bytes of ASCII are encoded as themselves. -/
theorem encode_map_charOfByte {run : List UInt8} (hrun : ∀ b ∈ run, b.toNat < 0x80) :
    encode (run.map charOfByte) = run := by
  induction run with
  | nil => rfl
  | cons b run ih =>
    have hb := hrun b List.mem_cons_self
    have hrest := ih fun a ha => hrun a (List.mem_cons_of_mem _ ha)
    have hfirst : String.utf8EncodeChar (charOfByte b) = [b] := by
      rw [String.utf8EncodeChar, Char.toNat_val, toNat_charOfByte, if_pos (by omega),
        UInt8.ofNat_toNat]
    unfold encode at hrest ⊢
    rw [List.map_cons, List.flatMap_cons, hfirst, hrest]
    rfl

/-- Bytes of ASCII that stand together are decoded to characters that stand together. -/
theorem decodeLossy_around_ascii {run : List UInt8} (hrun : ∀ b ∈ run, b.toNat < 0x80)
    (hne : run ≠ []) (before after : List UInt8) :
    decodeLossy (before ++ run ++ after) =
      decodeLossy before ++ run.map charOfByte ++ decodeLossy after := by
  have htext : run.map charOfByte ≠ [] := by simpa using hne
  have h := decodeLossy_around_encode htext before after
  rwa [encode_map_charOfByte hrun] at h

end TokenAudit.Text.Utf8
