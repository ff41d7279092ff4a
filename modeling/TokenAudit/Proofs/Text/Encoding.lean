import Mathlib.Data.List.TakeWhile
import TokenAudit.Proofs.Text.Decoding

/-!
# Encoded texts among other bytes

The encoding of a character is one byte of ASCII, or a first byte and the last bytes that the
character begun by it waits for. So an encoded text is decoded to itself, and among other bytes it
is decoded to itself as well, whatever they are.
-/

set_option autoImplicit false

namespace TokenAudit.Text.Utf8

/-! ## What a first byte begins -/

/-- A byte of ASCII begins its own character. -/
theorem lead_of_ascii {b : UInt8} (hb : b.toNat < 0x80) : lead b = .ascii (Char.ofNat b.toNat) := by
  unfold lead
  rw [if_pos (by simpa only [UInt8.lt_iff_toNat_lt, UInt8.reduceToNat] using hb)]

/-- It is read as that character. -/
theorem piecesFrom_of_ascii {b : UInt8} (hb : b.toNat < 0x80) (rest : List UInt8) :
    piecesFrom none (b :: rest) = .char (Char.ofNat b.toNat) :: piecesFrom none rest := by
  have hstep : step none b = (none, [.char (Char.ofNat b.toNat)]) := by
    simp only [step, begin, lead_of_ascii hb]
  rw [piecesFrom_cons, hstep]
  rfl

/-- The first byte of a longer character is held. -/
theorem piecesFrom_of_lead {b : UInt8} {p : Pending} (h : lead b = .pending p)
    (rest : List UInt8) : piecesFrom none (b :: rest) = piecesFrom (some p) rest := by
  have hstep : step none b = (some p, []) := by
    simp only [step, begin, h]
  rw [piecesFrom_cons, hstep]
  rfl

/-- A byte that goes on with a character begins none. -/
theorem lead_of_continues {b : UInt8} (hb : Continues b) : lead b = .stray := by
  obtain ⟨hlow, hhigh⟩ := hb
  have hascii : ¬ b < 0x80 := by
    simp only [UInt8.lt_iff_toNat_lt, UInt8.reduceToNat]
    omega
  have hstray : b < 0xc2 := by
    simp only [UInt8.lt_iff_toNat_lt, UInt8.reduceToNat]
    omega
  unfold lead
  rw [if_neg hascii, if_pos hstray]

/-! ## The bytes of a character -/

/-- A byte that goes on with a code point, with six of its bits. -/
def laterByte (bits : Nat) : UInt8 :=
  UInt8.ofNat (bits % 64 + 128)

/-- The last bytes of the encoding of a code point. -/
def lastBytes (n : Nat) : Nat → List UInt8
  | 0 => []
  | count + 1 => laterByte (n / reach count) :: lastBytes n count

/-- A number of eight bits is that of its byte. -/
theorem toNat_ofNat_of_lt {n : Nat} (h : n < 256) : (UInt8.ofNat n).toNat = n :=
  UInt8.toNat_ofNat_of_lt' h

/-- A later byte has six bits and the mark of one that goes on. -/
theorem toNat_laterByte (bits : Nat) : (laterByte bits).toNat = bits % 64 + 128 := by
  apply toNat_ofNat_of_lt
  omega

/-- With each further byte, six more bits of a code point are known. -/
theorem div_reach_succ (n count : Nat) : n / reach (count + 1) = n / reach count / 64 := by
  rw [reach, Nat.mul_comm, Nat.div_div_eq_div_mul]

/-- The beginning of a character has the first bits of a code point, misses some of its last bytes,
and accepts the next of them. -/
structure Pending.Awaits (p : Pending) (n count : Nat) : Prop where
  missing : p.missing = count + 1
  bits : p.bits = n / reach (count + 1)
  low : p.low.toNat ≤ n / reach count % 64 + 128
  high : n / reach count % 64 + 128 ≤ p.high.toNat

namespace Pending.Awaits

variable {p : Pending} {n count : Nat}

/-- The next of the last bytes of a code point is accepted. -/
theorem accepts (h : p.Awaits n count) :
    p.low ≤ laterByte (n / reach count) ∧ laterByte (n / reach count) ≤ p.high := by
  rw [UInt8.le_iff_toNat_le, UInt8.le_iff_toNat_le, toNat_laterByte]
  exact ⟨h.low, h.high⟩

/-- With it the bits are those of the code point so far. -/
theorem bits_push (h : p.Awaits n count) :
    (p.push (laterByte (n / reach count))).bits = n / reach count := by
  rw [Pending.push_bits, toNat_laterByte, h.bits, div_reach_succ]
  omega

/-- With it the beginning awaits the byte after. -/
theorem push (h : p.Awaits n (count + 1)) :
    (p.push (laterByte (n / reach (count + 1)))).Awaits n count where
  missing := by
    rw [Pending.push_missing, h.missing]
    rfl
  bits := h.bits_push
  low := by
    have hlow : (p.push (laterByte (n / reach (count + 1)))).low.toNat = 0x80 := rfl
    omega
  high := by
    have hhigh : (p.push (laterByte (n / reach (count + 1)))).high.toNat = 0xbf := rfl
    omega

/-- The last bytes of a code point complete its character. -/
theorem piecesFrom_lastBytes (h : p.Awaits n count) (rest : List UInt8) :
    piecesFrom (some p) (lastBytes n (count + 1) ++ rest) =
      .char (Char.ofNat n) :: piecesFrom none rest := by
  induction count generalizing p with
  | zero =>
    have hlast : (p.push (laterByte (n / reach 0))).missing = 0 := by
      rw [Pending.push_missing, h.missing]
    have hwhole : (p.push (laterByte (n / reach 0))).bits = n := by
      rw [h.bits_push]
      exact Nat.div_one n
    rw [lastBytes, List.cons_append, piecesFrom_cons, step_completed h.accepts hlast, hwhole]
    rfl
  | succ count ih =>
    have hmore : (p.push (laterByte (n / reach (count + 1)))).missing ≠ 0 := by
      rw [h.push.missing]
      exact Nat.succ_ne_zero count
    rw [lastBytes, List.cons_append, piecesFrom_cons, step_continued h.accepts hmore]
    exact ih h.push

end Pending.Awaits

/-! Each of the three kinds of first bytes begins a character whose bounds let the second byte of
the code point pass: it is none that a shorter encoding has, and no surrogate. -/

/-- The first of two bytes awaits the second. -/
theorem exists_lead_of_two {n : Nat} (hlow : 0x80 ≤ n) (hhigh : n ≤ 0x7ff) :
    ∃ p, lead (UInt8.ofNat (n / 64 % 32 + 192)) = .pending p ∧ p.Awaits n 0 := by
  generalize hb : UInt8.ofNat (n / 64 % 32 + 192) = b
  have hbyte : b.toNat = n / 64 % 32 + 192 := by
    rw [← hb]
    exact toNat_ofNat_of_lt (by omega)
  refine ⟨⟨b, 1, 1, 0x80, 0xbf, b.toNat % 32⟩, ?_, ?_⟩
  · unfold lead
    simp only [UInt8.lt_iff_toNat_lt, UInt8.reduceToNat]
    rw [if_neg (by omega), if_neg (by omega), if_pos (by omega)]
  · constructor <;> simp [reach] <;> omega

/-- The first of three bytes awaits the other two. -/
theorem exists_lead_of_three {n : Nat} (hlow : 0x800 ≤ n) (hhigh : n ≤ 0xffff)
    (hvalid : n < 0xd800 ∨ 0xdfff < n) :
    ∃ p, lead (UInt8.ofNat (n / 4096 % 16 + 224)) = .pending p ∧ p.Awaits n 1 := by
  generalize hb : UInt8.ofNat (n / 4096 % 16 + 224) = b
  have hbyte : b.toNat = n / 4096 % 16 + 224 := by
    rw [← hb]
    exact toNat_ofNat_of_lt (by omega)
  refine ⟨⟨b, 1, 2, if b = 0xe0 then 0xa0 else 0x80, if b = 0xed then 0x9f else 0xbf,
    b.toNat % 16⟩, ?_, ?_⟩
  · unfold lead
    simp only [UInt8.lt_iff_toNat_lt, UInt8.reduceToNat]
    rw [if_neg (by omega), if_neg (by omega), if_neg (by omega), if_pos (by omega)]
  · constructor
    · rfl
    · simp [reach]
      omega
    · simp only [reach, ← UInt8.toNat_inj, UInt8.reduceToNat]
      split
      · simp
        omega
      · simp
    · simp only [reach, ← UInt8.toNat_inj, UInt8.reduceToNat]
      split <;> simp <;> omega

/-- The first of four bytes awaits the other three. -/
theorem exists_lead_of_four {n : Nat} (hlow : 0x10000 ≤ n) (hhigh : n < 0x110000) :
    ∃ p, lead (UInt8.ofNat (n / 262144 % 8 + 240)) = .pending p ∧ p.Awaits n 2 := by
  generalize hb : UInt8.ofNat (n / 262144 % 8 + 240) = b
  have hbyte : b.toNat = n / 262144 % 8 + 240 := by
    rw [← hb]
    exact toNat_ofNat_of_lt (by omega)
  refine ⟨⟨b, 1, 3, if b = 0xf0 then 0x90 else 0x80, if b = 0xf4 then 0x8f else 0xbf,
    b.toNat % 8⟩, ?_, ?_⟩
  · unfold lead
    simp only [UInt8.lt_iff_toNat_lt, UInt8.reduceToNat]
    rw [if_neg (by omega), if_neg (by omega), if_neg (by omega), if_neg (by omega),
      if_pos (by omega)]
  · constructor
    · rfl
    · simp [reach]
      omega
    · simp only [reach, ← UInt8.toNat_inj, UInt8.reduceToNat]
      split
      · simp
        omega
      · simp
    · simp only [reach, ← UInt8.toNat_inj, UInt8.reduceToNat]
      split <;> simp <;> omega

/-- The encoding of a character is one byte of ASCII, or it is a first byte with the last bytes that
the beginning of the character waits for. -/
theorem utf8EncodeChar_cases (c : Char) :
    (c.toNat < 0x80 ∧ String.utf8EncodeChar c = [UInt8.ofNat c.toNat]) ∨
      ∃ b p count, String.utf8EncodeChar c = b :: lastBytes c.toNat (count + 1) ∧
        lead b = .pending p ∧ p.Awaits c.toNat count := by
  have hvalid : c.toNat < 0xd800 ∨ 0xdfff < c.toNat ∧ c.toNat < 0x110000 := c.valid
  simp only [String.utf8EncodeChar, Char.toNat_val]
  by_cases hone : c.toNat ≤ 0x7f
  · rw [if_pos hone]
    exact .inl ⟨by omega, rfl⟩
  rw [if_neg hone]
  right
  by_cases htwo : c.toNat ≤ 0x7ff
  · obtain ⟨p, hlead, hp⟩ := exists_lead_of_two (n := c.toNat) (by omega) htwo
    rw [if_pos htwo]
    refine ⟨_, p, 0, ?_, hlead, hp⟩
    simp [lastBytes, laterByte, reach]
  rw [if_neg htwo]
  by_cases hthree : c.toNat ≤ 0xffff
  · obtain ⟨p, hlead, hp⟩ := exists_lead_of_three (n := c.toNat) (by omega) hthree (by omega)
    rw [if_pos hthree]
    refine ⟨_, p, 1, ?_, hlead, hp⟩
    simp [lastBytes, laterByte, reach]
  · obtain ⟨p, hlead, hp⟩ := exists_lead_of_four (n := c.toNat) (by omega) (by omega)
    rw [if_neg hthree]
    refine ⟨_, p, 2, ?_, hlead, hp⟩
    simp [lastBytes, laterByte, reach]

/-- The bytes of a character are read as the character. -/
theorem piecesFrom_utf8EncodeChar (c : Char) (rest : List UInt8) :
    piecesFrom none (String.utf8EncodeChar c ++ rest) = .char c :: piecesFrom none rest := by
  rcases utf8EncodeChar_cases c with ⟨hc, hencode⟩ | ⟨b, p, count, hencode, hlead, hp⟩
  · have hbyte : (UInt8.ofNat c.toNat).toNat = c.toNat := toNat_ofNat_of_lt (by omega)
    rw [hencode, List.singleton_append, piecesFrom_of_ascii (by omega), hbyte, Char.ofNat_toNat]
  · rw [hencode, List.cons_append, piecesFrom_of_lead hlead, hp.piecesFrom_lastBytes,
      Char.ofNat_toNat]

/-- The encoding of a character has a first byte, and that byte goes on with no character. -/
theorem exists_first_utf8EncodeChar (c : Char) :
    ∃ b later, String.utf8EncodeChar c = b :: later ∧ ¬ Continues b := by
  rcases utf8EncodeChar_cases c with ⟨hc, hencode⟩ | ⟨b, p, count, hencode, hlead, -⟩
  · refine ⟨_, [], hencode, ?_⟩
    have hbyte : (UInt8.ofNat c.toNat).toNat = c.toNat := toNat_ofNat_of_lt (by omega)
    rintro ⟨hlow, -⟩
    omega
  · refine ⟨b, _, hencode, ?_⟩
    intro hb
    rw [lead_of_continues hb] at hlead
    cases hlead

/-! ## Texts among bytes -/

/-- The bytes of a text are read as its characters. -/
theorem piecesFrom_encode (text : List Char) (rest : List UInt8) :
    piecesFrom none (encode text ++ rest) = text.map .char ++ piecesFrom none rest := by
  induction text with
  | nil => rfl
  | cons c text ih =>
    unfold encode at ih ⊢
    rw [List.flatMap_cons, List.append_assoc, piecesFrom_utf8EncodeChar, ih, List.map_cons,
      List.cons_append]

/-- So they are decoded as the text. -/
theorem decodeFrom_encode (text : List Char) (rest : List UInt8) :
    decodeFrom none (encode text ++ rest) = text ++ decodeFrom none rest := by
  have hchars : (text.map Piece.char).map Piece.toChar = text := by
    rw [List.map_map]
    exact List.map_id text
  unfold decodeFrom
  rw [piecesFrom_encode, List.map_append, hchars]

/-- The encoding of a text is decoded to the text. -/
theorem decodeLossy_encode (text : List Char) : decodeLossy (encode text) = text := by
  have h := decodeFrom_encode text []
  rw [List.append_nil] at h
  rw [decodeLossy_eq, h]
  exact List.append_nil text

/-- The encoding of a text is well-formed. -/
theorem decode_encode (text : List Char) : decode (encode text) = .ok text := by
  have hpieces : pieces (encode text) = text.map .char := by
    have h := piecesFrom_encode text []
    rw [List.append_nil] at h
    rw [pieces_eq, h]
    exact List.append_nil _
  have hwhole : ∀ test : Piece → Bool, (∀ c, test (.char c) = true) →
      (text.map Piece.char).takeWhile test = text.map .char := by
    intro test htest
    rw [List.takeWhile_eq_self_iff]
    intro piece hpiece
    obtain ⟨c, -, rfl⟩ := List.mem_map.1 hpiece
    exact htest c
  have hchars : (text.map Piece.char).map Piece.toChar = text := by
    rw [List.map_map]
    exact List.map_id text
  unfold decode
  simp only [hpieces]
  rw [hwhole _ fun _ => rfl, List.drop_length, hchars]

/-- Where the encoding of a text stands among other bytes, the text stands among what they decode
to. -/
theorem decodeLossy_around_encode {text : List Char} (htext : text ≠ [])
    (before after : List UInt8) :
    decodeLossy (before ++ encode text ++ after) =
      decodeLossy before ++ text ++ decodeLossy after := by
  obtain ⟨c, rest, rfl⟩ := List.exists_cons_of_ne_nil htext
  obtain ⟨b, later, hfirst, hb⟩ := exists_first_utf8EncodeChar c
  have hencode : encode (c :: rest) = b :: (later ++ encode rest) := by
    rw [encode, List.flatMap_cons, hfirst]
    rfl
  have hheld : SoundHeld none := by simp [SoundHeld]
  simp only [decodeLossy_eq]
  -- the first byte of the text ends whatever is held when it is reached
  rw [List.append_assoc, hencode, List.cons_append, decodeFrom_append hheld hb,
    ← List.cons_append, ← hencode, decodeFrom_encode, List.append_assoc]

end TokenAudit.Text.Utf8
