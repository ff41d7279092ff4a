import TokenAudit.Text.Quoted
import TokenAudit.Text.Raw

/-!
# UTF-8

Bytes are read one at a time; what is held in between is the beginning of a character whose later
bytes are still to come. The bytes of a text come out as a list of pieces: characters, and defects,
each of which covers a longest sequence of bytes that begins no further than an ill-formed character
does. A lenient reader puts one replacement character for each defect; a strict one reports the
first.
-/

set_option autoImplicit false

namespace TokenAudit.Text.Utf8

/-- Why bytes form no character. -/
inductive Reason where
  | start
  | continuation
  | truncated
  deriving DecidableEq

/-- A sequence of bytes that forms no character: its first byte and its length. -/
structure Defect where
  first : UInt8
  length : Nat
  reason : Reason
  deriving DecidableEq

/-- One piece of a decoded text. -/
inductive Piece where
  | char (c : Char)
  | defect (d : Defect)
  deriving DecidableEq

/-- The beginning of a character: its first byte, how many bytes were read, how many are to come,
the bounds of the next one, and the bits so far. -/
structure Pending where
  first : UInt8
  seen : Nat
  missing : Nat
  low : UInt8
  high : UInt8
  bits : Nat
  deriving DecidableEq

/-- What a byte is at the beginning of a character. -/
inductive Lead where
  | ascii (c : Char)
  | pending (p : Pending)
  | stray

/-- Reads the first byte of a character. The bounds of the second byte keep out overlong forms,
surrogates and numbers beyond the last code point. -/
def lead (b : UInt8) : Lead :=
  if b < 0x80 then .ascii (Char.ofNat b.toNat)
  else if b < 0xc2 then .stray
  else if b < 0xe0 then .pending ⟨b, 1, 1, 0x80, 0xbf, b.toNat % 32⟩
  else if b < 0xf0 then
    .pending ⟨b, 1, 2, if b = 0xe0 then 0xa0 else 0x80, if b = 0xed then 0x9f else 0xbf,
      b.toNat % 16⟩
  else if b < 0xf5 then
    .pending ⟨b, 1, 3, if b = 0xf0 then 0x90 else 0x80, if b = 0xf4 then 0x8f else 0xbf,
      b.toNat % 8⟩
  else .stray

/-- The defect of a character that breaks off. -/
def Pending.defect (p : Pending) (reason : Reason) : Defect :=
  ⟨p.first, p.seen, reason⟩

/-- The character's beginning, longer by a continuation byte. -/
def Pending.push (p : Pending) (b : UInt8) : Pending :=
  { p with
    seen := p.seen + 1
    missing := p.missing - 1
    low := 0x80
    high := 0xbf
    bits := p.bits * 64 + b.toNat % 64 }

/-- Reads a byte where a character may begin. -/
def begin (b : UInt8) : Option Pending × List Piece :=
  match lead b with
  | .ascii c => (none, [.char c])
  | .pending p => (some p, [])
  | .stray => (none, [.defect ⟨b, 1, .start⟩])

/-- Reads one byte: the beginning of a character that is held afterwards, and the pieces that are
complete, in order. -/
def step : Option Pending → UInt8 → Option Pending × List Piece
  | none, b => begin b
  | some p, b =>
    if p.low ≤ b ∧ b ≤ p.high then
      let longer := p.push b
      if longer.missing = 0 then (none, [.char (Char.ofNat longer.bits)]) else (some longer, [])
    else
      let (held, complete) := begin b
      (held, .defect (p.defect .continuation) :: complete)

/-- The pieces of a byte string. -/
def pieces (bytes : List UInt8) : List Piece :=
  let (held, reversed) := bytes.foldl
    (fun (held, reversed) b =>
      let (held, complete) := step held b
      (held, complete.reverse ++ reversed))
    ((none, []) : Option Pending × List Piece)
  match held with
  | none => reversed.reverse
  | some p => (Piece.defect (p.defect .truncated) :: reversed).reverse

/-- A piece as a character. -/
def Piece.toChar : Piece → Char
  | .char c => c
  | .defect _ => RawText.replacement

/-- Decodes a byte string, with one replacement character for each defect. -/
def decodeLossy (bytes : List UInt8) : List Char :=
  (pieces bytes).map Piece.toChar

/-- The first defect of a byte string and its position. -/
structure DecodeError where
  position : Nat
  defect : Defect
  deriving DecidableEq

/-- The wording of a reason. -/
def Reason.wording : Reason → String
  | start => "invalid start byte"
  | continuation => "invalid continuation byte"
  | truncated => "unexpected end of data"

/-- The wording of a decoding error. -/
def DecodeError.message (e : DecodeError) : String :=
  "'utf-8' codec can't decode " ++
    (if e.defect.length = 1 then
      "byte 0x" ++ hexDigits 2 e.defect.first.toNat ++ " in position " ++ toString e.position
    else
      "bytes in position " ++ toString e.position ++ "-" ++
        toString (e.position + e.defect.length - 1)) ++
    ": " ++ e.defect.reason.wording

/-- The number of bytes that a piece covers. -/
def Piece.size : Piece → Nat
  | .char c => c.utf8Size
  | .defect d => d.length

/-- The number of bytes that pieces cover. -/
def sizeOfPieces (pieces : List Piece) : Nat :=
  pieces.foldr (fun p size => p.size + size) 0

/-- Decodes a byte string that must be well-formed. -/
def decode (bytes : List UInt8) : Except DecodeError (List Char) :=
  let all := pieces bytes
  let whole := all.takeWhile fun p => match p with | .char _ => true | .defect _ => false
  match all.drop whole.length with
  | .defect d :: _ => .error ⟨sizeOfPieces whole, d⟩
  | _ => .ok (whole.map Piece.toChar)

/-- Encodes a text. -/
def encode (text : List Char) : List UInt8 :=
  text.flatMap String.utf8EncodeChar

end TokenAudit.Text.Utf8
