/-!
# UTF-8

Settings arrive as bytes, and the bytes may be anything. `pieces` splits
them into what they turn out to be: characters, **ill-formed** stretches,
and at the very end a character that is **cut short**. An ill-formed
stretch is as long as it could have gone on to be a character, so that
what follows is read afresh.

Both ways to read bytes are views of the pieces: `decode` insists on
characters and names the first defect, `decodeLossy` shows every defect
as the replacement character. `encode` writes characters as bytes.
-/

namespace RecordPlan.Text.Utf8

/-- A stretch of bytes, as what it turns out to be. -/
inductive Piece where
  /-- The bytes of a character. -/
  | char (c : Char)
  /-- So many bytes that are part of no character. -/
  | illFormed (length : Nat)
  /-- The first bytes of a character, with nothing after them. -/
  | cutShort
  deriving DecidableEq

/-- A character of which some bytes have been read. -/
structure Partial where
  /-- The bits read so far. -/
  bits : Nat
  /-- How many bytes have been read. -/
  taken : Nat
  /-- How many more there must be. -/
  owed : Nat
  /-- The least byte that may follow. -/
  low : UInt8
  /-- The greatest byte that may follow. -/
  high : UInt8

/-- What a byte begins: a piece of its own, or a character of more bytes.
The bounds on the second byte keep out what would have a shorter form,
surrogates, and numbers beyond the last code point. -/
def start (b : UInt8) : Piece ⊕ Partial :=
  if b < 0x80 then .inl (.char (Char.ofNat b.toNat))
  else if b < 0xC2 then .inl (.illFormed 1)
  else if b < 0xE0 then .inr ⟨b.toNat - 0xC0, 1, 1, 0x80, 0xBF⟩
  else if b < 0xF0 then
    .inr ⟨b.toNat - 0xE0, 1, 2, if b = 0xE0 then 0xA0 else 0x80, if b = 0xED then 0x9F else 0xBF⟩
  else if b < 0xF5 then
    .inr ⟨b.toNat - 0xF0, 1, 3, if b = 0xF0 then 0x90 else 0x80, if b = 0xF4 then 0x8F else 0xBF⟩
  else .inl (.illFormed 1)

/-- The pieces of some bytes, of which a first character may have been
read in part. -/
def piecesFrom : Option Partial → List UInt8 → List Piece
  | none, [] => []
  | some _, [] => [.cutShort]
  | none, b :: rest =>
    match start b with
    | .inl piece => piece :: piecesFrom none rest
    | .inr p => piecesFrom (some p) rest
  | some p, b :: rest =>
    if p.low ≤ b ∧ b ≤ p.high then
      let bits := 64 * p.bits + (b.toNat - 0x80)
      if p.owed ≤ 1 then .char (Char.ofNat bits) :: piecesFrom none rest
      else piecesFrom (some ⟨bits, p.taken + 1, p.owed - 1, 0x80, 0xBF⟩) rest
    else
      .illFormed p.taken ::
        match start b with
        | .inl piece => piece :: piecesFrom none rest
        | .inr q => piecesFrom (some q) rest

/-- **What some bytes turn out to be**, from first to last. -/
def pieces (bytes : List UInt8) : List Piece := piecesFrom none bytes

/-- The first place where bytes are not UTF-8. -/
inductive Defect where
  /-- So many bytes from an index on are part of no character. -/
  | illFormed (length index : Nat)
  /-- The bytes end inside the character that begins at an index. -/
  | cutShort (index : Nat)
  deriving DecidableEq

/-- The text of a defect in a diagnostic. -/
def Defect.message : Defect → String
  | .illFormed length index =>
    "invalid utf-8 sequence of " ++ toString length ++ " bytes from index " ++ toString index
  | .cutShort index => "incomplete utf-8 byte sequence from index " ++ toString index

/-- The characters of some pieces that begin at an index, or the first
defect. -/
def collect (index : Nat) : List Piece → Except Defect (List Char)
  | [] => .ok []
  | .char c :: rest => (collect (index + c.utf8Size) rest).map (c :: ·)
  | .illFormed length :: _ => .error (.illFormed length index)
  | .cutShort :: _ => .error (.cutShort index)

/-- **Reads bytes as characters**, or names the first defect. -/
def decode (bytes : List UInt8) : Except Defect (List Char) := collect 0 (pieces bytes)

/-- The character of a piece; the replacement character for a defect. -/
def Piece.shown : Piece → Char
  | .char c => c
  | .illFormed _ => '\ufffd'
  | .cutShort => '\ufffd'

/-- Reads bytes as characters, each defect as one replacement character. -/
def decodeLossy (bytes : List UInt8) : List Char := (pieces bytes).map Piece.shown

/-- The bytes of a text. -/
def encode (text : List Char) : List UInt8 := text.flatMap String.utf8EncodeChar

end RecordPlan.Text.Utf8
