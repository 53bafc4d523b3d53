/-! # UTF-8, with a replacement for bytes that are not

Bytes that belong to no character are read as the replacement character, one for each longest
start of a well-formed sequence, or for the single byte where none starts.
-/

namespace PostMarkup.Text.Utf8

def encode (text : List Char) : List UInt8 := text.flatMap String.utf8EncodeChar

/-- What the first byte of a character of several bytes announces. -/
structure Lead where
  /-- The number of bytes that follow. -/
  more : Nat
  /-- The least and the greatest value of the first of them. -/
  low : Nat
  high : Nat
  /-- The bits of the character that the first byte holds. -/
  bits : Nat

/-- What a byte announces as the first of several; none if no character starts so. -/
def lead? (byte : Nat) : Option Lead :=
  if byte < 0xc2 then none
  else if byte < 0xe0 then some ⟨1, 0x80, 0xbf, byte - 0xc0⟩
  else if byte = 0xe0 then some ⟨2, 0xa0, 0xbf, 0⟩
  else if byte = 0xed then some ⟨2, 0x80, 0x9f, 0xd⟩
  else if byte < 0xf0 then some ⟨2, 0x80, 0xbf, byte - 0xe0⟩
  else if byte = 0xf0 then some ⟨3, 0x90, 0xbf, 0⟩
  else if byte < 0xf4 then some ⟨3, 0x80, 0xbf, byte - 0xf0⟩
  else if byte = 0xf4 then some ⟨3, 0x80, 0x8f, 4⟩
  else none

/-- The number of bytes at the start of a list that can follow a first byte, at most `more`. -/
def continuation (more low high : Nat) : List UInt8 → Nat
  | [] => 0
  | byte :: rest =>
    match more with
    | 0 => 0
    | more + 1 =>
      if low ≤ byte.toNat ∧ byte.toNat ≤ high then continuation more 0x80 0xbf rest + 1 else 0

/-- The code point with the given leading bits and following bytes. -/
def codePoint (bits : Nat) (following : List UInt8) : Nat :=
  following.foldl (fun code byte => code * 64 + byte.toNat % 64) bits

/-- The first character of a nonempty list of bytes and the number of bytes after the first one
that it takes; none if the bytes read so far belong to no character. -/
def first (byte : UInt8) (rest : List UInt8) : Option Char × Nat :=
  if byte.toNat < 0x80 then (some (Char.ofNat byte.toNat), 0)
  else match lead? byte.toNat with
    | none => (none, 0)
    | some lead =>
      let taken := continuation lead.more lead.low lead.high rest
      if taken = lead.more then (some (Char.ofNat (codePoint lead.bits (rest.take taken))), taken)
      else (none, taken)

/-- The text of a list of bytes, with the replacement character for what is not well formed. -/
def decodeLossy : List UInt8 → List Char
  | [] => []
  | byte :: rest =>
    let (decoded, taken) := first byte rest
    decoded.getD '\ufffd' :: decodeLossy (rest.drop taken)
termination_by bytes => bytes.length
decreasing_by simp only [List.length_cons, List.length_drop]; omega

/-- The text of a list of bytes, none if they are not well formed throughout. -/
def decode? : List UInt8 → Option (List Char)
  | [] => some []
  | byte :: rest =>
    match first byte rest with
    | (some c, taken) => (decode? (rest.drop taken)).map (c :: ·)
    | (none, _) => none
termination_by bytes => bytes.length
decreasing_by simp only [List.length_cons, List.length_drop]; omega

end PostMarkup.Text.Utf8
