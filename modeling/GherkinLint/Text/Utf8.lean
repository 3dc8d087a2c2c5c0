namespace GherkinLint.Text.Utf8

inductive Cause where
  | start
  | continuation
  | endOfData
  deriving DecidableEq, Repr

/-- Bytes that are no character: their place, and the first of them. -/
structure Fault where
  cause : Cause
  position : Nat
  length : Nat
  byte : UInt8
  deriving DecidableEq, Repr

def Cause.message : Cause → String
  | start => "invalid start byte"
  | continuation => "invalid continuation byte"
  | endOfData => "unexpected end of data"

def hexByte (b : UInt8) : String :=
  let digits := Nat.toDigits 16 b.toNat
  String.ofList (List.replicate (2 - digits.length) '0' ++ digits)

def Fault.message (fault : Fault) : String :=
  "'utf-8' codec can't decode " ++
    (if fault.length = 1 then
      "byte 0x" ++ hexByte fault.byte ++ " in position " ++ toString fault.position
    else
      "bytes in position " ++ toString fault.position ++ "-" ++
        toString (fault.position + fault.length - 1)) ++
    ": " ++ fault.cause.message

/-- What the first byte of a character says: how many bytes follow it, the bounds of the byte next
to it, and the part of the code point that it holds itself. -/
structure Lead where
  more : Nat
  low : UInt8
  high : UInt8
  code : Nat
  deriving DecidableEq, Repr

def lead? (b : UInt8) : Option Lead :=
  if b < 0x80 then some ⟨0, 0, 0, b.toNat⟩
  else if b < 0xC2 then none
  else if b < 0xE0 then some ⟨1, 0x80, 0xBF, b.toNat - 0xC0⟩
  else if b < 0xF0 then
    some ⟨2, if b = 0xE0 then 0xA0 else 0x80, if b = 0xED then 0x9F else 0xBF, b.toNat - 0xE0⟩
  else if b < 0xF5 then
    some ⟨3, if b = 0xF0 then 0x90 else 0x80, if b = 0xF4 then 0x8F else 0xBF, b.toNat - 0xF0⟩
  else none

/-- Reads the `more` bytes that complete a character. Gives its code point, or the cause of the
fault with the number of bytes that fit. -/
def complete : Nat → UInt8 → UInt8 → Nat → List UInt8 → Except (Cause × Nat) Nat
  | 0, _, _, code, _ => .ok code
  | _ + 1, _, _, _, [] => .error (.endOfData, 0)
  | more + 1, low, high, code, b :: s =>
    if low ≤ b ∧ b ≤ high then
      (complete more 0x80 0xBF (code * 64 + (b.toNat - 0x80)) s).mapError
        fun (cause, fitting) ↦ (cause, fitting + 1)
    else .error (.continuation, 0)

/-- Decodes the bytes from `position` on; the first `skip` of them belong to a character that is
read already. -/
def decodeFrom (position : Nat) : Nat → List UInt8 → Except Fault (List Char)
  | _, [] => .ok []
  | skip + 1, _ :: s => decodeFrom (position + 1) skip s
  | 0, b :: s =>
    match lead? b with
    | none => .error ⟨.start, position, 1, b⟩
    | some lead =>
      match complete lead.more lead.low lead.high lead.code s with
      | .error (cause, fitting) => .error ⟨cause, position, fitting + 1, b⟩
      | .ok code => (decodeFrom (position + 1) lead.more s).map (Char.ofNat code :: ·)

def decode (bytes : List UInt8) : Except Fault (List Char) := decodeFrom 0 0 bytes

def encode (s : List Char) : List UInt8 := s.flatMap String.utf8EncodeChar

end GherkinLint.Text.Utf8
