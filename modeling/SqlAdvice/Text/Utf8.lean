import SqlAdvice.Text.Digit

/-!
# UTF-8

Reading bytes as UTF-8, with the place and the reason of the first fault. A lead byte fixes how many
bytes follow and what range the first of them has; every later one is `80` to `BF`.
-/

namespace SqlAdvice.Text

/-- Why bytes are no UTF-8. -/
inductive Utf8Reason where
  /-- A byte that starts no character. -/
  | startByte
  /-- A byte that cannot stand where it does inside a character. -/
  | continuation
  /-- The text ends inside a character. -/
  | endOfData

/-- The first fault of a byte text: its first byte, its place, and how many bytes belong to it. -/
structure Utf8Fault where
  lead : UInt8
  position : Nat
  length : Nat
  reason : Utf8Reason

/-- What a reason is called in a message. -/
def Utf8Reason.message : Utf8Reason → String
  | .startByte => "invalid start byte"
  | .continuation => "invalid continuation byte"
  | .endOfData => "unexpected end of data"

/-- The text of a fault. One byte is shown with its value, several by their places. -/
def Utf8Fault.message (f : Utf8Fault) : String :=
  let place :=
    if f.length == 1 then
      "byte 0x" ++ String.ofList (hex 2 f.lead.toNat) ++ " in position " ++ toString f.position
    else
      "bytes in position " ++ toString f.position ++ "-" ++ toString (f.position + f.length - 1)
  "'utf-8' codec can't decode " ++ place ++ ": " ++ f.reason.message

/-- What a lead byte above `7F` opens: the bits it carries and the inclusive range of each byte that
has to follow. -/
def followers (lead : Nat) : Option (Nat × List (Nat × Nat)) :=
  let tail := (0x80, 0xBF)
  if 0xC2 ≤ lead && lead ≤ 0xDF then some (lead - 0xC0, [tail])
  else if lead == 0xE0 then some (0, [(0xA0, 0xBF), tail])
  else if lead == 0xED then some (0xD, [(0x80, 0x9F), tail])
  else if 0xE1 ≤ lead && lead ≤ 0xEF then some (lead - 0xE0, [tail, tail])
  else if lead == 0xF0 then some (0, [(0x90, 0xBF), tail, tail])
  else if 0xF1 ≤ lead && lead ≤ 0xF3 then some (lead - 0xF0, [tail, tail, tail])
  else if lead == 0xF4 then some (4, [(0x80, 0x8F), tail, tail])
  else none

/-- Where the reader stands between two bytes. -/
inductive Utf8State where
  /-- Between characters. -/
  | start
  /-- Inside a character: its first byte, how many bytes are read, the bits so far, and the ranges
  of the bytes still owed. -/
  | inside (lead : UInt8) (read : Nat) (bits : Nat) (owed : List (Nat × Nat))

/-- Reads bytes from `position` on. -/
def decodeFrom (position : Nat) : Utf8State → List UInt8 → Except Utf8Fault (List Char)
  | .start, [] => .ok []
  | .inside lead read _ _, [] => .error ⟨lead, position - read, read, .endOfData⟩
  | .start, b :: bs =>
    if b.toNat < 0x80 then
      (decodeFrom (position + 1) .start bs).map (Char.ofNat b.toNat :: ·)
    else match followers b.toNat with
      | none => .error ⟨b, position, 1, .startByte⟩
      | some (bits, owed) => decodeFrom (position + 1) (.inside b 1 bits owed) bs
  | .inside lead read bits owed, b :: bs =>
    match owed with
    | [] => .error ⟨lead, position - read, read, .continuation⟩
    | (lo, hi) :: later =>
      if lo ≤ b.toNat && b.toNat ≤ hi then
        let bits := bits * 64 + (b.toNat - 0x80)
        if later.isEmpty then (decodeFrom (position + 1) .start bs).map (Char.ofNat bits :: ·)
        else decodeFrom (position + 1) (.inside lead (read + 1) bits later) bs
      else .error ⟨lead, position - read, read, .continuation⟩

/-- Reads a whole byte text. -/
def decodeUtf8 (bytes : List UInt8) : Except Utf8Fault (List Char) :=
  decodeFrom 0 .start bytes

end SqlAdvice.Text
