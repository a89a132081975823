/-!
# Decoding of UTF-8

Bytes become characters; a byte that starts no well-formed sequence becomes one replacement
character, and decoding goes on with the byte after it.
-/

namespace TableAssembler
namespace Utf8

/-- Stands for a byte that belongs to no well-formed sequence. -/
def replacement : Char := Char.ofNat 0xfffd

/-- A byte between two bounds. -/
def within (low high : Nat) (byte : UInt8) : Bool :=
  decide (low ≤ byte.toNat) && decide (byte.toNat ≤ high)

/-- The low six bits of a continuation byte. -/
def payload (byte : UInt8) : Nat := byte.toNat % 64

/-- The bounds of the second byte after a leading byte of a longer sequence: they exclude
overlong forms, surrogates and code points above the last plane. -/
def secondBounds (lead : Nat) : Nat × Nat :=
  if lead = 0xe0 then (0xa0, 0xbf)
  else if lead = 0xed then (0x80, 0x9f)
  else if lead = 0xf0 then (0x90, 0xbf)
  else if lead = 0xf4 then (0x80, 0x8f)
  else (0x80, 0xbf)

/-- The number of bytes that a leading byte announces. -/
def width? (lead : Nat) : Option Nat :=
  if lead < 0x80 then some 1
  else if lead / 32 = 6 then some 2
  else if lead / 16 = 14 then some 3
  else if lead / 8 = 30 then some 4
  else none

/-- The code point of the sequence that starts with `lead`, and its number of further bytes. -/
def sequence? (lead : UInt8) (rest : List UInt8) : Option (Nat × Nat) :=
  let bounds := secondBounds lead.toNat
  if lead.toNat < 0x80 then some (lead.toNat, 0)
  else if within 0xc2 0xdf lead then
    match rest with
    | second :: _ =>
        if within bounds.1 bounds.2 second then
          some (lead.toNat % 32 * 64 + payload second, 1)
        else none
    | _ => none
  else if within 0xe0 0xef lead then
    match rest with
    | second :: third :: _ =>
        if within bounds.1 bounds.2 second && within 0x80 0xbf third then
          some ((lead.toNat % 16 * 64 + payload second) * 64 + payload third, 2)
        else none
    | _ => none
  else if within 0xf0 0xf4 lead then
    match rest with
    | second :: third :: fourth :: _ =>
        if within bounds.1 bounds.2 second && within 0x80 0xbf third && within 0x80 0xbf fourth then
          some (((lead.toNat % 8 * 64 + payload second) * 64 + payload third) * 64
            + payload fourth, 3)
        else none
    | _ => none
  else none

/-- The characters of a byte string, each with the bytes that it stands for. -/
def segments : List UInt8 → List (Char × List UInt8)
  | [] => []
  | lead :: rest =>
      match sequence? lead rest with
      | some (point, further) =>
          (Char.ofNat point, lead :: rest.take further) :: segments (rest.drop further)
      | none => (replacement, [lead]) :: segments rest
termination_by bytes => bytes.length
decreasing_by all_goals simp only [List.length_cons, List.length_drop]; omega

/-- The characters of a byte string. -/
def decode (bytes : List UInt8) : List Char := (segments bytes).map Prod.fst

/-- The bytes of a text. -/
def encode (text : List Char) : List UInt8 := text.flatMap String.utf8EncodeChar

/-- A well-formed byte string for the characters of another one. -/
def repair (bytes : List UInt8) : List UInt8 := encode (decode bytes)

end Utf8
end TableAssembler
