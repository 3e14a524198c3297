import BroadcastGraphics.Text.HalfPair

/-!
# Encodings of texts

A text that comes as bytes is in UTF-8 unless the zeros among its first bytes show that its
characters take two or four bytes each: a JSON text starts with two characters of ASCII, so the
places of the zeros tell the width of a unit and the order of its bytes.
-/

namespace BroadcastGraphics
namespace Text

/-- Which byte of a unit comes first. -/
inductive ByteOrder where
  | big
  | little
  deriving DecidableEq, Repr

/-- How the characters of a text are laid out in bytes. -/
inductive Encoding where
  | utf8
  | utf16 (order : ByteOrder)
  | utf32 (order : ByteOrder)
  deriving DecidableEq, Repr

/-- The value of a unit of bytes. -/
def ByteOrder.unit : ByteOrder -> List Nat -> Nat
  | big, bytes => bytes.foldl (fun value byte => 256 * value + byte) 0
  | little, bytes => bytes.foldr (fun byte value => 256 * value + byte) 0

/-- The mark that may stand before a text and does not belong to it. -/
def byteOrderMark : Char := '\ufeff'

/-- A text without the mark that may stand before it. -/
def withoutMark (text : String) : String :=
  match text.toList with
  | first :: rest => if first == byteOrderMark then String.ofList rest else text
  | [] => text

namespace Encoding

/-- The encoding of a JSON text in bytes. -/
def ofJsonBytes : List Nat -> Encoding
  | 0 :: 0 :: _ :: _ :: _ => utf32 .big
  | 0 :: _ :: _ :: _ :: _ => utf16 .big
  | _ :: 0 :: 0 :: 0 :: _ => utf32 .little
  | _ :: 0 :: _ :: _ :: _ => utf16 .little
  | [0, _] => utf16 .big
  | [_, 0] => utf16 .little
  | _ => utf8

/-- The units of two bytes that a list of bytes is made of. -/
def units16? (order : ByteOrder) : List Nat -> Option (List Nat)
  | [] => some []
  | first :: second :: rest =>
      (units16? order rest).map (order.unit [first, second] :: ·)
  | _ => none

/-- The units of four bytes that a list of bytes is made of. -/
def units32? (order : ByteOrder) : List Nat -> Option (List Nat)
  | [] => some []
  | first :: second :: third :: fourth :: rest =>
      (units32? order rest).map (order.unit [first, second, third, fourth] :: ·)
  | _ => none

/-- The characters of units of sixteen bits, two units making a pair where they can. -/
def charactersOf16 : List Nat -> List Char
  | high :: low :: rest =>
      if 0xd800 ≤ high && high < 0xdc00 && 0xdc00 ≤ low && low < 0xe000 then
        Char.ofNat (0x10000 + (high - 0xd800) * 0x400 + (low - 0xdc00)) :: charactersOf16 rest
      else HalfPair.ofUnit high :: charactersOf16 (low :: rest)
  | [unit] => [HalfPair.ofUnit unit]
  | [] => []

/-- The characters of units of 32 bits, all of which have to be code points. -/
def charactersOf32? (units : List Nat) : Option (List Char) :=
  if units.all (· < 0x110000) then some (units.map HalfPair.ofUnit) else none

end Encoding

/-- A JSON text that came as the bytes of another text in UTF-8, or nothing if the bytes are not a
text in the encoding that they seem to be in. -/
def ofJsonBytes? (received : String) : Option String :=
  let bytes := received.toUTF8.toList.map UInt8.toNat
  match Encoding.ofJsonBytes bytes with
  | .utf8 => some (withoutMark received)
  | .utf16 order =>
      (Encoding.units16? order bytes).map fun units => String.ofList (Encoding.charactersOf16 units)
  | .utf32 order =>
      ((Encoding.units32? order bytes).bind Encoding.charactersOf32?).map String.ofList

/-- A text whose bytes in UTF-8 are taken for characters one by one. -/
def bytewise (text : String) : String :=
  String.ofList (text.toUTF8.toList.map fun byte => Char.ofNat byte.toNat)

end Text
end BroadcastGraphics
