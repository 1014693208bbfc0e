import SourceLoader.Failure

/-!
# Encodings

How bytes are read as text. Bytes that are no text in an encoding are refused with their place
and the reason.
-/

namespace SourceLoader

/-- An encoding of text. -/
inductive Encoding where
  | utf8
  /-- UTF-8 with an optional mark at the start. -/
  | utf8Marked
  | latin1
  | ascii
deriving DecidableEq, Repr

namespace Encoding

/-- The encoding that a name stands for. Case does not count, and neither do the signs between
the parts of a name. -/
def ofName? (name : String) : Option Encoding :=
  let plain := String.ofList ((name.toLower.toList).map fun c =>
    if c = ' ' || c = '_' then '-' else c)
  if ["utf-8", "utf8", "u8", "utf", "utf8-ucs2", "utf8-ucs4", "cp65001"].contains plain then
    some .utf8
  else if ["utf-8-sig", "utf8-sig"].contains plain then some .utf8Marked
  else if ["latin-1", "latin1", "latin", "l1", "iso-8859-1", "iso8859-1", "8859", "cp819",
      "iso-ir-100"].contains plain then
    some .latin1
  else if ["ascii", "us-ascii", "646", "ansi-x3.4-1968"].contains plain then some .ascii
  else none

/-- Does the byte continue a character? -/
def continues (b : UInt8) : Bool := b &&& 0xC0 = 0x80

/-- The second byte that may follow the first one of a longer character. -/
def mayFollow (first second : UInt8) : Bool :=
  continues second
    && !(first = 0xE0 && second < 0xA0) && !(first = 0xED && second ≥ 0xA0)
    && !(first = 0xF0 && second < 0x90) && !(first = 0xF4 && second ≥ 0x90)

/-- The payload of bytes that continue a character. -/
def payload (n : Nat) (bytes : List UInt8) : Nat :=
  bytes.foldl (fun n b => n * 64 + (b &&& 0x3F).toNat) n

/-- What stands at the front of some bytes: a character and its length, or the number of bad
bytes and what is wrong with them. -/
def utf8Front : List UInt8 → Except (Nat × String) (Char × Nat)
  | [] => .error (0, "unexpected end of data")
  | b :: rest =>
    let invalid (count : Nat) : Except (Nat × String) (Char × Nat) :=
      .error (count, "invalid continuation byte")
    let cut : Except (Nat × String) (Char × Nat) :=
      .error (1 + rest.length, "unexpected end of data")
    if b < 0x80 then .ok (Char.ofNat b.toNat, 1)
    else if b < 0xC2 || b > 0xF4 then .error (1, "invalid start byte")
    else if b < 0xE0 then
      match rest with
      | [] => cut
      | c :: _ =>
        if continues c then .ok (Char.ofNat (payload (b &&& 0x1F).toNat [c]), 2) else invalid 1
    else if b < 0xF0 then
      match rest with
      | [] => cut
      | [c] => if mayFollow b c then cut else invalid 1
      | c :: d :: _ =>
        if !mayFollow b c then invalid 1
        else if !continues d then invalid 2
        else .ok (Char.ofNat (payload (b &&& 0x0F).toNat [c, d]), 3)
    else
      match rest with
      | [] => cut
      | [c] => if mayFollow b c then cut else invalid 1
      | [c, d] => if !mayFollow b c then invalid 1 else if continues d then cut else invalid 2
      | c :: d :: e :: _ =>
        if !mayFollow b c then invalid 1
        else if !continues d then invalid 2
        else if !continues e then invalid 3
        else .ok (Char.ofNat (payload (b &&& 0x07).toNat [c, d, e]), 4)

/-- Reads UTF-8; `place` is the place of the first byte, `read` holds the characters so far,
last one first. -/
def decodeUtf8From : Nat → Nat → List Char → List UInt8 → Except DecodingFault (List Char)
  | 0, _, read, _ => .ok read.reverse
  | fuel + 1, place, read, bytes =>
    match bytes with
    | [] => .ok read.reverse
    | first :: _ =>
      match utf8Front bytes with
      | .ok (c, size) => decodeUtf8From fuel (place + size) (c :: read) (bytes.drop size)
      | .error (count, reason) => .error ⟨"utf-8", first, place, count, reason⟩

/-- Reads UTF-8. -/
def decodeUtf8 (bytes : List UInt8) : Except DecodingFault (List Char) :=
  decodeUtf8From bytes.length 0 [] bytes

/-- Reads ASCII; `place` is the place of the first byte. -/
def decodeAscii (place : Nat) : List UInt8 → Except DecodingFault (List Char)
  | [] => .ok []
  | b :: rest =>
    if b < 0x80 then do return Char.ofNat b.toNat :: (← decodeAscii (place + 1) rest)
    else .error ⟨"ascii", b, place, 1, "ordinal not in range(128)"⟩

/-- Reads bytes as text. -/
def decode : Encoding → List UInt8 → Except DecodingFault (List Char)
  | utf8, bytes => decodeUtf8 bytes
  | utf8Marked, 0xEF :: 0xBB :: 0xBF :: bytes => decodeUtf8 bytes
  | utf8Marked, bytes => decodeUtf8 bytes
  | latin1, bytes => .ok (bytes.map fun b => Char.ofNat b.toNat)
  | ascii, bytes => decodeAscii 0 bytes

end Encoding

end SourceLoader
