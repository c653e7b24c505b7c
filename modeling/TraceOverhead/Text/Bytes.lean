/-!
Text as bytes. Writing is UTF-8. Reading comes in two forms: a strict one that refuses any byte
sequence that is not UTF-8, and a lossy one, for the output of other programs, that puts one
replacement character for every maximal piece that cannot begin a character.
-/

namespace TraceOverhead

abbrev Bytes := List UInt8

namespace Text

/-- The UTF-8 form of a text. -/
def toBytes (text : String) : Bytes := text.toList.flatMap String.utf8EncodeChar

/-- The text that the bytes are the UTF-8 form of, if there is one. -/
def ofBytes? (bytes : Bytes) : Option String := String.fromUTF8? ⟨bytes.toArray⟩

/-- What a leading byte promises: how many bytes follow, and the range of the first of them. The
range is narrower than `80..BF` where it keeps out long forms, surrogates and numbers past the last
character. -/
structure Lead where
  bits : Nat
  following : Nat
  low : UInt8
  high : UInt8

def lead? (byte : UInt8) : Option Lead :=
  if byte < 0x80 then some ⟨byte.toNat, 0, 0x80, 0xbf⟩
  else if byte < 0xc2 then none
  else if byte < 0xe0 then some ⟨byte.toNat - 0xc0, 1, 0x80, 0xbf⟩
  else if byte = 0xe0 then some ⟨0, 2, 0xa0, 0xbf⟩
  else if byte = 0xed then some ⟨0xd, 2, 0x80, 0x9f⟩
  else if byte < 0xf0 then some ⟨byte.toNat - 0xe0, 2, 0x80, 0xbf⟩
  else if byte = 0xf0 then some ⟨0, 3, 0x90, 0xbf⟩
  else if byte < 0xf4 then some ⟨byte.toNat - 0xf0, 3, 0x80, 0xbf⟩
  else if byte = 0xf4 then some ⟨4, 3, 0x80, 0x8f⟩
  else none

def replacement : Char := '\ufffd'

/-- The characters of the bytes, read after `pending`, the character under way. A byte that cannot
go on with the character under way ends it as one replacement and is looked at afresh. -/
def decodeLossy : Option Lead → Bytes → List Char
  | none, [] => []
  | some _, [] => [replacement]
  | none, byte :: rest => begin byte rest
  | some pending, byte :: rest =>
    if pending.low ≤ byte && byte ≤ pending.high then
      let bits := pending.bits * 64 + (byte.toNat - 0x80)
      if pending.following ≤ 1 then Char.ofNat bits :: decodeLossy none rest
      else decodeLossy (some ⟨bits, pending.following - 1, 0x80, 0xbf⟩) rest
    else replacement :: begin byte rest
where
  begin (byte : UInt8) (rest : Bytes) : List Char :=
    match lead? byte with
    | none => replacement :: decodeLossy none rest
    | some lead =>
      if lead.following = 0 then Char.ofNat lead.bits :: decodeLossy none rest
      else decodeLossy (some lead) rest

/-- The text of bytes that need not be UTF-8. -/
def ofBytesLossy (bytes : Bytes) : String := String.ofList (decodeLossy none bytes)

end Text
end TraceOverhead
