import StationWatch.Text.Quoted

/-!
# Texts as bytes

Texts leave the program as bytes, one to four for each character.  A half has no bytes, so a text
with one in it cannot leave.

## Main definitions

* `toBytes` — the bytes of a text.
* `ofBytes?` — the text of bytes that are the encoding of one.
* `EncodingFault` — why a text has no bytes.
* `RawText.characters` — the characters of a text that has bytes.

## Main results

* `ofBytes?_toBytes` — the bytes of a text are read back to it.
-/

namespace StationWatch.Text

/-- The bytes of a text. -/
def toBytes (cs : List Char) : List UInt8 := cs.flatMap String.utf8EncodeChar

/-- The text of a list of bytes, if the bytes encode one. -/
def ofBytes? (bytes : List UInt8) : Option (List Char) :=
  bytes.toByteArray.utf8Decode?.map Array.toList

@[simp] theorem toBytes_cons (c : Char) (cs : List Char) :
    toBytes (c :: cs) = String.utf8EncodeChar c ++ toBytes cs := rfl

/-- The bytes of a text are read back to it. -/
@[simp] theorem ofBytes?_toBytes (cs : List Char) : ofBytes? (toBytes cs) = some cs := by
  have h : (toBytes cs).toByteArray = cs.utf8Encode := rfl
  simp [ofBytes?, h, List.utf8Decode?_utf8Encode]

end StationWatch.Text

namespace StationWatch

/-- Why a text has no bytes: the first half in it, and how many follow one another there. -/
structure EncodingFault where
  half : Half
  /-- The number of characters before it. -/
  position : Nat
  /-- The number of halves in a row. -/
  count : Nat
  deriving DecidableEq, Repr, Inhabited

/-- The wording of a fault. -/
def EncodingFault.message (fault : EncodingFault) : String :=
  let place :=
    if fault.count = 1 then
      "character \x27" ++ String.ofList (Text.escapeHalf fault.half) ++ "\x27 in position " ++
        toString fault.position
    else
      "characters in position " ++ toString fault.position ++ "-" ++
        toString (fault.position + fault.count - 1)
  "\x27utf-8\x27 codec can\x27t encode " ++ place ++ ": surrogates not allowed"

/-- The characters of a text, which has bytes if it has no half. -/
def RawText.characters : RawText → Except EncodingFault String
  | .whole s => .ok s
  | .broken front half rest => .error ⟨half, front.length, rest.leadingHalves + 1⟩

end StationWatch
