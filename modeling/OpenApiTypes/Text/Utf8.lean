namespace OpenApiTypes
namespace Text

/-!
# UTF-8, strictly and with replacement

Both readings run one machine, an octet at a time.  Between characters it holds
nothing; inside a character it holds how many octets are owed, which octets may come
next, and the bits read so far.  The machine refuses an octet as soon as no character
can start with the octets read, so an ill-formed stretch is as short as possible.
-/

/-- A character that has begun and is not complete. -/
structure PartialScalar where
  owed : Nat
  least : UInt8
  greatest : UInt8
  value : Nat
  octets : Nat

/-- What an octet does between characters. -/
inductive Opening where
  | complete (character : Char)
  | begun (scalar : PartialScalar)
  | refused

/-- The second octet is narrower after four of the leading octets: this excludes long
forms, surrogates and numbers beyond the last code point. -/
def opening (octet : UInt8) : Opening :=
  let value := octet.toNat
  if value < 0x80 then .complete (Char.ofNat value)
  else if value < 0xc2 then .refused
  else if value < 0xe0 then .begun ⟨1, 0x80, 0xbf, value - 0xc0, 1⟩
  else if value = 0xe0 then .begun ⟨2, 0xa0, 0xbf, 0, 1⟩
  else if value = 0xed then .begun ⟨2, 0x80, 0x9f, 13, 1⟩
  else if value < 0xf0 then .begun ⟨2, 0x80, 0xbf, value - 0xe0, 1⟩
  else if value = 0xf0 then .begun ⟨3, 0x90, 0xbf, 0, 1⟩
  else if value < 0xf4 then .begun ⟨3, 0x80, 0xbf, value - 0xf0, 1⟩
  else if value = 0xf4 then .begun ⟨3, 0x80, 0x8f, 4, 1⟩
  else .refused

/-- The bits of a continuation octet join the value. -/
def PartialScalar.extend (scalar : PartialScalar) (octet : UInt8) : PartialScalar :=
  ⟨scalar.owed - 1, 0x80, 0xbf, scalar.value * 64 + (octet.toNat - 0x80), scalar.octets + 1⟩

/-- Whether an octet may come next. -/
def PartialScalar.accepts (scalar : PartialScalar) (octet : UInt8) : Bool :=
  scalar.least <= octet && octet <= scalar.greatest

/-- The replacement character. -/
def replacement : Char := Char.ofNat 0xfffd

/-- Read octets, writing one replacement character for each ill-formed stretch. -/
def lossyFrom : Option PartialScalar -> List UInt8 -> List Char
  | none, [] => []
  | some _, [] => [replacement]
  | none, octet :: rest =>
      match opening octet with
      | .complete character => character :: lossyFrom none rest
      | .begun scalar => lossyFrom (some scalar) rest
      | .refused => replacement :: lossyFrom none rest
  | some scalar, octet :: rest =>
      if scalar.accepts octet then
        if scalar.owed <= 1 then
          Char.ofNat (scalar.extend octet).value :: lossyFrom none rest
        else lossyFrom (some (scalar.extend octet)) rest
      else
        replacement ::
          match opening octet with
          | .complete character => character :: lossyFrom none rest
          | .begun next => lossyFrom (some next) rest
          | .refused => replacement :: lossyFrom none rest

/-- Read octets as text, replacing what is ill formed. -/
def decodeLossy (octets : List UInt8) : String :=
  String.ofList (lossyFrom none octets)

/-- Where octets stop being text. -/
inductive Utf8Fault where
  /-- The `octets` octets from `index` on start no character. -/
  | illFormed (octets index : Nat)
  /-- The text ends inside the character that begins at `index`. -/
  | incomplete (index : Nat)
deriving DecidableEq

/-- How a fault is reported. -/
def Utf8Fault.message : Utf8Fault -> String
  | .illFormed octets index =>
      "invalid utf-8 sequence of " ++ toString octets ++ " bytes from index " ++ toString index
  | .incomplete index => "incomplete utf-8 byte sequence from index " ++ toString index

/-- Read octets strictly; `index` counts the octets already read, and `reversed` holds
the characters read so far back to front. -/
def strictFrom (index : Nat) (reversed : List Char) :
    Option PartialScalar -> List UInt8 -> Except Utf8Fault (List Char)
  | none, [] => .ok reversed.reverse
  | some scalar, [] => .error (.incomplete (index - scalar.octets))
  | none, octet :: rest =>
      match opening octet with
      | .complete character => strictFrom (index + 1) (character :: reversed) none rest
      | .begun scalar => strictFrom (index + 1) reversed (some scalar) rest
      | .refused => .error (.illFormed 1 index)
  | some scalar, octet :: rest =>
      if scalar.accepts octet then
        if scalar.owed <= 1 then
          strictFrom (index + 1) (Char.ofNat (scalar.extend octet).value :: reversed) none rest
        else strictFrom (index + 1) reversed (some (scalar.extend octet)) rest
      else .error (.illFormed scalar.octets (index - scalar.octets))

/-- Read octets as text, or say where they stop being text. -/
def decodeStrict (octets : List UInt8) : Except Utf8Fault String :=
  (strictFrom 0 [] none octets).map String.ofList

end Text
end OpenApiTypes
