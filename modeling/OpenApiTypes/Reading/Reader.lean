import OpenApiTypes.Reading.Error
import OpenApiTypes.Registry

namespace OpenApiTypes
namespace Reading

/-!
# Reading typed values

A reader turns a JSON value into a typed value or says why it cannot.  Records are read
member by member in document order, so the first member that does not fit gives the
error; members that a record does not know are skipped unless the record is strict.  A
record may also be written as the sequence of its members in declaration order.
-/

/-- A reader of typed values. -/
abbrev Reader (Result : Type) := Json -> Except Error Result

/-- Read a string. -/
def string : Reader String
  | .string value => .ok value
  | value => wrongType value "a string"

/-- Read a truth value. -/
def boolean : Reader Bool
  | .boolean value => .ok value
  | value => wrongType value "a boolean"

/-- Read any value. -/
def anything : Reader Json := .ok

/-- Read a value where null means that there is none. -/
def optional {Result : Type} (reader : Reader Result) : Reader (Option Result)
  | .null => .ok none
  | value => (reader value).map some

/-- Read a sequence. -/
def list {Result : Type} (reader : Reader Result) : Reader (List Result)
  | .array items => items.mapM reader
  | value => wrongType value "a sequence"

/-- Read a registry. -/
def registry {Entry : Type} (reader : Reader Entry) : Reader (Registry Entry)
  | .object members => do
      let entries <- members.mapM (fun member => do
        let entry <- reader member.2
        pure (member.1, entry))
      pure (Registry.ofList entries)
  | value => wrongType value "a map"

/-- Read the first alternative that fits. -/
def either {Result : Type} (union : String) (first second : Reader Result) : Reader Result :=
  fun value =>
    match first value with
    | .ok result => .ok result
    | .error _ =>
        match second value with
        | .ok result => .ok result
        | .error _ => .error (.noVariant union)

/-! ## Dialects -/

/-- What may differ between the formats that typed values are written in. -/
structure Dialect where
  /-- What may stand beside the name of an enumeration value that is written as a map. -/
  payload : Json -> Except Error Unit
  /-- A sequence that is read as a record may have more elements than the record. -/
  ignoresSurplus : Bool

/-- Null is the payload of enumeration values, and records bound the sequences that
stand for them. -/
def Dialect.json : Dialect where
  payload
    | .null => .ok ()
    | value => wrongType value "unit"
  ignoresSurplus := false

/-! ## Enumerations -/

/-- Look a value of an enumeration up. -/
def variantNamed {Value : Type} (variants : List (String × Value)) (name : String) :
    Except Error Value :=
  match variants.lookup name with
  | some value => .ok value
  | none => .error (.unknownVariant name (variants.map Prod.fst))

/-- Read a value of an enumeration: its name, or a map from its name to a payload. -/
def variant {Value : Type} (dialect : Dialect) (variants : List (String × Value)) :
    Reader Value
  | .string name => variantNamed variants name
  | .object [(name, content)] => do
      let value <- variantNamed variants name
      dialect.payload content
      pure value
  | .object members => .error (.invalidValue (.ofJson (.object members)) "map with a single key")
  | value => wrongType value "string or map"

/-! ## Records -/

/-- A member of a record whose members are gathered in a draft. -/
structure Field (Draft : Type) where
  name : String
  /-- The member may be missing at the end of a sequence. -/
  defaulted : Bool
  read : Json -> Draft -> Except Error Draft

/-- A record: how it is named in messages, its members in declaration order, whether
other members are refused, and whether further elements of a sequence are skipped. -/
structure Shape (Draft : Type) where
  name : String
  fields : List (Field Draft)
  strict : Bool := false
  ignoresSurplus : Bool := false

/-- Read the members of a record in document order. -/
def Shape.readMembers {Draft : Type} (shape : Shape Draft) :
    Json.Members -> Draft -> Except Error Draft
  | [], draft => .ok draft
  | (name, value) :: rest, draft =>
      match shape.fields.find? (fun field => field.name == name) with
      | some field => do shape.readMembers rest (<- field.read value draft)
      | none =>
          if shape.strict then
            .error (.unknownField name (shape.fields.map Field.name))
          else shape.readMembers rest draft

/-- How many elements a record has as a sequence. -/
def Shape.expectation {Draft : Type} (shape : Shape Draft) : String :=
  let count := shape.fields.length
  "struct " ++ shape.name ++ " with " ++ toString count ++
    (if count = 1 then " element" else " elements")

/-- Read the elements of a sequence as the members of a record.  `index` counts the
members already read. -/
def Shape.readElements {Draft : Type} (shape : Shape Draft) (length : Nat) :
    Nat -> List (Field Draft) -> List Json -> Draft -> Except Error Draft
  | _, [], [], draft => .ok draft
  | _, [], _ :: _, draft =>
      if shape.ignoresSurplus then .ok draft
      else .error (.invalidLength length "fewer elements in array")
  | index, field :: fields, [], draft =>
      if field.defaulted then shape.readElements length (index + 1) fields [] draft
      else .error (.invalidLength index shape.expectation)
  | index, field :: fields, value :: rest, draft => do
      shape.readElements length (index + 1) fields rest (<- field.read value draft)

/-- Read a record into a draft. -/
def Shape.reader {Draft : Type} (shape : Shape Draft) (initial : Draft) : Reader Draft
  | .object members => shape.readMembers members initial
  | .array items => shape.readElements items.length 0 shape.fields items initial
  | value => wrongType value ("struct " ++ shape.name)

/-- Take a member that must be present out of a draft. -/
def required {Result : Type} (name : String) : Option Result -> Except Error Result
  | some value => .ok value
  | none => .error (.missingField name)

end Reading
end OpenApiTypes
