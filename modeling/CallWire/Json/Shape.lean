import CallWire.Json.Printer
import CallWire.Text.Quoted
/-!
This module contains the reading of JSON values at a type: what shape a value has to have, what it
reads as, and how a value fails to have the shape.
-/

namespace CallWire

inductive ShapeFault where
  | invalidType (found : Json) (expected : String)
  | invalidValue (found : Int) (expected : String)
  | invalidLength (length : Nat) (expected : String)
  | missingField (name : String)
  | noVariant (name : String)
  deriving DecidableEq, Repr, Inhabited

namespace ShapeFault

def describe : Json → String
  | .null => "null"
  | .bool true => "boolean `true`"
  | .bool false => "boolean `false`"
  | .number (.int i) => "integer `" ++ String.ofList (Json.writeInt i) ++ "`"
  | .number (.double d) => "floating point `" ++ String.ofList d.text ++ "`"
  | .string s => "string " ++ Text.quoted s
  | .array _ => "sequence"
  | .object _ => "map"

def message : ShapeFault → String
  | .invalidType found expected => "invalid type: " ++ describe found ++ ", expected " ++ expected
  | .invalidValue found expected =>
    "invalid value: integer `" ++ String.ofList (Json.writeInt found) ++ "`, expected " ++ expected
  | .invalidLength length expected =>
    "invalid length " ++ length.repr ++ ", expected " ++ expected
  | .missingField name => "missing field `" ++ name ++ "`"
  | .noVariant name => "data did not match any variant of untagged enum " ++ name

end ShapeFault

abbrev ShapeReader (α : Type) := Json → Except ShapeFault α

namespace Json

def readText? : ShapeReader String
  | .string s => .ok s
  | v => .error (.invalidType v "a string")

def readBool : ShapeReader Bool
  | .bool b => .ok b
  | v => .error (.invalidType v "a boolean")

def readInt (name : String) (low high : Int) : ShapeReader Int
  | .number (.int i) => if low ≤ i ∧ i < high then .ok i else .error (.invalidValue i name)
  | v => .error (.invalidType v name)

def readDouble : ShapeReader Double
  | .number (.int i) => .ok (.ofInt i)
  | .number (.double d) => .ok d
  | v => .error (.invalidType v "f64")

def readOption {α} (read : ShapeReader α) : ShapeReader (Option α)
  | .null => .ok none
  | v => (read v).map some

def readList {α} (read : ShapeReader α) : ShapeReader (List α)
  | .array items => items.mapM read
  | v => .error (.invalidType v "a sequence")

def readMap {α} (read : ShapeReader α) : ShapeReader (List (String × α))
  | .object members => members.mapM (fun (k, v) => (read v).map (k, ·))
  | v => .error (.invalidType v "a map")

end Json

inductive Shape where
  | any
  | string
  | bool
  | unsigned (bits : Nat)
  | signed (bits : Nat)
  | double
  | option (shape : Shape)
  | list (shape : Shape)
  | map (shape : Shape)
  | record (name : String) (fields : List (String × Shape))
  deriving Repr, Inhabited

namespace Shape

/-- A field of a record: what it is read as, and what it is where it is absent, if it may be. -/
structure Field where
  name : String
  read : ShapeReader Json
  absent? : Option Json

def readRecordItems (name : String) (count : Nat) :
    (fields : List Field) → (taken : Nat) → List Json → Except ShapeFault (List (String × Json))
  | [], _, _ => .ok []
  | _ :: _, taken, [] =>
    let elements := if count = 1 then " element" else " elements"
    .error (.invalidLength taken ("struct " ++ name ++ " with " ++ count.repr ++ elements))
  | field :: fields, taken, item :: items =>
    match field.read item with
    | .error fault => .error fault
    | .ok v => (readRecordItems name count fields (taken + 1) items).map ((field.name, v) :: ·)

def readRecordMembers (fields : List Field) :
    List (String × Json) → Except ShapeFault (List (String × Json))
  | [] => .ok []
  | (key, v) :: more =>
    match fields.find? (·.name = key) with
    | none => readRecordMembers fields more
    | some field =>
      match field.read v with
      | .error fault => .error fault
      | .ok w => (readRecordMembers fields more).map ((key, w) :: ·)

def absentFields (fields : List Field) (members : List (String × Json)) :
    Except ShapeFault (List (String × Json)) :=
  let absent := fields.filter (fun field => (members.lookup field.name).isNone)
  absent.mapM (fun field =>
    match field.absent? with
    | none => .error (.missingField field.name)
    | some v => .ok (field.name, v))

/-- A record, as an object or as the array of its fields. Other members are passed over. -/
def readRecord (name : String) (fields : List Field) : ShapeReader Json
  | .object members =>
    match readRecordMembers fields members with
    | .error fault => .error fault
    | .ok found => (absentFields fields found).map (fun absent => Json.ofMembers (found ++ absent))
  | .array items =>
    match readRecordItems name fields.length fields 0 items with
    | .error fault => .error fault
    | .ok found =>
      if items.length ≤ fields.length then .ok (Json.ofMembers found)
      else .error (.invalidLength items.length "fewer elements in array")
  | v => .error (.invalidType v ("struct " ++ name))

def absent? : Shape → Option Json
  | .option _ => some .null
  | _ => none

mutual

def read : Shape → ShapeReader Json
  | .any, v => .ok v
  | .string, v => (Json.readText? v).map .string
  | .bool, v => (Json.readBool v).map .bool
  | .unsigned bits, v =>
    (Json.readInt ("u" ++ bits.repr) 0 (Int.pow 2 bits) v).map (fun i => .number (.int i))
  | .signed bits, v =>
    (Json.readInt ("i" ++ bits.repr) (-Int.pow 2 (bits - 1)) (Int.pow 2 (bits - 1)) v).map
      (fun i => .number (.int i))
  | .double, v => (Json.readDouble v).map (fun d => .number (.double d))
  | .option shape, v => (Json.readOption shape.read v).map (fun r => r.getD .null)
  | .list shape, v => (Json.readList shape.read v).map .array
  | .map shape, v => (Json.readMap shape.read v).map .object
  | .record name fields, v => readRecord name (fieldReaders fields) v

def fieldReaders : List (String × Shape) → List Field
  | [] => []
  | (name, shape) :: more => ⟨name, shape.read, shape.absent?⟩ :: fieldReaders more

end

def name : Shape → String
  | .bool => "bool"
  | .unsigned bits => "u" ++ bits.repr
  | .signed bits => "i" ++ bits.repr
  | .double => "f64"
  | .record name _ => name
  | _ => ""

end Shape
end CallWire
