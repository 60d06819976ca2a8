import CallWire.Yaml.Node
import CallWire.Yaml.Plain
/-!
This module contains the reading of YAML nodes at a type. Quotes make a text of a scalar, whatever
it looks like, and a tag is heeded only where it could lift this.
-/

namespace CallWire

namespace Yaml

abbrev NodeReading (α : Type) := Document → Node → Option α

def isUntexted (tag : String) (found : Option String) (style : Style) : Bool :=
  style = .plain || (style = .literal && found = some tag)

def readText : NodeReading String := fun d node =>
  match d.follow node with
  | some (.scalar _ _ text) => some text
  | _ => none

def readBool : NodeReading Bool := fun d node =>
  match d.follow node with
  | some (.scalar tag style text) =>
    if isUntexted "tag:yaml.org,2002:bool" tag style then Plain.bool? text else none
  | _ => none

def readWord : NodeReading Nat := fun d node =>
  match d.follow node with
  | some (.scalar tag style text) =>
    if isUntexted "tag:yaml.org,2002:int" tag style then Plain.word? text else none
  | _ => none

def readOption {α} (read : NodeReading α) : NodeReading (Option α) := fun d node =>
  match d.follow node with
  | some (.scalar none .plain text) =>
    if text.isEmpty || Plain.isNull text then some none else (read d node).map some
  | some (.scalar (some "tag:yaml.org,2002:null") .plain text) =>
    if Plain.isNull text then some none else none
  | some _ => (read d node).map some
  | none => none

def readMembers : NodeReading (List (String × Node)) := fun d node =>
  match d.follow node with
  | some (.mapping members) => members.mapM (fun (k, v) => (readText d k).map (·, v))
  | some (.scalar _ .plain "") => some []
  | _ => none

def readMember {α} (read : NodeReading α) (d : Document) (members : List (String × Node))
    (key : String) : Option (Option α) :=
  match members.filter (·.1 = key) with
  | [] => some none
  | [(_, node)] => (read d node).map some
  | _ => none

end Yaml
end CallWire
