import CallWire.Log.Line
import CallWire.Text.Alphanumeric
import CallWire.Text.Blank
/-!
This module contains the rules of log filters. A rule tells up to which level lines are shown, and
which lines it concerns: those from some targets, those with a field, or those inside a span.
-/

namespace CallWire

structure LogField where
  name : String
  value : Option String := none
  deriving DecidableEq, Repr, Inhabited

structure LogRule where
  target : Option String := none
  span : Option String := none
  field : Option LogField := none
  level : LogLevel := .trace
  deriving DecidableEq, Repr, Inhabited

namespace LogRule

def isStatic (r : LogRule) : Bool := r.span.isNone && (r.field.bind LogField.value).isNone

def concerns (r : LogRule) (l : LogLine) : Bool :=
  r.isStatic && r.target.all (fun t => l.target.startsWith t)
    && r.field.all (fun f => l.fieldNames.contains f.name)

def reach (r : LogRule) : Nat := (r.target.map (·.utf8ByteSize + 1)).getD 0

def fieldName (r : LogRule) : Option String := r.field.map LogField.name

/--
Whether a rule goes before another one that concerns the same line, or is just as good: it tells
more of the target, or as much of it and asks for a field with a name that is not smaller.
-/
def precedes (r s : LogRule) : Bool :=
  s.reach < r.reach
    || (r.reach = s.reach
      && match r.fieldName, s.fieldName with
        | _, none => true
        | none, some _ => false
        | some a, some b => b ≤ a)

end LogRule

/--
How far the reading of a rule has come. A number is the place at which the part starts that is being
read.
-/
inductive RulePart where
  | nothing
  | front (start : Nat)
  | span (start : Nat)
  | field (start : Nat)
  | afterField
  | afterSpan
  | level (start : Nat)
  deriving DecidableEq, Repr, Inhabited

namespace LogRule

def startMarks : List Char := ['-', ':', '_']

def cut (whole : Bytes) (start stop : Nat) : Option String :=
  Bytes.text? ((whole.take stop).drop start)

def readField? (s : String) : Option LogField :=
  match s.splitOn "=" with
  | [""] => none
  | name :: value :: _ => some { name, value := some value }
  | name :: [] => some { name := name }
  | [] => none

def ofFront (s : String) : LogRule :=
  match LogLevel.ofText? s with
  | some level => { level := level }
  | none => { target := some s }

def withLevel? (r : LogRule) (s : String) : Option LogRule :=
  if s.isEmpty then some r else (LogLevel.ofText? s).map (fun level => { r with level })

def next (whole : Bytes) (state : LogRule × RulePart) (place : Nat × Char) :
    Option (LogRule × RulePart) :=
  let (r, part) := state
  let (i, c) := place
  match part with
  | .nothing =>
    if c = '[' then some (r, .span (i + 1))
    else if startMarks.contains c || Text.isAlphanumeric c then some (r, .front i)
    else none
  | .front start =>
    if c = '=' then (cut whole start i).map (fun s => ({ r with target := some s }, .level (i + 1)))
    else if c = '[' then
      (cut whole start i).map (fun s => ({ r with target := some s }, .span (i + 1)))
    else some (r, part)
  | .span start =>
    if c = ']' then (cut whole start i).map (fun s => ({ r with span := some s }, .afterSpan))
    else if c = '\x7b' then
      (cut whole start i).map (fun s =>
        ({ r with span := if s.isEmpty then none else some s }, .field (i + 1)))
    else some (r, part)
  | .field start =>
    if c = '\x7d' then
      ((cut whole start i).bind readField?).map (fun f => ({ r with field := some f }, .afterField))
    else some (r, part)
  | .afterField => if c = ']' then some (r, .afterSpan) else none
  | .afterSpan => if c = '=' then some (r, .level (i + 1)) else none
  | .level _ => some (r, part)

def places : (before : Nat) → List Char → List (Nat × Char)
  | _, [] => []
  | before, c :: cs => (before, c) :: places (before + c.utf8Size) cs

/--
The rule that a text describes: `target[span{field=value}]=level` with parts left out. The places of
the parts are found in the text without the blanks around it, and the parts are then taken from the
text with them.
-/
def ofText? (s : String) : Option LogRule := do
  let whole := Bytes.ofText s
  let state ← (places 0 (Text.trim s.toList)).foldlM (next whole) (({} : LogRule), RulePart.nothing)
  match state with
  | (_, .front start) => (cut whole start whole.length).map ofFront
  | (r, .level start) => (cut whole start whole.length).bind r.withLevel?
  | (r, .afterSpan) => some r
  | _ => none

end LogRule
end CallWire
