import CallWire.Log.Level
import CallWire.Text.Quoted
/-!
This module contains the lines of a log: a message of some weight from some part of the program, and
fields with more to say.
-/

namespace CallWire

structure LogLine where
  level : LogLevel
  target : String
  message : String
  ofSession : Bool := false
  fields : List (String × String) := []
  deriving Repr, Inhabited

namespace LogLine

def fieldNames (l : LogLine) : List String :=
  "message" :: (if l.ofSession then ["session"] else []) ++ l.fields.map (·.1)

def steering : List Char := ['\x1b', '\x07', '\x08', '\x0c', '\x7f']

def showChar (c : Char) : List Char :=
  if steering.contains c then
    ['\\', 'x', (c.toNat / 16).digitChar, (c.toNat % 16).digitChar]
  else if 0x80 ≤ c.toNat ∧ c.toNat ≤ 0x9F then Text.codePointEscape c
  else [c]

def render (time session : String) (l : LogLine) : String :=
  let fields := (if l.ofSession then [("session", session)] else []) ++ l.fields
  time ++ " " ++ l.level.label ++ " " ++ l.target ++ ": "
    ++ String.ofList (l.message.toList.flatMap showChar)
    ++ String.join (fields.map (fun (name, value) => " " ++ name ++ "=" ++ value)) ++ "\n"

end LogLine
end CallWire
