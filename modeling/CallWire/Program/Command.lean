import CallWire.Client.Exchange
import CallWire.Json.Printer
import CallWire.Text.Colour
/-!
This module contains the commands of the program: each is one call, and its output is the result of
the call in a form to read.
-/

namespace CallWire

inductive Command where
  | ping
  | version
  | call (method : String) (params : Option String)
  deriving DecidableEq, Repr, Inhabited

inductive CommandError where
  | client (error : ClientError)
  | json (error : SyntaxError)
  | file (fault : FileFault)
  deriving Repr, Inhabited

def CommandError.message : CommandError → String
  | .client error => error.message
  | .json error => error.message
  | .file fault => fault.message

namespace Command

def paramsPath? (arg : String) : Option Path :=
  match arg.toList with
  | '@' :: path => some (.ofText (String.ofList path))
  | _ => none

def paramsText (files : FileTree) (arg : String) : Except CommandError String :=
  match paramsPath? arg with
  | some path => (files.readText path).mapError .file
  | none => .ok arg

/-- The parameters that an argument stands for. What is no array is the only parameter. -/
def parseParams (files : FileTree) (arg : String) : Except CommandError (List Json) := do
  let text ← paramsText files arg
  match ← (Json.parse text).mapError .json with
  | .array params => return params
  | v => return [v]

def path? : Command → Option Path
  | .call _ (some arg) => paramsPath? arg
  | _ => none

def request (files : FileTree) : Command → Except CommandError (String × List Json × ResultDecoder)
  | .ping => .ok ("ping", [], Decoding.nothing.decoder)
  | .version => .ok ("version", [], Decoding.raw.decoder)
  | .call method none => .ok (method, [], Decoding.raw.decoder)
  | .call method (some arg) => do
    let params ← parseParams files arg
    return (method, params, Decoding.raw.decoder)

def output (coloured : Bool) : Command → Json → String
  | .ping, _ => Colour.green.paint coloured "PONG"
  | .version, .string text => Colour.cyan.paint coloured text
  | _, v => v.pretty

def execute (cmd : Command) (coloured : Bool) (files : FileTree) (answer : Answer) (c : Client) :
    Except CommandError String × Client :=
  match cmd.request files with
  | .error e => (.error e, c)
  | .ok (method, params, decoder) =>
    let (number, c) := c.issueCall method params decoder
    let (outcome, c) := c.await answer number
    match outcome with
    | some (.ok v) => (.ok (cmd.output coloured v), c)
    | some (.error e) => (.error (.client e), c)
    | none => (.error (.client .notConnected), c)

end Command
end CallWire
