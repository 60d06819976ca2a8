import CallWire.Config.Environment
import CallWire.Program.Command
/-!
This module contains the arguments of the program: options, then a command with its own arguments.
-/

namespace CallWire

structure Options where
  url : Option String := none
  timeout : Option Nat := none
  requestTimeout : Option Nat := none
  traceWire : Bool := false
  caCert : Option Path := none
  clientCert : Option Path := none
  clientKey : Option Path := none
  insecure : Bool := false
  deriving DecidableEq, Repr, Inhabited

inductive Invocation where
  | misused
  | version
  | help
  | run (options : Options) (command : Command)
  deriving DecidableEq, Repr, Inhabited

inductive ValueOption where
  | url
  | timeout
  | requestTimeout
  | caCert
  | clientCert
  | clientKey
  deriving DecidableEq, Repr, Inhabited

inductive Flag where
  | traceWire
  | insecure
  | version
  | help
  deriving DecidableEq, Repr, Inhabited

namespace Options

def long? : String → Option (ValueOption ⊕ Flag)
  | "url" => some (.inl .url)
  | "timeout" => some (.inl .timeout)
  | "request-timeout-ms" => some (.inl .requestTimeout)
  | "ca-cert" => some (.inl .caCert)
  | "client-cert" => some (.inl .clientCert)
  | "client-key" => some (.inl .clientKey)
  | "trace-wire" => some (.inr .traceWire)
  | "insecure" => some (.inr .insecure)
  | "version" => some (.inr .version)
  | "help" => some (.inr .help)
  | _ => none

def short? : Char → Option (ValueOption ⊕ Flag)
  | 'u' => some (.inl .url)
  | 't' => some (.inl .timeout)
  | 'k' => some (.inr .insecure)
  | 'V' => some (.inr .version)
  | 'h' => some (.inr .help)
  | _ => none

def once {α} (old : Option α) (new : Option α) : Option (Option α) :=
  if old.isSome || new.isNone then none else some new

def path? (s : String) : Option Path := if s.isEmpty then none else some (.ofText s)

def set (o : Options) (name : ValueOption) (value : String) : Option Options :=
  match name with
  | .url => (once o.url (some value)).map (fun url => { o with url })
  | .timeout => (once o.timeout (Environment.word? value)).map (fun timeout => { o with timeout })
  | .requestTimeout =>
    (once o.requestTimeout (Environment.word? value)).map
      (fun requestTimeout => { o with requestTimeout })
  | .caCert => (once o.caCert (path? value)).map (fun caCert => { o with caCert })
  | .clientCert => (once o.clientCert (path? value)).map (fun clientCert => { o with clientCert })
  | .clientKey => (once o.clientKey (path? value)).map (fun clientKey => { o with clientKey })

def raise (o : Options) : Flag → Except Invocation Options
  | .traceWire => if o.traceWire then .error .misused else .ok { o with traceWire := true }
  | .insecure => if o.insecure then .error .misused else .ok { o with insecure := true }
  | .version => .error .version
  | .help => .error .help

def isOption (arg : String) : Bool := arg.startsWith "-" && arg ≠ "-"

def splitValue (cs : List Char) : List Char × Option (List Char) :=
  match cs.dropWhile (· ≠ '=') with
  | [] => (cs, none)
  | _ :: value => (cs.takeWhile (· ≠ '='), some value)

end Options

inductive OpenOption where
  | none
  | awaits (name : ValueOption)
  | holds (name : ValueOption) (value : String)
  deriving DecidableEq, Repr, Inhabited

structure OptionReading where
  options : Options := {}
  left : OpenOption := .none
  deriving DecidableEq, Repr, Inhabited

namespace OptionReading

def settle? (r : OptionReading) : Option Options :=
  match r.left with
  | .none => some r.options
  | .awaits _ => none
  | .holds name value => r.options.set name value

def attached (o : Options) (name : ValueOption) (value : List Char) :
    Except Invocation OptionReading :=
  match o.set name (String.ofList value) with
  | some options => .ok { options := options }
  | none => .error .misused

def long (o : Options) (arg : List Char) : Except Invocation OptionReading :=
  let (name, value) := Options.splitValue arg
  match Options.long? (String.ofList name), value with
  | some (.inl name), none => .ok { options := o, left := .awaits name }
  | some (.inl name), some value => attached o name value
  | some (.inr flag), none => (o.raise flag).map (fun options => { options := options })
  | _, _ => .error .misused

def short (o : Options) : List Char → Except Invocation OptionReading
  | [] => .ok { options := o }
  | c :: more =>
    match Options.short? c with
    | none => .error .misused
    | some (.inr flag) =>
      match o.raise flag with
      | .error e => .error e
      | .ok o => short o more
    | some (.inl name) =>
      match more with
      | [] => .ok { options := o, left := .awaits name }
      | '=' :: value | value => attached o name value

def argument (o : Options) (arg : String) : Except Invocation OptionReading :=
  match arg.toList with
  | ['-'] | ['-', '-'] => .error .misused
  | '-' :: '-' :: name => long o name
  | '-' :: names => short o names
  | _ => .error .misused

end OptionReading

namespace Command

def names : List String := ["ping", "version", "call", "help"]

def positionals : (room : Nat) → (escaped : Bool) → List String → Except Invocation (List String)
  | _, _, [] => .ok []
  | room, escaped, arg :: rest =>
    if !escaped && arg = "--" then positionals room true rest
    else if !escaped && (arg = "--help" || arg.startsWith "-h") then .error .help
    else if !escaped && Options.isOption arg then .error .misused
    else
      match room with
      | 0 => .error .misused
      | room + 1 => (positionals room escaped rest).map (arg :: ·)

def read (name : String) (args : List String) : Except Invocation Command := do
  match name, ← positionals (if name = "call" then 2 else 0) false args with
  | "ping", [] => return .ping
  | "version", [] => return .version
  | "call", [method] => return .call method none
  | "call", [method, params] => return .call method (some params)
  | _, _ => .error .misused

def help : List String → Invocation
  | [] => .help
  | [name] => if names.contains name then .help else .misused
  | _ => .misused

end Command

namespace Invocation

/--
Options, then a command. A value is looked at when the next option is read, or after all arguments
of the command were.
-/
def read (r : OptionReading) : List String → Invocation
  | [] => .misused
  | arg :: rest =>
    match r.left with
    | .awaits name =>
      if Options.isOption arg then .misused
      else read { r with left := .holds name arg } rest
    | _ =>
      if arg = "help" then Command.help rest
      else if Command.names.contains arg then
        match Command.read arg rest, r.settle? with
        | .error e, _ => e
        | .ok cmd, some o => .run o cmd
        | .ok _, none => .misused
      else
        match r.settle? with
        | none => .misused
        | some o =>
          match OptionReading.argument o arg with
          | .error e => e
          | .ok r => read r rest

def orPath (env : Environment) (given : Option Path) (name : String) : Option (Option Path) :=
  match given, env.bindings.lookup name with
  | some path, _ => some (some path)
  | none, none => some none
  | none, some [] => none
  | none, some value => some (some { bytes := value })

def orUrl (env : Environment) (given : Option String) : Option (Option String) :=
  match given, env.bindings.lookup "SURREALRPC_URL" with
  | some url, _ => some (some url)
  | none, none => some none
  | none, some value => value.text?.map some

def complete (env : Environment) (o : Options) : Option Options := do
  let url ← orUrl env o.url
  let caCert ← orPath env o.caCert "SURREALRPC_TLS_CA_CERT"
  let clientCert ← orPath env o.clientCert "SURREALRPC_TLS_CLIENT_CERT"
  let clientKey ← orPath env o.clientKey "SURREALRPC_TLS_CLIENT_KEY"
  return { o with url, caCert, clientCert, clientKey }

def ofArguments (env : Environment) (args : List String) : Invocation :=
  match read {} args with
  | .run o cmd =>
    match complete env o with
    | some o => .run o cmd
    | none => .misused
  | other => other

end Invocation
end CallWire
