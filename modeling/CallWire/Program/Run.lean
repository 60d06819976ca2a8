import CallWire.Client.Lifecycle
import CallWire.Config.Load
import CallWire.Program.Arguments
import CallWire.Program.Log
/-!
This module contains the program: it reads its arguments and settings, connects, executes one
command and disconnects.
-/

namespace CallWire

structure Surroundings where
  env : Environment := {}
  files : FileTree := {}
  net : Network := {}
  answer : Answer := fun _ => []
  deriving Inhabited

structure Report where
  exit : Nat
  log : List LogLine := []
  stdout : String := ""
  stderr : String := ""
  showsUsage : Bool := false
  requests : List String := []
  deriving Inhabited

def programVersion : String := "surrealrpc 0.1.0"

def ConfigError.describe : ConfigError → String
  | .file path fault => "IoError(" ++ path.quoted ++ ", " ++ fault.describe ++ ")"
  | .malformed path => "ParseError(" ++ path.quoted ++ ")"
  | .invalid fault => "ValidationError(" ++ Text.quoted fault.message ++ ")"

namespace Program

def isColoured (env : Environment) : Bool := (env.text? "CLICOLOR_FORCE").any (· ≠ "0")

def complaint (env : Environment) (label message : String) : String :=
  Colour.red.paint (isColoured env) label ++ ": " ++ message

def applyOptions (s : Settings) (o : Options) : Settings where
  url := o.url.getD s.url
  connectTimeout := (o.timeout.map .ofSecs).getD s.connectTimeout
  requestTimeout :=
    match o.requestTimeout with
    | some n => some (.ofMillis n)
    | none => s.requestTimeout
  autoConnect := s.autoConnect
  maxFrameSize := s.maxFrameSize
  tls :=
    { caCert := o.caCert <|> s.tls.caCert
      clientCert := o.clientCert <|> s.tls.clientCert
      clientKey := o.clientKey <|> s.tls.clientKey
      insecure := o.insecure || s.tls.insecure }

def settings (around : Surroundings) (o : Options) : Except Report Settings :=
  let invalid (message : String) : Report :=
    { exit := 1, stderr := complaint around.env "Invalid configuration" message }
  match Settings.load around.env around.files with
  | .error (.malformed path) => .error (invalid (ConfigError.malformed path).message)
  | .error e => .error (invalid (e.message ++ "\nError: " ++ e.describe ++ "\n"))
  | .ok s =>
    let s := applyOptions s o
    if o.clientCert.isSome ≠ o.clientKey.isSome then
      .error
        { exit := 1
          stderr :=
            complaint around.env "Error" "--client-cert and --client-key must be used together\n" }
    else
      match s.validate with
      | .error fault => .error (invalid ((ConfigError.invalid fault).message ++ "\n"))
      | .ok _ => .ok s

def log (env : Environment) (traced : Bool) (c : Client) : List LogLine :=
  let lines := c.journal.reverse.filterMap (LogLine.ofEntry? traced)
  (LogLine.connecting c.settings :: lines).filter (LogFilter.ofEnvironment env traced).shows

def converse (around : Surroundings) (o : Options) (cmd : Command) (s : Settings) : Report :=
  let (connected, c) := ({ settings := s } : Client).connectDefault around.net around.files
  match connected with
  | .error .clockOverflow => { exit := 101, log := log around.env o.traceWire c }
  | .error (.client e) =>
    { exit := 1, log := log around.env o.traceWire c
      stderr :=
        complaint around.env "Connection failed" (e.message ++ "\nError: " ++ e.describe ++ "\n") }
  | .ok _ =>
    let (result, c) := cmd.execute (isColoured around.env) around.files around.answer c
    let c := c.disconnect
    let log := log around.env o.traceWire c
    let requests := c.sent.reverse.map (·.2)
    match result with
    | .ok output => { exit := 0, log, stdout := output ++ "\n", requests }
    | .error e =>
      { exit := 1, log, stderr := complaint around.env "Error" (e.message ++ "\n"), requests }

def run (around : Surroundings) (args : List String) : Report :=
  match Invocation.ofArguments around.env args with
  | .misused => { exit := 2, showsUsage := true }
  | .help => { exit := 0, showsUsage := true }
  | .version => { exit := 0, stdout := programVersion ++ "\n" }
  | .run o cmd =>
    match settings around o with
    | .error report => report
    | .ok s => converse around o cmd s

def paths (around : Surroundings) (args : List String) : List Path :=
  match Invocation.ofArguments around.env args with
  | .run o cmd =>
    let named := match settings around o with
      | .ok s => s.tls.paths
      | .error _ => []
    around.env.configPath?.toList ++ named ++ cmd.path?.toList
  | _ => []

def variableNames : List String :=
  ["SURREALRPC_CONFIG", "SURREALRPC_URL", "SURREALRPC_CONNECT_TIMEOUT",
    "SURREALRPC_REQUEST_TIMEOUT_MS", "SURREALRPC_AUTO_CONNECT", "SURREALRPC_MAX_FRAME_SIZE",
    "SURREALRPC_TLS_CA_CERT", "SURREALRPC_TLS_CLIENT_CERT", "SURREALRPC_TLS_CLIENT_KEY",
    "SURREALRPC_TLS_INSECURE", "RUST_LOG", "CLICOLOR_FORCE"]

def usage : String :=
  "Usage: surrealrpc [OPTIONS] <COMMAND>\n\nCommands:\n" ++
  "  ping                    Ping the server\n" ++
  "  version                 Print the server version\n" ++
  "  call <METHOD> [PARAMS]  Call an arbitrary method\n" ++
  "  help [COMMAND]          Print this message\n\nOptions:\n" ++
  "  -u, --url <URL>                  Endpoint URL (ws:// or wss://)\n" ++
  "  -t, --timeout <SECONDS>          Connect timeout\n" ++
  "      --request-timeout-ms <MS>    Timeout of a call\n" ++
  "      --trace-wire                 Log every frame sent and received\n" ++
  "      --ca-cert <PATH>             CA certificate for server verification\n" ++
  "      --client-cert <PATH>         Client certificate\n" ++
  "      --client-key <PATH>          Client private key\n" ++
  "  -k, --insecure                   Skip server certificate verification\n" ++
  "  -h, --help                       Print this message\n" ++
  "  -V, --version                    Print the version\n"

end Program
end CallWire
