import CallWire.Config.Mentions
import CallWire.Yaml.Printer
import CallWire.Yaml.Reading
/-!
This module contains the file form of settings. A file may leave settings out, and spans of time are
written in whole seconds or milliseconds.
-/

namespace CallWire

namespace Mentions

def readTls (d : Yaml.Document) (node : Yaml.Node) (m : Mentions) : Option Mentions := do
  let members ← Yaml.readMembers d node
  let path := Yaml.readOption (fun d node => (Yaml.readText d node).map Path.ofText)
  let caCert ← Yaml.readMember path d members "ca_cert_path"
  let clientCert ← Yaml.readMember path d members "client_cert_path"
  let clientKey ← Yaml.readMember path d members "client_key_path"
  let insecure ← Yaml.readMember Yaml.readBool d members "insecure"
  return { m with caCert, clientCert, clientKey, insecure }

/-- The settings that a mapping mentions. Other keys are passed over. -/
def readNode (d : Yaml.Document) (node : Yaml.Node) : Option Mentions := do
  let members ← Yaml.readMembers d node
  let url ← Yaml.readMember Yaml.readText d members "url"
  let secs ← Yaml.readMember Yaml.readWord d members "connect_timeout_secs"
  let millis ← Yaml.readMember (Yaml.readOption Yaml.readWord) d members "request_timeout_ms"
  let autoConnect ← Yaml.readMember Yaml.readBool d members "auto_connect"
  let maxFrameSize ← Yaml.readMember Yaml.readWord d members "max_frame_size"
  let m : Mentions :=
    { url, autoConnect, maxFrameSize
      connectTimeout := secs.map .ofSecs
      requestTimeout := millis.map (·.map .ofMillis) }
  match ← Yaml.readMember (fun _ node => some node) d members "tls" with
  | none => return m
  | some tls => readTls d tls m

def ofYaml? (text : String) : Option Mentions := do
  let d ← Yaml.document? text
  match d.root with
  | none => return {}
  | some node => readNode d node

end Mentions

namespace Settings

def boolText (b : Bool) : List Char := if b then "true\n".toList else "false\n".toList

def optionText {α} (write : α → List Char) : Option α → List Char
  | none => "null\n".toList
  | some a => write a

def wordText (n : Nat) : List Char := n.repr.toList ++ ['\n']

def savedMillis (d : Duration) : Nat := d.millis % 2 ^ 64

def writeMembers (indent : String) (members : List (String × List Char)) : List Char :=
  members.flatMap (fun (key, value) => (indent ++ key ++ ": ").toList ++ value)

def pathText? : Option Path → Option (List Char)
  | none => some "null\n".toList
  | some path => path.text?.map (Yaml.writeText 4)

def toYaml? (s : Settings) : Option String := do
  let caCert ← pathText? s.tls.caCert
  let clientCert ← pathText? s.tls.clientCert
  let clientKey ← pathText? s.tls.clientKey
  return String.ofList (writeMembers ""
    [("url", Yaml.writeText 2 s.url),
      ("connect_timeout_secs", wordText s.connectTimeout.secs),
      ("request_timeout_ms", optionText (fun d => wordText (savedMillis d)) s.requestTimeout),
      ("auto_connect", boolText s.autoConnect),
      ("max_frame_size", wordText s.maxFrameSize)]
    ++ "tls:\n".toList
    ++ writeMembers "  "
      [("ca_cert_path", caCert), ("client_cert_path", clientCert), ("client_key_path", clientKey),
        ("insecure", boolText s.tls.insecure)])

end Settings
end CallWire
