import CallWire.Program.Run
/-!
This module contains the command line: it hands the program what is around it and shows what the
program leaves behind. It has no network, so all servers are out of reach.
-/

namespace CallWire

def readEntry? (path : String) : IO (Option FileEntry) := do
  try
    return some (.file (← IO.FS.readBinFile path).toList)
  catch
    | .inappropriateType _ _ details =>
      return if details = FileFault.isADirectory.summary then some .directory else none
    | _ => return none

def readFiles (around : Surroundings) (args : List String) : IO Surroundings := do
  let mut files := around.files
  for path in Program.paths around args do
    if let some name := path.text? then
      if let some e ← readEntry? name then
        files := files.put path e
  return { around with files }

def readEnvironment : IO Environment := do
  let mut bindings := []
  for name in Program.variableNames do
    if let some value ← IO.getEnv name then
      bindings := (name, Bytes.ofText value) :: bindings
  return { bindings := bindings }

def present (report : Report) : IO Unit := do
  let clock ← IO.monoMsNow
  for line in report.log do
    IO.print (line.render clock.repr "")
  IO.print report.stdout
  IO.eprint report.stderr
  if report.showsUsage then
    if report.exit = 0 then IO.print Program.usage else IO.eprint Program.usage

end CallWire

open CallWire in
def main (args : List String) : IO UInt32 := do
  let here := (Path.ofText ((← IO.getEnv "PWD").getD "/")).names.filter (· ≠ [])
  let around : Surroundings := { env := ← readEnvironment, files := { here := here } }
  -- The file of settings may name other files.
  let around ← readFiles around args
  let around ← readFiles around args
  let report := Program.run around args
  present report
  return report.exit.toUInt32
