import TabletRoster.CommandLine.Manager
import TabletRoster.CommandLine.Server
import TabletRoster.Settings.Record

namespace TabletRoster.CommandLine

def readText (path : String) : IO (Option (String × String)) := do
  try
    return some (path, ← IO.FS.readFile path)
  catch _ => return none

def readFiles (path : String) : IO (List (String × String)) := do
  let paths := path :: Settings.endings.map fun (ending, _) => s!"{path}.{ending}"
  return (← paths.mapM readText).filterMap id

def readVariables : IO (List (String × String)) := do
  let found ← Settings.variableNames.mapM fun name => do
    return (← IO.getEnv name).map fun value => (name, value)
  return found.filterMap id

def refuse (message : String) : IO UInt32 := do
  (← IO.getStderr).putStrLn message
  return 1

def display (members : List (String × Json.Tree)) : IO UInt32 := do
  (← IO.getStdout).putStrLn (Text.Utf8.lossy (Json.Tree.record members).write)
  return 0

def runManager (arguments : List String) : IO UInt32 := do
  match Manager.parse arguments with
  | .error fault => refuse fault.message
  | .ok manager =>
    let files ← match manager.config with
      | some path => readFiles path
      | none => pure []
    match manager.settings (fun path => files.lookup path) (← readVariables) with
    | .error failure => refuse failure.message
    | .ok settings => display settings.write

def runServer (arguments : List String) : IO UInt32 := do
  match Server.parse arguments with
  | .error fault => refuse fault.message
  | .ok server =>
    display [("addr", .text server.address.text), ("etcd", .text server.etcd),
      ("root", .text server.root), ("group", .text server.group)]

end TabletRoster.CommandLine

def main (arguments : List String) : IO UInt32 :=
  match arguments with
  | "manager" :: rest => TabletRoster.CommandLine.runManager rest
  | "server" :: rest => TabletRoster.CommandLine.runServer rest
  | _ => TabletRoster.CommandLine.refuse "expected one of manager, server"
