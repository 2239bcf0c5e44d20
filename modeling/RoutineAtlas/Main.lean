import RoutineAtlas.CommandLine
import RoutineAtlas.Server

/-!
# The program

Reading the command line, the files and the messages of an editor, and writing what the library
makes of them. All decisions are made in the library.
-/

namespace RoutineAtlas.Program

/-- The disk with what the file at a path holds, if it can be read. -/
def loadFile (disk : Disk) (path : String) : IO Disk := do
  try
    let bytes ← IO.FS.readBinFile path
    return (disk.write? (.ofString path) (.ofBytes bytes.toList)).getD disk
  catch _ => return disk

/-- The disk with everything below a directory. -/
partial def loadTree (disk : Disk) (path : String) : IO Disk := do
  try
    let entries ← (System.mkFilePath [path]).readDir
    let mut disk := (disk.makeDirectory? (.ofString path)).getD disk
    for entry in entries do
      match (← entry.path.symlinkMetadata).type with
      | .dir => disk ← loadTree disk entry.path.toString
      | .file => disk ← loadFile disk entry.path.toString
      | _ => pure ()
    return disk
  catch _ => loadFile disk path

/-- The path without links, if it leads anywhere. -/
def realPath (path : String) : IO String := do
  try
    return (← IO.FS.realPath path).toString
  catch _ => return path

/-- The home directory of the user. -/
def homePath : IO String := do
  return (← IO.getEnv "HOME").getD "/"

/-- The disk with the settings of the user, and relative paths where the program was started. -/
def loadHome : IO Disk := do
  let start := Disk.empty.plainNames (.ofString (← IO.currentDir).toString)
  loadTree { Disk.empty with start := start } ((← homePath) ++ "/.config/idl-index")

/-- Check some directories. -/
def runCheck (roots : List Path) (json : Bool) : IO UInt32 := do
  let roots ← roots.mapM fun root => realPath root.toString
  let disk ← roots.foldlM loadTree (← loadHome)
  let run := RunResult.ofCheck
    (check disk (.ofString (← homePath)) (roots.map Path.ofString)) json
  IO.print run.output
  match run.complaint with
  | some complaint => IO.eprint complaint
  | none => pure ()
  return UInt32.ofNat run.status

/-- The length of the next message, after the lines before it have been read. -/
partial def readLength (input : IO.FS.Stream) (length : Option Nat) : IO (Option Nat) := do
  let line ← input.getLine
  if line.isEmpty then return none
  let words := (line.trimAscii.toString.splitOn ":").map fun word => word.trimAscii.toString
  match words with
  | [""] => return length
  | [name, value] =>
    if name.toLower == "content-length" then readLength input value.toNat?
    else readLength input length
  | _ => readLength input length

/-- Some bytes of the input. -/
partial def readBytes (input : IO.FS.Stream) (count : Nat) (done : ByteArray) : IO ByteArray := do
  if done.size < count then
    let more ← input.read (USize.ofNat (count - done.size))
    if more.isEmpty then return done else readBytes input count (done ++ more)
  else return done

/-- Write a message. -/
def writeMessage (output : IO.FS.Stream) (fields : List (String × Json)) : IO Unit := do
  let body := (Json.object (("jsonrpc", .string "2.0") :: fields)).compact
  output.putStr ("Content-Length: " ++ toString body.utf8ByteSize ++ "\r\n\r\n" ++ body)
  output.flush

/-- The part of the disk that a message is about. -/
def diskFor (server : Server) (m : ClientMessage) : IO Disk := do
  let home ← loadHome
  let params := m.params.getD .null
  match Method.ofName? m.method with
  | some .start => loadTree home (((Server.rootOf? params).map (·.toString)).getD ".")
  | some (.event .initialized) =>
    loadTree home ((server.project.map (·.root.toString)).getD ".")
  | some (.event e) =>
    let urls := match e.read? params with
      | some (.saved u _) => [u]
      | some (.closed u) => [u]
      | some (.filesChanged us) => us
      | _ => []
    (urls.filterMap documentPath?).foldlM (fun disk p => loadFile disk p.toString) home
  | _ => return home

/-- Carry on a session until it ends. -/
partial def serve (input output : IO.FS.Stream) (server : Server) : IO Unit := do
  match ← readLength input none with
  | none => return
  | some length =>
    let body ← readBytes input length .empty
    match (String.fromUTF8? body).bind Json.read? with
    | none => serve input output server
    | some v =>
      let params := match v.get? "params" with
        | some .null => none
        | params => params
      let message : ClientMessage :=
        ⟨(v.get? "id").isSome, ((v.get? "method").bind Json.string?).getD "", params⟩
      let around : Surroundings :=
        ⟨← diskFor server message, .ofString (← homePath)⟩
      match Server.step around server message with
      | none => return
      | some (reply, server) =>
        for notice in reply.notices do
          writeMessage output
            [("method", .string notice.method), ("params", notice.params)]
        match reply.response with
        | none => pure ()
        | some (.ok result) =>
          writeMessage output [("id", .orNull (v.get? "id")), ("result", result)]
        | some (.error e) =>
          writeMessage output [("id", .orNull (v.get? "id")), ("error", e.json)]
        if server.phase == .exited then return
        serve input output server

/-- How the program is called. -/
def usage : String :=
  "Static analysis and language server for IDL source files\n\n" ++
  "Usage: idl-index <COMMAND>\n\n" ++
  "Commands:\n" ++
  "  serve  Start the language server on stdin/stdout\n" ++
  "  check  Index the given directories and report every problem found\n"

end RoutineAtlas.Program

/-- Carry out the command line. -/
def main (args : List String) : IO UInt32 := do
  match RoutineAtlas.Command.read (args.map String.toList) with
  | .ok .serve =>
    RoutineAtlas.Program.serve (← IO.getStdin) (← IO.getStdout) .fresh
    return 0
  | .ok (.check roots json) => RoutineAtlas.Program.runCheck roots json
  | .error e =>
    if e.status == 0 then IO.print RoutineAtlas.Program.usage
    else IO.eprint RoutineAtlas.Program.usage
    return UInt32.ofNat e.status
