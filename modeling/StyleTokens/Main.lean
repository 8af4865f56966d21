import StyleTokens.CommandLine
import StyleTokens.Wire.TreeTable

namespace StyleTokens.Main

def readFile (path : String) : IO FileContent := do
  try return .ofBytes (← IO.FS.readBinFile path)
  catch
    | .permissionDenied .. => return .unreadable
    | _ => return .notAFile

-- Source files are not parsed here. A text without a prepared tree counts as unparsed.
def readTrees : IO TreeTable := do
  match ← IO.getEnv "STYLE_TOKENS_TREES" with
  | none => return []
  | some path =>
    match ← readFile path with
    | .text content =>
      match (Json.ofText? content).map TreeTable.decode with
      | some (.ok table) => return table
      | _ => return []
    | _ => return []

-- Only an absolute directory counts.
def logDirectory? : IO (Option String) := do
  match (← IO.getEnv "XDG_DATA_HOME").filter Path.isAbsolute, ← IO.getEnv "HOME" with
  | some data, _ => return some (Path.join data "TokenLens")
  | none, some home => return some (Path.join home ".local/share/TokenLens")
  | none, none => return none

def openLog : IO (Option IO.FS.Handle) := do
  match ← logDirectory? with
  | none => return none
  | some directory =>
    IO.FS.createDirAll directory
    return some (← IO.FS.Handle.mk (Path.join directory "token_lens.log") .write)

def writeLog (log : IO.FS.Handle) (lines : List LogLine) : IO Unit := do
  for line in lines do
    log.putStrLn line.render
  log.flush

def writeMessage (output : IO.FS.Stream) (message : Json) : IO Unit := do
  let body := message.render
  output.putStr ("Content-Length: " ++ toString body.utf8ByteSize ++ "\r\n\r\n" ++ body)
  output.flush

def contentLength? (line : String) : Option Nat :=
  match Name.pieces ':' line.toList with
  | [name, value] =>
    let digits := value.filter Text.isDigit
    if (String.ofList name).toLower == "content-length" && !digits.isEmpty then some (Text.digitsValue digits)
    else none
  | _ => none

partial def readLength (input : IO.FS.Stream) (found : Option Nat) : IO (Option Nat) := do
  let line ← input.getLine
  if line.isEmpty then return none
  else if line == "\r\n" || line == "\n" then return some (found.getD 0)
  else readLength input ((contentLength? line).or found)

partial def readBytes (input : IO.FS.Stream) (count : Nat) (done : ByteArray) : IO ByteArray := do
  if done.size < count then
    let more ← input.read (count - done.size).toUSize
    if more.isEmpty then return done else readBytes input count (done ++ more)
  else return done

partial def converse (parser : Parser) (log : IO.FS.Handle) (connection : Connection) : IO Unit := do
  let input ← IO.getStdin
  let output ← IO.getStdout
  match ← readLength input none with
  | none => return
  | some count =>
    let body ← readBytes input count .empty
    let received := connection.receive parser ((String.fromUTF8? body).getD "")
    writeLog log received.log
    for note in received.notifications do
      writeMessage output note
    for response in received.response.toList do
      writeMessage output response
    unless received.connection.phase = .closed do
      converse parser log received.connection

def serve (program : String) (arguments : List String) : IO UInt32 := do
  match CommandLine.options? arguments with
  | none =>
    for line in CommandLine.usage program do
      IO.eprintln line
    return 1
  | some options =>
    match ← openLog with
    | none =>
      IO.eprintln "Failed to initialize logger: Could not determine local data directory"
      return 1
    | some log =>
      let path := Config.pathFor options.directory options.config
      let content ← readFile path
      let (connection, opening) := CommandLine.start (fun _ => content) program arguments options
      writeLog log opening
      converse (← readTrees).parser log connection
      writeLog log [CommandLine.farewell]
      return 0

end StyleTokens.Main

def main (arguments : List String) : IO UInt32 := do
  StyleTokens.Main.serve (toString (← IO.appPath)) arguments
