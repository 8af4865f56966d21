import StyleTokens.Server.Connection

namespace StyleTokens.CommandLine

def usage (program : String) : List String :=
  ["Usage: " ++ program ++ " <project_path> [config_path]",
   "  <project_path>: Project directory, the token config is looked up here",
   "  [config_path]:  Token config file, relative to the project directory",
   "Example: " ++ program ++ " ~/projects/app tokens.config.json"]

structure Options where
  directory : String
  config : Option String

def options? : List String → Option Options
  | [] => none
  | directory :: rest => some ⟨directory, rest.head?⟩

def start (files : Files) (program : String) (arguments : List String) (options : Options) :
    Connection × List LogLine :=
  let (config, line) := Config.loadProject files options.directory options.config
  ({ server := Server.start config },
    [.info "Token Lens starting",
     .info ("Command line arguments: " ++ Text.quoteAll (program :: arguments)),
     line])

def farewell : LogLine := .info "Token Lens shutting down"

-- There is no log when the arguments are refused.
structure Transcript where
  exitCode : Nat
  responses : List Json := []
  notifications : List Json := []
  errors : List String := []
  log : Option (List LogLine) := none

structure Conversation where
  connection : Connection
  responses : List Json := []
  notifications : List Json := []
  log : List LogLine := []

def converse (parser : Parser) (connection : Connection) : List String → Conversation
  | [] => { connection }
  | message :: rest =>
    let first := connection.receive parser message
    let others := converse parser first.connection rest
    { connection := others.connection
      responses := first.response.toList ++ others.responses
      notifications := first.notifications ++ others.notifications
      log := first.log ++ others.log }

def run (files : Files) (parser : Parser) (program : String) (arguments : List String)
    (messages : List String) : Transcript :=
  match options? arguments with
  | none => { exitCode := 1, errors := usage program }
  | some options =>
    let (connection, opening) := start files program arguments options
    let conversation := converse parser connection messages
    { exitCode := 0
      responses := conversation.responses
      notifications := conversation.notifications
      log := some (opening ++ conversation.log ++ [farewell]) }

end StyleTokens.CommandLine
