namespace StyleTokens

inductive LogLevel where
  | debug
  | info
  | warn
  | error
deriving DecidableEq, Repr

def LogLevel.label : LogLevel → String
  | .debug => "DEBUG"
  | .info => "INFO"
  | .warn => "WARN"
  | .error => "ERROR"

structure LogLine where
  level : LogLevel
  message : String
deriving DecidableEq, Repr

namespace LogLine

def debug (message : String) : LogLine := ⟨.debug, message⟩

def info (message : String) : LogLine := ⟨.info, message⟩

def warn (message : String) : LogLine := ⟨.warn, message⟩

def error (message : String) : LogLine := ⟨.error, message⟩

def render (line : LogLine) : String := "[" ++ line.level.label ++ "] " ++ line.message

end LogLine

end StyleTokens
