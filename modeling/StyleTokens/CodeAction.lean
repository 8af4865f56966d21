import StyleTokens.Diagnostic
import StyleTokens.WorkspaceEdit

namespace StyleTokens

structure Command where
  title : String
  command : String
  arguments : Option (List Json) := none

structure CodeAction where
  title : String
  kind : Option String := none
  diagnostics : Option (List Diagnostic) := none
  edit : Option WorkspaceEdit := none
  command : Option Command := none
  isPreferred : Option Bool := none
  disabled : Option String := none
  data : Option Json := none

inductive Fix where
  | action (action : CodeAction)
  | command (command : Command)

end StyleTokens
