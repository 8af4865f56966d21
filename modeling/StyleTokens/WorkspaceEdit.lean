import StyleTokens.Text.Position
import StyleTokens.Uri

namespace StyleTokens

open Text (Range)

structure TextEdit where
  range : Range
  newText : String
deriving DecidableEq, Repr

structure DocumentEdit where
  uri : Uri
  version : Option Int
  edits : List TextEdit
deriving DecidableEq, Repr

structure NewFileOptions where
  overwrite : Option Bool := none
  ignoreIfExists : Option Bool := none
deriving DecidableEq, Repr

structure DeletionOptions where
  recursive : Option Bool := none
  ignoreIfNotExists : Option Bool := none
  note : Option String := none
deriving DecidableEq, Repr

inductive DocumentChange where
  | edit (change : DocumentEdit)
  | create (uri : Uri) (options : Option NewFileOptions) (note : Option String)
  | rename (oldUri newUri : Uri) (options : Option NewFileOptions) (note : Option String)
  | delete (uri : Uri) (options : Option DeletionOptions)
deriving DecidableEq, Repr

structure ChangeNote where
  label : String
  needsConfirmation : Option Bool := none
  description : Option String := none
deriving DecidableEq, Repr

structure WorkspaceEdit where
  changes : Option (List (Uri × List TextEdit)) := none
  documentChanges : Option (List DocumentChange) := none
  changeNotes : Option (List (String × ChangeNote)) := none
deriving DecidableEq, Repr

end StyleTokens
