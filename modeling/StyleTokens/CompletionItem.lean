import StyleTokens.CodeAction
import StyleTokens.Hover

namespace StyleTokens

open Text (Range)

structure LabelDetails where
  detail : Option String := none
  description : Option String := none
deriving DecidableEq, Repr

inductive CompletionEdit where
  | edit (change : TextEdit)
  | insertReplace (newText : String) (insert replace : Range)
deriving DecidableEq, Repr

structure CompletionItem where
  label : String
  labelDetails : Option LabelDetails := none
  kind : Option Int := none
  detail : Option String := none
  documentation : Option Documentation := none
  deprecated : Option Bool := none
  preselect : Option Bool := none
  sortText : Option String := none
  filterText : Option String := none
  insertText : Option String := none
  insertTextFormat : Option Int := none
  insertTextMode : Option Int := none
  textEdit : Option CompletionEdit := none
  additionalTextEdits : Option (List TextEdit) := none
  command : Option Command := none
  commitCharacters : Option (List String) := none
  data : Option Json := none
  tags : Option (List Int) := none
deriving Inhabited

def CompletionItem.valueKind : Int := 12

inductive CompletionResponse where
  | array (items : List CompletionItem)
  | list (isIncomplete : Bool) (items : List CompletionItem)

namespace CompletionResponse

def items : CompletionResponse → List CompletionItem
  | .array items | .list _ items => items

def withItems (response : CompletionResponse) (items : List CompletionItem) : CompletionResponse :=
  match response with
  | .array _ => .array items
  | .list isIncomplete _ => .list isIncomplete items

end CompletionResponse

structure EntryDetails where
  name : String
  kind : String
  kindModifiers : String
  display : String
  documentation : Option String := none
deriving DecidableEq, Repr

end StyleTokens
