import StyleTokens.Text.Position

namespace StyleTokens

structure Markup where
  kind : String
  value : String
deriving DecidableEq, Repr

inductive MarkedText where
  | plain (text : String)
  | code (language value : String)
deriving DecidableEq, Repr

inductive HoverContents where
  | single (text : MarkedText)
  | list (texts : List MarkedText)
  | markup (text : Markup)
deriving DecidableEq, Repr

structure Hover where
  contents : HoverContents
  range : Option Text.Range := none
deriving DecidableEq, Repr

inductive Documentation where
  | plain (text : String)
  | markup (text : Markup)
deriving DecidableEq, Repr

end StyleTokens
