import StyleTokens.Json
import StyleTokens.Location

namespace StyleTokens

open Text (Range)

-- A code is a number or a text; the two never agree.
inductive DiagnosticCode where
  | number (value : Int)
  | text (value : String)
deriving DecidableEq, Repr

structure RelatedInformation where
  location : Location
  message : String
deriving DecidableEq, Repr

structure Diagnostic where
  range : Range
  severity : Option Int := none
  code : Option DiagnosticCode := none
  codeDescription : Option Uri := none
  source : Option String := none
  message : String
  relatedInformation : Option (List RelatedInformation) := none
  tags : Option (List Int) := none
  data : Option Json := none
deriving Inhabited

namespace Diagnostic

def errorSeverity : Int := 1

def valueNotAssignable : Int := 2322

def selectorNotFound : Int := 100001

def syntaxError : Int := 1005

def error (range : Range) (code : Int) (source message : String) : Diagnostic :=
  { range, severity := some errorSeverity, code := some (.number code), source := some source, message }

end Diagnostic

end StyleTokens
