import StyleTokens.Table

namespace StyleTokens

structure Config where
  theme : Table (Table String) := ∅
  responsive : Table String := ∅
  selectors : Table String := ∅
deriving DecidableEq, Inhabited

namespace Config

def hasResponsive (config : Config) (name : String) : Bool := config.responsive.contains name

def hasSelector (config : Config) (name : String) : Bool := config.selectors.contains name

def themeValue? (config : Config) (themeKey token : String) : Option String := do
  (← config.theme.get? themeKey).get? token

end Config

end StyleTokens
