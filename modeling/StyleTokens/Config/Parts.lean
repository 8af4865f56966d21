import StyleTokens.Config

namespace StyleTokens.Config

structure Parts where
  theme : Option (Table (Table String)) := none
  responsive : Option (Table String) := none
  selectors : Option (Table String) := none

namespace Parts

def toConfig (parts : Parts) : Config :=
  ⟨parts.theme.getD ∅, parts.responsive.getD ∅, parts.selectors.getD ∅⟩

-- Reads the part of this name, and refuses if it was read before. A name that is no part is passed over.
def add [Monad m] (refuse : m Parts) (theme : α → m (Table (Table String)))
    (variants : α → m (Table String)) (parts : Parts) (name : String) (value : α) : m Parts :=
  match name with
  | "theme" =>
    if parts.theme.isSome then refuse else do return { parts with theme := some (← theme value) }
  | "responsive" =>
    if parts.responsive.isSome then refuse
    else do return { parts with responsive := some (← variants value) }
  | "selectors" =>
    if parts.selectors.isSome then refuse
    else do return { parts with selectors := some (← variants value) }
  | _ => pure parts

end Parts

end StyleTokens.Config
