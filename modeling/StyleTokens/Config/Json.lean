import StyleTokens.Config.Parts
import StyleTokens.Json.Source

namespace StyleTokens.Config

open Json (Source Literal)

def tableOfJson? (value? : Source → Option α) : Source → Option (Table α)
  | .object fields => do
    let entries ← fields.mapM fun (key, value) => do some (← key.text?, ← value? value)
    some (Table.ofList entries)
  | _ => none

def stringOfJson? : Source → Option String
  | .string literal => literal.text?
  | _ => none

def variantsOfJson? : Source → Option (Table String) := tableOfJson? stringOfJson?

def themeOfJson? : Source → Option (Table (Table String)) := tableOfJson? variantsOfJson?

def ofJson? : Source → Option Config
  | .object fields => do
    let parts ← fields.foldlM (fun (parts : Parts) (key, value) => do
      parts.add none themeOfJson? variantsOfJson? (← key.text?) value) {}
    some parts.toConfig
  | .array [] => some {}
  | .array [theme] => do some ⟨← themeOfJson? theme, ∅, ∅⟩
  | .array [theme, responsive] => do some ⟨← themeOfJson? theme, ← variantsOfJson? responsive, ∅⟩
  | .array [theme, responsive, selectors] => do
    some ⟨← themeOfJson? theme, ← variantsOfJson? responsive, ← variantsOfJson? selectors⟩
  | _ => none

def ofJsonText? (text : String) : Option Config := do ofJson? (← Source.ofText? text)

end StyleTokens.Config
