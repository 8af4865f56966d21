import StyleTokens.Config
import StyleTokens.Wire.Decode

namespace StyleTokens

namespace Config

def tableToJson (encode : α → Json) (table : Table α) : Json :=
  .object (table.entries.map fun (key, value) => (key, encode value))

def toJson (config : Config) : Json :=
  .object [
    ("theme", tableToJson (tableToJson .string) config.theme),
    ("responsive", tableToJson .string config.responsive),
    ("selectors", tableToJson .string config.selectors)]

def decodeTable (decode : Decoder α) : Decoder (Table α)
  | .object fields => do
    return Table.ofList (← fields.mapM fun (key, value) => do return (key, ← decode value))
  | other => .error (.wrongType other "a map")

def decode : Decoder Config := fun value => do
  return {
    theme := (← Decoder.field? "theme" (decodeTable (decodeTable Decoder.string)) value).getD ∅
    responsive := (← Decoder.field? "responsive" (decodeTable Decoder.string) value).getD ∅
    selectors := (← Decoder.field? "selectors" (decodeTable Decoder.string) value).getD ∅ }

end Config

end StyleTokens
