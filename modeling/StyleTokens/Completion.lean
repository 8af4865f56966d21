import StyleTokens.Name.Property
import StyleTokens.SessionCache

namespace StyleTokens.Completion

def propertySortMark : String := "!"

def responsiveDescription? (config : Config) (property : Property) : Option String := do
  config.responsive.get? (← property.responsive)

def augmentProperty (config : Config) (item : CompletionItem) : CompletionItem :=
  match Property.decode? config item.label with
  | none => { item with sortText := some item.label }
  | some property =>
    let item := { item with sortText := some (propertySortMark ++ item.label) }
    match responsiveDescription? config property with
    | some description => { item with labelDetails := some { description := some description } }
    | none => item

def resolved? (config : Config) (label : String) : Option (Reference × String) := do
  let reference ← Reference.decode? label
  some (reference, ← reference.resolve? config)

-- Shows the token alone; the full name is still what gets inserted.
def shorten (reference : Reference) (item : CompletionItem) : CompletionItem :=
  { item with
    label := reference.shortName
    detail := some reference.themeKey
    insertText := if item.textEdit.isNone then some item.label else item.insertText
    labelDetails := some { description := some item.label } }

def augmentItem (config : Config) (cache : SessionCache) (item : CompletionItem) :
    SessionCache × CompletionItem :=
  let sorted := augmentProperty config item
  match resolved? config item.label with
  | some (reference, value) =>
    (cache.insert reference.token ⟨reference.themeKey, value⟩, shorten reference sorted)
  | none => (cache, sorted)

def augmentItems (config : Config) (cache : SessionCache) : List CompletionItem →
    SessionCache × List CompletionItem
  | [] => (cache, [])
  | item :: rest =>
    let (cache, item) := augmentItem config cache item
    let (cache, rest) := augmentItems config cache rest
    (cache, item :: rest)

def augment (config : Config) (cache : SessionCache) : Option CompletionResponse →
    SessionCache × Option CompletionResponse
  | none => (cache, none)
  | some response =>
    let (cache, items) := augmentItems config cache response.items
    (cache, some (response.withItems items))

end StyleTokens.Completion
