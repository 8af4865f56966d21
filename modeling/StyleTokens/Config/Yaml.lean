import StyleTokens.Config.Parts
import StyleTokens.Yaml.Node

namespace StyleTokens.Config

open Yaml (Node)

-- Reading counts the aliases followed so far. There may be a hundred for each event of the document.
abbrev YamlReader := StateT Nat Option

def follow (root : Node) : Node → YamlReader Node
  | .alias target => do
    let followed ← get
    if 100 * root.eventCount < followed + 1 then failure
    else
      set (followed + 1)
      root.target? target
  | node => return node

def stringOfYaml (root node : Node) : YamlReader String := do
  match ← follow root node with
  | .scalar _ content => return content.text
  | _ => failure

def entriesOfYaml (root node : Node) : YamlReader (List (Node × Node)) := do
  match ← follow root node with
  | .mapping _ entries => return entries
  | .scalar _ content => if content.plain && content.text.isEmpty then return [] else failure
  | _ => failure

def tableOfYaml (value : Node → YamlReader α) (root node : Node) : YamlReader (Table α) := do
  let entries ← (← entriesOfYaml root node).mapM fun (key, item) =>
    return (← stringOfYaml root key, ← value item)
  return Table.ofList entries

def variantsOfYaml (root : Node) : Node → YamlReader (Table String) := tableOfYaml (stringOfYaml root) root

def themeOfYaml (root : Node) : Node → YamlReader (Table (Table String)) := tableOfYaml (variantsOfYaml root) root

def ofYaml (root : Node) : YamlReader Config := do
  let parts ← (← entriesOfYaml root root).foldlM (fun (parts : Parts) (key, value) => do
    parts.add failure (themeOfYaml root) (variantsOfYaml root) (← stringOfYaml root key) value) {}
  return parts.toConfig

def ofYamlText? (text : String) : Option Config := do
  match ← Node.ofText? text with
  | some root => (ofYaml root).run' 0
  | none => some {}

end StyleTokens.Config
