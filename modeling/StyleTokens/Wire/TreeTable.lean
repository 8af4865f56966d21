import StyleTokens.SourceFile
import StyleTokens.Wire.Decode

namespace StyleTokens

namespace SyntaxNode

def decodeRow : Decoder (Nat × NodeInfo)
  | .array [depth, kind, flags, start, stop] => do
    let natural : Decoder Nat := fun value => do return (← Decoder.integer 0 0x8000000000000000 "a natural number" value).toNat
    let letters := (← Decoder.string flags).toList
    return (← natural depth, {
      kind := ← Decoder.string kind
      named := letters.contains 'n'
      isError := letters.contains 'e'
      isMissing := letters.contains 'm'
      isKey := letters.contains 'k'
      isValue := letters.contains 'v'
      start := ← natural start
      stop := ← natural stop })
  | other => .error (.wrongType other "a row of five")

def decode : Decoder SyntaxNode := fun value => do
  match ofRows? (← Decoder.list decodeRow value) with
  | some root => return root
  | none => throw (.wrongValue value "the rows of one tree")

end SyntaxNode

structure PreparedTrees where
  text : String
  ts : Option SyntaxNode
  tsx : Option SyntaxNode

abbrev TreeTable := List PreparedTrees

namespace TreeTable

-- Without a tree for the second grammar the tree is the same in both.
def decode : Decoder TreeTable
  | .object fields => fields.mapM fun (text, trees) => do
    let ts ← Decoder.field? "ts" SyntaxNode.decode trees
    let tsx ← Decoder.field? "tsx" SyntaxNode.decode trees
    return ⟨text, ts, tsx.or ts⟩
  | other => .error (.wrongType other "a map")

def parser (table : TreeTable) : Parser := fun language text => do
  let trees ← table.find? (·.text == text)
  match language with
  | .ts => trees.ts
  | .tsx => trees.tsx

end TreeTable

end StyleTokens
