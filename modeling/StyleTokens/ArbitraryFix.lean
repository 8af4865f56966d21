import StyleTokens.CodeAction
import StyleTokens.Name.Arbitrary
import StyleTokens.SyntaxNode

namespace StyleTokens.ArbitraryFix

def fixId : String := "markArbitraryValue"

def title (replacement : String) : String := "Replace with arbitrary value " ++ replacement

-- The value of the pair directly above the smallest named node at the offset. Whatever the key is, the pair counts.
def valueAt? (root : SyntaxNode) (offset : Nat) : Option SyntaxNode := do
  let pair ← (← (root.namedAt offset).toLiteral?).parent?
  if pair.node.isPair then
    let value ← pair.node.value?
    if value.isString then some value else none
  else none

def actionAt? (root : SyntaxNode) (content : String) (uri : Uri) (offset : Nat) : Option CodeAction := do
  let value ← valueAt? root offset
  let replacement ← Arbitrary.tryEncode? (value.text content)
  let edit : TextEdit := ⟨value.range (Text.LineTable.ofText content), replacement⟩
  some {
    title := title replacement
    kind := some "quickfix"
    edit := some { changes := some [(uri, [edit])] }
    data := some (.object [("fixId", .string fixId)]) }

end StyleTokens.ArbitraryFix
