import StyleTokens.Name.Property
import StyleTokens.SyntaxNode

namespace StyleTokens

structure TokenPair where
  pair : SyntaxNode
  key : SyntaxNode
  name : String

namespace TokenPair

def ofPair? (content : String) (pair : SyntaxNode) : Option TokenPair := do
  let key ← pair.key?
  let name ← key.literalText? content
  if Property.isName name then some ⟨pair, key, name⟩ else none

def ofTree (root : SyntaxNode) (content : String) : List TokenPair := root.pairs.filterMap (ofPair? content)

def literal? (token : TokenPair) (content : String) : Option String := do
  (← token.pair.value?).literalText? content

end TokenPair

end StyleTokens
