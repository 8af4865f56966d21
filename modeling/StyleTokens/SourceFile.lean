import StyleTokens.SyntaxNode
import StyleTokens.Uri

namespace StyleTokens

inductive Language where
  | ts
  | tsx
deriving DecidableEq, Repr

-- By the end of the path; query and fragment do not count.
def Language.ofUri (uri : Uri) : Language :=
  if ".tsx".toList.isSuffixOf uri.path.toList then .tsx else .ts

abbrev Parser := Language → String → Option SyntaxNode

structure SourceFile where
  uri : Uri
  content : String
  version : Int
  tree : Option SyntaxNode

end StyleTokens
