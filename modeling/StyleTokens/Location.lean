import StyleTokens.Text.Position
import StyleTokens.Uri

namespace StyleTokens

structure Location where
  uri : Uri
  range : Text.Range
deriving DecidableEq, Repr

end StyleTokens
