import StyleTokens.Uri.Host
import StyleTokens.Uri.Segment

namespace StyleTokens

namespace Uri

structure Form where
  text : String
  path : String
deriving DecidableEq, Repr

-- Schemes whose URIs always name a host, with the port that needs no mention.
def webPort? : String → Option Nat
  | "http" | "ws" => some 80
  | "https" | "wss" => some 443
  | "ftp" => some 21
  | _ => none

-- Schemes in which a backslash counts as a slash.
def isSpecial (scheme : String) : Bool := scheme == "file" || (webPort? scheme).isSome

-- Drops controls and blanks around the text, and tabs and line breaks anywhere.
def clean (text : String) : List Char :=
  let isEdge (c : Char) : Bool := c.toNat ≤ 0x20
  let trimmed := ((text.toList.dropWhile isEdge).reverse.dropWhile isEdge).reverse
  trimmed.filter fun c => c ≠ '\t' && c ≠ '\n' && c ≠ '\r'

def isSchemeRest (c : Char) : Bool := Name.isLetterOrDigit c || c == '+' || c == '-' || c == '.'

def takeScheme? : List Char → Option (String × List Char)
  | c :: rest =>
    if Name.isLetter c then
      match rest.dropWhile isSchemeRest with
      | ':' :: after => some (String.ofList ((c :: rest.takeWhile isSchemeRest).map Char.toLower), after)
      | _ => none
    else none
  | [] => none

def breakAt (test : Char → Bool) (text : List Char) : List Char × List Char :=
  (text.takeWhile (!test ·), text.dropWhile (!test ·))

def isSlash (special : Bool) (c : Char) : Bool := c == '/' || (special && c == '\\')

-- The login before the last at sign of an authority, and what follows it. An authority that starts with its only at
-- sign has no login, but must not end there if anything follows it.
def takeLogin (special last : Bool) (text : List Char) : Except UriError (List Char × List Char) :=
  let (authority, path) := breakAt (isSlash special) text
  match (Name.pieces '@' authority).reverse with
  | host :: user :: others =>
    let user := ['@'].intercalate (user :: others).reverse
    if user.isEmpty && host.isEmpty && !(last && path.isEmpty) then .error .emptyHost
    else
      let (name, password) := breakAt (· == ':') user
      let name := encode inUserSet name
      let password := encode inUserSet (password.drop 1)
      let login := if name.isEmpty && password.isEmpty then []
        else name ++ (if password.isEmpty then [] else ':' :: password) ++ ['@']
      .ok (login, host ++ path)
  | _ => .ok ([], text)

-- The host's text, up to a slash or to a colon that stands outside of brackets, and what follows it.
def takeHost (special inside : Bool) : List Char → List Char × List Char
  | [] => ([], [])
  | c :: rest =>
    if isSlash special c || (c == ':' && !inside) then ([], c :: rest)
    else
      let inside := c == '[' || (inside && c != ']')
      let (host, after) := takeHost special inside rest
      (c :: host, after)

def takePort (scheme : String) : List Char → Except UriError (List Char × List Char)
  | ':' :: text =>
    let digits := text.takeWhile Text.isDigit
    let rest := text.dropWhile Text.isDigit
    let port := Text.digitsValue digits
    if 65536 ≤ port || !(rest.isEmpty || isSlash true (rest.headD '/')) then .error .invalidPort
    else .ok (if digits.isEmpty || webPort? scheme == some port then [] else ':' :: (toString port).toList, rest)
  | text => .ok ([], text)

def takeAuthority (scheme : String) (last : Bool) (text : List Char) : Except UriError (List Char × List Char) := do
  let special := isSpecial scheme
  let (login, rest) ← takeLogin special last text
  let (written, rest) := takeHost special false rest
  let host ← if written.isEmpty then pure [] else if special then namedHost written else opaqueHost written
  if host.isEmpty && (special || rest.head? == some ':') then throw .emptyHost
  let (port, rest) ← takePort scheme rest
  if host.isEmpty && !login.isEmpty then throw .emptyHost
  return (login ++ host ++ port, rest)

structure Place where
  text : List Char
  path : List Char

def Place.at (authority path : List Char) : Place := ⟨'/' :: '/' :: authority ++ path, path⟩

-- Two slashes announce a host, unless a drive letter stands there. A drive letter at the start of the path makes the
-- host void.
def filePlace (text : List Char) : Except UriError Place := do
  match text with
  | first :: second :: rest =>
    if isSlash true first && isSlash true second then
      let (written, after) := breakAt (isSlash true) rest
      if isDriveLetter written then return .at [] (filePath rest).1
      else
        let host ← if written.isEmpty then pure [] else namedHost written
        if host.isEmpty || host == "localhost".toList then return .at [] (filePath after).1
        else
          let (path, drive) := filePath (after.drop 1)
          return .at (if drive then [] else host) path
    else return .at [] (filePath (if isSlash true first then text.drop 1 else text)).1
  | _ => return .at [] (filePath (if isSlash true (text.headD ' ') then [] else text)).1

def webPlace (scheme : String) (last : Bool) (text : List Char) : Except UriError Place := do
  let (authority, rest) ← takeAuthority scheme last (text.dropWhile (isSlash true))
  return .at authority (resolvedPath true (rest.drop 1))

def plainPlace (scheme : String) (last : Bool) (text : List Char) : Except UriError Place := do
  match text with
  | '/' :: '/' :: rest =>
    let (authority, rest) ← takeAuthority scheme last rest
    if rest.isEmpty then return .at authority []
    else return .at authority (resolvedPath false (if rest.head? == some '/' then rest.drop 1 else rest))
  | '/' :: rest =>
    let path := resolvedPath false rest
    return ⟨if path.take 2 == ['/', '/'] then '/' :: '.' :: path else path, path⟩
  | _ => let path := encode isControl text; return ⟨path, path⟩

def normalize (text : String) : Except UriError Form := do
  match takeScheme? (clean text) with
  | none => throw .relative
  | some (scheme, rest) =>
    let (beforeFragment, fragment) := breakAt (· == '#') rest
    let (beforeQuery, query) := breakAt (· == '?') beforeFragment
    let last := query.isEmpty && fragment.isEmpty
    let place ←
      if scheme == "file" then filePlace beforeQuery
      else if isSpecial scheme then webPlace scheme last beforeQuery
      else plainPlace scheme last beforeQuery
    let query := match query with
      | [] => []
      | mark :: rest => mark :: encode (inQuerySet (isSpecial scheme)) rest
    let fragment := match fragment with
      | [] => []
      | mark :: rest => mark :: encode inFragmentSet rest
    return ⟨String.ofList (scheme.toList ++ ':' :: place.text ++ query ++ fragment), String.ofList place.path⟩

end Uri

-- A normal form, and that it is one: there is no URI but what was read from some text.
structure Uri extends Uri.Form where
  isRead : ∃ written, Uri.normalize written = .ok toForm
deriving DecidableEq, Repr

def Uri.parse (written : String) : Except UriError Uri :=
  match read : normalize written with
  | .ok form => .ok ⟨form, written, read⟩
  | .error error => .error error

end StyleTokens
