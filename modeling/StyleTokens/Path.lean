import StyleTokens.Name.Letter

namespace StyleTokens.Path

def isAbsolute (path : String) : Bool := path.toList.head? == some '/'

-- A relative path below a directory. A slash is put between unless the directory is empty or ends in one.
def join (directory path : String) : String :=
  if isAbsolute path then path
  else if directory.toList.getLast?.all (· == '/') then directory ++ path
  else directory ++ "/" ++ path

def components (path : String) : List String :=
  ((Name.pieces '/' path.toList).map String.ofList).filter fun name => name ≠ "" && name ≠ "."

-- What follows the last dot of a name, unless the name has no other dot than its first character.
def extensionOf? (name : List Char) : Option (List Char) :=
  let after := (name.reverse.takeWhile (· ≠ '.')).reverse
  let stem := name.take (name.length - after.length - 1)
  if after.length == name.length || stem.isEmpty || name == ['.', '.'] then none else some after

def extension? (path : String) : Option String := do
  let name ← (components path).getLast?
  (extensionOf? name.toList).map String.ofList

end StyleTokens.Path
