import StyleTokens.Config.File

namespace StyleTokens

structure FileTree where
  directories : List (List String)
  files : List (List String × FileContent)

namespace FileTree

def empty : FileTree := ⟨[[]], []⟩

def ancestors : List String → List (List String)
  | [] => [[]]
  | name :: rest => [] :: (ancestors rest).map (name :: ·)

def addDirectory (tree : FileTree) (place : List String) : FileTree :=
  { tree with directories := ancestors place ++ tree.directories }

def addFile (tree : FileTree) (place : List String) (content : FileContent) : FileTree :=
  { tree.addDirectory place.dropLast with files := (place, content) :: tree.files }

-- Dots are followed through directories that exist, and a path that ends in a slash finds a directory or nothing.
def walk (tree : FileTree) (place : List String) : List String → FileContent
  | [] => .notAFile
  | name :: rest =>
    if name = "" || name = "." then tree.walk place rest
    else if name = ".." then tree.walk place.dropLast rest
    else
      let next := place ++ [name]
      if tree.directories.contains next then tree.walk next rest
      else if rest.isEmpty then (tree.files.lookup next).getD .notAFile
      else .notAFile

-- What an absolute path finds. Nothing is found below the place from which relative paths would be read.
def content (tree : FileTree) (path : String) : FileContent :=
  if Path.isAbsolute path then tree.walk [] ((Name.pieces '/' path.toList).map String.ofList)
  else .notAFile

end FileTree

end StyleTokens
