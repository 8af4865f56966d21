import StyleTokens.Name.Letter
import StyleTokens.Uri.Percent

namespace StyleTokens.Uri

def isSingleDot (segment : List Char) : Bool :=
  let lower := String.ofList (segment.map Char.toLower)
  lower == "." || lower == "%2e"

def isDoubleDot (segment : List Char) : Bool :=
  let lower := String.ofList (segment.map Char.toLower)
  lower == ".." || lower == ".%2e" || lower == "%2e." || lower == "%2e%2e"

def isDriveLetter : List Char → Bool
  | [c, mark] => Name.isLetter c && (mark == ':' || mark == '|')
  | _ => false

-- A drive letter that ends here or before a backslash.
def startsWithDrive (segment : List Char) : Bool :=
  isDriveLetter (segment.take 2) && (segment.length = 2 || segment[2]? == some '\\')

-- What has become of the segments so far, the last one first, and whether a drive letter came first.
structure Climb where
  done : List (List Char) := []
  drive : Bool := false
deriving DecidableEq, Repr

namespace Climb

-- Gives up the last segment, unless it is a drive letter.
def upward (climb : Climb) : Climb :=
  match climb.done with
  | segment :: rest => if startsWithDrive segment then climb else { climb with done := rest }
  | [] => climb

-- Adds a segment. The first one of a file's path may be a drive letter, which is written with a colon.
def add (isFile : Bool) (climb : Climb) (segment : List Char) : Climb :=
  if isFile && climb.done.isEmpty && isDriveLetter segment then
    ⟨[segment.take 1 ++ [':']], true⟩
  else { climb with done := segment :: climb.done }

def walk (isFile : Bool) (climb : Climb) : List (List Char) → Climb
  | [] => climb
  | segment :: rest =>
    let close (climb : Climb) : Climb := if rest.isEmpty then { climb with done := [] :: climb.done } else climb
    let next :=
      if isDoubleDot segment then close climb.upward
      else if isSingleDot segment then close climb
      else climb.add isFile segment
    walk isFile next rest

end Climb

def segments (special : Bool) (text : List Char) : List (List Char) :=
  let slashed := if special then text.map fun c => if c == '\\' then '/' else c else text
  (Name.pieces '/' slashed).map (encode inPathSet)

def joinSegments (segments : List (List Char)) : List Char := segments.flatMap ('/' :: ·)

def resolvedPath (special : Bool) (text : List Char) : List Char :=
  joinSegments (Climb.walk false {} (segments special text)).done.reverse

-- A file's path, which starts with one slash only, and whether it starts with a drive letter that was found there.
def filePath (text : List Char) : List Char × Bool :=
  let climb := Climb.walk true {} (segments true text)
  match climb.done.reverse.dropWhile List.isEmpty with
  | [] => (['/'], climb.drive)
  | kept => (joinSegments kept, climb.drive)

end StyleTokens.Uri
