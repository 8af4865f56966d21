import StyleTokens.CompletionItem
import StyleTokens.Name.Reference

namespace StyleTokens

structure CacheEntry where
  themeKey : String
  tokenValue : String
deriving DecidableEq, Repr

structure SessionCache where
  entries : Table CacheEntry := ∅
deriving DecidableEq, Inhabited

namespace SessionCache

def insert (cache : SessionCache) (token : String) (entry : CacheEntry) : SessionCache :=
  ⟨cache.entries.insert token entry⟩

def get? (cache : SessionCache) (token : String) : Option CacheEntry := cache.entries.get? token

def size (cache : SessionCache) : Nat := cache.entries.size

def isEmpty (cache : SessionCache) : Bool := cache.entries.entries.isEmpty

def clear (_ : SessionCache) : SessionCache := {}

-- What follows the last mark of an entry's name, if it is not empty.
def shortToken? (entryName : String) : Option String :=
  let text := entryName.toList
  let after := (text.reverse.takeWhile (· ≠ Reference.mark)).reverse
  if after.length == text.length || after.isEmpty then none else some (String.ofList after)

def details? (cache : SessionCache) (entryName : String) : Option EntryDetails := do
  let entry ← cache.get? (← shortToken? entryName)
  some { name := entryName, kind := "string", kindModifiers := entry.themeKey, display := entry.tokenValue }

end SessionCache

end StyleTokens
