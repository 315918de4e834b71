import RunMonitor.Cluster.Metadata
import RunMonitor.Text.Hex

namespace RunMonitor.Client

section Paths

variable (K : Type) [Resource K]

def plural : String := (Resource.kind K).toLower ++ "s"

/-- Versions that name a group are served apart. -/
def root : String :=
  let version := Resource.apiVersion K
  if version.contains '/' then "/apis/" ++ version else "/api/" ++ version

def collectionPath : Option String → String
  | none => root K ++ "/" ++ plural K
  | some ns => root K ++ "/namespaces/" ++ ns ++ "/" ++ plural K

def objectPath (ns name : String) : String :=
  collectionPath K (some ns) ++ "/" ++ name

end Paths

/-! Form encoding of a parameter. -/

def upperHexDigit (n : Nat) : Char := (Text.hexDigit n).toUpper

def isPlainByte (b : UInt8) : Bool :=
  let c := Char.ofNat b.toNat
  c.isAlphanum || c ∈ ['*', '-', '.', '_']

def formByte (b : UInt8) : List Char :=
  if b = 0x20 then ['+']
  else if isPlainByte b then [Char.ofNat b.toNat]
  else ['%', upperHexDigit (b.toNat / 16), upperHexDigit (b.toNat % 16)]

def formText (text : String) : String :=
  String.ofList (text.toByteArray.data.toList.flatMap formByte)

def listQuery : String := "?"

def watchQuery (version : String) : String :=
  "?&watch=true&timeoutSeconds=290&allowWatchBookmarks=true&resourceVersion=" ++ formText version

def isPathChar (c : Char) : Bool :=
  '!' ≤ c && c ≤ '~' && !(c ∈ ['#', '<', '>', '?', '\x60'])

def isQueryChar (c : Char) : Bool :=
  '!' ≤ c && c ≤ '~' && !(c ∈ ['"', '#', '<', '>'])

/-- The target of a request, without its fragment; `none` if the text cannot be one. -/
def target? (text : String) : Option String :=
  let kept := text.toList.takeWhile (· ≠ '#')
  let path := kept.takeWhile (· ≠ '?')
  let query := (kept.dropWhile (· ≠ '?')).drop 1
  if path.all isPathChar && query.all isQueryChar then some (String.ofList kept) else none

end RunMonitor.Client
