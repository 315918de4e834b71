import RunMonitor.Config.Database
import RunMonitor.Text.Percent

namespace RunMonitor

/-! Whether the database of a configuration can be reached at all. -/

namespace DatabaseConfig

def isMemory (url : String) : Bool := url = ":memory:" || url = "sqlite::memory:"

def dropAll (stem text : List Char) : Nat → List Char
  | 0 => text
  | fuel + 1 =>
      if stem.isPrefixOf text then dropAll stem (text.drop stem.length) fuel else text

def withoutScheme (url : List Char) : List Char :=
  let url := dropAll "sqlite:".toList url url.length
  dropAll "//".toList url url.length

def splitOnce (c : Char) (text : List Char) : List Char × Option (List Char) :=
  match text.dropWhile (· ≠ c) with
  | [] => (text, none)
  | _ :: rest => (text.takeWhile (· ≠ c), some rest)

def splitAll (c : Char) : List Char → List (List Char)
  | [] => [[]]
  | d :: rest =>
      if d = c then [] :: splitAll c rest
      else
        match splitAll c rest with
        | [] => [[d]]
        | first :: others => (d :: first) :: others

def parameterText (cs : List Char) : String :=
  let spaced := cs.map fun c => if c = '+' then ' ' else c
  (Text.percentDecode? (String.ofList spaced)).getD (String.ofList spaced)

def isParameter (key value : String) : Bool :=
  match key with
  | "mode" => value ∈ ["ro", "rw", "rwc", "memory"]
  | "cache" => value ∈ ["private", "shared"]
  | "immutable" => value ∈ ["true", "1", "false", "0"]
  | "vfs" => true
  | _ => false

def areParameters (query : List Char) : Bool :=
  ((splitAll '&' query).filter (· ≠ [])).all fun pair =>
    let (key, value) := splitOnce '=' pair
    isParameter (parameterText key) (parameterText (value.getD []))

def file? (url : String) : Option String := do
  let (path, query) := splitOnce '?' (withoutScheme url.toList)
  guard (query.all areParameters)
  Text.percentDecode? (String.ofList path)

/-- The null device is a file, and nothing can be made below it. -/
def nullDevice : String := "/dev/null/"

def isBelowNullDevice (path : String) : Bool := nullDevice.toList.isPrefixOf path.toList

def openSqlite (path : String) : Except Error Unit :=
  match file? path with
  | none => .error (.database "invalid URL")
  | some file =>
      if isMemory path then .ok ()
      else if isBelowNullDevice path then .error (.io "not a directory")
      else if isBelowNullDevice file then .error (.database "unable to open database file")
      else .ok ()

def connect (config : DatabaseConfig) : Except Error Unit := do
  match config.validate with
  | .error fault => .error fault.toError
  | .ok () =>
      match config.type, config.sqlitePath with
      | .sqlite, some path => openSqlite path
      | .sqlite, none => .error (.config "SQLite path not configured")
      | .postgres, _ => .error (.database "unable to connect")

end DatabaseConfig
end RunMonitor
