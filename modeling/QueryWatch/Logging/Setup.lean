import QueryWatch.KeyMap
import QueryWatch.Logging.Filter

namespace QueryWatch.Logging

inductive Format
  | json
  | pretty
  deriving DecidableEq

inductive Fault
  | format (text : String)
  | filter (flaw : Flaw)
  | file
  | installed
  deriving DecidableEq

def Fault.message : Fault → String
  | format text => "Invalid log format: " ++ text
  | filter _ => "Invalid log filter"
  | file => "Failed to open log file"
  | installed => "Subscriber already initialized"

namespace Format

def name : Format → String
  | json => "json"
  | pretty => "pretty"

def ofText (s : String) : Except Fault Format :=
  match s.map Char.toLower with
  | "json" => .ok json
  | "pretty" => .ok pretty
  | other => .error (.format other)

end Format

structure Settings where
  format : Format := .json
  level : String := "info"
  path : Option String := none
  deriving DecidableEq

/-- Settings out of the variables of a process; a format that is none counts as not given. -/
def Settings.ofVariables (bindings : KeyMap String) : Settings :=
  let defaults : Settings := {}
  { format := ((bindings.get? "DIAG_LOG_FORMAT").bind fun s => (Format.ofText s).toOption).getD
      defaults.format
    level := (bindings.get? "DIAG_LOG_LEVEL").getD defaults.level
    path := bindings.get? "DIAG_LOG_FILE" }

structure Setup where
  filter : Filter
  format : Format
  path : Option String

namespace Setup

/-- Sets up the log of a process that may have one. The filter is read first, the file is opened next. -/
def install (canOpen : String → Bool) (current : Option Setup) (s : Settings) :
    Except Fault Setup :=
  match Filter.parse s.level with
  | .error flaw => .error (.filter flaw)
  | .ok filter =>
    if s.path.all canOpen then
      if current.isSome then .error .installed else .ok ⟨filter, s.format, s.path⟩
    else .error .file

def measurementTarget : String := "diagnostics::measurement"

def measurementFields : List String := ["message"]

def admits (s : Setup) (level : Level) : Bool :=
  s.filter.admits level measurementTarget measurementFields

end Setup

structure Directories where
  paths : List (List String)
  working : List String

namespace Directories

def follow (place : List String) (name : String) : List String :=
  match name with
  | "" | "." => place
  | ".." => place.dropLast
  | name => place ++ [name]

def enter? (d : Directories) (place : List String) (name : String) : Option (List String) :=
  let next := follow place name
  if d.paths.contains next then some next else none

def isFileName (name : String) : Bool :=
  !(["", ".", ".."].contains name) && name.utf8ByteSize ≤ 255 && !name.contains '\x00'

/-- A file can be opened if it has a name, which no directory has, and each directory on the way to it is
there. A path has a greatest length. -/
def canOpen (d : Directories) (path : String) : Bool :=
  let names := path.splitOn "/"
  let start := if path.startsWith "/" then [] else d.working
  path.utf8ByteSize < 4096 && names.getLast?.any fun name =>
    isFileName name &&
      (names.dropLast.foldlM d.enter? start).any fun place => !d.paths.contains (place ++ [name])

end Directories

end QueryWatch.Logging
