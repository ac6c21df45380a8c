import DocSearch.Settings.FileFormat
import DocSearch.Settings.LoadError

namespace DocSearch

/-! Files of settings are named exactly, or without the ending of their format. Which files there
are, and in which formats they can be, is known from outside. The path that leads to a file from the
working directory is the origin of every entry in it. -/

structure Files where
  formats : List FileFormat
  /-- The steps from the root to the working directory. -/
  workingDirectory : List String
  /-- The content of the file that steps from the root lead to, if there is one, or why it cannot be
  read. A step may lead back. -/
  file? : List String → Option (Except String String)

namespace Files

/-- The steps of a path; those that stay in place do not count. -/
def steps (path : String) : List String :=
  (Text.splitAt '/' path).filter fun step => step != "" && step != "."

def isAbsolute (path : String) : Bool := path.toList.head? == some '/'

def endsInDirectory (path : String) : Bool :=
  match (Text.splitAt '/' path).getLast? with
  | some last => last == "" || last == "."
  | none => true

/-- The part of a file name after its last dot; a dot at the start of the name does not count. -/
def endingOf (name : String) : String :=
  match Text.splitAt '.' name with
  | [] => ""
  | ["", _] => ""
  | [_] => ""
  | pieces => pieces.getLastD ""

/-- The steps with an ending added to the last of them, which has to be a name. -/
def withEnding? (path : List String) (ending : String) : Option (List String) :=
  match path.getLast? with
  | some last => if last = ".." then none else some (path.dropLast ++ [last ++ "." ++ ending])
  | none => none

/-- The steps from one directory to what other steps from the root lead to. -/
def relative : List String → List String → List String
  | here :: base, step :: path =>
    if here = step then relative base path
    else List.replicate (base.length + 1) ".." ++ step :: path
  | base, path => List.replicate base.length ".." ++ path

variable (files : Files)

def fullSteps (path : String) : List String :=
  if isAbsolute path then steps path else files.workingDirectory ++ steps path

/-- A path from the root, otherwise as it is written. -/
def fullPath (path : String) : String :=
  if isAbsolute path then path
  else "/" ++ "/".intercalate (files.workingDirectory ++ [path])

def shown (path : List String) : String := "/".intercalate (relative files.workingDirectory path)

structure Found where
  origin : String
  format : FileFormat
  content : String

/-- What comes of a file in a format, once it is there. -/
def opened (path : List String) (format : FileFormat) (content : Except String String) :
    Except LoadError Found :=
  match content with
  | .ok content => .ok { origin := files.shown path, format, content }
  | .error cause => .error (.inaccessible cause)

/-- The file that steps and an ending of a format lead to. -/
def inFormat? (path : List String) (format : FileFormat) : Option (Except LoadError Found) :=
  format.endings.findSome? fun ending => do
    let path ← withEnding? path ending
    let content ← files.file? path
    return files.opened path format content

/-- The file of exactly this name, or of this name and an ending of a format. -/
def resolve (name : String) : Except LoadError Found :=
  let path := files.fullSteps name
  match if endsInDirectory name then none else files.file? path with
  | some content =>
    match files.formats.find? fun format => format.endings.contains (endingOf (path.getLastD ""))
    with
    | some format => files.opened path format content
    | none => .error (.unknownFormat (files.fullPath name))
  | none =>
    match files.formats.findSome? (files.inFormat? path) with
    | some found => found
    | none => .error (.notFound name)

def Found.read (file : Found) : Except LoadError (List (String × Entry)) :=
  match file.format.read file.origin file.content with
  | .ok members => .ok members
  | .error cause => .error (.unreadable cause file.origin)

def required (name : String) : Except LoadError (List (String × Entry)) := do
  (← files.resolve name).read

/-- A file that may be missing; then it gives nothing. -/
def optional (name : String) : Except LoadError (List (String × Entry)) :=
  match files.resolve name with
  | .ok file => file.read
  | .error _ => .ok []

/-- Files that are listed with their steps from the root, in TOML or JSON. -/
def ofList (workingDirectory : List String) (contents : List (List String × String)) : Files where
  formats := [.toml, .json]
  workingDirectory
  file? path := (contents.lookup path).map .ok

end Files

end DocSearch
