import DocSearch.Json.Parser
import DocSearch.Settings.Toml.Document

namespace DocSearch

/-! A format of files of settings. A file in it has one of its endings, and what is written in it
comes to a table. The members of a table are in the order in which the table is gone through, which
is not always that of the text. -/

structure FileFormat where
  endings : List String
  /-- Files without an ending are in no format. -/
  named : "" ∉ endings
  /-- The members of the table that a content comes to, each with its origin, or why there is no
  table. -/
  read : (origin content : String) → Except String (List (String × Entry))

namespace FileFormat

def toml : FileFormat where
  endings := ["toml"]
  named := by decide
  read origin content :=
    match Toml.parse origin content with
    | some members => .ok members
    | none => .error "TOML parse error"

def json : FileFormat where
  endings := ["json"]
  named := by decide
  read origin content :=
    match Json.parse content with
    | .error e => .error e.message
    | .ok json =>
      match Entry.ofJson origin json with
      | .table _ members => .ok members
      | entry =>
        .error ("invalid type: " ++ entry.describe ++ ", expected a map in " ++ origin)

end FileFormat

end DocSearch
