import DocSearch.Error
import DocSearch.FieldSet
import DocSearch.Record

namespace DocSearch

/-! A model says in which index documents of one kind are stored, which fields they declare and
how they are read. -/

structure Model (α : Type) where
  index : String
  fields : FieldSet
  parse : Json → Except Error α

namespace Model

/-- A model whose documents are records, kept as objects with all members. -/
def ofSchema (index : String) (fields : FieldSet) (schema : Schema) : Model Json where
  index := index
  fields := fields
  parse json :=
    match schema.read json with
    | .ok values => .ok (schema.toJson values)
    | .error mismatch => .error (.shape mismatch.message)

def accessLog : Model Json :=
  ofSchema "access-log" (.ofList ["status", "path", "latency_ms"]) {
    name := "AccessLog"
    members := [
      { name := "status", type := .text },
      { name := "path", type := .text },
      { name := "latency_ms", type := .unsigned 64 }] }

def events : Model Json :=
  ofSchema "events" (.ofList ["id", "ratio", "active", "tags", "note", "id", "level", "tags"]) {
    name := "Event"
    members := [
      { name := "id", type := .signed 64 },
      { name := "ratio", type := .double },
      { name := "active", type := .boolean },
      { name := "tags", type := .textList },
      { name := "note", type := .optionalText, presence := .optional none },
      { name := "level", type := .unsigned 8, presence := .defaulted (0 : Nat) }] }

def raw (fields : FieldSet) : Model Json where
  index := "raw"
  fields := fields
  parse json := .ok json

end Model

end DocSearch
