namespace DocSearch

/-! The names of the fields of a document model, in the order of declaration and each once. -/

structure FieldSet where
  names : List String
  nodup : names.Nodup
  deriving DecidableEq

namespace FieldSet

def empty : FieldSet := ⟨[], .nil⟩

def contains (fields : FieldSet) (name : String) : Bool := fields.names.contains name

def size (fields : FieldSet) : Nat := fields.names.length

def isEmpty (fields : FieldSet) : Bool := fields.names.isEmpty

/-- Appends a name that is new and tells whether it was. -/
def insert (fields : FieldSet) (name : String) : Bool × FieldSet :=
  if h : name ∈ fields.names then (false, fields)
  else (true, ⟨fields.names ++ [name], by
    refine List.nodup_append.mpr ⟨fields.nodup, by simp, ?_⟩
    intro earlier member last same
    have : last = name := by simpa using same
    exact fun equal => h (this ▸ equal ▸ member)⟩)

def ofList (names : List String) : FieldSet :=
  names.foldl (fun fields name => (fields.insert name).2) empty

theorem contains_eq_true {fields : FieldSet} {name : String} :
    fields.contains name = true ↔ name ∈ fields.names := by
  simp [contains]

theorem insert_added (fields : FieldSet) (name : String) :
    (fields.insert name).1 = !fields.contains name := by
  by_cases present : name ∈ fields.names <;> simp [insert, contains, present]

theorem names_insert (fields : FieldSet) (name : String) :
    (fields.insert name).2.names =
      if name ∈ fields.names then fields.names else fields.names ++ [name] := by
  by_cases present : name ∈ fields.names <;> simp [insert, present]

theorem insert_of_mem {fields : FieldSet} {name : String} (present : name ∈ fields.names) :
    (fields.insert name).2 = fields := by
  simp [insert, present]

end FieldSet

end DocSearch
