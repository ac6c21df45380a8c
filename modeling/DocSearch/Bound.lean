import DocSearch.Calendar.Text
import DocSearch.Json.Basic

namespace DocSearch

/-! An end of a range is a plain JSON value or a point in time. Points in time keep their type
until they are compiled. -/

inductive Bound where
  | scalar (value : Json)
  | date (date : Date)
  | dateTime (dateTime : DateTime)
  | timestamp (timestamp : Timestamp)

namespace Bound

/-- Scalars are equal as JSON values, timestamps as instants; bounds of different kinds differ. -/
def same : Bound → Bound → Bool
  | scalar a, scalar b => a == b
  | date a, date b => a == b
  | dateTime a, dateTime b => a == b
  | timestamp a, timestamp b => a.sameInstant b
  | _, _ => false

instance : BEq Bound := ⟨same⟩

def compile : Bound → Json
  | scalar value => value
  | date d => .str d.text
  | dateTime dt => .str dt.text
  | timestamp ts => .str ts.text

end Bound

end DocSearch
