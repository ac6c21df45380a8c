import DocSearch.Executor
import DocSearch.Proofs.Json
import Mathlib.Data.List.TakeWhile

namespace DocSearch

/-! Sort keys written with signs. A sign before a field is taken for its direction, and the field is
left as it was written, but for the signs at its end: those are lost. -/

namespace SortKey

/-- The key is written as its field, or as its field behind a sign that gives the direction. -/
inductive Written : SortKey → String → Prop where
  | plain (field : String) : Written ⟨field, .asc⟩ field
  | plus (field : String) : Written ⟨field, .asc⟩ ("+" ++ field)
  | minus (field : String) : Written ⟨field, .desc⟩ ("-" ++ field)

def StartsPlain (key : SortKey) : Prop := ∀ c ∈ key.field.toList.head?, isSign c = false

def EndsPlain (key : SortKey) : Prop := ∀ c ∈ key.field.toList.getLast?, isSign c = false

instance (key : SortKey) : Decidable key.StartsPlain :=
  decidable_of_iff (key.field.toList.head?.all (!isSign ·) = true) (by
    cases first : key.field.toList.head? <;> simp [StartsPlain, first])

instance (key : SortKey) : Decidable key.EndsPlain :=
  decidable_of_iff (key.field.toList.getLast?.all (!isSign ·) = true) (by
    cases last : key.field.toList.getLast? <;> simp [EndsPlain, last])

/-- The key with the signs at the end of its field cut off. -/
def cut (key : SortKey) : SortKey :=
  { key with field := String.ofList (Text.trimEnd isSign key.field.toList) }

/-- The object that asks for hits in the order of the field, one way or the other. -/
def shown (key : SortKey) : Json :=
  .obj [(key.field, .str (if key.order = .desc then "desc" else "asc"))]

variable {key other : SortKey} {text : String}

theorem compile_eq_shown (key : SortKey) : key.compile = key.shown := by
  obtain ⟨field, order⟩ := key
  cases order <;> rfl

theorem shown_inj : key.shown = other.shown ↔ key = other := by
  obtain ⟨field, order⟩ := key
  obtain ⟨field', order'⟩ := other
  cases order <;> cases order' <;> simp [shown]

theorem dropWhile_isSign_eq_self_iff {field : List Char} :
    field.dropWhile isSign = field ↔ ∀ c ∈ field.head?, isSign c = false := by
  rw [List.dropWhile_eq_self_iff]
  cases field <;> simp

theorem trimEnd_isSign_eq_self_iff {field : List Char} :
    Text.trimEnd isSign field = field ↔ ∀ c ∈ field.getLast?, isSign c = false := by
  rw [Text.trimEnd, List.reverse_eq_iff, dropWhile_isSign_eq_self_iff, List.head?_reverse]

theorem cut_eq_self_iff : key.cut = key ↔ key.EndsPlain := by
  rw [EndsPlain, ← trimEnd_isSign_eq_self_iff]
  obtain ⟨field, order⟩ := key
  simp only [cut, mk.injEq, and_true]
  rw [← String.toList_inj, String.toList_ofList]

theorem parse_of_written (written : Written key text) (starts : key.StartsPlain) :
    parse text = key.cut := by
  have front := dropWhile_isSign_eq_self_iff.mpr starts
  cases written with
  | plain =>
      have upwards : text.toList.head? ≠ some '-' := fun minus =>
        absurd (starts '-' minus) (by decide)
      rw [parse, trimSigns, front, if_neg upwards]
      rfl
  | plus field =>
      have signed : ("+" ++ field).toList = '+' :: field.toList := by simp
      rw [parse, trimSigns, signed, List.dropWhile_cons_of_pos (by decide), front]
      rfl
  | minus field =>
      have signed : ("-" ++ field).toList = '-' :: field.toList := by simp
      rw [parse, trimSigns, signed, List.dropWhile_cons_of_pos (by decide), front]
      rfl

theorem map_parse_of_written {keys : List SortKey} {texts : List String}
    (written : List.Forall₂ Written keys texts) (starts : ∀ key ∈ keys, key.StartsPlain) :
    texts.map parse = keys.map cut := by
  induction written with
  | nil => rfl
  | cons first _ ih =>
      have key := parse_of_written first (starts _ List.mem_cons_self)
      have others := ih fun key member => starts key (List.mem_cons_of_mem _ member)
      rw [List.map_cons, List.map_cons, key, others]

theorem map_cut_eq_self_iff {keys : List SortKey} :
    keys.map cut = keys ↔ ∀ key ∈ keys, key.EndsPlain := by
  have each : keys.map cut = keys.map id ↔ ∀ key ∈ keys, key.cut = key := List.map_inj_left
  rw [List.map_id] at each
  exact each.trans (forall₂_congr fun key _ => cut_eq_self_iff)

end SortKey

/-- What a search body says on the order of its hits; nothing where it has no such member. -/
def Json.sortArray (body : Json) : List Json := ((body.get? "sort").bind array?).getD []

namespace Executor

variable {α : Type}

theorem get?_sort_searchBody (executor : Executor α) :
    executor.searchBody.get? "sort" =
      if executor.sort = [] then none else some (.arr (executor.sort.map SortKey.compile)) := by
  have apart : "sort" ≠ "query" := by decide
  unfold searchBody
  cases executor.sort with
  | nil => exact Json.get?_obj_of_ne apart
  | cons key keys => exact (Json.get?_obj_of_ne apart).trans Json.get?_obj_self

theorem sortArray_searchBody (executor : Executor α) :
    executor.searchBody.sortArray = executor.sort.map SortKey.shown := by
  have shown : SortKey.compile = SortKey.shown := funext SortKey.compile_eq_shown
  rw [Json.sortArray, get?_sort_searchBody, shown]
  cases executor.sort <;> rfl

/-- Sort keys reach a search as they were written, in their order, if and only if no field ends with
a sign. In any case nothing but the signs at the end of a field is lost. -/
theorem sortBy_sends_iff (executor : Executor α) {keys : List SortKey} {texts : List String}
    (written : List.Forall₂ SortKey.Written keys texts)
    (starts : ∀ key ∈ keys, key.StartsPlain) :
    let body := (executor.sortBy texts).searchBody
    (body.sortArray = keys.map SortKey.shown ↔ ∀ key ∈ keys, key.EndsPlain) ∧
    (texts.map SortKey.parse = keys ↔ ∀ key ∈ keys, key.EndsPlain) ∧
    body.sortArray = keys.map (fun key => key.cut.shown) ∧
    (body.get? "sort" = none ↔ keys = []) ∧
    ∀ key ∈ keys, ∀ other ∈ keys, key.EndsPlain → other.EndsPlain →
      (key.cut.shown = other.cut.shown ↔ key = other) := by
  intro body
  have parsed := SortKey.map_parse_of_written written starts
  have sent : body.sortArray = keys.map (fun key => key.cut.shown) := by
    rw [sortArray_searchBody, sortBy, parsed, List.map_map]
    rfl
  refine ⟨?_, ?_, sent, ?_, fun key _ other _ plain plain' => ?_⟩
  · rw [sent, List.map_inj_left]
    exact forall₂_congr fun key _ => SortKey.shown_inj.trans SortKey.cut_eq_self_iff
  · rw [parsed, SortKey.map_cut_eq_self_iff]
  · rw [get?_sort_searchBody, sortBy, parsed]
    simp
  · rw [SortKey.cut_eq_self_iff.mpr plain, SortKey.cut_eq_self_iff.mpr plain', SortKey.shown_inj]

/-- A sign in the middle of a field and the empty field behind a sign. -/
theorem sortBy_sends_iff_hyphenated :
    let executor := Executor.new Model.accessLog (.ofSeconds 60)
    let keys : List SortKey := [⟨"latency-ms", .desc⟩, ⟨"path", .asc⟩, ⟨"", .asc⟩]
    let texts := ["-latency-ms", "path", "+"]
    let body := (executor.sortBy texts).searchBody
    List.Forall₂ SortKey.Written keys texts ∧ (∀ key ∈ keys, key.StartsPlain) ∧
      (∀ key ∈ keys, key.EndsPlain) ∧
      body.sortArray = [.obj [("latency-ms", .str "desc")], .obj [("path", .str "asc")],
        .obj [("", .str "asc")]] := by
  intro executor keys texts body
  have written : List.Forall₂ SortKey.Written keys texts :=
    .cons (.minus _) (.cons (.plain _) (.cons (.plus _) .nil))
  have starts : ∀ key ∈ keys, key.StartsPlain := by decide
  have ends : ∀ key ∈ keys, key.EndsPlain := by decide
  exact ⟨written, starts, ends, (sortBy_sends_iff executor written starts).1.mpr ends⟩

/-- The fields of two programming languages are sorted by as one. -/
theorem sortBy_merges :
    let executor := Executor.new Model.accessLog (.ofSeconds 60)
    let keys : List SortKey := [⟨"c++", .asc⟩, ⟨"c", .desc⟩]
    let body := (executor.sortBy ["c++", "-c"]).searchBody
    List.Forall₂ SortKey.Written keys ["c++", "-c"] ∧ (∀ key ∈ keys, key.StartsPlain) ∧
      body.sortArray = [.obj [("c", .str "asc")], .obj [("c", .str "desc")]] ∧
      body.sortArray ≠ keys.map SortKey.shown := by
  intro executor keys body
  have written : List.Forall₂ SortKey.Written keys ["c++", "-c"] :=
    .cons (.plain _) (.cons (.minus _) .nil)
  have starts : ∀ key ∈ keys, key.StartsPlain := by decide
  have sent : body.sortArray = [.obj [("c", .str "asc")], .obj [("c", .str "desc")]] := by
    have cut : keys.map SortKey.cut = [⟨"c", .asc⟩, ⟨"c", .desc⟩] := by decide
    rw [sortArray_searchBody, sortBy, SortKey.map_parse_of_written written starts, cut]
    rfl
  refine ⟨written, starts, sent, fun same => ?_⟩
  rw [sent] at same
  simp [keys, SortKey.shown] at same

end Executor

end DocSearch
