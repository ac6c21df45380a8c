namespace DocSearch.Keyed

/-! Pairs with distinct keys in the order in which the keys first came. Writing to a key that is
there keeps its place and replaces its value. -/

variable {α : Type}

def insert (entries : List (String × α)) (key : String) (value : α) : List (String × α) :=
  match entries with
  | [] => [(key, value)]
  | (k, v) :: rest => if k = key then (k, value) :: rest else (k, v) :: insert rest key value

def ofList (pairs : List (String × α)) : List (String × α) :=
  pairs.foldl (fun entries pair => insert entries pair.1 pair.2) []

def keys (entries : List (String × α)) : List String := entries.map Prod.fst

theorem lookup_insert_self (entries : List (String × α)) (key : String) (value : α) :
    (insert entries key value).lookup key = some value := by
  induction entries with
  | nil => simp [insert]
  | cons entry rest ih =>
      obtain ⟨k, v⟩ := entry
      by_cases same : k = key
      · simp [insert, same]
      · have other : (key == k) = false := by simpa using Ne.symm same
        simp [insert, same, List.lookup_cons, other, ih]

theorem lookup_insert_of_ne (entries : List (String × α)) {key other : String} (value : α)
    (differ : other ≠ key) :
    (insert entries key value).lookup other = entries.lookup other := by
  induction entries with
  | nil => simp [insert, differ]
  | cons entry rest ih =>
      obtain ⟨k, v⟩ := entry
      by_cases same : k = key
      · subst same
        have unequal : (other == k) = false := by simpa using differ
        simp [insert, List.lookup_cons, unequal]
      · simp [insert, same, List.lookup_cons, ih]

theorem keys_insert (entries : List (String × α)) (key : String) (value : α) :
    keys (insert entries key value) =
      if key ∈ keys entries then keys entries else keys entries ++ [key] := by
  induction entries with
  | nil => simp [insert, keys]
  | cons entry rest ih =>
      obtain ⟨k, v⟩ := entry
      by_cases same : k = key
      · simp [insert, keys, same]
      · have unequal : ¬ key = k := Ne.symm same
        simp only [keys] at ih
        by_cases present : key ∈ List.map Prod.fst rest
        · simp [insert, keys, same, unequal, ih, present]
        · simp [insert, keys, same, unequal, ih, present]

end DocSearch.Keyed
