import DocSearch.Aggregation.Keyed
import Mathlib.Data.List.Induction
import Mathlib.Data.List.Nodup

namespace DocSearch.Keyed

/-! What is left of pairs that were written one after the other: the keys stand in the order in
which each of them first came, and the last value written to a key is its value. -/

variable {α : Type}

theorem ofList_concat (pairs : List (String × α)) (pair : String × α) :
    ofList (pairs ++ [pair]) = insert (ofList pairs) pair.1 pair.2 := by
  rw [ofList, List.foldl_append]
  rfl

theorem keys_ofList (pairs : List (String × α)) :
    keys (ofList pairs) = (keys pairs).eraseDups := by
  induction pairs using List.reverseRecOn with
  | nil => rfl
  | append_singleton before pair ih =>
      have last : keys (before ++ [pair]) = keys before ++ [pair.1] := by simp [keys]
      rw [ofList_concat, keys_insert, ih, last, List.eraseDups_append]
      by_cases known : pair.1 ∈ keys before
      · simp [known, List.removeAll]
      · simp [known, List.removeAll, List.eraseDups_cons]

theorem nodup_keys_ofList (pairs : List (String × α)) : (keys (ofList pairs)).Nodup := by
  induction pairs using List.reverseRecOn with
  | nil => exact List.nodup_nil
  | append_singleton before pair ih =>
      rw [ofList_concat, keys_insert]
      by_cases known : pair.1 ∈ keys (ofList before)
      · rwa [if_pos known]
      · rw [if_neg known]
        exact List.nodup_append.mpr ⟨ih, List.nodup_singleton _, fun key member other same equal =>
          known (List.mem_singleton.mp same ▸ equal ▸ member)⟩

/-- What stands in the list after a write was written, or stood there under another key. -/
theorem mem_insert {entries : List (String × α)} {key : String} {value : α} {entry : String × α}
    (distinct : (keys entries).Nodup) (member : entry ∈ insert entries key value) :
    entry = (key, value) ∨ entry.1 ≠ key ∧ entry ∈ entries := by
  induction entries with
  | nil => exact .inl (List.mem_singleton.mp member)
  | cons first rest ih =>
      obtain ⟨k, v⟩ := first
      simp only [keys, List.map_cons, List.nodup_cons] at distinct
      obtain ⟨new, distinct⟩ := distinct
      by_cases same : k = key
      · subst same
        rw [insert, if_pos rfl] at member
        rcases List.mem_cons.mp member with written | kept
        · exact .inl written
        · refine .inr ⟨fun again => new ?_, List.mem_cons_of_mem _ kept⟩
          exact List.mem_map.mpr ⟨entry, kept, again⟩
      · rw [insert, if_neg same] at member
        rcases List.mem_cons.mp member with kept | later
        · exact .inr ⟨kept ▸ same, kept ▸ List.mem_cons_self⟩
        · rcases ih distinct later with written | ⟨other, kept⟩
          · exact .inl written
          · exact .inr ⟨other, List.mem_cons_of_mem _ kept⟩

/-- An entry is the last pair that was written to its key. -/
theorem last_of_mem_ofList {pairs : List (String × α)} {key : String} {value : α}
    (member : (key, value) ∈ ofList pairs) :
    ∃ before after, pairs = before ++ (key, value) :: after ∧ key ∉ keys after := by
  induction pairs using List.reverseRecOn with
  | nil => exact absurd member List.not_mem_nil
  | append_singleton earlier pair ih =>
      rw [ofList_concat] at member
      rcases mem_insert (nodup_keys_ofList earlier) member with written | ⟨other, kept⟩
      · exact ⟨earlier, [], by rw [written], List.not_mem_nil⟩
      · obtain ⟨before, after, rfl, last⟩ := ih kept
        refine ⟨before, after ++ [pair], by simp, ?_⟩
        simp only [keys, List.map_append, List.map_cons, List.map_nil, List.mem_append,
          List.mem_singleton]
        exact fun found => found.elim last other

end DocSearch.Keyed
