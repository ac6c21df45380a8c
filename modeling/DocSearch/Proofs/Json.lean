import DocSearch.Json.Basic
import Mathlib.Data.List.Forall2

namespace DocSearch.Json

/-! The members of an object, one after the other. -/

variable {name key : String} {value : Json} {rest : List (String × Json)}

@[simp] theorem get?_obj_self : (obj ((name, value) :: rest)).get? name = some value := by
  simp [get?]

theorem get?_obj_of_ne (other : name ≠ key) :
    (obj ((key, value) :: rest)).get? name = (obj rest).get? name := by
  have unequal : (name == key) = false := by simpa using other
  simp [get?, List.lookup_cons, unequal]

@[simp] theorem nat?_ofNat (n : Nat) : (ofNat n).nat? = some n := by simp [ofNat, nat?]

/-! Equality of values, member by member. -/

@[simp] theorem str_beq_iff {a b : String} : (str a == str b) = true ↔ a = b := by
  show same (str a) (str b) = true ↔ a = b
  rw [same, beq_iff_eq]

@[simp] theorem ofNat_beq_iff {m n : Nat} : (ofNat m == ofNat n) = true ↔ m = n := by
  show same (ofNat m) (ofNat n) = true ↔ m = n
  simp only [ofNat, same, Number.same, beq_iff_eq]
  omega

@[simp] theorem obj_nil_beq_nil : (obj [] == obj []) = true := rfl

@[simp] theorem obj_nil_beq_cons {member : String × Json} {rest : List (String × Json)} :
    (obj [] == obj (member :: rest)) = false := rfl

@[simp] theorem obj_cons_beq_nil {member : String × Json} {rest : List (String × Json)} :
    (obj (member :: rest) == obj []) = false := rfl

@[simp] theorem obj_cons_beq_cons {k l : String} {a b : Json} {as bs : List (String × Json)} :
    (obj ((k, a) :: as) == obj ((l, b) :: bs)) = true ↔
      k = l ∧ (a == b) = true ∧ (obj as == obj bs) = true := by
  show same (obj ((k, a) :: as)) (obj ((l, b) :: bs)) = true ↔
    k = l ∧ same a b = true ∧ same (obj as) (obj bs) = true
  simp only [same, sameMembers, Bool.and_eq_true, beq_iff_eq, and_assoc]

theorem arr_beq_iff {as bs : List Json} :
    (arr as == arr bs) = true ↔ List.Forall₂ (fun a b => (a == b) = true) as bs := by
  show sameElements as bs = true ↔ _
  induction as generalizing bs with
  | nil => cases bs <;> simp [sameElements]
  | cons a as ih =>
      cases bs with
      | nil => simp [sameElements]
      | cons b bs =>
          rw [sameElements, Bool.and_eq_true, ih, List.forall₂_cons]
          rfl

theorem exists_of_obj_beq_cons {members : List (String × Json)}
    (same : (obj members == obj ((key, value) :: rest)) = true) :
    ∃ member ∈ members, member.1 = key := by
  cases members with
  | nil => contradiction
  | cons first others => exact ⟨first, by simp, (obj_cons_beq_cons.mp same).1⟩

theorem exists_of_obj_cons_beq {members : List (String × Json)}
    (same : (obj ((key, value) :: rest) == obj members) = true) :
    ∃ member ∈ members, member.1 = key := by
  cases members with
  | nil => contradiction
  | cons first others => exact ⟨first, by simp, (obj_cons_beq_cons.mp same).1.symm⟩

end DocSearch.Json
