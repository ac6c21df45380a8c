import DocSearch.Settings.Scalar

namespace DocSearch

/-! A text that reads as a truth value or a number is held as what it reads as, and written out
anew where a text is wanted. It is the same text again if and only if it was written in the one way
in which its value is written out. -/

namespace Scalar

/-- The text of a scalar, for one that has a text. -/
def written? : Scalar → Option String
  | nothing => none
  | boolean value => some (toString value)
  | integer value => some (toString value)
  | double value => some value.display
  | text value => some value

/-- What is left of a text after it was read for what it may be and written out again. -/
def kept (text : String) : String := ((ofText? text).bind written?).getD text

/-- A text that reading and writing leaves alone: one that reads as no other scalar, or the text
that is written for the value it reads as. -/
inductive Verbatim : String → Prop where
  | text {text : String} : ofText? text = none → Verbatim text
  | boolean (value : Bool) : Verbatim (toString value)
  | integer (value : Int) : -Int.pow 2 63 ≤ value → value < Int.pow 2 63 →
      Verbatim (toString value)
  | double {text : String} {value : Double} : ofText? text = some (.double value) →
      value.display = text → Verbatim text

theorem ofText?_eq_some {text : String} {value : Scalar} (read : ofText? text = some value) :
    (∃ b, value = .boolean b ∧ boolean? text = some b) ∨
      (∃ i, value = .integer i ∧ integer? text = some i) ∨
      ∃ d, value = .double d ∧ double? text = some d := by
  unfold ofText? at read
  split at read
  · next b found => exact .inl ⟨b, (Option.some.inj read).symm, found⟩
  · next i _ found => exact .inr (.inl ⟨i, (Option.some.inj read).symm, found⟩)
  · next d _ _ found => exact .inr (.inr ⟨d, (Option.some.inj read).symm, found⟩)
  · cases read

/-! Characters of what is written. -/

theorem mem_repr {n : Nat} {c : Char} (member : c ∈ n.repr.toList) : c.isDigit = true := by
  rw [Nat.toList_repr] at member
  exact Nat.isDigit_of_mem_toDigits (by decide) (by decide) member

theorem mem_toString_int {value : Int} {c : Char} (member : c ∈ (toString value).toList) :
    c.isDigit = true ∨ c = '-' := by
  rw [Int.toString_eq_repr, Int.repr_eq_if] at member
  split at member
  · exact .inl (mem_repr member)
  · rw [String.toList_append, List.mem_append] at member
    cases member with
    | inl sign => exact .inr (by simpa using sign)
    | inr digit => exact .inl (mem_repr digit)

theorem lowercase_toString_int (value : Int) :
    Text.lowercase (toString value) = toString value := by
  have small : ∀ c ∈ (toString value).toList, c.toLower = c := by
    intro c member
    cases mem_toString_int member with
    | inl digit =>
        obtain ⟨-, upper⟩ := Char.isDigit_iff_toNat.mp digit
        have capital : ¬ (c.val ≥ 'A'.val ∧ c.val ≤ 'Z'.val) := by
          rintro ⟨lower, -⟩
          have lower : 65 ≤ c.toNat := lower
          have upper : c.toNat ≤ 57 := upper
          omega
        exact dif_neg capital
    | inr sign => subst sign; decide
  rw [Text.lowercase, List.map_congr_left small, List.map_id', String.ofList_toList]

theorem mem_positional {d : Decimal} {c : Char} (member : c ∈ (d.positional "").toList) :
    c.isDigit = true ∨ c = '.' := by
  have zero : ∀ {count : Nat}, c ∈ (Decimal.zeros count).toList → c.isDigit = true := by
    intro count member
    rw [Decimal.zeros, String.toList_ofList] at member
    exact (List.mem_replicate.mp member).2 ▸ rfl
  simp only [Decimal.positional] at member
  split at member
  · rw [String.append_empty, String.toList_append, List.mem_append] at member
    exact .inl (member.elim mem_repr zero)
  · split at member
    · simp only [Decimal.pointAfter, String.toList_append, List.mem_append,
        String.toList_ofList] at member
      rcases member with (whole | point) | fraction
      · exact .inl (mem_repr (List.mem_of_mem_take whole))
      · exact .inr (List.mem_singleton.mp point)
      · exact .inl (mem_repr (List.mem_of_mem_drop fraction))
    · simp only [String.toList_append, List.mem_append] at member
      rcases member with (start | zeros) | digits
      · have start : c = '0' ∨ c = '.' := by simpa using start
        exact start.imp_left fun same => by rw [same]; decide
      · exact .inl (zero zeros)
      · exact .inl (mem_repr digits)

/-- The character is no part of a plus sign or an exponent. -/
def isPlain (c : Char) : Bool := c != '+' && c != 'e' && c != 'E'

theorem isPlain_of_isDigit {c : Char} (digit : c.isDigit = true) : isPlain c = true := by
  have apart : ∀ other : Char, other.isDigit = false → (c != other) = true := by
    rintro other letter
    exact bne_iff_ne.mpr fun same => by rw [same, letter] at digit; contradiction
  simp only [isPlain, apart '+' (by decide), apart 'e' (by decide), apart 'E' (by decide),
    Bool.and_self]

theorem isPlain_of_mem_display {d : Double} {c : Char} (member : c ∈ d.display.toList) :
    isPlain c = true := by
  have signed : ∀ {rest : String}, (∀ c ∈ rest.toList, isPlain c = true) →
      c ∈ (d.signText ++ rest).toList → isPlain c = true := by
    intro rest plain member
    rw [String.toList_append, List.mem_append] at member
    refine member.elim (fun sign => ?_) (plain c)
    have minus : c = '-' := by
      unfold Double.signText at sign
      split at sign
      · exact List.mem_singleton.mp sign
      · contradiction
    rw [minus]; decide
  unfold Double.display at member
  split at member
  · exact List.all_eq_true.mp (show "NaN".toList.all isPlain = true by decide) c member
  · split at member
    · exact signed (List.all_eq_true.mp (show "inf".toList.all isPlain = true by decide)) member
    · split at member
      · exact signed (List.all_eq_true.mp (show "0".toList.all isPlain = true by decide)) member
      · refine signed (fun c member => ?_) member
        cases mem_positional member with
        | inl digit => exact isPlain_of_isDigit digit
        | inr point => rw [point]; decide

/-! An integer is read back from its text. -/

theorem digitsValue_toDigits (n : Nat) : digitsValue (Nat.toDigits 10 n) = n := by
  have fold := Nat.ofDigitChars_toDigits (b := 10) (n := n) (by decide) (by decide)
  simpa only [digitsValue, Nat.ofDigitChars, Nat.mul_comm 10] using fold

theorem unsigned?_toDigits (n : Nat) : unsigned? (Nat.toDigits 10 n) = some n := by
  have digits : (Nat.toDigits 10 n).all Char.isDigit = true :=
    List.all_eq_true.mpr fun c member =>
      Nat.isDigit_of_mem_toDigits (by decide) (by decide) member
  have some : (Nat.toDigits 10 n).isEmpty = false := by
    simp
  simp [unsigned?, digits, some, digitsValue_toDigits]

theorem splitSign_toDigits (n : Nat) :
    splitSign (Nat.toDigits 10 n) = (false, Nat.toDigits 10 n) := by
  obtain ⟨c, rest, shape⟩ := List.exists_cons_of_ne_nil (Nat.toDigits_ne_nil (n := n) (b := 10))
  have digit : c.isDigit = true :=
    Nat.isDigit_of_mem_toDigits (b := 10) (n := n) (by decide) (by decide) (by simp [shape])
  rw [shape]
  unfold splitSign
  split
  · next same => cases same; contradiction
  · next same => cases same; contradiction
  · rfl

theorem splitSign_toString (value : Int) :
    splitSign (toString value).toList =
      (decide (value < 0), Nat.toDigits 10 value.natAbs) := by
  rw [Int.toString_eq_repr, Int.repr_eq_if]
  by_cases natural : 0 ≤ value
  · rw [if_pos natural, Nat.toList_repr, splitSign_toDigits,
      show value.toNat = value.natAbs by omega, decide_eq_false (by omega)]
  · rw [if_neg natural, String.toList_append, Nat.toList_repr,
      show (-value).toNat = value.natAbs by omega, decide_eq_true (by omega)]
    rfl

theorem integer?_toString {value : Int} (lower : -Int.pow 2 63 ≤ value)
    (upper : value < Int.pow 2 63) : integer? (toString value) = some value := by
  have same : (if value < 0 then -(value.natAbs : Int) else value.natAbs) = value := by
    split <;> omega
  simp only [integer?, splitSign_toString, unsigned?_toDigits, decide_eq_true_eq, same]
  exact if_pos ⟨lower, upper⟩

theorem integer?_bounds {text : String} {value : Int} (read : integer? text = some value) :
    -Int.pow 2 63 ≤ value ∧ value < Int.pow 2 63 := by
  simp only [integer?] at read
  cases digits : unsigned? (splitSign text.toList).2 with
  | none => simp [digits] at read
  | some n =>
      rw [digits] at read
      obtain ⟨bounds, same⟩ := Option.ite_none_right_eq_some.mp read
      exact Option.some.inj same ▸ bounds

theorem boolean?_toString_int (value : Int) : boolean? (toString value) = none := by
  have apart : ∀ (name : String) (c : Char), c ∈ name.toList → c.isDigit = false → c ≠ '-' →
      toString value ≠ name := by
    intro name c member letter unsigned same
    cases mem_toString_int (same ▸ member) with
    | inl digit => rw [letter] at digit; contradiction
    | inr sign => exact unsigned sign
  have notTrue := apart "true" 't' (by decide) (by decide) (by decide)
  have notFalse := apart "false" 'f' (by decide) (by decide) (by decide)
  simp only [boolean?, lowercase_toString_int, notTrue, notFalse, if_false]

theorem ofText?_toString_int {value : Int} (lower : -Int.pow 2 63 ≤ value)
    (upper : value < Int.pow 2 63) : ofText? (toString value) = some (.integer value) := by
  simp only [ofText?, boolean?_toString_int, integer?_toString lower upper]

theorem ofText?_toString_bool (value : Bool) :
    ofText? (toString value) = some (.boolean value) := by
  cases value <;> decide

theorem kept_of_reads {text written : String} {value : Scalar} (read : ofText? text = some value)
    (writes : value.written? = some written) : kept text = written := by
  simp only [kept, read, Option.bind_some, writes, Option.getD_some]

theorem kept_eq_self_iff (text : String) : kept text = text ↔ Verbatim text := by
  constructor
  · intro same
    cases read : ofText? text with
    | none => exact .text read
    | some value =>
        rcases ofText?_eq_some read with ⟨b, rfl, -⟩ | ⟨i, rfl, found⟩ | ⟨d, rfl, -⟩
        · exact (kept_of_reads read rfl).symm.trans same ▸ .boolean b
        · obtain ⟨lower, upper⟩ := integer?_bounds found
          exact (kept_of_reads read rfl).symm.trans same ▸ .integer i lower upper
        · exact .double read ((kept_of_reads read rfl).symm.trans same)
  · intro verbatim
    cases verbatim with
    | text read => simp [kept, read]
    | boolean value => exact kept_of_reads (ofText?_toString_bool value) rfl
    | integer value lower upper => exact kept_of_reads (ofText?_toString_int lower upper) rfl
    | double read same => exact kept_of_reads read (congrArg some same)

theorem kept_ne_of_mem {text : String} {value : Scalar} {c : Char}
    (read : ofText? text = some value) (number : ∀ b, value ≠ .boolean b)
    (member : c ∈ text.toList) (marked : isPlain c = false) : kept text ≠ text := by
  intro same
  -- Were the text what is written for its value, its characters would all be plain.
  have plain : isPlain c = true := by
    rcases ofText?_eq_some read with ⟨b, rfl, -⟩ | ⟨i, rfl, -⟩ | ⟨d, rfl, -⟩
    · exact absurd rfl (number b)
    · rw [← same, kept_of_reads read rfl] at member
      cases mem_toString_int member with
      | inl digit => exact isPlain_of_isDigit digit
      | inr sign => rw [sign]; decide
    · rw [← same, kept_of_reads read rfl] at member
      exact isPlain_of_mem_display member
  rw [marked] at plain
  contradiction

end Scalar

end DocSearch
