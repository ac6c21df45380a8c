namespace DocSearch.Text

/-! Cutting texts at single characters and comparing them without regard to case. Texts without the
mark are found again in what they are joined to by it. -/

/-- The pieces of a text between marks; there is one more piece than there are marks. -/
def pieces (isMark : Char → Bool) : List Char → List (List Char)
  | [] => [[]]
  | c :: rest =>
    if isMark c then [] :: pieces isMark rest
    else
      match pieces isMark rest with
      | piece :: others => (c :: piece) :: others
      | [] => [[c]]

def splitAt (mark : Char) (text : String) : List String :=
  (pieces (· == mark) text.toList).map String.ofList

/-- The text in lower case. Only letters of ASCII have one here, since texts are compared with
names that consist of those. -/
def lowercase (text : String) : String := String.ofList (text.toList.map Char.toLower)

/-- The text without the characters of a kind at its end. -/
def trimEnd (isTrimmed : Char → Bool) (text : List Char) : List Char :=
  (text.reverse.dropWhile isTrimmed).reverse

/-- The number lies in one of the ranges, which include their ends. -/
def inRanges (ranges : List (Nat × Nat)) (n : Nat) : Bool :=
  ranges.any fun range => range.1 ≤ n && n ≤ range.2

theorem pieces_ne_nil (isMark : Char → Bool) (text : List Char) : pieces isMark text ≠ [] := by
  cases text with
  | nil => simp [pieces]
  | cons c rest =>
      unfold pieces
      split
      · simp
      · split <;> simp

variable {mark : Char}

theorem pieces_of_not_mem {text : List Char} (unmarked : mark ∉ text) :
    pieces (· == mark) text = [text] := by
  induction text with
  | nil => rfl
  | cons c rest ih =>
      have other : (c == mark) = false :=
        beq_eq_false_iff_ne.mpr fun same => unmarked (by simp [same])
      have tail : pieces (· == mark) rest = [rest] := ih fun member => unmarked (by simp [member])
      simp [pieces, other, tail]

theorem pieces_append_cons {first : List Char} (unmarked : mark ∉ first) (rest : List Char) :
    pieces (· == mark) (first ++ mark :: rest) = first :: pieces (· == mark) rest := by
  induction first with
  | nil => simp [pieces]
  | cons c first ih =>
      have other : (c == mark) = false :=
        beq_eq_false_iff_ne.mpr fun same => unmarked (by simp [same])
      have tail := ih fun member => unmarked (by simp [member])
      simp [pieces, other, tail]

theorem pieces_intercalate {parts : List (List Char)} (unmarked : ∀ part ∈ parts, mark ∉ part)
    (given : parts ≠ []) : pieces (· == mark) ([mark].intercalate parts) = parts := by
  induction parts with
  | nil => contradiction
  | cons first others ih =>
      have here : mark ∉ first := unmarked first (by simp)
      cases others with
      | nil => simpa [List.intercalate] using pieces_of_not_mem here
      | cons next others =>
          have tail := ih (fun part member => unmarked part (by simp [member])) (by simp)
          have shape : [mark].intercalate (first :: next :: others) =
              first ++ mark :: [mark].intercalate (next :: others) := by
            simp [List.intercalate]
          rw [shape, pieces_append_cons here, tail]

/-- Texts without the mark are the pieces of what they are joined to by it. -/
theorem splitAt_intercalate {texts : List String} (unmarked : ∀ text ∈ texts, mark ∉ text.toList)
    (given : texts ≠ []) : splitAt mark ((String.singleton mark).intercalate texts) = texts := by
  have parts : ∀ part ∈ texts.map String.toList, mark ∉ part := by
    simpa using unmarked
  rw [splitAt, String.toList_intercalate, String.toList_singleton,
    pieces_intercalate parts (by simpa using given), List.map_map]
  simp [Function.comp_def]

end DocSearch.Text
