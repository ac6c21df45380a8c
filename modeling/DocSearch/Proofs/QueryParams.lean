import DocSearch.Url.Query
import Mathlib.Data.List.Basic

namespace DocSearch

/-! Parameters in the query of a URL. Form encoding can be undone, and it leaves none of the marks
that parameters are joined by, so a query tells what was appended to it. -/

namespace Percent

theorem digit?_upperHexDigit {n : Nat} (small : n < 16) :
    Numeral.digit? 16 (upperHexDigit n) = some n := by
  have each : ∀ n : Fin 16, Numeral.digit? 16 (upperHexDigit n.val) = some n.val := by decide
  exact each ⟨n, small⟩

theorem decodeBytes_encodeByte (byte : UInt8) (rest : List Char) :
    decodeBytes (encodeByte byte ++ rest) = byte :: decodeBytes rest := by
  have bound := byte.toNat_lt
  have high : byte.toNat / 16 < 16 := by omega
  have low : byte.toNat % 16 < 16 := by omega
  have whole : byte.toNat / 16 * 16 + byte.toNat % 16 = byte.toNat := by omega
  simp only [encodeByte, List.cons_append, List.nil_append, decodeBytes,
    digit?_upperHexDigit high, digit?_upperHexDigit low, whole, UInt8.ofNat_toNat]

theorem decodeBytes_encodeChar (c : Char) (rest : List Char) :
    decodeBytes (encodeChar c ++ rest) = String.utf8EncodeChar c ++ decodeBytes rest := by
  rw [encodeChar]
  induction String.utf8EncodeChar c with
  | nil => rfl
  | cons byte bytes ih =>
      rw [List.flatMap_cons, List.append_assoc, decodeBytes_encodeByte, ih, List.cons_append]

theorem decodeBytes_cons {c : Char} (plain : c ≠ '%') (rest : List Char) :
    decodeBytes (c :: rest) = String.utf8EncodeChar c ++ decodeBytes rest := by
  conv_lhs => unfold decodeBytes
  split
  · next shape => exact absurd (List.cons.inj shape).1 plain
  · next shape =>
      obtain ⟨rfl, rfl⟩ := List.cons.inj shape
      rfl
  · contradiction

theorem mem_encodeChar {c d : Char} (member : d ∈ encodeChar c) :
    d = '%' ∨ ∃ n < 16, d = upperHexDigit n := by
  obtain ⟨byte, -, member⟩ := List.mem_flatMap.mp member
  have bound := byte.toNat_lt
  simp only [encodeByte, List.mem_cons, List.not_mem_nil, or_false] at member
  rcases member with sign | high | low
  · exact .inl sign
  · exact .inr ⟨_, by omega, high⟩
  · exact .inr ⟨_, by omega, low⟩

end Percent

namespace Url

open Percent

def unplus (c : Char) : Char := if c = '+' then ' ' else c

theorem isFormSafe_upperHexDigit {n : Nat} (small : n < 16) :
    isFormSafe (upperHexDigit n) = true := by
  have each : ∀ n : Fin 16, isFormSafe (upperHexDigit n.val) = true := by decide
  exact each ⟨n, small⟩

/-- What is written by form encoding. -/
theorem mem_formEncodeChar {c d : Char} (member : d ∈ formEncodeChar c) :
    isFormSafe d = true ∨ d = '+' ∨ d = '%' := by
  unfold formEncodeChar at member
  split at member
  · next safe => exact .inl (List.mem_singleton.mp member ▸ safe)
  · split at member
    · exact .inr (.inl (List.mem_singleton.mp member))
    · rcases mem_encodeChar member with sign | ⟨n, small, rfl⟩
      · exact .inr (.inr sign)
      · exact .inl (isFormSafe_upperHexDigit small)

theorem not_mem_formEncode {mark : Char} (special : isFormSafe mark = false) (plus : mark ≠ '+')
    (percent : mark ≠ '%') (text : String) : mark ∉ (formEncode text).toList := by
  rw [formEncode, String.toList_ofList, List.mem_flatMap]
  rintro ⟨c, -, member⟩
  rcases mem_formEncodeChar member with safe | sign | sign
  · rw [special] at safe
    contradiction
  · exact plus sign
  · exact percent sign

theorem map_unplus_encodeChar (c : Char) : (encodeChar c).map unplus = encodeChar c := by
  refine (List.map_congr_left fun d member => ?_).trans (List.map_id _)
  have other : d ≠ '+' := by
    rintro rfl
    rcases mem_encodeChar member with sign | ⟨n, small, digit⟩
    · contradiction
    · have each : ∀ n : Fin 16, '+' ≠ upperHexDigit n.val := by decide
      exact each ⟨n, small⟩ digit
  rw [unplus, if_neg other, id]

theorem decodeBytes_formEncodeChar (c : Char) (rest : List Char) :
    decodeBytes ((formEncodeChar c).map unplus ++ rest) =
      String.utf8EncodeChar c ++ decodeBytes rest := by
  unfold formEncodeChar
  split
  · next safe =>
      have plus : c ≠ '+' := by rintro rfl; contradiction
      have percent : c ≠ '%' := by rintro rfl; contradiction
      rw [List.map_singleton, unplus, if_neg plus]
      exact decodeBytes_cons percent rest
  · split
    · next blank =>
        subst blank
        exact decodeBytes_cons (by decide) rest
    · rw [map_unplus_encodeChar]
      exact decodeBytes_encodeChar c rest

theorem decodeBytes_formEncode (text : String) :
    decodeBytes ((formEncode text).toList.map unplus) =
      text.toList.flatMap String.utf8EncodeChar := by
  rw [formEncode, String.toList_ofList]
  induction text.toList with
  | nil => rfl
  | cons c rest ih =>
      rw [List.flatMap_cons, List.map_append, decodeBytes_formEncodeChar, ih, List.flatMap_cons]

theorem formEncode_inj {text other : String} (same : formEncode text = formEncode other) :
    text = other := by
  have bytes : text.toList.flatMap String.utf8EncodeChar =
      other.toList.flatMap String.utf8EncodeChar := by
    rw [← decodeBytes_formEncode, same, decodeBytes_formEncode]
  have encoded : text.toList.utf8Encode = other.toList.utf8Encode := by
    rw [List.utf8Encode, List.utf8Encode, bytes]
  rwa [← String.toByteArray_ofList, ← String.toByteArray_ofList, String.toByteArray_inj,
    String.ofList_toList, String.ofList_toList] at encoded

theorem formPair_inj {pair other : String × String} (same : formPair pair = formPair other) :
    pair = other := by
  have unmarked : ∀ text, '=' ∉ (formEncode text).toList :=
    not_mem_formEncode (by decide) (by decide) (by decide)
  have listed := congrArg String.toList same
  simp only [formPair, String.toList_append, show "=".toList = ['='] from rfl, List.append_assoc,
    List.singleton_append] at listed
  obtain ⟨names, -, values⟩ :=
    (List.append_cons_inj_of_notMem (unmarked _) (unmarked _)).mp listed
  exact Prod.ext (formEncode_inj (String.toList_inj.mp names))
    (formEncode_inj (String.toList_inj.mp values))

theorem formPairs_ne_empty {params : List (String × String)} (given : params ≠ []) :
    formPairs params ≠ "" := by
  intro empty
  obtain ⟨first, rest, rfl⟩ := List.exists_cons_of_ne_nil given
  have listed := congrArg String.toList empty
  cases rest <;> simp [formPairs, formPair, String.toList_intercalate, List.intercalate] at listed

theorem formPairs_inj {params others : List (String × String)}
    (same : formPairs params = formPairs others) : params = others := by
  have unmarked : ∀ pairs : List (String × String), ∀ text ∈ pairs.map formPair,
      '&' ∉ text.toList := by
    intro pairs text member
    obtain ⟨pair, -, rfl⟩ := List.mem_map.mp member
    have plain : ∀ text, '&' ∉ (formEncode text).toList :=
      not_mem_formEncode (by decide) (by decide) (by decide)
    simp [formPair, plain]
  by_cases none : params = [] <;> by_cases none' : others = []
  · rw [none, none']
  · subst none
    exact absurd same.symm (formPairs_ne_empty none')
  · subst none'
    exact absurd same (formPairs_ne_empty none)
  · have pieces : params.map formPair = others.map formPair := by
      rw [← Text.splitAt_intercalate (unmarked params) (by simpa using none),
        ← Text.splitAt_intercalate (unmarked others) (by simpa using none')]
      exact congrArg (Text.splitAt '&') same
    exact List.map_injective_iff.mpr (fun _ _ => formPair_inj) pieces

theorem append_query_inj {given : String} {params others : List (String × String)}
    (same : (if params.isEmpty then given else given ++ "&" ++ formPairs params) =
      if others.isEmpty then given else given ++ "&" ++ formPairs others) : params = others := by
  have longer : ∀ text, given ≠ given ++ "&" ++ text := by
    intro text equal
    have lengths := congrArg String.length equal
    have mark : "&".length = 1 := rfl
    rw [String.length_append, String.length_append] at lengths
    omega
  cases params with
  | nil =>
      cases others with
      | nil => rfl
      | cons => exact absurd same (longer _)
  | cons =>
      cases others with
      | nil => exact absurd same.symm (longer _)
      | cons =>
          refine formPairs_inj ?_
          simpa only [List.isEmpty_cons, Bool.false_eq_true, if_false, String.append_right_inj]
            using same

/-- A URL with parameters tells what they are, given the URL without them. -/
theorem withParams_inj {url : Url} {params others : List (String × String)}
    (same : url.withParams params = url.withParams others) : params = others := by
  have queries := congrArg Url.query same
  simp only [withParams] at queries
  have present : ∀ text : String, (if text.isEmpty then none else some text).getD "" = text := by
    intro text
    split
    · next empty => exact (String.isEmpty_iff.mp empty).symm
    · rfl
  have texts := congrArg (·.getD "") queries
  simp only [present] at texts
  by_cases given : (url.query.getD "").isEmpty
  · simp only [given, if_true] at texts
    exact formPairs_inj texts
  · simp only [given, Bool.false_eq_true, if_false] at texts
    exact append_query_inj texts

end Url

end DocSearch
