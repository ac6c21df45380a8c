import DocSearch.Http.Client
import Mathlib.Data.List.TakeWhile

namespace DocSearch

/-! Addresses as URLs. Where a host is named, the path has no part in the authority: it starts after
a slash, and the authority ends there. -/

theorem Text.trimEnd_append_cons {isTrimmed : Char → Bool} {c : Char} (kept : isTrimmed c = false)
    (before after : List Char) :
    trimEnd isTrimmed (before ++ c :: after) = before ++ c :: trimEnd isTrimmed after := by
  rw [trimEnd, trimEnd, List.append_cons, List.reverse_append, List.reverse_append,
    List.reverse_singleton, List.dropWhile_append]
  split
  · rename_i emptied
    simp [List.isEmpty_iff.mp emptied, kept]
  · simp

namespace Url

theorem cut_fst (mark : Char) (text : List Char) :
    (cut mark text).1 = text.takeWhile (· != mark) := by
  unfold cut
  split
  · rename_i none
    have whole := List.takeWhile_append_dropWhile (p := (· != mark)) (l := text)
    rw [none, List.append_nil] at whole
    exact whole.symm
  · rfl

theorem cut_of_not_mem {mark : Char} {text : List Char} (absent : mark ∉ text) :
    cut mark text = (text, none) := by
  have all : ∀ c ∈ text, (c != mark) = true := fun c member => by
    simpa using fun same : c = mark => absent (same ▸ member)
  rw [cut, List.dropWhile_eq_nil_iff.mpr all]

theorem cutUser_of_not_mem {text : List Char} (absent : '@' ∉ text) :
    cutUser text = (none, text) := by
  have reversed : '@' ∉ text.reverse := by rwa [List.mem_reverse]
  simp [cutUser, cut_of_not_mem reversed]

theorem user_of_readAuthority {kind : SchemeKind} {text rest : List Char} {authority : Authority}
    (absent : '@' ∉ text) (read : readAuthority kind text = .ok (authority, rest)) :
    authority.username = "" ∧ authority.password = none := by
  unfold readAuthority at read
  rw [cutUser_of_not_mem absent] at read
  have bare : cut ':' ((none : Option (List Char)).getD []) = ([], none) := rfl
  have empty : encodedUser [] = "" := rfl
  simp only [bare, empty, Option.filter_none, Option.map_none, bind, Except.bind] at read
  split at read
  · contradiction
  · split at read
    · contradiction
    · split at read
      · contradiction
      · cases read
        exact ⟨rfl, rfl⟩

theorem credentials?_of_no_user {url : Url}
    (bare : ∀ authority, url.authority = some authority →
      authority.username = "" ∧ authority.password = none) :
    url.credentials? = none := by
  cases found : url.authority with
  | none => simp [credentials?, found]
  | some authority =>
      obtain ⟨username, password⟩ := bare authority found
      have decoded : Percent.decode? [] = some "" := rfl
      simp [credentials?, found, username, password, decoded]

theorem credentials?_of_readAfterSlashes {kind : SchemeKind} {text : List Char}
    {authority : Option Authority} {path : UrlPath} {url : Url}
    (absent : '@' ∉ text.takeWhile (!kind.isSlash ·))
    (read : readAfterSlashes kind text = .ok (authority, path)) (has : url.authority = authority) :
    url.credentials? = none := by
  unfold readAfterSlashes at read
  cases found : readAuthority kind (text.takeWhile (!kind.isSlash ·)) with
  | error fault =>
      rw [found] at read
      contradiction
  | ok both =>
      obtain ⟨authority, rest⟩ := both
      obtain ⟨username, password⟩ := user_of_readAuthority absent found
      rw [found] at read
      cases read
      refine credentials?_of_no_user fun authority same => ?_
      rw [has] at same
      cases same
      exact ⟨username, password⟩

theorem mem_of_mem_takeWhile_append {α : Type} {p : α → Bool} {mark : α} (stops : p mark = false)
    {c : α} {before after : List α} (member : c ∈ (before ++ mark :: after).takeWhile p) :
    c ∈ before := by
  rw [List.takeWhile_append] at member
  split at member
  · simpa [stops] using member
  · exact (List.takeWhile_prefix p).subset member

/-- The schemes that are spoken to over HTTP, with their default ports. -/
def spoken : List (String × Nat) := [("http", 80), ("https", 443)]

theorem cut_of_spoken {scheme : String} {port : Nat} (known : (scheme, port) ∈ spoken)
    (rest : List Char) :
    cut ':' (scheme.toList ++ "://".toList ++ rest) =
      (scheme.toList, some ("//".toList ++ rest)) := by
  simp only [spoken, List.mem_cons, Prod.mk.injEq, List.not_mem_nil, or_false] at known
  rcases known with ⟨rfl, rfl⟩ | ⟨rfl, rfl⟩ <;> rfl

theorem normal_of_spoken {scheme : String} {port : Nat} (known : (scheme, port) ∈ spoken) :
    UrlPath.withoutBreaks scheme.toList = scheme.toList ∧ isScheme scheme.toList = true ∧
      Text.lowercase (String.ofList scheme.toList) = scheme ∧
      SchemeKind.ofScheme scheme = .network port := by
  simp only [spoken, List.mem_cons, Prod.mk.injEq, List.not_mem_nil, or_false] at known
  rcases known with ⟨rfl, rfl⟩ | ⟨rfl, rfl⟩ <;> decide

theorem dropWhile_spoken {scheme : String} {port : Nat} (known : (scheme, port) ∈ spoken)
    (rest : List Char) : (scheme.toList ++ rest).dropWhile isTrimmed = scheme.toList ++ rest := by
  simp only [spoken, List.mem_cons, Prod.mk.injEq, List.not_mem_nil, or_false] at known
  rcases known with ⟨rfl, rfl⟩ | ⟨rfl, rfl⟩ <;> rfl

theorem hierarchy_of_parse {scheme text : String} {port : Nat} {rest : List Char} {url : Url}
    (known : (scheme, port) ∈ spoken)
    (trimmed : trim text.toList = scheme.toList ++ "://".toList ++ rest)
    (read : parse text = .ok url) :
    ∃ start path, start <+: "//".toList ++ rest ∧
      readHierarchy (.network port) start = .ok (url.authority, path) := by
  obtain ⟨name, valid, same, kind⟩ := normal_of_spoken known
  have start : (cut '?' (cut '#' ("//".toList ++ rest)).1).1 <+: "//".toList ++ rest := by
    rw [cut_fst, cut_fst]
    exact (List.takeWhile_prefix _).trans (List.takeWhile_prefix _)
  unfold parse at read
  simp only [trimmed, cut_of_spoken known, name, valid, same, kind] at read
  generalize cut '#' ("//".toList ++ rest) = parts at read start
  cases found : readHierarchy (.network port) (cut '?' parts.1).1 with
  | error fault => simp [found, Except.map] at read
  | ok both =>
      obtain ⟨authority, path⟩ := both
      simp only [found, Except.map, Bool.not_true, Bool.false_eq_true, if_false,
        Except.ok.injEq] at read
      exact ⟨_, path, start, by rw [found, ← read]⟩

/-- What names the host and the user, in the text after a scheme that is spoken over a network. -/
def authorityText (port : Nat) (text : List Char) : List Char :=
  ((UrlPath.withoutBreaks text).dropWhile (SchemeKind.isSlash (.network port))).takeWhile
    (!SchemeKind.isSlash (.network port) ·)

theorem mem_of_mem_authorityText {port : Nat} {text : List Char} {c : Char}
    (member : c ∈ authorityText port text) : c ∈ text := by
  have kept := (List.dropWhile_suffix _).subset ((List.takeWhile_prefix _).subset member)
  exact (List.mem_filter.mp kept).1

/-- A host that is named stops the slashes before it and is over at the next one. -/
theorem not_mem_authorityText {port : Nat} {name path text : List Char} {first : Char}
    (head : name.head? = some first) (unbroken : UrlPath.isBreak first = false)
    (named : SchemeKind.isSlash (.network port) first = false) (absent : '@' ∉ name)
    (within : text <+: "//".toList ++ (name ++ '/' :: path)) : '@' ∉ authorityText port text := by
  intro member
  have before : '@' ∉ "//".toList ++ name := by simpa using absent
  obtain ⟨rest, whole⟩ := within
  -- A query or a fragment may cut the text off within the name; else it goes on after a slash.
  rw [← List.append_assoc, List.append_eq_append_iff] at whole
  obtain ⟨after, shape, -⟩ | ⟨after, shape, shape'⟩ := whole
  · rw [shape] at before
    exact before (List.mem_append_left _ (mem_of_mem_authorityText member))
  · cases after with
    | nil =>
        rw [List.append_nil] at shape
        exact before (shape ▸ mem_of_mem_authorityText member)
    | cons mark after =>
        obtain ⟨rfl, -⟩ := List.cons.inj shape'
        obtain ⟨name, rfl⟩ := List.head?_eq_some_iff.mp head
        have slash : SchemeKind.isSlash (.network port) '/' = true := rfl
        have plain : UrlPath.isBreak '/' = false := by decide
        have start : (UrlPath.withoutBreaks text).dropWhile (SchemeKind.isSlash (.network port)) =
            UrlPath.withoutBreaks (first :: name) ++ '/' :: UrlPath.withoutBreaks after := by
          simp [shape, UrlPath.withoutBreaks, List.filter_append, unbroken, named, slash, plain]
        rw [authorityText, start] at member
        have inside := mem_of_mem_takeWhile_append rfl member
        exact absent (List.mem_filter.mp inside).1

end Url

namespace Http

/-- No address below the host has a user in it. For a host that is named this does not depend on
the path; a text such as `http:` leaves it to the path to name a host. -/
def EmbedsNoUser (host : String) : Prop :=
  ∀ path parsed, Url.parse (trimEnd host ++ "/" ++ path) = .ok parsed → parsed.credentials? = none

theorem embedsNoUser_of_named {host scheme name : String} {port : Nat} {first : Char}
    (known : (scheme, port) ∈ Url.spoken) (shape : trimEnd host = scheme ++ "://" ++ name)
    (head : name.toList.head? = some first) (unbroken : UrlPath.isBreak first = false)
    (named : SchemeKind.isSlash (.network port) first = false) (absent : '@' ∉ name.toList) :
    EmbedsNoUser host := by
  intro path parsed read
  have trimmed : Url.trim (trimEnd host ++ "/" ++ path).toList = scheme.toList ++ "://".toList ++
      (name.toList ++ '/' :: Text.trimEnd Url.isTrimmed path.toList) := by
    have slash : Url.isTrimmed '/' = false := by decide
    have address : (trimEnd host ++ "/" ++ path).toList =
        scheme.toList ++ ("://".toList ++ name.toList ++ '/' :: path.toList) := by
      simp [shape]
    rw [Url.trim, address, Url.dropWhile_spoken known, ← List.append_assoc,
      Text.trimEnd_append_cons slash]
    simp
  obtain ⟨text, below, within, hierarchy⟩ := Url.hierarchy_of_parse known trimmed read
  exact Url.credentials?_of_readAfterSlashes
    (Url.not_mem_authorityText head unbroken named absent within) hierarchy rfl

end Http

end DocSearch
