import DocSearch.Settings.Path
import Mathlib.Data.List.Forall2
import Mathlib.Data.List.Induction

namespace DocSearch

/-! Sources over each other, key by key. What a table holds under a name after a source was laid
over it comes from what it held there and from the members of the source that speak of the name. -/

namespace PathStep

/-- The step goes to the member of that name; the case of letters does not count. -/
def goesTo (name : String) : PathStep → Bool
  | member other => Text.lowercase other == Text.lowercase name
  | place _ => false

theorem ofPiece?_eq_some {piece : List Char} {steps : List PathStep}
    (read : ofPiece? piece = some steps) : ∃ name rest, steps = member name :: rest := by
  unfold ofPiece? at read
  split at read
  · contradiction
  · split at read
    · obtain ⟨rest, -, rfl⟩ := Option.map_eq_some_iff.mp read
      exact ⟨_, rest, rfl⟩
    · contradiction

theorem ofKey_eq_cons (key : String) : ∃ name rest, ofKey key = member name :: rest := by
  obtain ⟨piece, others, pieces⟩ :=
    List.exists_cons_of_ne_nil (Text.pieces_ne_nil (· == '.') key.toList)
  unfold ofKey
  rw [pieces, List.mapM_cons]
  cases first : ofPiece? piece with
  | none => exact ⟨key, [], rfl⟩
  | some steps =>
      cases others.mapM ofPiece? with
      | none => exact ⟨key, [], rfl⟩
      | some rest =>
          obtain ⟨name, steps, rfl⟩ := ofPiece?_eq_some first
          exact ⟨name, steps ++ rest.flatten, rfl⟩

end PathStep

namespace Entry

/-- The member of a source gives something under a name, or below it. -/
def speaksOf (name : String) (member : String × Entry) : Bool :=
  (PathStep.ofKey member.1).head?.any (PathStep.goesTo name)

/-- What a member of a source makes of what was there. -/
def layOver (old : Option Entry) (member : String × Entry) : Entry :=
  match (PathStep.ofKey member.1).tail, member.2 with
  | [], .table _ incoming => setAll (old.getD emptyTable) incoming
  | [], value => value
  | rest, value => setPath value rest (old.getD nothing)

theorem lookup_put (key name : String) (value : Entry) (members : List (String × Entry)) :
    (write.put key value members).lookup name =
      if name = Text.lowercase key then some value else members.lookup name := by
  induction members with
  | nil =>
      by_cases same : name = Text.lowercase key
      · simp [write.put, same]
      · simp [write.put, List.lookup_cons, same, beq_eq_false_iff_ne.mpr same]
  | cons entry rest ih =>
      obtain ⟨k, v⟩ := entry
      rw [write.put]
      by_cases here : k = Text.lowercase key
      · subst here
        by_cases same : name = Text.lowercase key
        · simp [same]
        · simp [List.lookup_cons, same, beq_eq_false_iff_ne.mpr same]
      · rw [if_neg here, List.lookup_cons, ih, List.lookup_cons]
        by_cases same : name = k
        · simp [same, here]
        · simp [beq_eq_false_iff_ne.mpr same]

theorem member?_write (key name : String) (value target : Entry) :
    (write key value target).member? name =
      if Text.lowercase name = Text.lowercase key then some value else target.member? name := by
  cases target <;> exact lookup_put key _ value _

theorem setPath_ofKey {member : String × Entry} {first : String} {rest : List PathStep}
    (path : PathStep.ofKey member.1 = .member first :: rest) (target : Entry) :
    setPath member.2 (PathStep.ofKey member.1) target =
      write first (layOver (target.member? first) member) target := by
  obtain ⟨key, value⟩ := member
  simp only [layOver, path, List.tail_cons]
  cases rest with
  | nil => cases value <;> rw [setPath, set]
  | cons next rest => rw [setPath]

theorem member?_overlay (name : String) (source : List (String × Entry)) (target : Entry) :
    (target.overlay source).member? name =
      (source.filter (speaksOf name)).foldl (fun old member => some (layOver old member))
        (target.member? name) := by
  induction source generalizing target with
  | nil => rfl
  | cons member rest ih =>
      obtain ⟨first, below, path⟩ := PathStep.ofKey_eq_cons member.1
      have speaks : speaksOf name member = (Text.lowercase first == Text.lowercase name) := by
        simp [speaksOf, path, PathStep.goesTo]
      have step : (target.overlay (member :: rest)) =
          (write first (layOver (target.member? first) member) target).overlay rest := by
        rw [← setPath_ofKey path]
        rfl
      rw [step, ih, member?_write]
      by_cases same : Text.lowercase name = Text.lowercase first
      · have there : target.member? first = target.member? name := by
          simp only [member?, same]
        rw [if_pos same, there, List.filter_cons_of_pos (by simpa [speaks] using same.symm)]
        rfl
      · rw [if_neg same, List.filter_cons_of_neg (by simpa [speaks] using Ne.symm same)]

def isTable : Entry → Bool
  | table _ _ => true
  | _ => false

/-- What the source gives for a name; the last of the members that speak of it counts. -/
def given? (name : String) (source : List (String × Entry)) : Option Entry :=
  ((source.filter (speaksOf name)).getLast?).map Prod.snd

/-- The source says nothing below the name, neither by a path nor by a table, either of which would
be merged into what is there. -/
def FlatAt (name : String) (source : List (String × Entry)) : Prop :=
  ∀ member ∈ source, speaksOf name member = true →
    (PathStep.ofKey member.1).tail = [] ∧ member.2.isTable = false

instance (name : String) (source : List (String × Entry)) : Decidable (FlatAt name source) :=
  inferInstanceAs (Decidable (∀ member ∈ source, speaksOf name member = true →
    (PathStep.ofKey member.1).tail = [] ∧ member.2.isTable = false))

/-- The sources give the same but for a name, of which one may say something else or nothing. -/
def AgreeBut (name : String) (source other : List (String × Entry)) : Prop :=
  source.filter (!speaksOf name ·) = other.filter (!speaksOf name ·)

instance (name : String) (source other : List (String × Entry)) :
    Decidable (AgreeBut name source other) :=
  inferInstanceAs (Decidable
    (source.filter (!speaksOf name ·) = other.filter (!speaksOf name ·)))

/-- The strongest source that speaks of a name; the last one is the strongest. -/
def strongest? (name : String) (sources : List (List (String × Entry))) :
    Option (List (String × Entry)) :=
  sources.reverse.find? fun source => (given? name source).isSome

def resolved? (name : String) (sources : List (List (String × Entry))) : Option Entry :=
  (strongest? name sources).bind (given? name)

/-- The strongest source that speaks of a name is flat there; the others may be anything. -/
def TopFlat (name : String) (sources : List (List (String × Entry))) : Prop :=
  ∀ source ∈ strongest? name sources, FlatAt name source

instance (name : String) (sources : List (List (String × Entry))) :
    Decidable (TopFlat name sources) :=
  inferInstanceAs (Decidable (∀ source ∈ strongest? name sources, FlatAt name source))

theorem layOver_of_flat {member : String × Entry} (old : Option Entry)
    (path : (PathStep.ofKey member.1).tail = []) (flat : member.2.isTable = false) :
    layOver old member = member.2 := by
  obtain ⟨key, value⟩ := member
  unfold layOver
  rw [path]
  cases value with
  | table origin members => contradiction
  | scalar | list => rfl

variable {name : String} {source : List (String × Entry)}

theorem member?_overlay_of_flat (flat : FlatAt name source) (target : Entry) :
    (target.overlay source).member? name = (given? name source).or (target.member? name) := by
  rw [member?_overlay, given?]
  have each : ∀ member ∈ source.filter (speaksOf name), ∀ old, layOver old member = member.2 := by
    intro member listed old
    obtain ⟨listed, speaks⟩ := List.mem_filter.mp listed
    obtain ⟨path, plain⟩ := flat member listed speaks
    exact layOver_of_flat old path plain
  generalize source.filter (speaksOf name) = members at each
  cases members using List.reverseRecOn with
  | nil => rfl
  | append_singleton before last =>
      rw [List.foldl_append, List.getLast?_concat]
      simp [each last (by simp)]

theorem member?_overlay_of_silent (silent : given? name source = none) (target : Entry) :
    (target.overlay source).member? name = target.member? name := by
  have unsaid : source.filter (speaksOf name) = [] := by
    simpa only [given?, Option.map_eq_none_iff, List.getLast?_eq_none_iff] using silent
  rw [member?_overlay, unsaid, List.foldl_nil]

theorem member?_overlays_of_silent {sources : List (List (String × Entry))}
    (silent : ∀ source ∈ sources, given? name source = none) (target : Entry) :
    (sources.foldl overlay target).member? name = target.member? name := by
  induction sources generalizing target with
  | nil => rfl
  | cons first others ih =>
      rw [List.foldl_cons, ih fun source member => silent source (by simp [member]),
        member?_overlay_of_silent (silent first (by simp))]

theorem strongest?_concat (before : List (List (String × Entry))) :
    strongest? name (before ++ [source]) =
      if (given? name source).isSome then some source else strongest? name before := by
  rw [strongest?, List.reverse_concat, List.find?_cons, strongest?]
  cases (given? name source).isSome <;> rfl

/-- Under a name, sources one over the other come to what the strongest that speaks of it gives. -/
theorem member?_overlays {sources : List (List (String × Entry))} (flat : TopFlat name sources)
    (target : Entry) :
    (sources.foldl overlay target).member? name =
      (resolved? name sources).or (target.member? name) := by
  induction sources using List.reverseRecOn with
  | nil => rfl
  | append_singleton before last ih =>
      rw [List.foldl_append, List.foldl_cons, List.foldl_nil]
      rw [TopFlat, strongest?_concat] at flat
      rw [resolved?, strongest?_concat]
      cases said : given? name last with
      | none =>
          simp only [said, Option.isSome_none] at flat ⊢
          rw [member?_overlay_of_silent said]
          exact ih flat
      | some entry =>
          simp only [said, Option.isSome_some, if_true] at flat ⊢
          rw [member?_overlay_of_flat (flat last rfl), said, Option.bind_some, said,
            Option.some_or, Option.some_or]

theorem filter_of_agreeBut {other : String} {source' : List (String × Entry)}
    (differ : Text.lowercase other ≠ Text.lowercase name) (agree : AgreeBut name source source') :
    source.filter (speaksOf other) = source'.filter (speaksOf other) := by
  have apart : ∀ sources : List (String × Entry),
      sources.filter (speaksOf other) =
        (sources.filter (!speaksOf name ·)).filter (speaksOf other) := by
    intro sources
    rw [List.filter_filter]
    refine List.filter_congr fun member _ => ?_
    obtain ⟨first, rest, path⟩ := PathStep.ofKey_eq_cons member.1
    by_cases same : Text.lowercase first = Text.lowercase other
    · simp [speaksOf, path, PathStep.goesTo, same, differ]
    · simp [speaksOf, path, PathStep.goesTo, same]
  rw [AgreeBut] at agree
  rw [apart source, apart source', agree]

theorem member?_overlay_congr {source' : List (String × Entry)} {target target' : Entry}
    (said : source.filter (speaksOf name) = source'.filter (speaksOf name))
    (before : target.member? name = target'.member? name) :
    (target.overlay source).member? name = (target'.overlay source').member? name := by
  rw [member?_overlay, member?_overlay, said, before]

theorem member?_overlays_congr {sources sources' : List (List (String × Entry))}
    {target target' : Entry}
    (said : List.Forall₂ (fun source source' =>
      source.filter (speaksOf name) = source'.filter (speaksOf name)) sources sources')
    (before : target.member? name = target'.member? name) :
    (sources.foldl overlay target).member? name =
      (sources'.foldl overlay target').member? name := by
  induction said generalizing target target' with
  | nil => exact before
  | cons said _ ih => exact ih (member?_overlay_congr said before)

/-- A source that gives something for a name hides what sources below it say of the name. -/
theorem member?_overlays_of_hidden {lower lower' higher : List (List (String × Entry))}
    (flat : FlatAt name source) (gives : (given? name source).isSome)
    (agree : List.Forall₂ (AgreeBut name) lower lower') (target : Entry) (other : String) :
    ((lower ++ source :: higher).foldl overlay target).member? other =
      ((lower' ++ source :: higher).foldl overlay target).member? other := by
  have same : List.Forall₂ (fun source source' : List (String × Entry) =>
      source.filter (speaksOf other) = source'.filter (speaksOf other)) higher higher :=
    List.forall₂_same.mpr fun _ _ => rfl
  rw [List.foldl_append, List.foldl_append, List.foldl_cons, List.foldl_cons]
  refine member?_overlays_congr same ?_
  -- Under the name itself the source is all that counts; under another one nothing has changed.
  by_cases about : Text.lowercase other = Text.lowercase name
  · have there : ∀ table : Entry, table.member? other = table.member? name := fun table => by
      simp only [member?, about]
    obtain ⟨entry, gives⟩ := Option.isSome_iff_exists.mp gives
    rw [there, there, member?_overlay_of_flat flat, member?_overlay_of_flat flat, gives,
      Option.some_or, Option.some_or]
  · refine member?_overlay_congr rfl (member?_overlays_congr ?_ rfl)
    exact agree.imp fun _ _ agree => filter_of_agreeBut about agree

end Entry

end DocSearch
