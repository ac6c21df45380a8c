import Mathlib.Data.List.Forall2

namespace DocSearch

/-! Lists that are read element by element. All elements are read and give what they give each, or
the first that cannot be read tells why. -/

variable {α β ε : Type} {f : α → Except ε β} {inputs : List α}

theorem mapM_cons_eq (f : α → Except ε β) (input : α) (rest : List α) :
    (input :: rest).mapM f =
      match f input with
      | .error e => .error e
      | .ok output => (rest.mapM f).map (output :: ·) := by
  rw [List.mapM_cons]
  cases f input with
  | error e => rfl
  | ok output => cases rest.mapM f <;> rfl

theorem mapM_ok_iff {outputs : List β} :
    inputs.mapM f = .ok outputs ↔
      List.Forall₂ (fun input output => f input = .ok output) inputs outputs := by
  induction inputs generalizing outputs with
  | nil =>
      rw [List.forall₂_nil_left_iff, show ([] : List α).mapM f = .ok [] from rfl,
        Except.ok.injEq, eq_comm]
  | cons input rest ih =>
      rw [mapM_cons_eq, List.forall₂_cons_left_iff]
      constructor
      · intro read
        cases first : f input with
        | error e => simp [first] at read
        | ok output =>
            cases others : rest.mapM f with
            | error e => simp [first, others, Except.map] at read
            | ok tail =>
                simp only [first, others, Except.map, Except.ok.injEq] at read
                exact ⟨output, tail, rfl, ih.mp others, read.symm⟩
      · rintro ⟨output, tail, first, others, rfl⟩
        rw [first, ih.mpr others]
        rfl

theorem mapM_error_of {before after : List α} {input : α} {outputs : List β} {e : ε}
    (read : List.Forall₂ (fun input output => f input = .ok output) before outputs)
    (failed : f input = .error e) : (before ++ input :: after).mapM f = .error e := by
  induction read with
  | nil => rw [List.nil_append, mapM_cons_eq, failed]
  | cons first _ ih =>
      rw [List.cons_append, mapM_cons_eq, first, ih]
      rfl

/-- Reading a list fails with the first element that cannot be read. -/
theorem mapM_error_iff {e : ε} :
    inputs.mapM f = .error e ↔
      ∃ before input after outputs, inputs = before ++ input :: after ∧
        List.Forall₂ (fun input output => f input = .ok output) before outputs ∧
        f input = .error e := by
  constructor
  · intro failed
    induction inputs with
    | nil => contradiction
    | cons input rest ih =>
        rw [mapM_cons_eq] at failed
        cases first : f input with
        | error other =>
            simp only [first, Except.error.injEq] at failed
            exact ⟨[], input, rest, [], rfl, .nil, failed ▸ first⟩
        | ok output =>
            cases others : rest.mapM f with
            | ok tail => simp [first, others, Except.map] at failed
            | error other =>
                simp only [first, others, Except.map, Except.error.injEq] at failed
                subst failed
                obtain ⟨before, bad, after, outputs, shape, read, raised⟩ := ih others
                exact ⟨input :: before, bad, after, output :: outputs, by rw [shape]; rfl,
                  .cons first read, raised⟩
  · rintro ⟨before, input, after, outputs, rfl, read, failed⟩
    exact mapM_error_of read failed

theorem exists_of_forall₂ {related : α → β → Prop} {input : α} {outputs : List β}
    (each : List.Forall₂ related inputs outputs) (member : input ∈ inputs) :
    ∃ output ∈ outputs, related input output := by
  induction each with
  | nil => contradiction
  | cons first _ ih =>
      rcases List.mem_cons.mp member with rfl | member
      · exact ⟨_, by simp, first⟩
      · obtain ⟨output, listed, found⟩ := ih member
        exact ⟨output, by simp [listed], found⟩

theorem exists_forall₂_iff {related : α → β → Prop} :
    (∃ outputs, List.Forall₂ related inputs outputs) ↔
      ∀ input ∈ inputs, ∃ output, related input output := by
  constructor
  · rintro ⟨outputs, each⟩ input member
    obtain ⟨output, -, found⟩ := exists_of_forall₂ each member
    exact ⟨output, found⟩
  · intro each
    induction inputs with
    | nil => exact ⟨[], .nil⟩
    | cons input rest ih =>
        obtain ⟨output, first⟩ := each input (by simp)
        obtain ⟨outputs, others⟩ := ih fun input member => each input (by simp [member])
        exact ⟨output :: outputs, .cons first others⟩

theorem forall₂_exists_iff {γ : Type} {earlier : α → β → Prop} {later : β → γ → Prop}
    {outputs : List γ} :
    List.Forall₂ (fun input output => ∃ between, earlier input between ∧ later between output)
        inputs outputs ↔
      ∃ betweens, List.Forall₂ earlier inputs betweens ∧ List.Forall₂ later betweens outputs := by
  constructor
  · intro each
    induction each with
    | nil => exact ⟨[], .nil, .nil⟩
    | cons first _ ih =>
        obtain ⟨between, before, after⟩ := first
        obtain ⟨betweens, befores, afters⟩ := ih
        exact ⟨between :: betweens, .cons before befores, .cons after afters⟩
  · rintro ⟨betweens, befores, afters⟩
    induction befores generalizing outputs with
    | nil =>
        cases afters
        exact .nil
    | cons before _ ih =>
        cases afters with
        | cons after afters => exact .cons ⟨_, before, after⟩ (ih afters)

end DocSearch
