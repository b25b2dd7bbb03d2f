import Mathlib.Data.List.Forall2

/-!
Computations that may fail. A sequence of steps succeeds exactly if every step does, and fails with
the error of the first one that does not.
-/

namespace Docpress.Fallible

variable {ε α β γ : Type}

/-- Two steps in a row succeed if both do, the second from what the first has returned. -/
theorem bind_eq_ok_iff {first : Except ε α} {next : α → Except ε β} {result : β}
    : first >>= next = .ok result ↔ ∃ value, first = .ok value ∧ next value = .ok result := by
  cases first with
  | error error =>
      constructor
      · intro h
        cases h
      · rintro ⟨value, h, _⟩
        cases h
  | ok value =>
      constructor
      · intro h
        exact ⟨value, rfl, h⟩
      · rintro ⟨value, same, h⟩
        cases same
        exact h

/-- Two steps in a row fail if the first does, or if the second does after the first has succeeded. -/
theorem bind_eq_error_iff {first : Except ε α} {next : α → Except ε β} {error : ε}
    : first >>= next = .error error
      ↔ first = .error error ∨ ∃ value, first = .ok value ∧ next value = .error error := by
  cases first with
  | error failure =>
      constructor
      · intro h
        cases h
        exact Or.inl rfl
      · rintro (h | ⟨value, h, _⟩)
        · cases h
          rfl
        · cases h
  | ok value =>
      constructor
      · intro h
        exact Or.inr ⟨value, rfl, h⟩
      · rintro (h | ⟨value, same, h⟩)
        · cases h
        · cases same
          exact h

/-- What is made of a result is returned just if there is a result. -/
theorem map_eq_ok_iff {first : Except ε α} {f : α → β} {result : β}
    : first.map f = .ok result ↔ ∃ value, first = .ok value ∧ f value = result := by
  cases first with
  | error error => simp only [Except.map, reduceCtorEq, false_and, exists_false]
  | ok value => simp only [Except.map, Except.ok.injEq, exists_eq_left']

/-- Making something of a result leaves failures as they are. -/
theorem map_eq_error_iff {first : Except ε α} {f : α → β} {error : ε}
    : first.map f = .error error ↔ first = .error error := by
  cases first with
  | error failure => simp only [Except.map, Except.error.injEq]
  | ok value => simp only [Except.map, reduceCtorEq]

/-- What is made of a result can be made by the step that follows. -/
theorem map_bind (first : Except ε α) (f : α → β) (next : β → Except ε γ)
    : first.map f >>= next = first >>= fun value => next (f value) := by
  cases first <;> rfl

/-- What is made of the last result can be made by the last step. -/
theorem bind_map (first : Except ε α) (next : α → Except ε β) (f : β → γ)
    : (first >>= next).map f = first >>= fun value => (next value).map f := by
  cases first <;> rfl

/-- Making something of a result twice is making the two together. -/
theorem map_map (first : Except ε α) (f : α → β) (g : β → γ)
    : (first.map f).map g = first.map fun value => g (f value) := by
  cases first <;> rfl

/-- Two computations whose steps correspond have corresponding results, and fail with one error. -/
theorem bind_map_congr {α' β' : Type} {first : Except ε α} {first' : Except ε α'} {f : α → α'}
    {next : α → Except ε β} {next' : α' → Except ε β'} {g : β → β'} (here : first.map f = first')
    (later : ∀ value, (next value).map g = next' (f value))
    : (first >>= next).map g = first' >>= next' := by
  subst here
  rw [bind_map, map_bind]
  exact congrArg (first >>= ·) (funext later)

/-- The error of a computation that fails. -/
def error? : Except ε α → Option ε
  | .error error => some error
  | .ok _ => none

/-- A step has an error if it fails with it. -/
theorem error?_eq_some_iff {step : Except ε α} {error : ε}
    : error? step = some error ↔ step = .error error := by
  cases step with
  | error failure => simp only [error?, Option.some.injEq, Except.error.injEq]
  | ok value => simp only [error?, reduceCtorEq]

/-- A step has no error if it returns something. -/
theorem error?_eq_none_iff {step : Except ε α} : error? step = none ↔ ∃ value, step = .ok value := by
  cases step with
  | error failure => simp only [error?, reduceCtorEq, exists_false]
  | ok value => simp only [error?, Except.ok.injEq, exists_eq']

/-- The error of two steps is that of the first one that fails. -/
theorem error?_bind {first : Except ε α} {next : α → Except ε β} {later : Option ε}
    (known : ∀ value, first = .ok value → error? (next value) = later)
    : error? (first >>= next) = (error? first).or later := by
  cases first with
  | error error => rfl
  | ok value => exact known value rfl

/-- A last step that cannot fail makes no difference. -/
theorem error?_bind_ok (first : Except ε α) (result : α → β)
    : error? (first >>= fun value => .ok (result value)) = error? first := by
  cases first <;> rfl

/-- Making something of a result leaves the error as it is. -/
theorem error?_map (step : Except ε α) (f : α → β) : error? (step.map f) = error? step := by
  cases step <;> rfl

/-- Something known about the result of a step tells that there is one. -/
theorem exists_of_toOption_map {step : Except ε α} {f : α → β} {result : β}
    (known : step.toOption.map f = some result)
    : ∃ value, step = .ok value ∧ f value = result := by
  cases step with
  | error error => cases known
  | ok value => exact ⟨value, rfl, Option.some.inj known⟩

/-- A list of steps succeeds exactly if every step does, with the results in order. -/
theorem mapM_eq_ok_iff {f : α → Except ε β} {items : List α} {results : List β}
    : items.mapM f = .ok results
      ↔ List.Forall₂ (fun item result => f item = .ok result) items results := by
  induction items generalizing results with
  | nil =>
      rw [List.mapM_nil, List.forall₂_nil_left_iff]
      constructor
      · intro h
        cases h
        rfl
      · rintro rfl
        rfl
  | cons item rest ih =>
      rw [List.mapM_cons, bind_eq_ok_iff, List.forall₂_cons_left_iff]
      constructor
      · rintro ⟨result, here, later⟩
        obtain ⟨others, there, same⟩ := bind_eq_ok_iff.mp later
        cases same
        exact ⟨result, others, here, ih.mp there, rfl⟩
      · rintro ⟨result, others, here, there, rfl⟩
        exact ⟨result, here, bind_eq_ok_iff.mpr ⟨others, ih.mpr there, rfl⟩⟩

/-- Steps over a list give results if each item gives its own, by induction on the items. -/
theorem mapM_eq_some_iff {f : α → Option β} {items : List α} {results : List β}
    : items.mapM f = some results
      ↔ List.Forall₂ (fun item result => f item = some result) items results := by
  induction items generalizing results with
  | nil => simp [eq_comm]
  | cons item rest ih =>
      rw [List.mapM_cons, List.forall₂_cons_left_iff]
      constructor
      · intro success
        obtain ⟨result, here, later⟩ := Option.bind_eq_some_iff.mp success
        obtain ⟨others, there, same⟩ := Option.bind_eq_some_iff.mp later
        cases same
        exact ⟨result, others, here, ih.mp there, rfl⟩
      · rintro ⟨result, others, here, there, rfl⟩
        rw [here, ih.mpr there]
        rfl

/-- Every result of a list of steps comes from one of them. -/
theorem exists_of_mem_mapM {f : α → Except ε β} {items : List α} {results : List β}
    (success : items.mapM f = .ok results) {result : β} (member : result ∈ results)
    : ∃ item ∈ items, f item = .ok result := by
  have pairs := mapM_eq_ok_iff.mp success
  induction pairs with
  | nil => cases member
  | @cons item head items results here there ih =>
      rcases List.mem_cons.mp member with same | later
      · subst same
        exact ⟨item, List.mem_cons_self, here⟩
      · obtain ⟨other, listed, found⟩ := ih (mapM_eq_ok_iff.mpr there) later
        exact ⟨other, List.mem_cons_of_mem _ listed, found⟩

/-- Every step of a list has its result among those of the list. -/
theorem exists_result_of_mem {f : α → Except ε β} {items : List α} {results : List β}
    (success : items.mapM f = .ok results) {item : α} (member : item ∈ items)
    : ∃ result ∈ results, f item = .ok result := by
  have pairs := mapM_eq_ok_iff.mp success
  clear success
  induction pairs with
  | nil => cases member
  | @cons head first items results here there ih =>
      rcases List.mem_cons.mp member with same | later
      · subst same
        exact ⟨first, List.mem_cons_self, here⟩
      · obtain ⟨result, listed, found⟩ := ih later
        exact ⟨result, List.mem_cons_of_mem _ listed, found⟩

/-- What is collected from the results of a list of steps is what is collected from their items, if each
step keeps to that.
-/
theorem flatMap_of_mapM {f : α → Except ε β} {ofResult : β → List γ} {ofItem : α → List γ}
    {items : List α} {results : List β} (success : items.mapM f = .ok results)
    (each : ∀ item ∈ items, ∀ result, f item = .ok result → ofResult result = ofItem item)
    : results.flatMap ofResult = items.flatMap ofItem := by
  have pairs := mapM_eq_ok_iff.mp success
  clear success
  induction pairs with
  | nil => rfl
  | @cons item result items results made _ ih =>
      obtain ⟨here, later⟩ := List.forall_mem_cons.mp each
      rw [List.flatMap_cons, List.flatMap_cons, here result made, ih later]

/-- The same for steps that have several results each. -/
theorem flatMap_flatten_of_mapM {f : α → Except ε (List β)} {ofResult : β → List γ}
    {ofItem : α → List γ} {items : List α} {groups : List (List β)}
    (success : items.mapM f = .ok groups)
    (each : ∀ item ∈ items, ∀ results, f item = .ok results
      → results.flatMap ofResult = ofItem item)
    : groups.flatten.flatMap ofResult = items.flatMap ofItem := by
  rw [← List.flatMap_id, List.flatMap_assoc]
  exact flatMap_of_mapM success each

/-- Only what is asked of the steps for the items of a list counts. -/
theorem mapM_congr {f g : α → Except ε β} {items : List α} (same : ∀ item ∈ items, f item = g item)
    : items.mapM f = items.mapM g := by
  induction items with
  | nil => rfl
  | cons item rest ih =>
      obtain ⟨here, later⟩ := List.forall_mem_cons.mp same
      rw [List.mapM_cons, List.mapM_cons, here, ih later]

/-- A list of steps fails with the error of one of them. -/
theorem exists_of_mapM_eq_error {f : α → Except ε β} {items : List α} {error : ε}
    (failure : items.mapM f = .error error)
    : ∃ item ∈ items, f item = .error error := by
  induction items with
  | nil => cases failure
  | cons item rest ih =>
      rw [List.mapM_cons] at failure
      rcases bind_eq_error_iff.mp failure with here | ⟨result, _, failure⟩
      · exact ⟨item, List.mem_cons_self, here⟩
      · rcases bind_eq_error_iff.mp failure with later | ⟨results, _, failure⟩
        · obtain ⟨other, listed, failed⟩ := ih later
          exact ⟨other, List.mem_cons_of_mem item listed, failed⟩
        · cases failure

end Docpress.Fallible
