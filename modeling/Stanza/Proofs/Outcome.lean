import Mathlib.Data.List.Forall2

set_option autoImplicit false

/-!
Computations that may fail. A chain of steps succeeds exactly when each step does, and a
traversal exactly when every item does; a successful traversal pairs items with results. Of two
computations side by side, steps that are related make runs that are related.
-/

namespace Stanza

universe u v

variable {ε : Type u} {α β γ δ : Type v}

def Succeeds (outcome : Except ε α) : Prop := ∃ result, outcome = .ok result

@[simp] theorem succeeds_ok (result : α) : Succeeds (.ok result : Except ε α) := ⟨result, rfl⟩

@[simp] theorem not_succeeds_error (error : ε) : ¬ Succeeds (.error error : Except ε α) := by
  rintro ⟨result, same⟩
  cases same

theorem not_succeeds_of_eq_error {outcome : Except ε α} {error : ε}
    (failed : outcome = .error error) : ¬ Succeeds outcome := by
  rw [failed]
  exact not_succeeds_error error

theorem bind_eq_ok_iff {first : Except ε α} {next : α → Except ε β} {result : β} :
    (first >>= next) = .ok result ↔ ∃ value, first = .ok value ∧ next value = .ok result := by
  cases first with
  | error error => simp [bind, Except.bind]
  | ok value => simp [bind, Except.bind]

theorem bind_eq_error_iff {first : Except ε α} {next : α → Except ε β} {error : ε} :
    (first >>= next) = .error error ↔
      first = .error error ∨ ∃ value, first = .ok value ∧ next value = .error error := by
  cases first with
  | error other => simp [bind, Except.bind]
  | ok value => simp [bind, Except.bind]

theorem exists_error_of_not_succeeds {outcome : Except ε α} (fails : ¬ Succeeds outcome) :
    ∃ error, outcome = .error error := by
  cases outcome with
  | error error => exact ⟨error, rfl⟩
  | ok result => exact absurd (succeeds_ok result) fails

theorem succeeds_bind_iff {first : Except ε α} {next : α → Except ε β} :
    Succeeds (first >>= next) ↔ ∃ value, first = .ok value ∧ Succeeds (next value) := by
  cases first with
  | error error => simp [bind, Except.bind]
  | ok value => simp [bind, Except.bind]

/-- A last step that cannot fail decides nothing. -/
theorem succeeds_bind_pure_iff {first : Except ε α} (last : α → β) :
    Succeeds (first >>= fun value => pure (last value)) ↔ Succeeds first := by
  cases first with
  | error error => simp [bind, Except.bind]
  | ok value => simp [bind, Except.bind, pure, Except.pure]

theorem mapM_eq_ok_iff (step : α → Except ε β) (items : List α) (results : List β) :
    items.mapM step = .ok results ↔
      List.Forall₂ (fun item result => step item = .ok result) items results := by
  induction items generalizing results with
  | nil => cases results <;> simp [pure, Except.pure]
  | cons item rest ih =>
      rw [List.mapM_cons, bind_eq_ok_iff]
      constructor
      · rintro ⟨first, firstIs, tail⟩
        obtain ⟨others, othersAre, same⟩ := bind_eq_ok_iff.mp tail
        cases same
        exact .cons firstIs ((ih others).mp othersAre)
      · intro related
        cases related with
        | @cons _ first _ others firstIs othersAre =>
            exact ⟨first, firstIs, bind_eq_ok_iff.mpr ⟨others, (ih others).mpr othersAre, rfl⟩⟩

theorem mapM_eq_ok_iff_of {step : α → Except ε β} {related : α → β → Prop}
    (pointwise : ∀ item result, step item = .ok result ↔ related item result)
    (items : List α) (results : List β) :
    items.mapM step = .ok results ↔ List.Forall₂ related items results := by
  rw [mapM_eq_ok_iff]
  exact ⟨List.Forall₂.imp fun item result => (pointwise item result).mp,
    List.Forall₂.imp fun item result => (pointwise item result).mpr⟩

theorem mapM_eq_ok_iff_of_mem {step : α → Except ε β} {related : α → β → Prop} {items : List α}
    (pointwise : ∀ item ∈ items, ∀ result, step item = .ok result ↔ related item result)
    (results : List β) :
    items.mapM step = .ok results ↔ List.Forall₂ related items results := by
  rw [mapM_eq_ok_iff]
  induction items generalizing results with
  | nil => cases results <;> simp
  | cons item rest ih =>
      obtain ⟨here, later⟩ := List.forall_mem_cons.mp pointwise
      cases results with
      | nil => simp
      | cons result others => rw [List.forall₂_cons, List.forall₂_cons, here, ih later]

theorem succeeds_mapM_iff (step : α → Except ε β) (items : List α) :
    Succeeds (items.mapM step) ↔ ∀ item ∈ items, Succeeds (step item) := by
  induction items with
  | nil => simp [pure, Except.pure]
  | cons item rest ih =>
      rw [List.mapM_cons, List.forall_mem_cons, succeeds_bind_iff, ← ih]
      constructor
      · rintro ⟨first, firstIs, tail⟩
        exact ⟨⟨first, firstIs⟩, (succeeds_bind_pure_iff _).mp tail⟩
      · rintro ⟨⟨first, firstIs⟩, tail⟩
        exact ⟨first, firstIs, (succeeds_bind_pure_iff _).mpr tail⟩

/-- A traversal fails with the error of the first item that fails. -/
theorem mapM_eq_error_iff (step : α → Except ε β) (items : List α) (error : ε) :
    items.mapM step = .error error ↔ ∃ front item back, items = front ++ item :: back ∧
      (∀ early ∈ front, Succeeds (step early)) ∧ step item = .error error := by
  induction items with
  | nil => simp [pure, Except.pure]
  | cons first rest ih =>
      rw [List.mapM_cons]
      cases here : step first with
      | error other =>
          constructor
          · intro same
            cases same
            exact ⟨[], first, rest, rfl, by simp, here⟩
          · rintro ⟨front, item, back, split, before, failed⟩
            cases front with
            | nil =>
                cases split
                exact congrArg Except.error (Except.error.inj (here.symm.trans failed))
            | cons early others =>
                cases split
                obtain ⟨result, succeeded⟩ := before first List.mem_cons_self
                cases here.symm.trans succeeded
      | ok result =>
          have later : (do
              let others ← rest.mapM step
              pure (result :: others)) = .error error ↔ rest.mapM step = .error error := by
            cases rest.mapM step <;> simp [bind, Except.bind, pure, Except.pure]
          refine later.trans (ih.trans ?_)
          constructor
          · rintro ⟨front, item, back, split, before, failed⟩
            refine ⟨first :: front, item, back, by rw [split, List.cons_append], ?_, failed⟩
            intro early member
            rcases List.mem_cons.mp member with rfl | inside
            · exact ⟨result, here⟩
            · exact before early inside
          · rintro ⟨front, item, back, split, before, failed⟩
            cases front with
            | nil =>
                cases split
                cases here.symm.trans failed
            | cons early others =>
                cases split
                exact ⟨others, item, back, rfl,
                  fun early member => before early (List.mem_cons_of_mem _ member), failed⟩

theorem map_mapM_congr {step : α → Except ε β} {other : α → Except ε γ} {left : β → δ}
    {right : γ → δ} (same : ∀ item, (step item).map left = (other item).map right)
    (items : List α) :
    (items.mapM step).map (List.map left) = (items.mapM other).map (List.map right) := by
  induction items with
  | nil => rfl
  | cons item rest ih =>
      have here := same item
      rw [List.mapM_cons, List.mapM_cons]
      cases first : step item <;> cases second : other item <;>
        rw [first, second] at here <;> simp only [Except.map, reduceCtorEq] at here
      · simpa [bind, Except.bind, Except.map] using here
      · rename_i leftResult rightResult
        have sameHere : left leftResult = right rightResult := by simpa using here
        cases others : rest.mapM step <;> cases more : rest.mapM other <;>
          rw [others, more] at ih <;> simp only [Except.map, reduceCtorEq] at ih
        · simpa [bind, Except.bind, Except.map] using ih
        · have sameRest := Except.ok.inj ih
          simp [bind, Except.bind, Except.map, pure, Except.pure, sameHere, sameRest]

/-- Steps that agree on the items, up to a change of the results, agree on a traversal. -/
theorem mapM_eq_map_mapM {step : α → Except ε β} {other : α → Except ε γ} {change : γ → β}
    {items : List α} (same : ∀ item ∈ items, step item = (other item).map change) :
    items.mapM step = (items.mapM other).map (List.map change) := by
  induction items with
  | nil => rfl
  | cons item rest ih =>
      obtain ⟨here, later⟩ := List.forall_mem_cons.mp same
      rw [List.mapM_cons, List.mapM_cons, here, ih later]
      cases other item with
      | error error => rfl
      | ok first =>
          cases rest.mapM other with
          | error error => rfl
          | ok others => rfl

/-! ### Items and results side by side -/

theorem exists_right_of_mem {related : α → β → Prop} {items : List α} {results : List β}
    (pairs : List.Forall₂ related items results) {item : α} (member : item ∈ items) :
    ∃ result ∈ results, related item result := by
  induction pairs with
  | nil => cases member
  | @cons head result rest others headPair _ ih =>
      rcases List.mem_cons.mp member with same | later
      · subst same
        exact ⟨result, by simp, headPair⟩
      · obtain ⟨found, inside, pair⟩ := ih later
        exact ⟨found, by simp [inside], pair⟩

theorem exists_left_of_mem {related : α → β → Prop} {items : List α} {results : List β}
    (pairs : List.Forall₂ related items results) {result : β} (member : result ∈ results) :
    ∃ item ∈ items, related item result :=
  exists_right_of_mem pairs.flip member

theorem exists_forall₂_iff {related : α → β → Prop} {items : List α} :
    (∀ item ∈ items, ∃ result, related item result) ↔
      ∃ results, List.Forall₂ related items results := by
  constructor
  · intro each
    induction items with
    | nil => exact ⟨[], .nil⟩
    | cons item rest ih =>
        obtain ⟨⟨result, here⟩, later⟩ := List.forall_mem_cons.mp each
        obtain ⟨results, others⟩ := ih later
        exact ⟨result :: results, .cons here others⟩
  · rintro ⟨results, pairs⟩ item member
    obtain ⟨result, _, here⟩ := exists_right_of_mem pairs member
    exact ⟨result, here⟩

theorem forall₂_exists_eq_iff {related : α → β → Prop} {change : α → β → γ} {items : List α}
    {results : List γ} :
    List.Forall₂ (fun item result => ∃ middle, related item middle ∧ change item middle = result)
        items results ↔
      ∃ middles, List.Forall₂ related items middles ∧
        List.zipWith change items middles = results := by
  constructor
  · intro pairs
    induction pairs with
    | nil => exact ⟨[], .nil, rfl⟩
    | cons here _ ih =>
        obtain ⟨middle, isRelated, rfl⟩ := here
        obtain ⟨middles, others, rfl⟩ := ih
        exact ⟨middle :: middles, .cons isRelated others, rfl⟩
  · rintro ⟨middles, pairs, rfl⟩
    induction pairs with
    | nil => exact .nil
    | cons here _ ih => exact .cons ⟨_, here, rfl⟩ ih

theorem exists_split_of_right {related : α → β → Prop} {items : List α} {front back : List β}
    {result : β} (pairs : List.Forall₂ related items (front ++ result :: back)) :
    ∃ before item after, items = before ++ item :: after ∧
      List.Forall₂ related before front ∧ related item result := by
  induction front generalizing items with
  | nil =>
      cases pairs with
      | @cons item _ after _ here _ => exact ⟨[], item, after, rfl, .nil, here⟩
  | cons first rest ih =>
      cases pairs with
      | @cons head _ others _ headPair otherPairs =>
          obtain ⟨before, item, after, rfl, early, here⟩ := ih otherPairs
          exact ⟨head :: before, item, after, rfl, .cons headPair early, here⟩

/-! ### Outcomes side by side -/

/-- Both fail with the same error, or both succeed with related results. -/
inductive Parallel (related : α → β → Prop) :
    Except ε α → Except ε β → Prop
  | error (error : ε) : Parallel related (.error error) (.error error)
  | ok {left : α} {right : β} (pair : related left right) :
      Parallel related (.ok left) (.ok right)

section Parallel

variable {related : α → β → Prop} {after : γ → δ → Prop}

theorem Parallel.bind {first : Except ε α} {second : Except ε β}
    (start : Parallel related first second) {next : α → Except ε γ} {other : β → Except ε δ}
    (later : ∀ left right, related left right → Parallel after (next left) (other right)) :
    Parallel after (first >>= next) (second >>= other) := by
  cases start with
  | error error => exact .error error
  | ok pair => exact later _ _ pair

theorem Parallel.bind_eq {first : Except ε α} {second : Except ε β}
    (start : Parallel related first second) {next : α → Except ε γ} {other : β → Except ε γ}
    (later : ∀ left right, related left right → next left = other right) :
    first >>= next = second >>= other := by
  cases start with
  | error error => rfl
  | ok pair => exact later _ _ pair

theorem mapM_parallel {step : α → Except ε γ} {other : β → Except ε δ}
    (each : ∀ left right, related left right → Parallel after (step left) (other right))
    {lefts : List α} {rights : List β} (pairs : List.Forall₂ related lefts rights) :
    Parallel (List.Forall₂ after) (lefts.mapM step) (rights.mapM other) := by
  induction pairs with
  | nil => exact .ok .nil
  | cons first _ ih =>
      rw [List.mapM_cons, List.mapM_cons]
      exact (each _ _ first).bind fun _ _ pair => ih.bind fun _ _ others => .ok (.cons pair others)

end Parallel

theorem mapM_eq_of_forall₂ {step : α → Except ε γ} {other : β → Except ε γ} {lefts : List α}
    {rights : List β}
    (same : List.Forall₂ (fun left right => step left = other right) lefts rights) :
    lefts.mapM step = rights.mapM other := by
  induction same with
  | nil => rfl
  | cons first _ ih => rw [List.mapM_cons, List.mapM_cons, first, ih]

end Stanza
