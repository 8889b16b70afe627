import Mathlib.Data.List.Forall2

/-!
# Outcomes of steps that may fail

When a sequence of steps succeeds and when it fails, and with what: of two steps in a
row, of one step for each item of a list, and of a fold over a list. What succeeds has
done so in every step; what fails does so as the first step that fails.
-/

namespace TypedSql

variable {ε δ α β σ : Type}

/-! ## Two steps -/

/-- A step and what follows it succeed exactly when both do. -/
theorem bind_eq_ok
    {step : Except ε α}
    {next : α → Except ε β}
    {result : β} :
    (step >>= next) = .ok result ↔ ∃ value, step = .ok value ∧ next value = .ok result := by
  cases step with
  | error cause => simp [bind, Except.bind]
  | ok value => simp [bind, Except.bind]

/-- What follows a step that succeeds fails as the step does or as what follows it. -/
theorem bind_eq_error
    {step : Except ε α}
    {next : α → Except ε β}
    {cause : ε} :
    (step >>= next) = .error cause ↔
      step = .error cause ∨ ∃ value, step = .ok value ∧ next value = .error cause := by
  cases step with
  | error other => simp [bind, Except.bind]
  | ok value => simp [bind, Except.bind]

theorem pure_eq_ok {value result : α} :
    (pure value : Except ε α) = .ok result ↔ value = result := by
  simp [pure, Except.pure]

/-- What follows a check succeeds where the check finds nothing wrong. -/
theorem check_bind_eq_ok
    {wrong : Prop}
    [Decidable wrong]
    {cause : ε}
    {next : Except ε α}
    {result : α} :
    (if wrong then (throw cause >>= fun _ : PUnit => next) else next) = .ok result ↔
      ¬wrong ∧ next = .ok result := by
  by_cases isWrong : wrong
  · rw [if_pos isWrong]
    constructor
    · intro succeeded
      cases succeeded
    · intro both
      exact absurd isWrong both.1
  · rw [if_neg isWrong]
    exact (and_iff_right isWrong).symm

theorem mapError_eq_error
    {step : Except ε α}
    {wrap : ε → δ}
    {cause : δ}
    (failed : step.mapError wrap = .error cause) :
    ∃ inner, step = .error inner ∧ cause = wrap inner := by
  cases step with
  | ok value => cases failed
  | error inner =>
      cases failed
      exact ⟨inner, rfl, rfl⟩

/-! ## A step for each item -/

/-- What every related image has, all images have. -/
theorem forall_mem_of_forall₂
    {relates : α → β → Prop}
    {holds : β → Prop}
    {left : List α}
    {right : List β}
    (related : List.Forall₂ relates left right)
    (implies : ∀ first ∈ left, ∀ second, relates first second → holds second) :
    ∀ second ∈ right, holds second := by
  induction related with
  | nil => simp
  | cons first _ inductionHypothesis =>
      obtain ⟨firstImplies, othersImply⟩ := List.forall_mem_cons.mp implies
      exact List.forall_mem_cons.mpr ⟨firstImplies _ first, inductionHypothesis othersImply⟩

/-- Items are turned into others one by one if each of them is. -/
theorem mapM_eq_ok
    {step : α → Except ε β}
    {items : List α}
    {results : List β} :
    items.mapM step = .ok results ↔
      List.Forall₂ (fun item result => step item = .ok result) items results := by
  induction items generalizing results with
  | nil =>
      rw [List.mapM_nil, List.forall₂_nil_left_iff, pure_eq_ok]
      exact eq_comm
  | cons item items inductionHypothesis =>
      simp only [List.mapM_cons, bind_eq_ok, pure_eq_ok, inductionHypothesis,
        List.forall₂_cons_left_iff]
      constructor
      · rintro ⟨first, becomes, others, othersBecome, rfl⟩
        exact ⟨first, others, becomes, othersBecome, rfl⟩
      · rintro ⟨first, others, becomes, othersBecome, rfl⟩
        exact ⟨first, becomes, others, othersBecome, rfl⟩

/-- They are not if one of them fails, and the first that does says why. -/
theorem mapM_eq_error
    {step : α → Except ε β}
    {items : List α}
    {cause : ε} :
    items.mapM step = .error cause ↔
      ∃ front item back results, items = front ++ item :: back ∧
        List.Forall₂ (fun item result => step item = .ok result) front results ∧
        step item = .error cause := by
  constructor
  · intro failed
    induction items with
    | nil => cases failed
    | cons item items inductionHypothesis =>
        rw [List.mapM_cons] at failed
        rcases bind_eq_error.mp failed with first | ⟨result, becomes, others⟩
        · exact ⟨[], item, items, [], rfl, .nil, first⟩
        · rcases bind_eq_error.mp others with later | ⟨_, _, returned⟩
          · obtain ⟨front, refused, back, results, rfl, frontBecomes, refusal⟩ :=
              inductionHypothesis later
            exact ⟨item :: front, refused, back, result :: results, rfl,
              .cons becomes frontBecomes, refusal⟩
          · cases returned
  · rintro ⟨front, item, back, results, rfl, becomes, refusal⟩
    rw [List.mapM_append, mapM_eq_ok.mpr becomes, List.mapM_cons, refusal]
    rfl

/-- Items that are turned into others one by one fail as one of them does. -/
theorem exists_of_mapM_eq_error
    {step : α → Except ε β}
    {items : List α}
    {cause : ε}
    (failed : items.mapM step = .error cause) :
    ∃ item ∈ items, step item = .error cause := by
  obtain ⟨front, item, back, _, rfl, _, refusal⟩ := mapM_eq_error.mp failed
  exact ⟨item, List.mem_append_right front List.mem_cons_self, refusal⟩

/-- Items that are turned into others one by one give nothing but what comes of them. -/
theorem exists_of_mem_mapM
    {step : α → Except ε β}
    {items : List α}
    {results : List β}
    {result : β}
    (mapped : items.mapM step = .ok results)
    (member : result ∈ results) :
    ∃ item ∈ items, step item = .ok result := by
  have each : ∀ result ∈ results, ∃ item ∈ items, step item = .ok result :=
    forall_mem_of_forall₂ (mapM_eq_ok.mp mapped)
      fun item listed _ becomes => ⟨item, listed, becomes⟩
  exact each result member

/-! ## A fold -/

/-- A fold fails if one of its items does, and the first that does says why. -/
theorem foldlM_eq_error
    {step : σ → α → Except ε σ}
    {initial : σ}
    {items : List α}
    {cause : ε} :
    items.foldlM step initial = .error cause ↔
      ∃ front item back state, items = front ++ item :: back ∧
        front.foldlM step initial = .ok state ∧ step state item = .error cause := by
  constructor
  · intro failed
    induction items generalizing initial with
    | nil => cases failed
    | cons item items inductionHypothesis =>
        rw [List.foldlM_cons] at failed
        rcases bind_eq_error.mp failed with first | ⟨next, stepped, others⟩
        · exact ⟨[], item, items, initial, rfl, rfl, first⟩
        · obtain ⟨front, refused, back, state, rfl, accepted, refusal⟩ :=
            inductionHypothesis others
          refine ⟨item :: front, refused, back, state, rfl, ?_, refusal⟩
          rw [List.foldlM_cons, stepped]
          exact accepted
  · rintro ⟨front, item, back, state, rfl, accepted, refusal⟩
    rw [List.foldlM_append, accepted]
    change (item :: back).foldlM step state = .error cause
    rw [List.foldlM_cons, refusal]
    rfl

/-- A fold over items with one among them that is always refused does not succeed. -/
theorem foldlM_ne_ok_of_mem
    {step : σ → α → Except ε σ}
    {initial result : σ}
    {items : List α}
    {item : α}
    {cause : ε}
    (refuses : ∀ state, step state item = .error cause)
    (member : item ∈ items) :
    items.foldlM step initial ≠ .ok result := by
  intro folded
  obtain ⟨front, back, rfl⟩ := List.append_of_mem member
  rw [List.foldlM_append] at folded
  obtain ⟨state, _, later⟩ := bind_eq_ok.mp folded
  rw [List.foldlM_cons, refuses state] at later
  cases later

end TypedSql
