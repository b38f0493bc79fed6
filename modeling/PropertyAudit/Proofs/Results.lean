/-! Results that may be faults: what a step after another step and a renamed fault come to, and what items
come to that may each come to nothing. -/
namespace PropertyAudit

variable {α β ε ε' : Type}

theorem bind_eq_ok_iff {first : Except ε α} {next : α → Except ε β} {value : β} :
    (first >>= next) = .ok value ↔ ∃ middle, first = .ok middle ∧ next middle = .ok value := by
  cases first with
  | error fault => simp [bind, Except.bind]
  | ok middle => simp [bind, Except.bind]

theorem map_eq_ok_iff {result : Except ε α} {convert : α → β} {value : β} :
    convert <$> result = .ok value ↔ ∃ found, result = .ok found ∧ convert found = value := by
  cases result with
  | error fault => simp [Functor.map, Except.map]
  | ok found => simp [Functor.map, Except.map]

theorem toOption_eq_some_iff {result : Except ε α} {value : α} :
    result.toOption = some value ↔ result = .ok value := by
  cases result with
  | error fault => simp [Except.toOption]
  | ok found => simp [Except.toOption]

theorem mapError_eq_ok_iff {result : Except ε α} {convert : ε → ε'} {value : α} :
    result.mapError convert = .ok value ↔ result = .ok value := by
  cases result with
  | error fault => constructor <;> rintro ⟨⟩
  | ok found =>
    constructor
    · rintro ⟨⟩
      rfl
    · rintro ⟨⟩
      rfl

theorem exists_eq_error_iff {result : Except ε α} :
    (∃ fault, result = .error fault) ↔ ¬∃ value, result = .ok value := by
  cases result with
  | error fault => simp
  | ok value => simp

theorem mapM_congr {convert other : α → Except ε β} {items : List α}
    (same : ∀ item ∈ items, convert item = other item) : items.mapM convert = items.mapM other := by
  induction items with
  | nil => rfl
  | cons item items ih =>
    have ⟨here, others⟩ := List.forall_mem_cons.mp same
    rw [List.mapM_cons, List.mapM_cons, here, ih others]

/-- Steps that do not fail may be left out. -/
theorem forM_filter {step other : α → Except ε Unit} {items : List α} (kept : α → Bool)
    (same : ∀ item ∈ items, kept item → step item = other item)
    (passed : ∀ item ∈ items, ¬kept item → step item = .ok ()) :
    forM items step = forM (items.filter kept) other := by
  induction items with
  | nil => rfl
  | cons item items ih =>
    have ⟨here, later⟩ := List.forall_mem_cons.mp same
    have ⟨passedHere, passedLater⟩ := List.forall_mem_cons.mp passed
    rw [List.forM_cons, ih later passedLater]
    by_cases keeps : kept item
    · rw [List.filter_cons_of_pos keeps, List.forM_cons, here keeps]
    · rw [List.filter_cons_of_neg keeps, passedHere keeps]
      rfl

theorem forM_eq_ok {step : α → Except ε Unit} {items : List α}
    (passed : ∀ item ∈ items, step item = .ok ()) : forM items step = .ok () := by
  have none : forM items step = forM (items.filter fun _ => false) step :=
    forM_filter _ (by simp) (by simpa using passed)
  rw [none, List.filter_eq_nil_iff.mpr (by simp)]
  rfl

theorem mapM_eq_some_iff {convert : α → Option β} {items : List α} {results : List β} :
    items.mapM convert = some results ↔ items.map convert = results.map some := by
  induction items generalizing results with
  | nil => cases results <;> simp
  | cons item items ih =>
    rw [List.mapM_cons]
    cases results with
    | nil => cases convert item <;> cases items.mapM convert <;> simp
    | cons first others =>
      rw [List.map_cons, List.map_cons, List.cons.injEq, ← ih]
      cases convert item <;> cases items.mapM convert <;> simp

theorem mem_of_mapM_eq_some {convert : α → Option β} {items : List α} {results : List β}
    (all : items.mapM convert = some results) {result : β} :
    result ∈ results ↔ ∃ item ∈ items, convert item = some result := by
  have same := mapM_eq_some_iff.mp all
  have lifted : result ∈ results ↔ some result ∈ results.map some := by simp
  rw [lifted, ← same, List.mem_map]

theorem exists_mapM_eq_some_iff {convert : α → Option β} {items : List α} :
    (∃ results, items.mapM convert = some results) ↔ ∀ item ∈ items, (convert item).isSome := by
  induction items with
  | nil => simp
  | cons item items ih =>
    rw [List.forall_mem_cons, ← ih, List.mapM_cons]
    cases convert item <;> cases items.mapM convert <;> simp

end PropertyAudit
