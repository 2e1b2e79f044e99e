import Mathlib.Data.List.Forall2

/-!
Attempts made one after another on the items of a list. All succeed together, each with its own
value, or the first that fails is the failure of the whole. Grouping the items changes neither.
-/

namespace ZeroError.Attempts

variable {α β γ ε : Type}

theorem map_eq_error_iff {attempt : Except ε α} {change : α → β} {cause : ε} :
    attempt.map change = .error cause ↔ attempt = .error cause := by
  cases attempt with
  | error other => simp only [Except.map, Except.error.injEq]
  | ok value => simp only [Except.map, reduceCtorEq]

theorem map_eq_ok_iff {attempt : Except ε α} {change : α → β} {result : β} :
    attempt.map change = .ok result ↔ ∃ value, attempt = .ok value ∧ change value = result := by
  cases attempt with
  | error cause => simp only [Except.map, reduceCtorEq, false_and, exists_false]
  | ok value => simp only [Except.map, Except.ok.injEq, exists_eq_left']

theorem map_map (attempt : Except ε α) (first : α → β) (second : β → γ) :
    (attempt.map first).map second = attempt.map (fun value => second (first value)) := by
  cases attempt with
  | error cause => rfl
  | ok value => rfl

theorem mapError_eq_ok_iff {attempt : Except ε α} {word : ε → γ} {value : α} :
    attempt.mapError word = .ok value ↔ attempt = .ok value := by
  cases attempt with
  | error cause => simp only [Except.mapError, reduceCtorEq]
  | ok other => simp only [Except.mapError, Except.ok.injEq]

theorem mapError_eq_error_iff {attempt : Except ε α} {word : ε → γ} {cause : γ} :
    attempt.mapError word = .error cause ↔ ∃ reason, attempt = .error reason ∧ word reason = cause := by
  cases attempt with
  | error other => simp only [Except.mapError, Except.error.injEq, exists_eq_left']
  | ok value => simp only [Except.mapError, reduceCtorEq, false_and, exists_false]

theorem bind_eq_ok_iff {attempt : Except ε α} {next : α → Except ε β} {result : β} :
    attempt >>= next = .ok result ↔ ∃ value, attempt = .ok value ∧ next value = .ok result := by
  cases attempt with
  | error cause => simp only [bind, Except.bind, reduceCtorEq, false_and, exists_false]
  | ok value => simp only [bind, Except.bind, Except.ok.injEq, exists_eq_left']

/-- A check that gives nothing only decides whether what follows is attempted. -/
theorem check_eq_ok_iff {check : Except ε Unit} {next : Unit → Except ε β} {result : β} :
    check >>= next = .ok result ↔ check = .ok () ∧ next () = .ok result := by
  rw [bind_eq_ok_iff]
  exact ⟨fun ⟨_, checked, followed⟩ => ⟨checked, followed⟩, fun both => ⟨(), both⟩⟩

theorem bind_eq_error_iff {attempt : Except ε α} {next : α → Except ε β} {cause : ε} :
    attempt >>= next = .error cause ↔
      attempt = .error cause ∨ ∃ value, attempt = .ok value ∧ next value = .error cause := by
  cases attempt with
  | error other =>
      simp only [bind, Except.bind, Except.error.injEq, reduceCtorEq, false_and, exists_false, or_false]
  | ok value =>
      simp only [bind, Except.bind, Except.ok.injEq, reduceCtorEq, false_or, exists_eq_left']

theorem forM_eq_ok_iff {check : α → Except ε Unit} {items : List α} :
    items.forM check = .ok () ↔ ∀ item ∈ items, check item = .ok () := by
  induction items with
  | nil => exact ⟨fun _ item member => absurd member List.not_mem_nil, fun _ => rfl⟩
  | cons item items ih =>
      rw [List.forall_mem_cons, ← ih]
      exact check_eq_ok_iff

theorem mapM_cons_of_error {attempt : α → Except ε β} {item : α} {cause : ε}
    (failed : attempt item = .error cause) (items : List α) :
    (item :: items).mapM attempt = .error cause := by
  rw [List.mapM_cons, failed]
  rfl

theorem mapM_cons_of_ok {attempt : α → Except ε β} {item : α} {value : β}
    (succeeded : attempt item = .ok value) (items : List α) :
    (item :: items).mapM attempt = (items.mapM attempt).map (List.cons value) := by
  rw [List.mapM_cons, succeeded]
  cases items.mapM attempt with
  | error cause => rfl
  | ok values => rfl

/-- All attempts succeed exactly if each does, and then each has its own value. -/
theorem mapM_eq_ok_iff {attempt : α → Except ε β} {items : List α} {values : List β} :
    items.mapM attempt = .ok values ↔
      List.Forall₂ (fun item value => attempt item = .ok value) items values := by
  induction items generalizing values with
  | nil =>
      rw [List.mapM_nil, List.forall₂_nil_left_iff]
      exact Except.ok.injEq [] values ▸ eq_comm
  | cons item items ih =>
      rw [List.forall₂_cons_left_iff]
      cases tried : attempt item with
      | error cause =>
          rw [mapM_cons_of_error tried]
          simp only [reduceCtorEq, false_and, exists_false]
      | ok value =>
          rw [mapM_cons_of_ok tried]
          simp only [map_eq_ok_iff, ih, Except.ok.injEq]
          constructor
          · rintro ⟨rest, each, rfl⟩
            exact ⟨value, rest, rfl, each, rfl⟩
          · rintro ⟨_, rest, rfl, each, rfl⟩
            exact ⟨rest, each, rfl⟩

/-- The attempts fail exactly if one of them fails after others that succeed, and then with its
cause. -/
theorem mapM_eq_error_iff {attempt : α → Except ε β} {items : List α} {cause : ε} :
    items.mapM attempt = .error cause ↔
      ∃ before item after, items = before ++ item :: after ∧
        (∀ other ∈ before, ∃ value, attempt other = .ok value) ∧ attempt item = .error cause := by
  induction items with
  | nil =>
      constructor
      · intro impossible
        cases impossible
      · intro ⟨before, item, after, impossible, _⟩
        exact False.elim (List.append_ne_nil_of_right_ne_nil before (List.cons_ne_nil item after)
          impossible.symm)
  | cons first items ih =>
      cases tried : attempt first with
      | error other =>
          rw [mapM_cons_of_error tried]
          constructor
          · intro same
            cases same
            refine ⟨[], first, items, rfl, ?_, tried⟩
            intro other member
            cases member
          · intro ⟨before, item, after, split, succeeded, failed⟩
            cases before with
            | nil =>
                cases split
                cases tried.symm.trans failed
                rfl
            | cons head before =>
                cases split
                obtain ⟨value, ok⟩ := succeeded first List.mem_cons_self
                cases tried.symm.trans ok
      | ok value =>
          rw [mapM_cons_of_ok tried, map_eq_error_iff, ih]
          constructor
          · rintro ⟨before, item, after, rfl, succeeded, failed⟩
            refine ⟨first :: before, item, after, rfl, ?_, failed⟩
            intro other member
            rcases List.mem_cons.mp member with rfl | later
            · exact ⟨value, tried⟩
            · exact succeeded other later
          · intro ⟨before, item, after, split, succeeded, failed⟩
            cases before with
            | nil =>
                cases split
                cases tried.symm.trans failed
            | cons head before =>
                cases split
                exact ⟨before, item, after, rfl,
                  fun other member => succeeded other (List.mem_cons_of_mem first member), failed⟩

theorem exists_mapM_eq_error_iff {attempt : α → Except ε β} {items : List α} :
    (∃ cause, items.mapM attempt = .error cause) ↔
      ∃ item ∈ items, ∃ cause, attempt item = .error cause := by
  constructor
  · intro ⟨cause, failed⟩
    obtain ⟨before, item, after, rfl, _, itemFailed⟩ := mapM_eq_error_iff.mp failed
    exact ⟨item, List.mem_append_cons_self, cause, itemFailed⟩
  · intro ⟨item, member, cause, failed⟩
    induction items with
    | nil => cases member
    | cons first items ih =>
        cases tried : attempt first with
        | error other => exact ⟨other, mapM_cons_of_error tried items⟩
        | ok value =>
            rcases List.mem_cons.mp member with rfl | later
            · cases tried.symm.trans failed
            · obtain ⟨other, rest⟩ := ih later
              exact ⟨other, by rw [mapM_cons_of_ok tried, rest]; rfl⟩

theorem mem_of_mapM_eq_ok {attempt : α → Except ε β} {items : List α} {values : List β} {item : α}
    {value : β} (succeeded : items.mapM attempt = .ok values) (member : item ∈ items)
    (result : attempt item = .ok value) : value ∈ values := by
  have each := mapM_eq_ok_iff.mp succeeded
  clear succeeded
  induction each with
  | nil => cases member
  | cons first _ ih =>
      rcases List.mem_cons.mp member with rfl | later
      · cases result.symm.trans first
        exact List.mem_cons_self
      · exact List.mem_cons_of_mem _ (ih later)

theorem exists_of_mem_mapM {attempt : α → Except ε β} {items : List α} {values : List β} {value : β}
    (succeeded : items.mapM attempt = .ok values) (member : value ∈ values) :
    ∃ item ∈ items, attempt item = .ok value := by
  have each := mapM_eq_ok_iff.mp succeeded
  clear succeeded
  induction each with
  | nil => cases member
  | @cons item _ _ _ first _ ih =>
      rcases List.mem_cons.mp member with rfl | later
      · exact ⟨item, List.mem_cons_self, first⟩
      · obtain ⟨other, listed, tried⟩ := ih later
        exact ⟨other, List.mem_cons_of_mem _ listed, tried⟩

theorem mapM_map_value (attempt : α → Except ε β) (change : β → γ) (items : List α) :
    items.mapM (fun item => (attempt item).map change) =
      (items.mapM attempt).map (List.map change) := by
  induction items with
  | nil => rfl
  | cons item items ih =>
      rw [List.mapM_cons, List.mapM_cons, ih]
      cases attempt item with
      | error cause => rfl
      | ok value =>
          cases items.mapM attempt with
          | error cause => rfl
          | ok values => rfl

theorem mapM_flatten (attempt : α → Except ε β) (groups : List (List α)) :
    (groups.mapM (List.mapM attempt)).map List.flatten = groups.flatten.mapM attempt := by
  induction groups with
  | nil => rfl
  | cons group groups ih =>
      rw [List.flatten_cons, List.mapM_append, ← ih]
      cases tried : group.mapM attempt with
      | error cause =>
          rw [mapM_cons_of_error tried]
          rfl
      | ok values =>
          rw [mapM_cons_of_ok tried, map_map]
          cases groups.mapM (List.mapM attempt) with
          | error cause => rfl
          | ok rest => rfl

theorem map_eq_map_of_mapM_eq_ok {attempt : α → Except ε β} {items : List α} {values : List β}
    {ofItem : α → γ} {ofValue : β → γ} (succeeded : items.mapM attempt = .ok values)
    (shared : ∀ item value, attempt item = .ok value → ofValue value = ofItem item) :
    values.map ofValue = items.map ofItem := by
  have each := mapM_eq_ok_iff.mp succeeded
  clear succeeded
  induction each with
  | nil => rfl
  | cons first _ ih => rw [List.map_cons, List.map_cons, shared _ _ first, ih]

end ZeroError.Attempts
