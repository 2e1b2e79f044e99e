import Mathlib.Data.List.Basic
import Mathlib.Data.List.Nodup

/-!
Keeping the first of items that are the same. Items are compared by a key; going through them in order,
an item is kept if no earlier one has its key. What has been kept of one list decides what is new in the
next, so dropping repeated items piece by piece and then from the whole is dropping them once.
-/

namespace ZeroError.FirstOccurrences

variable {α κ : Type} [DecidableEq κ]

/-- What is kept already, and after it the first of the items with each key that is new. -/
def keepNew (key : α → κ) (kept items : List α) : List α :=
  items.foldl
    (fun kept item => if kept.any (fun known => key known = key item) then kept else kept ++ [item])
    kept

variable {key : α → κ} {kept items : List α} {item : α}

theorem any_key_iff : kept.any (fun known => key known = key item) = true ↔ key item ∈ kept.map key := by
  simp only [List.any_eq_true, decide_eq_true_eq, List.mem_map]

theorem keepNew_cons_of_known (known : key item ∈ kept.map key) (items : List α) :
    keepNew key kept (item :: items) = keepNew key kept items := by
  rw [keepNew, List.foldl_cons, if_pos (any_key_iff.mpr known)]
  rfl

theorem keepNew_cons_of_new (new : key item ∉ kept.map key) (items : List α) :
    keepNew key kept (item :: items) = keepNew key (kept ++ [item]) items := by
  rw [keepNew, List.foldl_cons, if_neg (fun known => new (any_key_iff.mp known))]
  rfl

theorem keepNew_append (key : α → κ) (kept first second : List α) :
    keepNew key kept (first ++ second) = keepNew key (keepNew key kept first) second :=
  List.foldl_append

/-- A key is found among what is kept exactly if it was there before or some item has it. -/
theorem mem_keys_keepNew_iff {k : κ} :
    k ∈ (keepNew key kept items).map key ↔ k ∈ kept.map key ∨ k ∈ items.map key := by
  induction items generalizing kept with
  | nil => simp only [keepNew, List.foldl_nil, List.map_nil, List.not_mem_nil, or_false]
  | cons item items ih =>
      by_cases known : key item ∈ kept.map key
      · rw [keepNew_cons_of_known known, ih, List.map_cons, List.mem_cons]
        constructor
        · exact Or.imp_right Or.inr
        · rintro (earlier | rfl | later)
          · exact Or.inl earlier
          · exact Or.inl known
          · exact Or.inr later
      · rw [keepNew_cons_of_new known, ih, List.map_append, List.mem_append, List.map_singleton,
          List.mem_singleton, List.map_cons, List.mem_cons, or_assoc]

/-- No key is kept twice. -/
theorem nodup_keys_keepNew (distinct : (kept.map key).Nodup) (items : List α) :
    ((keepNew key kept items).map key).Nodup := by
  induction items generalizing kept with
  | nil => exact distinct
  | cons item items ih =>
      by_cases known : key item ∈ kept.map key
      · rw [keepNew_cons_of_known known]
        exact ih distinct
      · rw [keepNew_cons_of_new known]
        apply ih
        rw [List.map_append, List.map_singleton, ← List.concat_eq_append]
        exact List.Nodup.concat known distinct

private theorem keepNew_nil_cons_of_split (item : α) (items : List α)
    (split : keepNew key [item] items =
      [item] ++ (keepNew key [] items).filter (fun other => key other ∉ [item].map key)) :
    keepNew key [] (item :: items) =
      item :: (keepNew key [] items).filter (fun other => key other ≠ key item) := by
  rw [keepNew_cons_of_new List.not_mem_nil, List.nil_append, split]
  simp only [List.map_singleton, List.mem_singleton, List.singleton_append, ne_eq]

/-- What is kept besides what was there is what would be kept of the items alone, less the keys that
were there. -/
theorem keepNew_eq_append (key : α → κ) (kept items : List α) :
    keepNew key kept items =
      kept ++ (keepNew key [] items).filter (fun item => key item ∉ kept.map key) := by
  induction items generalizing kept with
  | nil => exact (List.append_nil kept).symm
  | cons item items ih =>
      rw [keepNew_nil_cons_of_split item items (ih [item])]
      by_cases known : key item ∈ kept.map key
      · rw [keepNew_cons_of_known known, ih kept,
          List.filter_cons_of_neg (by simpa using known), List.filter_filter]
        congr 1
        apply List.filter_congr
        intro other _member
        rw [← Bool.decide_and]
        apply decide_eq_decide.mpr
        constructor
        · intro new
          exact ⟨new, fun same => new (same ▸ known)⟩
        · exact And.left
      · rw [keepNew_cons_of_new known, ih (kept ++ [item]),
          List.filter_cons_of_pos (by simpa using known), List.filter_filter, List.append_assoc,
          List.singleton_append]
        congr 2
        apply List.filter_congr
        intro other _member
        rw [← Bool.decide_and]
        apply decide_eq_decide.mpr
        rw [List.map_append, List.mem_append, List.map_singleton, List.mem_singleton, not_or]

theorem keepNew_nil_cons (key : α → κ) (item : α) (items : List α) :
    keepNew key [] (item :: items) =
      item :: (keepNew key [] items).filter (fun other => key other ≠ key item) :=
  keepNew_nil_cons_of_split item items (keepNew_eq_append key [item] items)

/-- Leaving out all items with some keys may be done before or after. -/
theorem keepNew_filter {keeps : α → Bool}
    (respects : ∀ item other, key item = key other → keeps item = keeps other) (items : List α) :
    keepNew key [] (items.filter keeps) = (keepNew key [] items).filter keeps := by
  induction items with
  | nil => rfl
  | cons item items ih =>
      rw [keepNew_nil_cons]
      cases kept : keeps item with
      | true =>
          rw [List.filter_cons_of_pos kept, List.filter_cons_of_pos kept, keepNew_nil_cons, ih,
            List.filter_filter, List.filter_filter]
          simp only [Bool.and_comm]
      | false =>
          have rejected : ¬keeps item = true := Bool.eq_false_iff.mp kept
          rw [List.filter_cons_of_neg rejected, List.filter_cons_of_neg rejected, ih,
            List.filter_filter]
          apply List.filter_congr
          intro other _member
          by_cases same : key other = key item
          · rw [respects other item same, kept, Bool.false_and]
          · rw [decide_eq_true same, Bool.and_true]

/-- With items that are compared as they are, this is the library's way to drop repeated ones. -/
theorem keepNew_id_eq_eraseDups (items : List κ) : keepNew id [] items = items.eraseDups := by
  cases items with
  | nil => rfl
  | cons item items =>
      have rest := keepNew_id_eq_eraseDups (items.filter (fun other => !other == item))
      have filtered : keepNew id [] (items.filter (fun other => !other == item)) =
          (keepNew id [] items).filter (fun other => !other == item) :=
        keepNew_filter (fun first second same => congrArg (fun other => !other == item) same) items
      rw [keepNew_nil_cons, List.eraseDups_cons, ← rest, filtered]
      congr 1
      apply List.filter_congr
      intro other _member
      exact decide_not
termination_by items.length
decreasing_by
  have atMost := List.length_filter_le (fun other => !other == item) items
  rw [List.length_cons]
  omega

end ZeroError.FirstOccurrences
