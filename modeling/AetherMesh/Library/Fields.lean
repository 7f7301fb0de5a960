import Mathlib.Data.List.Basic

/-!
Texts that are made of fields with one separator between each two. When no field holds the separator,
the fields can be read back, so that equal texts have equal fields.
-/

namespace Fields

variable {α : Type*} {separator item : α} {field front rest other : List α}
  {left right fields : List (List α)}

theorem mem_intercalate (within : item ∈ [separator].intercalate fields) :
    item = separator ∨ ∃ field ∈ fields, item ∈ field := by
  induction fields with
  | nil => cases within
  | cons first later ih =>
      by_cases last : later = []
      · subst last
        rw [List.intercalate_singleton] at within
        exact Or.inr ⟨first, List.mem_cons_self, within⟩
      · rw [List.intercalate_cons_of_ne_nil last] at within
        rcases List.mem_append.mp within with begins | goes
        · rcases List.mem_append.mp begins with own | between
          · exact Or.inr ⟨first, List.mem_cons_self, own⟩
          · exact Or.inl (List.mem_singleton.mp between)
        · rcases ih goes with same | ⟨field, among, inside⟩
          · exact Or.inl same
          · exact Or.inr ⟨field, List.mem_cons_of_mem _ among, inside⟩

theorem mem_intercalate_of_mem (among : field ∈ fields) (inside : item ∈ field) :
    item ∈ [separator].intercalate fields := by
  induction fields with
  | nil => cases among
  | cons first later ih =>
      by_cases last : later = []
      · subst last
        rw [List.mem_singleton.mp among] at inside
        rwa [List.intercalate_singleton]
      · rw [List.intercalate_cons_of_ne_nil last]
        rcases List.mem_cons.mp among with same | behind
        · subst same
          exact List.mem_append_left _ (List.mem_append_left _ inside)
        · exact List.mem_append_right _ (ih behind)

/-- Neither list may be empty: an empty text is one empty field. -/
theorem intercalate_injective [DecidableEq α] (leftClean : ∀ field ∈ left, separator ∉ field)
    (rightClean : ∀ field ∈ right, separator ∉ field) (leftSome : left ≠ [])
    (rightSome : right ≠ [])
    (same : [separator].intercalate left = [separator].intercalate right) : left = right := by
  rw [← List.splitOn_intercalate separator leftClean leftSome, same,
    List.splitOn_intercalate separator rightClean rightSome]

theorem intercalate_cons_append (rest : List α) :
    [separator].intercalate ((front ++ separator :: rest) :: fields) =
      front ++ separator :: [separator].intercalate (rest :: fields) := by
  cases fields with
  | nil => rw [List.intercalate_singleton, List.intercalate_singleton]
  | cons first later =>
      rw [List.intercalate_cons_cons, List.intercalate_cons_cons]
      simp only [List.append_assoc, List.cons_append]

theorem intercalate_ended (left right : List (List α)) :
    [separator].intercalate (left.flatMap (· ++ [separator]) :: right) =
      [separator].intercalate (left ++ [] :: right) := by
  induction left with
  | nil => rfl
  | cons first later ih =>
      rw [List.flatMap_cons, List.append_assoc, List.singleton_append, intercalate_cons_append, ih,
        List.cons_append, List.intercalate_cons_of_ne_nil (by simp)]
      simp only [List.append_assoc, List.singleton_append]

variable [DecidableEq α] {text : List α}

theorem splitOn_clean (among : field ∈ text.splitOn separator) : separator ∉ field := by
  induction text generalizing field with
  | nil =>
      rw [List.splitOn_nil, List.mem_singleton] at among
      rw [among]
      exact List.not_mem_nil
  | cons first later ih =>
      rw [List.splitOn_cons_eq_if_modifyHead] at among
      by_cases here : first = separator
      · rw [if_pos (beq_iff_eq.mpr here)] at among
        rcases List.mem_cons.mp among with empty | behind
        · rw [empty]
          exact List.not_mem_nil
        · exact ih behind
      · rw [if_neg (by rwa [beq_iff_eq])] at among
        cases split : later.splitOn separator with
        | nil => exact absurd split (List.splitOn_ne_nil _ _)
        | cons head tail =>
            rw [split] at among ih
            rcases List.mem_cons.mp among with joined | behind
            · rw [joined]
              intro inside
              rcases List.mem_cons.mp inside with same | within
              · exact here same.symm
              · exact ih List.mem_cons_self within
            · exact ih (List.mem_cons_of_mem _ behind)

theorem mem_of_splitOn (among : field ∈ text.splitOn separator) (inside : item ∈ field) :
    item ∈ text := by
  have whole : [separator].intercalate (text.splitOn separator) = text :=
    List.intercalate_splitOn separator
  rw [← whole]
  exact mem_intercalate_of_mem among inside

theorem first_field (clean : separator ∉ front) (otherClean : separator ∉ other)
    {left right : List α} (same : front ++ separator :: left = other ++ separator :: right) :
    front = other ∧ left = right := by
  have fields := congrArg (List.splitOn separator) same
  rw [List.splitOn_append_cons_self_of_not_mem clean,
    List.splitOn_append_cons_self_of_not_mem otherClean] at fields
  have heads := (List.cons.inj fields).1
  subst heads
  exact ⟨rfl, (List.cons.inj (List.append_cancel_left same)).2⟩

end Fields
