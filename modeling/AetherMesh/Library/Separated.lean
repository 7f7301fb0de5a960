import Mathlib.Data.List.Basic

/-!
Lists of fields written one after another, each followed by a separator that the
fields may contain themselves. Where the first two fields that differ tell the
lists apart, the lists are written differently.
-/

namespace Separated

variable {α : Type*}

def joined (separator : α) (fields : List (List α)) : List α :=
  fields.flatMap (· ++ [separator])

/-- Of the first two fields that differ neither goes on with a separator where the other one ends. -/
def Apart [DecidableEq α] (separator : α) : List (List α) → List (List α) → Prop
  | field :: left, other :: right =>
      if field = other then Apart separator left right
      else ¬ field ++ [separator] <+: other ∧ ¬ other ++ [separator] <+: field
  | _, _ => True

instance decidableApart [DecidableEq α] (separator : α) :
    ∀ left right, Decidable (Apart separator left right)
  | field :: left, other :: right =>
      have _later := decidableApart separator left right
      inferInstanceAs (Decidable (if field = other then _ else _))
  | [], _ => .isTrue (by simp [Apart])
  | _ :: _, [] => .isTrue trivial

variable {separator : α}

@[simp] theorem joined_nil : joined separator [] = [] := rfl

theorem joined_cons (field : List α) (rest : List (List α)) :
    joined separator (field :: rest) = field ++ separator :: joined separator rest := by
  simp [joined]

theorem prefix_of_heads {field other : List α} {left right : List α}
    (same : field ++ separator :: left = other ++ separator :: right)
    (order : field.length < other.length) : field ++ [separator] <+: other := by
  have first : field ++ [separator] <+: other ++ separator :: right :=
    ⟨left, by rw [List.append_assoc, List.singleton_append, same]⟩
  exact List.prefix_of_prefix_length_le first (List.prefix_append _ _) (by simpa using Nat.succ_le_of_lt order)

theorem Apart.eq_of_joined [DecidableEq α] {left right : List (List α)}
    (apart : Apart separator left right) (same : joined separator left = joined separator right) :
    left = right := by
  induction left generalizing right with
  | nil =>
      cases right with
      | nil => rfl
      | cons other right => simp [joined_cons] at same
  | cons field left ih =>
      cases right with
      | nil => simp [joined_cons] at same
      | cons other right =>
          rw [joined_cons, joined_cons] at same
          rw [Apart] at apart
          split at apart
          · rename_i equal
            subst equal
            rw [ih apart (List.cons.inj (List.append_cancel_left same)).2]
          · rename_i different
            rcases Nat.lt_trichotomy field.length other.length with less | equal | more
            · exact absurd (prefix_of_heads same less) apart.1
            · exact absurd (List.append_inj_left same equal) different
            · exact absurd (prefix_of_heads same.symm more) apart.2

theorem flatMap_injective_of_length {β : Type*} {encode : β → List α} {size : Nat}
    (positive : 0 < size) {left right : List β}
    (sizes : ∀ item ∈ left ++ right, (encode item).length = size)
    (injective : ∀ item ∈ left, ∀ other ∈ right, encode item = encode other → item = other)
    (same : left.flatMap encode = right.flatMap encode) : left = right := by
  induction left generalizing right with
  | nil =>
      cases right with
      | nil => rfl
      | cons other right =>
          have length := sizes other (by simp)
          have empty := congrArg List.length same
          simp only [List.flatMap_nil, List.flatMap_cons, List.length_nil, List.length_append] at empty
          omega
  | cons item left ih =>
      cases right with
      | nil =>
          have length := sizes item (by simp)
          have empty := congrArg List.length same
          simp only [List.flatMap_nil, List.flatMap_cons, List.length_nil, List.length_append] at empty
          omega
      | cons other right =>
          rw [List.flatMap_cons, List.flatMap_cons] at same
          have lengths : (encode item).length = (encode other).length :=
            (sizes item (by simp)).trans (sizes other (by simp)).symm
          obtain ⟨heads, tails⟩ := List.append_inj same lengths
          have rest := ih
            (fun item member => sizes item (by
              rcases List.mem_append.mp member with inLeft | inRight
              · simp [inLeft]
              · simp [inRight]))
            (fun item member other otherMember => injective item (List.mem_cons_of_mem _ member)
              other (List.mem_cons_of_mem _ otherMember)) tails
          rw [injective item (by simp) other (by simp) heads, rest]

/-- The fields of a text in reading order, each with whether a separator ends it. What comes
after the last separator is a field unless it is empty. -/
def linesFrom [DecidableEq α] (separator : α) : List α → List α → List (List α × Bool)
  | current, [] => if current = [] then [] else [(current, false)]
  | current, item :: rest =>
      if item = separator then (current, true) :: linesFrom separator [] rest
      else linesFrom separator (current ++ [item]) rest

def lines [DecidableEq α] (separator : α) (text : List α) : List (List α × Bool) :=
  linesFrom separator [] text

theorem linesFrom_append [DecidableEq α] {separator : α} {field : List α} (clean : separator ∉ field)
    (current rest : List α) :
    linesFrom separator current (field ++ rest) = linesFrom separator (current ++ field) rest := by
  induction field generalizing current with
  | nil => simp
  | cons item field ih =>
      obtain ⟨different, clean⟩ := not_or.mp (fun either => clean (List.mem_cons.mpr either))
      rw [List.cons_append, linesFrom, if_neg (Ne.symm different), ih clean]
      simp

theorem lines_joined_append [DecidableEq α] {separator : α} {fields : List (List α)} {tail : List α}
    (clean : ∀ field ∈ fields, separator ∉ field) (tailClean : separator ∉ tail) :
    lines separator (joined separator fields ++ tail) =
      fields.map (·, true) ++ if tail = [] then [] else [(tail, false)] := by
  induction fields with
  | nil =>
      have whole := linesFrom_append tailClean [] []
      simp only [List.append_nil, List.nil_append] at whole
      simp only [joined_nil, List.nil_append, List.map_nil, lines, whole, linesFrom]
  | cons field rest ih =>
      rw [joined_cons, List.append_assoc, lines, linesFrom_append (clean field (by simp))]
      simp only [List.nil_append, List.cons_append, linesFrom, if_true, List.map_cons]
      rw [← ih (fun other member => clean other (List.mem_cons_of_mem _ member)), lines]

end Separated
