import Mathlib.Data.List.Infix

/-! Text that is split at the first place where a separator stands. -/

namespace AetherMesh

/-- `str::split_once` -/
def splitOnce (separator : List Char) : List Char → Option (List Char × List Char)
  | [] => none
  | char :: rest =>
      if separator.isPrefixOf (char :: rest) then some ([], (char :: rest).drop separator.length)
      else (splitOnce separator rest).map fun parts => (char :: parts.1, parts.2)

variable {separator text front back : List Char}

theorem splitOnce_none (occupied : separator ≠ []) :
    splitOnce separator text = none ↔ ¬separator <:+: text := by
  induction text with
  | nil => simp [splitOnce, occupied]
  | cons char rest ih =>
      rw [splitOnce, List.infix_cons_iff]
      by_cases here : separator <+: char :: rest
      · simp [List.isPrefixOf_iff_prefix.mpr here, here]
      · have absent : separator.isPrefixOf (char :: rest) = false :=
          Bool.eq_false_iff.mpr (mt List.isPrefixOf_iff_prefix.mp here)
        simp [absent, here, ih]

theorem splitOnce_some (occupied : separator ≠ []) :
    splitOnce separator text = some (front, back) ↔
      text = front ++ separator ++ back ∧ ¬separator <:+: front ++ separator.dropLast := by
  have size : separator.dropLast.length + 1 = separator.length := by
    rw [List.length_dropLast]
    have positive := List.length_pos_iff.mpr occupied
    omega
  induction text generalizing front with
  | nil =>
      refine iff_of_false (by simp [splitOnce]) ?_
      rintro ⟨split, -⟩
      simp [occupied] at split
  | cons char rest ih =>
      rw [splitOnce]
      by_cases here : separator <+: char :: rest
      · rw [if_pos (List.isPrefixOf_iff_prefix.mpr here), Option.some.injEq, Prod.mk.injEq]
        constructor
        · rintro ⟨rfl, rfl⟩
          obtain ⟨later, same⟩ := here
          refine ⟨by rw [← same]; simp, ?_⟩
          intro inside
          have shorter := inside.length_le
          rw [List.nil_append] at shorter
          omega
        · rintro ⟨split, first⟩
          cases front with
          | nil =>
              rw [split]
              simp
          | cons head front =>
              -- the text begins with the separator, so an earlier split is missed
              refine absurd ?_ first
              have begins : head :: front ++ separator.dropLast <+: char :: rest := by
                rw [split, List.append_assoc]
                exact (List.prefix_append_right_inj _).mpr
                  ((List.dropLast_prefix separator).trans (List.prefix_append _ _))
              refine (List.prefix_of_prefix_length_le here begins ?_).isInfix
              rw [List.length_append, List.length_cons]
              omega
      · have absent : ¬separator.isPrefixOf (char :: rest) = true :=
          mt List.isPrefixOf_iff_prefix.mp here
        rw [if_neg absent, Option.map_eq_some_iff]
        constructor
        · rintro ⟨⟨found, later⟩, inner, same⟩
          obtain ⟨rfl, rfl⟩ := Prod.mk.inj same
          obtain ⟨split, first⟩ := ih.mp inner
          refine ⟨by rw [split]; rfl, ?_⟩
          rw [List.cons_append, List.infix_cons_iff]
          rintro (begins | inside)
          · refine here (begins.trans ?_)
            rw [split, List.append_assoc]
            exact (List.prefix_cons_inj _).mpr ((List.prefix_append_right_inj _).mpr
              ((List.dropLast_prefix separator).trans (List.prefix_append _ _)))
          · exact first inside
        · rintro ⟨split, first⟩
          cases front with
          | nil =>
              refine absurd ?_ here
              rw [split, List.nil_append]
              exact List.prefix_append _ _
          | cons head front =>
              obtain ⟨rfl, tail⟩ := List.cons.inj split
              refine ⟨(front, back), ih.mpr ⟨tail, fun inside => first ?_⟩, rfl⟩
              exact inside.trans (List.suffix_cons _ _).isInfix

end AetherMesh
