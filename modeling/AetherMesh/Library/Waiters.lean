import Mathlib.Logic.Function.Basic

/-!
A table of waiters. A party that waits under a key is entered there; whoever answers
the key takes the entry out and lets the party hear. A party that stops waiting has
to take its entry back itself, and one that is lost never does.
-/

namespace Waiters

variable {Key Party : Type*}

/-- Every entry belongs to a party that waits under its key or is lost, and to none that has
heard already. -/
structure Kept (table : Key → Option Party) (heard : Party → Bool) (waits : Party → Option Key)
    (lost : Party → Bool) : Prop where
  owned : ∀ key party, table key = some party → waits party = some key ∨ lost party = true
  unheard : ∀ key party, heard party = true → waits party = some key → table key ≠ some party
  parted : ∀ party, lost party = true → waits party = none

variable {table : Key → Option Party} {heard : Party → Bool} {waits : Party → Option Key}
  {lost : Party → Bool} {key : Key} {party : Party} {new : Option Key} {gone : Bool}

namespace Kept

theorem start (free : ∀ key, table key = none)
    (parted : ∀ party, lost party = true → waits party = none) : Kept table heard waits lost where
  owned := fun key party entered => by simp [free key] at entered
  unheard := fun key party _ _ entered => by simp [free key] at entered
  parted := parted

theorem absent (kept : Kept table heard waits lost) (here : lost party = false)
    (clear : ∀ key, waits party = some key → table key ≠ some party) (key : Key) :
    table key ≠ some party := by
  intro entered
  rcases kept.owned key party entered with waiting | missing
  · exact clear key waiting entered
  · rw [here] at missing
    cases missing

section

variable [DecidableEq Key]

theorem clear (kept : Kept table heard waits lost) (key : Key) :
    Kept (Function.update table key none) heard waits lost where
  owned := by
    intro other party entered
    by_cases same : other = key
    · rw [same, Function.update_self] at entered
      cases entered
    · rw [Function.update_of_ne same] at entered
      exact kept.owned other party entered
  unheard := by
    intro other party told waiting entered
    by_cases same : other = key
    · rw [same, Function.update_self] at entered
      cases entered
    · rw [Function.update_of_ne same] at entered
      exact kept.unheard other party told waiting entered
  parted := kept.parted

end

variable [DecidableEq Party]

theorem parted_move (kept : Kept table heard waits lost) (here : gone = true → new = none)
    (other : Party) (missing : Function.update lost party gone other = true) :
    Function.update waits party new other = none := by
  by_cases same : other = party
  · subst same
    rw [Function.update_self] at missing ⊢
    exact here missing
  · rw [Function.update_of_ne same] at missing ⊢
    exact kept.parted other missing

theorem leave (kept : Kept table heard waits lost) (absent : ∀ key, table key ≠ some party)
    (gone : Bool) :
    Kept table heard (Function.update waits party none) (Function.update lost party gone) where
  owned := by
    intro key other entered
    have different : other ≠ party := fun same => absent key (same ▸ entered)
    rw [Function.update_of_ne different, Function.update_of_ne different]
    exact kept.owned key other entered
  unheard := by
    intro key other told waiting entered
    have different : other ≠ party := fun same => absent key (same ▸ entered)
    rw [Function.update_of_ne different] at waiting
    exact kept.unheard key other told waiting entered
  parted := kept.parted_move fun _ => rfl

theorem lose (kept : Kept table heard waits lost) (party : Party) :
    Kept table heard (Function.update waits party none) (Function.update lost party true) where
  owned := by
    intro key other entered
    by_cases same : other = party
    · rw [same, Function.update_self, Function.update_self]
      exact .inr rfl
    · rw [Function.update_of_ne same, Function.update_of_ne same]
      exact kept.owned key other entered
  unheard := by
    intro key other told waiting
    have different : other ≠ party := by
      rintro rfl
      rw [Function.update_self] at waiting
      cases waiting
    rw [Function.update_of_ne different] at waiting
    exact kept.unheard key other told waiting
  parted := kept.parted_move fun _ => rfl

variable [DecidableEq Key]

theorem forget (kept : Kept table heard waits lost) (waiting : waits party = some key)
    (here : lost party = false) (gone : Bool) :
    Kept (Function.update table key none) heard (Function.update waits party none)
      (Function.update lost party gone) := by
  refine (kept.clear key).leave ((kept.clear key).absent here ?_) gone
  intro other elsewhere
  obtain rfl := Option.some.inj (waiting.symm.trans elsewhere)
  rw [Function.update_self]
  exact (Option.some_ne_none _).symm

theorem answer (kept : Kept table heard waits lost) (entered : table key = some party) :
    Kept (Function.update table key none) (Function.update heard party true) waits lost where
  owned := (kept.clear key).owned
  unheard := by
    intro other listener told waiting
    by_cases same : listener = party
    · subst same
      have waited : other = key := by
        rcases kept.owned key listener entered with waited | missing
        · exact Option.some.inj (waiting.symm.trans waited)
        · rw [kept.parted listener missing] at waiting
          cases waiting
      rw [waited, Function.update_self]
      exact (Option.some_ne_none _).symm
    · rw [Function.update_of_ne same] at told
      exact (kept.clear key).unheard other listener told waiting
  parted := kept.parted

theorem expect (kept : Kept table heard waits lost) (fresh : waits party = none)
    (here : lost party = false) (key : Key) :
    Kept (Function.update table key (some party)) (Function.update heard party false)
      (Function.update waits party (some key)) (Function.update lost party false) where
  owned := by
    intro other owner entered
    by_cases same : other = key
    · rw [same, Function.update_self, Option.some.injEq] at entered
      rw [← entered, Function.update_self, same]
      exact .inl rfl
    · rw [Function.update_of_ne same] at entered
      have different : owner ≠ party := by
        rintro rfl
        refine kept.absent here (fun key elsewhere => ?_) other entered
        rw [fresh] at elsewhere
        cases elsewhere
      rw [Function.update_of_ne different, Function.update_of_ne different]
      exact kept.owned other owner entered
  unheard := by
    intro other listener told waited entered
    have different : listener ≠ party := by
      rintro rfl
      rw [Function.update_self] at told
      cases told
    rw [Function.update_of_ne different] at told waited
    by_cases same : other = key
    · rw [same, Function.update_self, Option.some.injEq] at entered
      exact different entered.symm
    · rw [Function.update_of_ne same] at entered
      exact kept.unheard other listener told waited entered
  parted := kept.parted_move fun missing => nomatch missing

end Kept

end Waiters
