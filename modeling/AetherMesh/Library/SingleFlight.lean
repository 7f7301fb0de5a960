import AetherMesh.Library.Counting

/-!
Parties that bring things somewhere, one flight for each thing. Whoever finds a thing
missing is bound for it, departs, and lands when the thing is known to be there. A party
goes past a thing when it is known. Nobody else has anything to do with a thing while
somebody is bound for it or aloft with it.
-/

namespace SingleFlight

open Counting

inductive Leg (Key : Type*)
  | clear
  | bound (key : Key)
  | aloft (key : Key)
deriving DecidableEq

variable {Key : Type*}

namespace Leg

def engaged : Leg Key → Option Key
  | .clear => none
  | .bound key | .aloft key => some key

variable {leg : Nat → Leg Key} {party : Nat} {key : Key} {new : Leg Key}

theorem aloft_update (stays : leg party ≠ .aloft key) (flight : ∃ carrier, leg carrier = .aloft key) :
    ∃ carrier, Function.update leg party new carrier = .aloft key := by
  obtain ⟨carrier, aloft⟩ := flight
  have different : carrier ≠ party := by
    rintro rfl
    exact stays aloft
  exact ⟨carrier, by rw [Function.update_of_ne different, aloft]⟩

theorem bound_update {other : Nat} (moved : ∀ key, new ≠ .bound key)
    (bound : Function.update leg party new other = .bound key) :
    other ≠ party ∧ leg other = .bound key := by
  by_cases same : other = party
  · rw [same, Function.update_self] at bound
    exact absurd bound (moved key)
  · rw [Function.update_of_ne same] at bound
    exact ⟨same, bound⟩

theorem engaged_update (others : ∀ other ≠ party, (leg other).engaged ≠ some key)
    (moved : new.engaged ≠ some key) (other : Nat) :
    (Function.update leg party new other).engaged ≠ some key := by
  by_cases same : other = party
  · rw [same, Function.update_self]
    exact moved
  · rw [Function.update_of_ne same]
    exact others other same

variable [DecidableEq Key]

def carries (key : Key) (leg : Leg Key) : Bool := leg = .aloft key

theorem carries_clear (key : Key) : (clear : Leg Key).carries key = false := rfl

theorem carries_bound (key other : Key) : (bound other).carries key = false := rfl

theorem carries_aloft (key : Key) : (aloft key).carries key = true := decide_eq_true rfl

theorem carries_other {other : Key} (different : other ≠ key) :
    (aloft key).carries other = false :=
  decide_eq_false fun same => different (Leg.aloft.inj same).symm

end Leg

variable [DecidableEq Key]

/-- `sent` and `landed` count the departures and the landings of each thing. -/
structure Single (count : Nat) (known : Key → Prop) (sent landed : Key → Nat)
    (leg : Nat → Leg Key) (passed : Nat → Key → Prop) : Prop where
  balance : ∀ key, sent key = landed key + tally count (fun party => (leg party).carries key)
  once : ∀ key, sent key ≤ 1
  traced : ∀ key, sent key ≠ 0 → known key ∨ ∃ party, leg party = .aloft key
  first : ∀ party key, leg party = .bound key → sent key = 0
  settled : ∀ party key, passed party key →
    known key ∧ ∀ other, (leg other).engaged ≠ some key

namespace Single

variable {count party : Nat} {known later : Key → Prop} {sent landed : Key → Nat}
  {leg : Nat → Leg Key} {passed beyond : Nat → Key → Prop} {key : Key}

theorem start (known : Key → Prop) : Single count known (fun _ => 0) (fun _ => 0)
    (fun _ => .clear) (fun _ _ => False) where
  balance := fun key => by
    rw [Nat.zero_add, eq_comm, tally_eq_zero]
    exact fun _ _ => rfl
  once := fun _ => Nat.zero_le 1
  traced := fun _ sent => absurd rfl sent
  first := fun _ _ _ => rfl
  settled := fun _ _ passed => passed.elim

theorem landed_of_passed (single : Single count known sent landed leg passed)
    (past : passed party key) : sent key = landed key := by
  rw [single.balance, tally_eq_zero.mpr, Nat.add_zero]
  intro other _
  refine decide_eq_false fun carries => (single.settled party key past).2 other ?_
  rw [carries]
  rfl

theorem learn (single : Single count known sent landed leg passed)
    (more : ∀ key, known key → later key)
    (past : ∀ party key, beyond party key → passed party key) :
    Single count later sent landed leg beyond where
  balance := single.balance
  once := single.once
  traced := fun key sent => (single.traced key sent).imp_left (more key)
  first := single.first
  settled := fun party key gone =>
    ⟨more key (single.settled party key (past party key gone)).1,
      (single.settled party key (past party key gone)).2⟩

theorem skip (single : Single count known sent landed leg passed) (here : known key)
    (nobody : ∀ other, (leg other).engaged ≠ some key)
    (past : ∀ party other, beyond party other → passed party other ∨ other = key) :
    Single count known sent landed leg beyond where
  balance := single.balance
  once := single.once
  traced := single.traced
  first := single.first
  settled := by
    intro party other gone
    rcases past party other gone with old | rfl
    · exact single.settled party other old
    · exact ⟨here, nobody⟩

theorem embark (single : Single count known sent landed leg passed) (inside : party < count)
    (free : leg party = .clear) (missing : ¬ known key)
    (nobody : ∀ other, (leg other).engaged ≠ some key) :
    Single count known sent landed (Function.update leg party (.bound key)) passed where
  balance := by
    intro other
    have shifted := tally_update inside (Leg.carries other) leg (.bound key)
    rw [free] at shifted
    rw [single.balance]
    exact congrArg _ shifted.symm
  once := single.once
  traced := by
    intro other departed
    exact (single.traced other departed).imp_right (Leg.aloft_update (by simp [free]))
  first := by
    intro other thing bound
    by_cases same : other = party
    · rw [same, Function.update_self] at bound
      cases bound
      by_contra departed
      rcases single.traced key departed with there | ⟨carrier, aloft⟩
      · exact missing there
      · exact nobody carrier (by rw [aloft]; rfl)
    · rw [Function.update_of_ne same] at bound
      exact single.first other thing bound
  settled := by
    intro other thing gone
    obtain ⟨there, clear⟩ := single.settled other thing gone
    refine ⟨there, Leg.engaged_update (fun mover _ => clear mover) ?_⟩
    intro engaged
    exact missing (Option.some.inj engaged ▸ there)

theorem depart (single : Single count known sent landed leg passed) (inside : party < count)
    (ready : leg party = .bound key)
    (alone : ∀ other ≠ party, (leg other).engaged ≠ some key) :
    Single count known (Function.update sent key (sent key + 1)) landed
      (Function.update leg party (.aloft key)) passed where
  balance := by
    intro other
    have shifted := tally_update inside (Leg.carries other) leg (.aloft key)
    have before := single.balance other
    rw [ready] at shifted
    by_cases same : other = key
    · subst same
      rw [Leg.carries_aloft, Leg.carries_bound] at shifted
      rw [Function.update_self]
      simp only [Bool.toNat_true, Bool.toNat_false] at shifted
      omega
    · rw [Leg.carries_other same, Leg.carries_bound] at shifted
      rw [Function.update_of_ne same, before]
      exact congrArg _ shifted.symm
  once := by
    intro other
    by_cases same : other = key
    · rw [same, Function.update_self, single.first party key ready]
    · rw [Function.update_of_ne same]
      exact single.once other
  traced := by
    intro other departed
    by_cases same : other = key
    · exact .inr ⟨party, by rw [same, Function.update_self]⟩
    · rw [Function.update_of_ne same] at departed
      exact (single.traced other departed).imp_right (Leg.aloft_update (by simp [ready]))
  first := by
    intro other thing bound
    obtain ⟨different, before⟩ := Leg.bound_update (by simp) bound
    have apart : thing ≠ key := by
      rintro rfl
      exact alone other different (by rw [before]; rfl)
    rw [Function.update_of_ne apart]
    exact single.first other thing before
  settled := by
    intro other thing gone
    obtain ⟨there, clear⟩ := single.settled other thing gone
    refine ⟨there, Leg.engaged_update (fun mover _ => clear mover) ?_⟩
    have here := clear party
    rwa [ready] at here

theorem land (single : Single count known sent landed leg passed) (inside : party < count)
    (carried : leg party = .aloft key) (more : ∀ key, known key → later key) (there : later key)
    (alone : ∀ other ≠ party, (leg other).engaged ≠ some key)
    (past : ∀ party other, beyond party other → passed party other ∨ other = key) :
    Single count later sent (Function.update landed key (landed key + 1))
      (Function.update leg party .clear) beyond where
  balance := by
    intro other
    have shifted := tally_update inside (Leg.carries other) leg .clear
    have before := single.balance other
    rw [carried] at shifted
    by_cases same : other = key
    · subst same
      rw [Leg.carries_aloft, Leg.carries_clear] at shifted
      rw [Function.update_self]
      simp only [Bool.toNat_true, Bool.toNat_false] at shifted
      omega
    · rw [Leg.carries_other same, Leg.carries_clear] at shifted
      rw [Function.update_of_ne same, before]
      exact congrArg _ shifted.symm
  once := single.once
  traced := by
    intro other departed
    by_cases same : other = key
    · exact .inl (same ▸ there)
    · refine (single.traced other departed).imp (more other) (Leg.aloft_update ?_)
      rw [carried, Ne, Leg.aloft.injEq]
      exact Ne.symm same
  first := by
    intro other thing bound
    exact single.first other thing (Leg.bound_update (by simp) bound).2
  settled := by
    intro other thing gone
    have before : later thing ∧ ∀ mover ≠ party, (leg mover).engaged ≠ some thing := by
      rcases past other thing gone with old | rfl
      · obtain ⟨known, clear⟩ := single.settled other thing old
        exact ⟨more thing known, fun mover _ => clear mover⟩
      · exact ⟨there, alone⟩
    exact ⟨before.1, Leg.engaged_update before.2 (Option.some_ne_none thing).symm⟩

end Single

end SingleFlight
