import Mathlib.Data.List.Nodup

/-!
Attempts one after the other, each at a place not tried before, while the failure of the
last one leaves hope and attempts are left.
-/

namespace Retrying

variable {State Place Failure Answer : Type*}

/-- How a place is chosen, what an attempt there does, and what is done before the next. -/
structure Method (State Place Failure Answer : Type*) where
  choose : State → List Place → Option Place
  attempt : State → Place → State × Except Failure Answer
  hopeful : Failure → Bool
  between : State → Place → State

structure Attempt (State Place Failure Answer : Type*) where
  found : State
  place : Place
  outcome : Except Failure Answer

inductive Ending (Failure Answer : Type*)
  | spent
  | stranded
  | answered (outcome : Except Failure Answer)

structure History (State Place Failure Answer : Type*) where
  attempts : List (Attempt State Place Failure Answer)
  ending : Ending Failure Answer
  last : State

def History.after (history : History State Place Failure Answer)
    (attempt : Attempt State Place Failure Answer) : History State Place Failure Answer :=
  { history with attempts := attempt :: history.attempts }

def History.Ends (method : Method State Place Failure Answer) (left : Nat) (tried : List Place)
    (history : History State Place Failure Answer) : Prop :=
  match history.ending with
  | .spent => left = 0
  | .stranded =>
      method.choose history.last ((history.attempts.map Attempt.place).reverse ++ tried) = none
  | .answered outcome => ∃ final ∈ history.attempts.getLast?, final.outcome = outcome

def run (method : Method State Place Failure Answer) :
    Nat → List Place → State → History State Place Failure Answer
  | 0, _, state => ⟨[], .spent, state⟩
  | left + 1, tried, state =>
      match method.choose state tried with
      | none => ⟨[], .stranded, state⟩
      | some place =>
          match method.attempt state place with
          | (later, .ok answer) =>
              ⟨[⟨state, place, .ok answer⟩], .answered (.ok answer), later⟩
          | (later, .error failure) =>
              if 0 < left ∧ method.hopeful failure then
                (run method left (place :: tried) (method.between later place)).after
                  ⟨state, place, .error failure⟩
              else ⟨[⟨state, place, .error failure⟩], .answered (.error failure), later⟩

section Runs

variable {method : Method State Place Failure Answer} {left : Nat} {tried : List Place}
variable {state later : State} {place : Place} {failure : Failure} {answer : Answer}

theorem run_nowhere (nowhere : method.choose state tried = none) :
    run method (left + 1) tried state = ⟨[], .stranded, state⟩ := by
  rw [run, nowhere]

theorem run_answered (chosen : method.choose state tried = some place)
    (attempted : method.attempt state place = (later, .ok answer)) :
    run method (left + 1) tried state =
      ⟨[⟨state, place, .ok answer⟩], .answered (.ok answer), later⟩ := by
  rw [run, chosen]
  dsimp only
  rw [attempted]

theorem run_again (chosen : method.choose state tried = some place)
    (attempted : method.attempt state place = (later, .error failure))
    (more : 0 < left ∧ method.hopeful failure) :
    run method (left + 1) tried state =
      (run method left (place :: tried) (method.between later place)).after
        ⟨state, place, .error failure⟩ := by
  rw [run, chosen]
  dsimp only
  rw [attempted]
  exact if_pos more

theorem run_failed (chosen : method.choose state tried = some place)
    (attempted : method.attempt state place = (later, .error failure))
    (last : ¬(0 < left ∧ method.hopeful failure)) :
    run method (left + 1) tried state =
      ⟨[⟨state, place, .error failure⟩], .answered (.error failure), later⟩ := by
  rw [run, chosen]
  dsimp only
  rw [attempted]
  exact if_neg last

/-- One round ends the run at once, ends it with its own outcome, or leaves the rest to the
rounds after it. -/
inductive Round (method : Method State Place Failure Answer) (left : Nat) (tried : List Place)
    (state : State) : History State Place Failure Answer → Prop
  | stranded (nowhere : method.choose state tried = none) :
      Round method left tried state ⟨[], .stranded, state⟩
  | ended {place : Place} {outcome : Except Failure Answer} (later : State)
      (chosen : method.choose state tried = some place)
      (attempted : (method.attempt state place).2 = outcome) :
      Round method left tried state ⟨[⟨state, place, outcome⟩], .answered outcome, later⟩
  | again {place : Place} {failure : Failure} (later : State)
      (chosen : method.choose state tried = some place)
      (attempted : (method.attempt state place).2 = .error failure)
      (some : 0 < left) (hope : method.hopeful failure) :
      Round method left tried state
        ((run method left (place :: tried) later).after ⟨state, place, .error failure⟩)

theorem run_round (method : Method State Place Failure Answer) (left : Nat) (tried : List Place)
    (state : State) : Round method left tried state (run method (left + 1) tried state) := by
  cases chosen : method.choose state tried with
  | none =>
      rw [run_nowhere chosen]
      exact .stranded chosen
  | some place =>
      rcases attempted : method.attempt state place with ⟨later, failure | answer⟩
      · have failed := congrArg Prod.snd attempted
        by_cases more : 0 < left ∧ method.hopeful failure
        · rw [run_again chosen attempted more]
          exact .again _ chosen failed more.1 more.2
        · rw [run_failed chosen attempted more]
          exact .ended later chosen failed
      · rw [run_answered chosen attempted]
        exact .ended later chosen (congrArg Prod.snd attempted)

theorem History.Ends.after {attempt : Attempt State Place Failure Answer}
    {history : History State Place Failure Answer}
    (ends : history.Ends method left (attempt.place :: tried)) (more : 0 < left) :
    (history.after attempt).Ends method (left + 1) tried := by
  unfold Ends History.after at *
  cases how : history.ending with
  | spent =>
      rw [how] at ends
      exact absurd ends (Nat.ne_of_gt more)
  | stranded =>
      rw [how] at ends
      rw [List.map_cons, List.reverse_cons, List.append_assoc]
      exact ends
  | answered outcome =>
      rw [how] at ends
      obtain ⟨final, last, same⟩ := ends
      refine ⟨final, ?_, same⟩
      rw [List.getLast?_cons, last]
      rfl

theorem run_length_le : (run method left tried state).attempts.length ≤ left := by
  induction left generalizing tried state with
  | zero => exact Nat.le_refl 0
  | succ left ih =>
      have round := run_round method left tried state
      generalize run method (left + 1) tried state = history at round ⊢
      cases round with
      | stranded => exact Nat.zero_le _
      | ended => exact Nat.succ_le_succ (Nat.zero_le _)
      | again => exact Nat.succ_le_succ ih

theorem run_chosen {attempt : Attempt State Place Failure Answer}
    (made : attempt ∈ (run method left tried state).attempts) :
    (∃ before, method.choose attempt.found before = some attempt.place) ∧
      attempt.outcome = (method.attempt attempt.found attempt.place).2 := by
  induction left generalizing tried state with
  | zero => cases made
  | succ left ih =>
      have round := run_round method left tried state
      generalize run method (left + 1) tried state = history at round made
      cases round with
      | stranded => cases made
      | ended later chosen attempted =>
          obtain rfl := List.mem_singleton.mp made
          exact ⟨⟨tried, chosen⟩, attempted.symm⟩
      | again later chosen attempted =>
          rcases List.mem_cons.mp made with rfl | made
          · exact ⟨⟨tried, chosen⟩, attempted.symm⟩
          · exact ih made

theorem run_fresh
    (fresh : ∀ state tried place, method.choose state tried = some place → place ∉ tried) :
    (tried.reverse ++ (run method left tried state).attempts.map Attempt.place).Nodup ↔
      tried.Nodup := by
  induction left generalizing tried state with
  | zero => simp [run]
  | succ left ih =>
      have round := run_round method left tried state
      generalize run method (left + 1) tried state = history at round ⊢
      cases round with
      | stranded => simp
      | ended later chosen =>
          rw [List.map_singleton, ← List.reverse_cons, List.nodup_reverse, List.nodup_cons]
          exact and_iff_right (fresh _ _ _ chosen)
      | @again place failure later chosen =>
          have next := @ih (place :: tried) later
          rw [List.reverse_cons, List.append_assoc, List.singleton_append, List.nodup_cons] at next
          rw [History.after, List.map_cons, next]
          exact and_iff_right (fresh _ _ _ chosen)

/-- The run goes on after an attempt only when its failure leaves hope. -/
theorem run_stops {before rest : List (Attempt State Place Failure Answer)}
    {attempt : Attempt State Place Failure Answer}
    (made : (run method left tried state).attempts = before ++ attempt :: rest) :
    (∃ failure, attempt.outcome = .error failure ∧ method.hopeful failure) ∨
      rest = [] ∧ (run method left tried state).ending = .answered attempt.outcome := by
  induction left generalizing tried state before with
  | zero => simp [run] at made
  | succ left ih =>
      have round := run_round method left tried state
      generalize run method (left + 1) tried state = history at round made ⊢
      cases round with
      | stranded => simp at made
      | ended =>
          obtain ⟨rfl, same⟩ | ⟨-, none⟩ := List.append_eq_singleton_iff.mp made.symm
          · cases same
            exact .inr ⟨rfl, rfl⟩
          · cases none
      | again later chosen attempted some hope =>
          cases before with
          | nil =>
              obtain ⟨rfl, -⟩ := List.cons.inj made
              exact .inl ⟨_, rfl, hope⟩
          | cons head before => exact ih (List.cons.inj made).2

theorem run_ends : (run method left tried state).Ends method left tried := by
  induction left generalizing tried state with
  | zero => rfl
  | succ left ih =>
      have round := run_round method left tried state
      generalize run method (left + 1) tried state = history at round ⊢
      cases round with
      | stranded nowhere => exact nowhere
      | ended => exact ⟨_, rfl, rfl⟩
      | again later chosen attempted some => exact ih.after some

end Runs

end Retrying
