import Mathlib.Logic.Basic

/-!
Programs that keep a state, may end with an error and may break down altogether. A program meets a
postcondition from a state when it does not break down there; an invariant holds after it in any case,
and the postcondition when it returns.
-/

namespace Triples

abbrev Program (State Error α : Type) := ExceptT Error (StateT State Option) α

variable {State Error α β : Type} {keeps : State → Prop} {state : State}
  {program : Program State Error α} {post : α → State → Prop}

def Meets (keeps : State → Prop) (program : Program State Error α) (post : α → State → Prop)
    (state : State) : Prop :=
  ∃ outcome after, program state = some (outcome, after) ∧ keeps after ∧
    ∀ value, outcome = .ok value → post value after

theorem meets_pure {value : α} (kept : keeps state) (reached : post value state) :
    Meets keeps (pure value : Program State Error α) post state := by
  refine ⟨.ok value, state, rfl, kept, ?_⟩
  intro other same
  cases same
  exact reached

theorem meets_throw {error : Error} (kept : keeps state) :
    Meets keeps (throw error : Program State Error α) post state := by
  refine ⟨.error error, state, rfl, kept, ?_⟩
  intro other same
  cases same

theorem meets_step {value : α} {after : State} (did : program state = some (.ok value, after))
    (kept : keeps after) (reached : post value after) : Meets keeps program post state := by
  refine ⟨.ok value, after, did, kept, ?_⟩
  intro other same
  cases same
  exact reached

theorem bind_ok {next : α → Program State Error β} {value : α} {after : State}
    (did : program state = some (.ok value, after)) :
    (program >>= next) state = next value after := by
  change (program state).bind _ = _
  rw [did]
  rfl

theorem bind_error {next : α → Program State Error β} {error : Error} {after : State}
    (did : program state = some (.error error, after)) :
    (program >>= next) state = some (.error error, after) := by
  change (program state).bind _ = _
  rw [did]
  rfl

theorem meets_bind (post : α → State → Prop) {next : α → Program State Error β}
    {last : β → State → Prop} (first : Meets keeps program post state)
    (second : ∀ value after, keeps after → post value after → Meets keeps (next value) last after) :
    Meets keeps (program >>= next) last state := by
  obtain ⟨outcome, after, did, kept, reached⟩ := first
  cases outcome with
  | error error =>
      refine ⟨.error error, after, bind_error did, kept, ?_⟩
      intro value same
      cases same
  | ok value =>
      obtain ⟨ending, final, went, held, ended⟩ := second value after kept (reached value rfl)
      exact ⟨ending, final, (bind_ok did).trans went, held, ended⟩

theorem meets_get {next : State → Program State Error β} {last : β → State → Prop}
    (kept : keeps state) (then_ : Meets keeps (next state) last state) :
    Meets keeps (get >>= next) last state := by
  refine meets_bind (fun value after => value = state ∧ after = state) ?_ ?_
  · exact meets_step rfl kept ⟨rfl, rfl⟩
  · rintro value after - ⟨rfl, rfl⟩
    exact then_

end Triples
