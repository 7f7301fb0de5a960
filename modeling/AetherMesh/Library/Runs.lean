import Mathlib.Data.List.Induction

/-!
Runs of a machine given by a partial step function on labels. A label that is
not enabled in a state has no successor there, so a list of labels has at most
one run from a state.
-/

namespace Runs

variable {State Label : Type*}

def run (next : State → Label → Option State) : State → List Label → Option State
  | state, [] => some state
  | state, label :: rest => (next state label).bind fun after => run next after rest

/-- Every step of the run from `state` meets the condition in the state it is taken from. -/
def Along (next : State → Label → Option State) (condition : State → Label → Prop) :
    State → List Label → Prop
  | _, [] => True
  | state, label :: rest => condition state label ∧
      match next state label with
      | some after => Along next condition after rest
      | none => True

instance decidableAlong (next : State → Label → Option State) (condition : State → Label → Prop)
    [∀ state label, Decidable (condition state label)] :
    ∀ state trace, Decidable (Along next condition state trace)
  | _, [] => inferInstanceAs (Decidable True)
  | state, label :: rest =>
      have _tail : Decidable (match next state label with
          | some after => Along next condition after rest
          | none => True) :=
        match next state label with
        | some after => decidableAlong next condition after rest
        | none => inferInstanceAs (Decidable True)
      inferInstanceAs (Decidable (condition state label ∧ _))

variable {next : State → Label → Option State} {condition : State → Label → Prop}

theorem run_append (state : State) (front back : List Label) :
    run next state (front ++ back) = (run next state front).bind fun middle => run next middle back := by
  induction front generalizing state with
  | nil => rfl
  | cons label rest ih =>
      simp only [List.cons_append, run]
      cases next state label with
      | none => rfl
      | some after => exact ih after

theorem run_split {state final : State} {front back : List Label}
    (ran : run next state (front ++ back) = some final) :
    ∃ middle, run next state front = some middle ∧ run next middle back = some final := by
  rw [run_append] at ran
  exact Option.bind_eq_some_iff.mp ran

theorem run_snoc {state final : State} {front : List Label} {label : Label}
    (ran : run next state (front ++ [label]) = some final) :
    ∃ middle, run next state front = some middle ∧ next middle label = some final := by
  obtain ⟨middle, before, last⟩ := run_split ran
  refine ⟨middle, before, ?_⟩
  simpa [run] using last

theorem along_append (state : State) (front back : List Label) :
    Along next condition state (front ++ back) ↔ Along next condition state front ∧
      ∀ middle, run next state front = some middle → Along next condition middle back := by
  induction front generalizing state with
  | nil => simp [Along, run]
  | cons label rest ih =>
      simp only [List.cons_append, Along, run]
      cases next state label with
      | none => simp
      | some after => simp [ih after, and_assoc]

theorem along_snoc {start state : State} {past : List Label} {label : Label}
    (ran : run next start past = some state) :
    Along next condition start (past ++ [label]) ↔
      Along next condition start past ∧ condition state label := by
  rw [along_append]
  refine and_congr_right fun _ => ?_
  constructor
  · intro all
    exact (all state ran).1
  · intro met middle reached
    obtain rfl := Option.some.inj (ran.symm.trans reached)
    refine ⟨met, ?_⟩
    split <;> trivial

theorem along_and {other : State → Label → Prop} {state : State} {trace : List Label}
    (first : Along next condition state trace) (second : Along next other state trace) :
    Along next (fun state label => condition state label ∧ other state label) state trace := by
  induction trace generalizing state with
  | nil => trivial
  | cons label rest ih =>
      refine ⟨⟨first.1, second.1⟩, ?_⟩
      cases moved : next state label with
      | none => trivial
      | some after =>
          have left := first.2
          have right := second.2
          rw [moved] at left right
          exact ih left right

theorem along_mono {other : State → Label → Prop} {state : State} {trace : List Label}
    (weaker : ∀ state label, condition state label → other state label)
    (met : Along next condition state trace) : Along next other state trace := by
  induction trace generalizing state with
  | nil => trivial
  | cons label rest ih =>
      refine ⟨weaker state label met.1, ?_⟩
      cases moved : next state label with
      | none => trivial
      | some after =>
          have later := met.2
          rw [moved] at later
          exact ih later

theorem along_congr {other : State → Label → Prop} {start final : State} {trace : List Label}
    (same : ∀ state label after, next state label = some after →
      (condition state label ↔ other state label))
    (ran : run next start trace = some final) :
    Along next condition start trace ↔ Along next other start trace := by
  induction trace generalizing start with
  | nil => exact Iff.rfl
  | cons label rest ih =>
      simp only [run] at ran
      obtain ⟨after, moved, later⟩ := Option.bind_eq_some_iff.mp ran
      simp only [Along, moved]
      exact and_congr (same start label after moved) (ih later)

theorem along_invariant {Inv : State → Prop} {state : State} (initial : Inv state)
    (met : ∀ state label, Inv state → condition state label)
    (step : ∀ state label after, Inv state → next state label = some after → Inv after)
    (trace : List Label) : Along next condition state trace := by
  induction trace generalizing state with
  | nil => trivial
  | cons label rest ih =>
      refine ⟨met state label initial, ?_⟩
      cases moved : next state label with
      | none => trivial
      | some after => exact ih (step state label after initial moved)

/-- The invariant rule for a property that also speaks about the run so far. -/
theorem run_reached {Inv : List Label → State → Prop} {start final : State} {trace : List Label}
    (initial : Inv [] start)
    (step : ∀ past state label after, run next start past = some state → Inv past state →
      next state label = some after → Inv (past ++ [label]) after)
    (ran : run next start trace = some final) : Inv trace final := by
  induction trace using List.reverseRecOn generalizing final with
  | nil =>
      simp only [run, Option.some.injEq] at ran
      exact ran ▸ initial
  | append_singleton past label ih =>
      obtain ⟨middle, before, last⟩ := run_snoc ran
      exact step past middle label final before (ih before) last

theorem run_history {Inv : List Label → State → Prop} {start final : State} {trace : List Label}
    (initial : Inv [] start)
    (step : ∀ past state label after, Inv past state → next state label = some after →
      condition state label → Inv (past ++ [label]) after)
    (met : Along next condition start trace)
    (ran : run next start trace = some final) : Inv trace final := by
  have rule := @run_reached State Label next
    (fun past state => Along next condition start past → Inv past state) start final trace
    (fun _ => initial)
  refine rule ?_ ran met
  intro past state label after reached holds moved along
  obtain ⟨before, last⟩ := (along_snoc reached).mp along
  exact step past state label after (holds before) moved last

theorem run_invariant {Inv : State → Prop} {start final : State} {trace : List Label}
    (initial : Inv start)
    (step : ∀ state label after, Inv state → next state label = some after → Inv after)
    (ran : run next start trace = some final) : Inv final :=
  @run_reached State Label next (fun _ => Inv) start final trace initial
    (fun _ state label after _ holds moved => step state label after holds moved) ran

theorem run_tested {start : State} {trace : List Label} {test : State → Bool}
    (tested : (run next start trace).any test = true) :
    ∃ final, run next start trace = some final ∧ test final = true := by
  cases reached : run next start trace with
  | none => simp [reached] at tested
  | some final => exact ⟨final, rfl, by simpa [reached] using tested⟩

theorem run_tested_snoc {start : State} {past : List Label} {label : Label} {test other : State → Bool}
    (before : (run next start past).any test = true)
    (afterwards : (run next start (past ++ [label])).any other = true) :
    ∃ state final, run next start past = some state ∧ test state = true ∧
      next state label = some final ∧ run next start (past ++ [label]) = some final ∧
      other final = true := by
  obtain ⟨final, ran, met⟩ := run_tested afterwards
  obtain ⟨state, reached, known⟩ := run_tested before
  obtain ⟨middle, also, moved⟩ := run_snoc ran
  obtain rfl := Option.some.inj (reached.symm.trans also)
  exact ⟨state, final, reached, known, moved, ran, met⟩

theorem snoc_split {past front back : List Label} {label first : Label}
    (split : past ++ [label] = front ++ first :: back) :
    (front = past ∧ first = label ∧ back = []) ∨
      ∃ rest, back = rest ++ [label] ∧ past = front ++ first :: rest := by
  rcases List.eq_nil_or_concat back with rfl | ⟨rest, last, rfl⟩
  · obtain ⟨same, ends⟩ := List.append_inj' split rfl
    exact .inl ⟨same.symm, (List.singleton_inj.mp ends).symm, rfl⟩
  · have regrouped : past ++ [label] = (front ++ first :: rest) ++ [last] := by
      rw [split]
      simp
    obtain ⟨same, ends⟩ := List.append_inj' regrouped rfl
    rw [List.singleton_inj.mp ends]
    exact .inr ⟨rest, List.concat_eq_append, same⟩

/-- Some step of the run puts a thing in, and none after it takes the thing out. -/
def Since (next : State → Label → Option State) (puts drops : State → Label → Bool) (start : State)
    (trace : List Label) : Prop :=
  ∃ front label back before after, trace = front ++ label :: back ∧
    run next start front = some before ∧ puts before label = true ∧
    next before label = some after ∧ Along next (fun state label => drops state label = false) after back

theorem since_snoc {puts drops : State → Label → Bool} {start state after : State} {past : List Label}
    {label : Label} (ran : run next start past = some state) (moved : next state label = some after) :
    Since next puts drops start (past ++ [label]) ↔
      puts state label = true ∨ Since next puts drops start past ∧ drops state label = false := by
  constructor
  · rintro ⟨front, first, back, before, began, split, reached, put, entered, stays⟩
    rcases snoc_split split with ⟨rfl, rfl, -⟩ | ⟨rest, rfl, rfl⟩
    · obtain rfl := Option.some.inj (ran.symm.trans reached)
      exact .inl put
    · obtain ⟨middle, also, later⟩ := run_split ran
      obtain rfl := Option.some.inj (reached.symm.trans also)
      simp only [run, entered, Option.bind_some] at later
      rw [along_snoc later] at stays
      exact .inr ⟨⟨front, first, rest, before, began, rfl, reached, put, entered, stays.1⟩, stays.2⟩
  · rintro (put | ⟨⟨front, first, back, before, began, rfl, reached, put, entered, stays⟩, kept⟩)
    · exact ⟨past, label, [], state, after, rfl, ran, put, moved, trivial⟩
    · obtain ⟨middle, also, later⟩ := run_split ran
      obtain rfl := Option.some.inj (reached.symm.trans also)
      simp only [run, entered, Option.bind_some] at later
      refine ⟨front, first, back ++ [label], before, began, by simp, reached, put, entered, ?_⟩
      exact (along_snoc later).mpr ⟨stays, kept⟩

/-- What is put in by some steps and taken out by others is there exactly if it was put in and not
taken out since. -/
theorem since_iff {puts drops : State → Label → Bool} {feature : State → Bool} {start final : State}
    {trace : List Label} (initial : feature start = false)
    (step : ∀ state label after, next state label = some after →
      (feature after = true ↔
        puts state label = true ∨ feature state = true ∧ drops state label = false))
    (ran : run next start trace = some final) :
    feature final = true ↔ Since next puts drops start trace := by
  have rule := @run_reached State Label next
    (fun past state => feature state = true ↔ Since next puts drops start past) start final trace
  refine rule ?_ ?_ ran
  · rw [initial]
    refine iff_of_false Bool.false_ne_true ?_
    rintro ⟨front, label, back, -, -, split, -⟩
    simp at split
  · intro past state label after reached same moved
    rw [step state label after moved, since_snoc reached moved, same]

def Preceded (holds : List Label → Label → Prop) (trace : List Label) : Prop :=
  ∀ front label back, trace = front ++ label :: back → holds front label

theorem preceded_nil (holds : List Label → Label → Prop) : Preceded holds [] := by
  intro front label back split
  simp at split

theorem preceded_snoc {holds : List Label → Label → Prop} {past : List Label} {label : Label} :
    Preceded holds (past ++ [label]) ↔ Preceded holds past ∧ holds past label := by
  constructor
  · intro all
    refine ⟨?_, all past label [] rfl⟩
    intro front earlier back split
    exact all front earlier (back ++ [label]) (by simp [split])
  · rintro ⟨old, new⟩ front other back split
    rcases snoc_split split with ⟨rfl, rfl, -⟩ | ⟨rest, -, earlier⟩
    · exact new
    · exact old front other rest earlier

def Always (next : State → Label → Option State) (holds : State → Prop) (start : State)
    (trace : List Label) : Prop :=
  ∀ front back state, trace = front ++ back → run next start front = some state → holds state

section

variable {holds : State → Prop} {start state after final : State} {past trace : List Label}
  {label : Label}

theorem always_last (always : Always next holds start trace)
    (ran : run next start trace = some final) : holds final :=
  always trace [] final (List.append_nil trace).symm ran

theorem always_snoc (ran : run next start past = some state)
    (moved : next state label = some after) :
    Always next holds start (past ++ [label]) ↔ Always next holds start past ∧ holds after := by
  have last : run next start (past ++ [label]) = some after := by
    rw [run_append, ran]
    simp [run, moved]
  constructor
  · intro always
    refine ⟨?_, always_last always last⟩
    intro front back middle split reached
    exact always front (back ++ [label]) middle (by rw [split, List.append_assoc]) reached
  · rintro ⟨before, new⟩ front back middle split reached
    rcases List.eq_nil_or_concat back with rfl | ⟨rest, other, rfl⟩
    · rw [List.append_nil] at split
      subst split
      obtain rfl := Option.some.inj (last.symm.trans reached)
      exact new
    · rw [List.concat_eq_append, ← List.append_assoc] at split
      exact before front rest middle (List.append_inj' split rfl).1 reached

/-- A property that each step keeps exactly when it meets a condition holds along a run exactly
when all steps of the run meet it. The invariant has to hold only as far as they do, and only in
states that keep within what the run ends in. -/
theorem always_iff_along_within {Inv Within : State → Prop} (initial : Inv start) (good : holds start)
    (shrinks : ∀ state label after, next state label = some after → Within after → Within state)
    (step : ∀ state label after, Inv state → holds state → next state label = some after →
      Within after → (holds after ↔ condition state label) ∧ (condition state label → Inv after))
    (ran : run next start trace = some final) (within : Within final) :
    Always next holds start trace ↔ Along next condition start trace := by
  have rule := @run_reached State Label next
    (fun past state => Within state → (Along next condition start past → Inv state) ∧
      (Always next holds start past ↔ Along next condition start past)) start final trace
  refine (rule (fun _ => ⟨fun _ => initial, ?_⟩) ?_ ran within).2
  · refine iff_of_true ?_ trivial
    intro front back state split reached
    obtain ⟨rfl, -⟩ := List.append_eq_nil_iff.mp split.symm
    simp only [run, Option.some.injEq] at reached
    exact reached ▸ good
  · intro past state label after reached before moved inside
    obtain ⟨holding, same⟩ := before (shrinks state label after moved inside)
    have onwards : Always next holds start past →
        (holds after ↔ condition state label) ∧ (condition state label → Inv after) := by
      intro always
      exact step state label after (holding (same.mp always)) (always_last always reached) moved inside
    rw [always_snoc reached moved, along_snoc reached, ← same]
    refine ⟨?_, and_congr_right fun always => (onwards always).1⟩
    rintro ⟨always, met⟩
    exact (onwards always).2 met

theorem always_iff_along_while {Inv : State → Prop} (initial : Inv start) (good : holds start)
    (step : ∀ state label after, Inv state → holds state → next state label = some after →
      (holds after ↔ condition state label) ∧ (condition state label → Inv after))
    (ran : run next start trace = some final) :
    Always next holds start trace ↔ Along next condition start trace :=
  @always_iff_along_within State Label next condition holds start final trace Inv (fun _ => True)
    initial good (fun _ _ _ _ _ => trivial)
    (fun state label after holding good moved _ => step state label after holding good moved) ran
    trivial

theorem always_iff_along {Inv : State → Prop} (initial : Inv start) (good : holds start)
    (step : ∀ state label after, Inv state → next state label = some after →
      Inv after ∧ (holds state → (holds after ↔ condition state label)))
    (ran : run next start trace = some final) :
    Always next holds start trace ↔ Along next condition start trace := by
  refine always_iff_along_while initial good ?_ ran
  intro state label after holding good moved
  obtain ⟨kept, keeps⟩ := step state label after holding moved
  exact ⟨keeps good, fun _ => kept⟩

end

end Runs
