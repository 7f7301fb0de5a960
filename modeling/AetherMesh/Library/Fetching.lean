import Mathlib.Data.List.Basic

/-!
Fetching from a place that may fail for a while: an attempt is made again after a wait, twice as long
each time. What is fetched may say where the rest of it is, and is followed to its end.
-/

namespace Fetching

variable {World Failure Answer Place Page : Type*}

/-- Attempts while the failure leaves hope, at most as many more as are left. -/
def retry (attempt : World → World × Except Failure Answer) (hopeful : Failure → Bool)
    (sleep : Nat → World → World) : Nat → Nat → World → World × Except Failure Answer
  | 0, _, world => attempt world
  | left + 1, wait, world =>
      match attempt world with
      | (later, .ok answer) => (later, .ok answer)
      | (later, .error failure) =>
          if hopeful failure then retry attempt hopeful sleep left (2 * wait) (sleep wait later)
          else (later, .error failure)

section Retries

variable {attempt : World → World × Except Failure Answer} {hopeful : Failure → Bool}
variable {sleep : Nat → World → World} {left wait : Nat} {world later : World}
variable {failure : Failure} {answer : Answer} {outcome : Except Failure Answer}

theorem retry_final (final : ∀ failure, (attempt world).2 = .error failure → hopeful failure = false) :
    retry attempt hopeful sleep left wait world = attempt world := by
  cases left with
  | zero => rfl
  | succ left =>
      rw [retry]
      cases tried : attempt world with
      | mk later outcome =>
          cases outcome with
          | ok answer => rfl
          | error failure =>
              rw [tried] at final
              simp only [final failure rfl, Bool.false_eq_true, if_false]

theorem retry_again (failed : (attempt world).2 = .error failure) (hope : hopeful failure = true) :
    retry attempt hopeful sleep (left + 1) wait world =
      retry attempt hopeful sleep left (2 * wait) (sleep wait (attempt world).1) := by
  rw [retry]
  cases tried : attempt world with
  | mk later outcome =>
      rw [tried] at failed
      simp only at failed
      rw [failed]
      simp only [hope, if_true]

theorem retry_grows {measure : World → Nat} (tried : ∀ world, measure world ≤ measure (attempt world).1)
    (slept : ∀ wait world, measure world ≤ measure (sleep wait world)) :
    measure world ≤ measure (retry attempt hopeful sleep left wait world).1 := by
  induction left generalizing wait world with
  | zero => exact tried world
  | succ left ih =>
      have first := tried world
      rw [retry]
      cases result : attempt world with
      | mk later outcome =>
          rw [result] at first
          cases outcome with
          | ok answer => exact first
          | error failure =>
              simp only
              split
              · exact Nat.le_trans (Nat.le_trans first (slept wait later)) ih
              · exact first

/-- The place is busy at some of the attempts, counted over the whole life of the world. -/
structure Busy (attempt : World → World × Except Failure Answer) (hopeful : Failure → Bool)
    (sleep : Nat → World → World) (count : World → Nat) (busy : Nat → Prop)
    (outcome : Except Failure Answer) : Prop where
  asked : ∀ world, count (attempt world).1 = count world + 1
  slept : ∀ wait world, count (sleep wait world) = count world
  idle : ∀ world, ¬busy (count world) → (attempt world).2 = outcome
  failing : ∀ world, busy (count world) →
    ∃ failure, (attempt world).2 = .error failure ∧ hopeful failure = true
  final : ∀ failure, outcome = .error failure → hopeful failure = false

/-- Waiting outlasts a place that is idle at one of the attempts that are left. -/
theorem Busy.retry_outcome {count : World → Nat} {busy : Nat → Prop}
    (place : Busy attempt hopeful sleep count busy outcome)
    (soon : ∃ ahead ≤ left, ¬busy (count world + ahead)) :
    (retry attempt hopeful sleep left wait world).2 = outcome := by
  induction left generalizing wait world with
  | zero =>
      obtain ⟨ahead, within, idle⟩ := soon
      have here := Nat.le_zero.mp within
      subst here
      exact place.idle world idle
  | succ left ih =>
      by_cases now : busy (count world)
      · obtain ⟨failure, failed, hope⟩ := place.failing world now
        rw [retry_again failed hope]
        obtain ⟨ahead, within, idle⟩ := soon
        cases ahead with
        | zero => exact absurd now idle
        | succ ahead =>
            refine ih ⟨ahead, by omega, ?_⟩
            rwa [place.slept, place.asked, Nat.add_assoc, Nat.add_comm 1]
      · have same := place.idle world now
        rw [retry_final (fun failure failed => place.final failure (same.symm.trans failed))]
        exact same

end Retries

/-- Pages from the first place on, as long as a page names the next place. -/
def follow (fetch : Place → World → World × Except Failure Page) (next : Page → Option Place)
    (endless : Failure) : Nat → Place → World → World × Except Failure (List Page)
  | 0, _, world => (world, .error endless)
  | left + 1, place, world =>
      match fetch place world with
      | (later, .error failure) => (later, .error failure)
      | (later, .ok page) =>
          match next page with
          | none => (later, .ok [page])
          | some rest =>
              match follow fetch next endless left rest later with
              | (last, .error failure) => (last, .error failure)
              | (last, .ok pages) => (last, .ok (page :: pages))

inductive Leads (page : Place → Except Failure Page) (next : Page → Option Place) :
    Place → List Page → Prop
  | last {place : Place} {found : Page} (fetched : page place = .ok found)
      (final : next found = none) : Leads page next place [found]
  | more {place rest : Place} {found : Page} {pages : List Page} (fetched : page place = .ok found)
      (named : next found = some rest) (behind : Leads page next rest pages) :
      Leads page next place (found :: pages)

section Pages

variable {fetch : Place → World → World × Except Failure Page} {page : Place → Except Failure Page}
variable {next : Page → Option Place} {endless : Failure} {left : Nat} {place : Place} {world : World}
variable {pages : List Page}

/-- What is followed is there, if each page that is fetched is. -/
theorem follow_leads (honest : ∀ place world found, (fetch place world).2 = .ok found →
      page place = .ok found)
    (followed : (follow fetch next endless left place world).2 = .ok pages) :
    Leads page next place pages ∧ pages.length ≤ left := by
  induction left generalizing place world pages with
  | zero => cases followed
  | succ left ih =>
      rw [follow] at followed
      cases fetched : fetch place world with
      | mk later outcome =>
          rw [fetched] at followed
          cases outcome with
          | error failure => cases followed
          | ok found =>
              have real := honest place world found (by rw [fetched])
              cases named : next found with
              | none =>
                  simp only [named, Except.ok.injEq] at followed
                  subst followed
                  exact ⟨.last real named, by simp⟩
              | some rest =>
                  simp only [named] at followed
                  cases behind : follow fetch next endless left rest later with
                  | mk last outcome =>
                      rw [behind] at followed
                      cases outcome with
                      | error failure => cases followed
                      | ok others =>
                          simp only [Except.ok.injEq] at followed
                          subst followed
                          obtain ⟨leads, bound⟩ := ih (congrArg Prod.snd behind)
                          refine ⟨.more real named leads, ?_⟩
                          rw [List.length_cons]
                          omega

/-- The pages are followed to their end, if there are not too many and each fetch succeeds. -/
theorem Leads.followed (steady : ∀ place world, (fetch place world).2 = page place)
    (leads : Leads page next place pages) (short : pages.length ≤ left) :
    (follow fetch next endless left place world).2 = .ok pages := by
  induction leads generalizing left world with
  | @last place found fetched final =>
      cases left with
      | zero => simp at short
      | succ left =>
          rw [← steady place world] at fetched
          rw [follow]
          cases result : fetch place world with
          | mk later outcome =>
              rw [result] at fetched
              simp only at fetched
              rw [fetched]
              simp only [final]
  | @more place rest found pages fetched named behind ih =>
      cases left with
      | zero => simp at short
      | succ left =>
          rw [← steady place world] at fetched
          rw [follow]
          cases result : fetch place world with
          | mk later outcome =>
              rw [result] at fetched
              simp only at fetched
              rw [fetched]
              rw [List.length_cons] at short
              have later : (follow fetch next endless left rest later).2 = .ok pages := ih (by omega)
              simp only [named]
              split
              · rename_i last failure same
                rw [same] at later
                cases later
              · rename_i last others same
                rw [same] at later
                simp only [Except.ok.injEq] at later
                rw [later]

theorem follow_ok_iff (steady : ∀ place world, (fetch place world).2 = page place) :
    (follow fetch next endless left place world).2 = .ok pages ↔
      Leads page next place pages ∧ pages.length ≤ left := by
  constructor
  · intro followed
    refine follow_leads (fun place world found fetched => ?_) followed
    rw [← steady place world]
    exact fetched
  · rintro ⟨leads, short⟩
    exact leads.followed steady short

/-- What each fetch adds to a measure bounds what is added by all that are followed. -/
theorem follow_cost (cost : World → Nat) {most : Nat}
    (each : ∀ place world, cost (fetch place world).1 ≤ cost world + most) :
    cost (follow fetch next endless left place world).1 ≤ cost world + left * most := by
  induction left generalizing place world with
  | zero =>
      exact Nat.le_add_right _ _
  | succ left ih =>
      have first := each place world
      rw [follow, Nat.succ_mul]
      cases fetched : fetch place world with
      | mk later outcome =>
          rw [fetched] at first
          simp only at first
          cases outcome with
          | error failure =>
              simp only
              omega
          | ok found =>
              cases named : next found with
              | none =>
                  simp only [named]
                  omega
              | some rest =>
                  have behind :
                      cost (follow fetch next endless left rest later).1 ≤ cost later + left * most :=
                    ih
                  simp only [named]
                  split
                  · rename_i last failure same
                    rw [same] at behind
                    simp only at behind ⊢
                    omega
                  · rename_i last others same
                    rw [same] at behind
                    simp only at behind ⊢
                    omega

end Pages

end Fetching
