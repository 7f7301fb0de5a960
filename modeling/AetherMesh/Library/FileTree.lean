import Mathlib.Data.List.Infix

/-!
A tree of files with symbolic links, and the real path that a path through it leads to. A path is
walked from its front; a link puts its own steps before those that are left, and only so many links
are followed.
-/

namespace FileTree

inductive Step
  | current
  | parent
  | name (name : String)
deriving DecidableEq

structure Target where
  absolute : Bool
  steps : List Step
deriving DecidableEq

inductive Node (Content : Type*)
  | file (content : Content)
  | directory
  | link (target : Target)

structure Tree (Content : Type*) where
  node : List String → Option (Node Content)
  root : node [] = some .directory

variable {Content : Type*}

/-- Where the steps lead from a directory. What to do at a link is a parameter. -/
def walk (tree : Tree Content) (follow : List String → List Step → Option (List String)) :
    List String → List Step → Option (List String)
  | here, [] => some here
  | here, .current :: rest => walk tree follow here rest
  | here, .parent :: rest => walk tree follow here.dropLast rest
  | here, .name name :: rest =>
      match tree.node (here ++ [name]) with
      | none => none
      | some .directory => walk tree follow (here ++ [name]) rest
      | some (.file _) => if rest = [] then some (here ++ [name]) else none
      | some (.link target) =>
          follow (if target.absolute then [] else here) (target.steps ++ rest)

def resolve (tree : Tree Content) : Nat → List String → List Step → Option (List String)
  | 0 => walk tree fun _ _ => none
  | links + 1 => walk tree (resolve tree links)

def Held (tree : Tree Content) (path : List String) : Prop :=
  ∀ front, front <+: path → tree.node front = some .directory

inductive Real (tree : Tree Content) : List String → Prop
  | directory {path} (held : Held tree path) : Real tree path
  | file {path name content} (held : Held tree path)
      (stands : tree.node (path ++ [name]) = some (.file content)) : Real tree (path ++ [name])

def Node.shape : Node Content → Node Unit
  | .file _ => .file ()
  | .directory => .directory
  | .link target => .link target

def SameShape (left right : Tree Content) : Prop :=
  ∀ path, (left.node path).map Node.shape = (right.node path).map Node.shape

variable {tree left right : Tree Content} {here path : List String} {steps : List Step}
  {follow : List String → List Step → Option (List String)} {links : Nat}

theorem held_root : Held tree [] := by
  intro front within
  rw [List.prefix_nil.mp within]
  exact tree.root

theorem Held.parent (held : Held tree here) : Held tree here.dropLast := by
  intro front within
  exact held front (within.trans (List.dropLast_prefix here))

theorem Held.enter {name : String} (held : Held tree here)
    (stands : tree.node (here ++ [name]) = some .directory) : Held tree (here ++ [name]) := by
  intro front within
  rcases List.prefix_concat_iff.mp within with rfl | inside
  · exact stands
  · exact held front inside

theorem walk_real (held : Held tree here)
    (follows : ∀ here steps path, Held tree here → follow here steps = some path →
      Real tree path)
    (walked : walk tree follow here steps = some path) : Real tree path := by
  induction steps generalizing here with
  | nil =>
      rw [walk, Option.some.injEq] at walked
      subst walked
      exact .directory held
  | cons step rest ih =>
      cases step with
      | current => exact ih held walked
      | parent => exact ih held.parent walked
      | name name =>
          rw [walk] at walked
          split at walked
          · cases walked
          · rename_i stands
            exact ih (held.enter stands) walked
          · rename_i content stands
            split at walked
            · rw [Option.some.injEq] at walked
              subst walked
              exact .file held stands
            · cases walked
          · rename_i target stands
            refine follows _ _ _ ?_ walked
            split
            · exact held_root
            · exact held

/-- Where a path leads, no link is left on the way. -/
theorem resolve_real (held : Held tree here) (resolved : resolve tree links here steps = some path) :
    Real tree path := by
  induction links generalizing here steps path with
  | zero =>
      refine walk_real held ?_ resolved
      intro here steps path _ followed
      cases followed
  | succ links ih =>
      refine walk_real held ?_ resolved
      intro here steps path held followed
      exact ih held followed

theorem walk_alike (alike : SameShape left right)
    {other : List String → List Step → Option (List String)}
    (follows : ∀ here steps, follow here steps = other here steps) :
    walk left follow here steps = walk right other here steps := by
  induction steps generalizing here with
  | nil => rfl
  | cons step rest ih =>
      cases step with
      | current => exact ih
      | parent => exact ih
      | name name =>
          have shape := alike (here ++ [name])
          rw [walk, walk]
          cases first : left.node (here ++ [name]) with
          | none =>
              cases second : right.node (here ++ [name]) with
              | none => rfl
              | some node => simp [first, second] at shape
          | some node =>
              cases second : right.node (here ++ [name]) with
              | none => simp [first, second] at shape
              | some other =>
                  rw [first, second, Option.map_some, Option.map_some, Option.some.injEq] at shape
                  cases node <;> cases other <;>
                    simp only [Node.shape, reduceCtorEq, Node.link.injEq] at shape
                  · rfl
                  · exact ih
                  · subst shape
                    exact follows _ _

theorem resolve_alike (alike : SameShape left right) :
    resolve left links here steps = resolve right links here steps := by
  induction links generalizing here steps with
  | zero => exact walk_alike alike fun _ _ => rfl
  | succ links ih => exact walk_alike alike fun _ _ => ih

theorem walk_names {names : List String} {rest : List Step} (held : Held tree (here ++ names)) :
    walk tree follow here (names.map .name ++ rest) = walk tree follow (here ++ names) rest := by
  induction names generalizing here with
  | nil => rw [List.map_nil, List.nil_append, List.append_nil]
  | cons name names ih =>
      have assoc : here ++ name :: names = here ++ [name] ++ names := by
        rw [List.append_assoc, List.singleton_append]
      have stands := held (here ++ [name]) (assoc ▸ List.prefix_append _ _)
      rw [assoc] at held ⊢
      rw [List.map_cons, List.cons_append, walk, stands]
      exact ih held

/-- A real path leads to itself, from any directory on it. -/
theorem walk_of_real {names : List String} (real : Real tree (here ++ names)) :
    walk tree follow here (names.map .name) = some (here ++ names) := by
  generalize whole : here ++ names = path at real
  cases real with
  | directory held =>
      subst whole
      have walked : walk tree follow here (names.map .name ++ []) =
          walk tree follow (here ++ names) [] := walk_names held
      rwa [List.append_nil, walk] at walked
  | @file above name content held stands =>
      rcases List.eq_nil_or_concat names with rfl | ⟨before, last, rfl⟩
      · rw [List.append_nil] at whole
        rw [List.map_nil, walk, whole]
      · rw [List.concat_eq_append, ← List.append_assoc] at whole
        obtain ⟨rfl, same⟩ := List.append_inj' whole rfl
        rw [List.singleton_inj] at same
        subst same
        rw [List.concat_eq_append, List.map_append, List.map_singleton]
        rw [walk_names held, walk, stands]
        exact if_pos rfl

theorem walk_onward {names : List String}
    (follows : ∀ here steps, follow here (steps ++ [.current]) = some path →
      follow here (steps ++ names.map .name) = some (path ++ names))
    (real : Real tree (path ++ names))
    (walked : walk tree follow here (steps ++ [.current]) = some path) :
    walk tree follow here (steps ++ names.map .name) = some (path ++ names) := by
  induction steps generalizing here with
  | nil =>
      rw [List.nil_append, walk, walk, Option.some.injEq] at walked
      subst walked
      exact walk_of_real real
  | cons step rest ih =>
      rw [List.cons_append] at walked ⊢
      cases step with
      | current => exact ih walked
      | parent => exact ih walked
      | name name =>
          rw [walk] at walked ⊢
          cases stands : tree.node (here ++ [name]) with
          | none => simp only [stands, reduceCtorEq] at walked
          | some node =>
              cases node with
              | file content =>
                  have more : rest ++ [Step.current] ≠ [] := by simp
                  simp only [stands, if_neg more, reduceCtorEq] at walked
              | directory =>
                  simp only [stands] at walked
                  exact ih walked
              | link target =>
                  simp only [stands, ← List.append_assoc] at walked ⊢
                  exact follows _ _ walked

theorem resolve_onward {names : List String} (real : Real tree (path ++ names))
    (resolved : resolve tree links here (steps ++ [.current]) = some path) :
    resolve tree links here (steps ++ names.map .name) = some (path ++ names) := by
  induction links generalizing here steps with
  | zero =>
      refine walk_onward ?_ real resolved
      intro here steps followed
      cases followed
  | succ links ih =>
      refine walk_onward ?_ real resolved
      intro here steps followed
      exact ih followed

theorem walk_stays
    (follows : ∀ here steps, follow here steps = some path →
      follow here (steps ++ [.current]) = some path)
    (stands : tree.node path = some .directory)
    (walked : walk tree follow here steps = some path) :
    walk tree follow here (steps ++ [.current]) = some path := by
  induction steps generalizing here with
  | nil => exact walked
  | cons step rest ih =>
      rw [List.cons_append]
      cases step with
      | current => exact ih walked
      | parent => exact ih walked
      | name name =>
          rw [walk] at walked ⊢
          cases found : tree.node (here ++ [name]) with
          | none => simp only [found, reduceCtorEq] at walked
          | some node =>
              cases node with
              | file content =>
                  simp only [found] at walked
                  split at walked
                  · rw [Option.some.injEq] at walked
                    rw [walked, stands] at found
                    cases found
                  · cases walked
              | directory =>
                  simp only [found] at walked
                  exact ih walked
              | link target =>
                  simp only [found] at walked
                  simp only [← List.append_assoc]
                  exact follows _ _ walked

theorem resolve_stays (stands : tree.node path = some .directory)
    (resolved : resolve tree links here steps = some path) :
    resolve tree links here (steps ++ [.current]) = some path := by
  induction links generalizing here steps with
  | zero =>
      refine walk_stays ?_ stands resolved
      intro here steps followed
      cases followed
  | succ links ih =>
      refine walk_stays ?_ stands resolved
      intro here steps followed
      exact ih followed

/-- Whatever a real path goes through is a directory. -/
theorem Real.above {rest : List String} (real : Real tree (path ++ rest)) (more : rest ≠ []) :
    tree.node path = some .directory := by
  generalize whole : path ++ rest = full at real
  cases real with
  | directory held => exact held path (whole ▸ List.prefix_append _ _)
  | file held stands =>
      rcases List.eq_nil_or_concat rest with rfl | ⟨before, last, rfl⟩
      · exact absurd rfl more
      · rw [List.concat_eq_append, ← List.append_assoc] at whole
        obtain ⟨rfl, -⟩ := List.append_inj' whole rfl
        exact held path (List.prefix_append _ _)

end FileTree
