import AetherMesh.Core.Data

/-! Who may join the mesh: the tokens the controller accepts. -/

namespace AetherMesh

def constantTimeEq (left right : Bytes) : Bool :=
  left.length = right.length &&
    (left.zip right).foldl (fun difference pair => difference ||| (pair.1 ^^^ pair.2)) 0 = 0

structure SecurityConfig where
  authToken : Option String
  nodeTokens : List (String × String)

inductive AuthError
  | missingToken
  | invalidToken
deriving DecidableEq

def AuthError.text : AuthError → String
  | .missingToken => "this controller requires a token"
  | .invalidToken => "invalid token"

namespace SecurityConfig

/-- No authentication. The source's `open` is called `openTo`. -/
def openTo : SecurityConfig := ⟨none, []⟩

def requiresAuth (config : SecurityConfig) : Bool :=
  config.authToken.isSome || !config.nodeTokens.isEmpty

/-- Every candidate is compared; the label of the last one that fits is reported. -/
def identify (config : SecurityConfig) (presented : Option String) :
    Except AuthError (Option String) :=
  if !config.requiresAuth then .ok none
  else
    match presented with
    | none => .error .missingToken
    | some presented =>
        let shared : Option (Option String) := config.authToken.bind fun token =>
          if constantTimeEq (asBytes token) (asBytes presented) then some none else none
        let matched := config.nodeTokens.foldl (fun matched entry =>
          if constantTimeEq (asBytes entry.2) (asBytes presented) then some (some entry.1)
          else matched) shared
        match matched with
        | some label => .ok label
        | none => .error .invalidToken

def authorize (config : SecurityConfig) (presented : Option String) : Except AuthError Unit :=
  (config.identify presented).map fun _ => ()

end SecurityConfig

theorem or_xor_eq_zero (difference left right : UInt8) :
    difference ||| (left ^^^ right) = 0 ↔ difference = 0 ∧ left = right := by
  rw [UInt8.or_eq_zero_iff, UInt8.xor_eq_zero_iff]

theorem foldl_difference (pairs : List (UInt8 × UInt8)) (start : UInt8) :
    pairs.foldl (fun difference pair => difference ||| (pair.1 ^^^ pair.2)) start = 0 ↔
      start = 0 ∧ ∀ pair ∈ pairs, pair.1 = pair.2 := by
  induction pairs generalizing start with
  | nil => simp
  | cons pair rest ih =>
      rw [List.foldl_cons, ih, or_xor_eq_zero, List.forall_mem_cons, and_assoc]

theorem constantTimeEq_iff (left right : Bytes) : constantTimeEq left right = true ↔ left = right := by
  simp only [constantTimeEq, Bool.and_eq_true, decide_eq_true_eq, foldl_difference, true_and]
  constructor
  · rintro ⟨size, equal⟩
    refine List.ext_getElem size fun index first second => ?_
    have bound : index < (left.zip right).length := by
      rw [List.length_zip]
      exact Nat.lt_min.mpr ⟨first, second⟩
    have pair := equal _ (List.getElem_mem bound)
    simpa using pair
  · rintro rfl
    refine ⟨rfl, fun pair member => ?_⟩
    obtain ⟨index, bound, rfl⟩ := List.getElem_of_mem member
    simp

end AetherMesh
