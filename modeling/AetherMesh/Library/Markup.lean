import Mathlib.Data.List.Infix

/-!
Text with markup: tags in angle brackets between text that has no opening bracket. A tag that is
found in the text is one of its tags.
-/

namespace Markup

inductive Token
  | tag (body : List Char)
  | text (content : List Char)
deriving DecidableEq

def Token.Valid : Token → Prop
  | .tag body => '<' ∉ body ∧ '>' ∉ body
  | .text content => '<' ∉ content

def mark (body : List Char) : List Char := '<' :: body ++ ['>']

def Token.render : Token → List Char
  | .tag body => mark body
  | .text content => content

def render (tokens : List Token) : List Char := tokens.flatMap Token.render

def Valid (tokens : List Token) : Prop := ∀ token ∈ tokens, token.Valid

variable {tokens before after : List Token} {token : Token} {body front rest tail : List Char}
  {char : Char}

theorem render_append : render (before ++ after) = render before ++ render after :=
  List.flatMap_append

theorem render_cons : render (token :: tokens) = token.render ++ render tokens :=
  List.flatMap_cons

theorem valid_append : Valid (before ++ after) ↔ Valid before ∧ Valid after :=
  List.forall_mem_append

theorem valid_cons : Valid (token :: tokens) ↔ token.Valid ∧ Valid tokens :=
  List.forall_mem_cons

theorem valid_nil : Valid [] := List.forall_mem_nil _

theorem infix_skip (absent : char ∉ front) (inside : char :: rest <:+: front ++ tail) :
    char :: rest <:+: tail := by
  induction front with
  | nil => exact inside
  | cons first front ih =>
      rw [List.mem_cons, not_or] at absent
      rw [List.cons_append, List.infix_cons_iff] at inside
      rcases inside with starts | later
      · exact absurd (List.cons_prefix_cons.mp starts).1 absent.1
      · exact ih absent.2 later

theorem prefix_closed {other : List Char} (plain : '>' ∉ body) (alike : '>' ∉ other)
    (starts : body ++ ['>'] <+: other ++ '>' :: tail) : body = other := by
  induction body generalizing other with
  | nil =>
      cases other with
      | nil => rfl
      | cons first other =>
          have same := (List.cons_prefix_cons.mp starts).1
          exact absurd (same ▸ List.mem_cons_self) alike
  | cons first body ih =>
      rw [List.mem_cons, not_or] at plain
      cases other with
      | nil =>
          have same := (List.cons_prefix_cons.mp starts).1
          exact absurd same.symm plain.1
      | cons next other =>
          rw [List.mem_cons, not_or] at alike
          obtain ⟨same, more⟩ := List.cons_prefix_cons.mp starts
          rw [same, ih plain.2 alike.2 more]

/-- A tag that stands in the text is one of its tags, whatever comes behind them. -/
theorem infix_render (plain : '>' ∉ body) (valid : Valid tokens) :
    mark body <:+: render tokens ++ tail ↔ .tag body ∈ tokens ∨ mark body <:+: tail := by
  constructor
  · intro inside
    induction tokens with
    | nil => exact .inr inside
    | cons token tokens ih =>
        obtain ⟨first, others⟩ := valid_cons.mp valid
        rw [render_cons, List.append_assoc] at inside
        rw [List.mem_cons, or_assoc]
        cases token with
        | text content => exact .inr (ih others (infix_skip first inside))
        | tag other =>
            rw [Token.render, mark, mark, List.cons_append, List.cons_append, List.cons_append,
              List.infix_cons_iff] at inside
            rcases inside with starts | later
            · have closed := (List.cons_prefix_cons.mp starts).2
              rw [List.append_assoc, List.singleton_append] at closed
              rw [prefix_closed plain first.2 closed]
              exact .inl rfl
            · refine .inr (ih others (infix_skip ?_ later))
              simp [first.1]
  · rintro (member | inside)
    · obtain ⟨before, after, rfl⟩ := List.append_of_mem member
      rw [render_append, render_cons, Token.render]
      exact ⟨render before, render after ++ tail, by simp only [List.append_assoc]⟩
    · exact inside.trans (List.suffix_append _ _).isInfix

end Markup
