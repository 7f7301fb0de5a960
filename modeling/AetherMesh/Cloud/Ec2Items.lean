import AetherMesh.Cloud.Ec2Reply

/-!
What is read of the items of a reply. An item is read up to the first tag that closes one, whether
it is its own or that of an item within; what is left of it gives items without an id.
-/

namespace AetherMesh

open Markup

section Blocks

variable {tokens before after : List Token} {token : Token}

/-- No reserved element starts or ends among the tokens. -/
def Foreign (tokens : List Token) : Prop :=
  Valid tokens ∧ ∀ name ∈ reserved, .tag name ∉ tokens ∧ .tag ('/' :: name) ∉ tokens

theorem foreign_append : Foreign (before ++ after) ↔ Foreign before ∧ Foreign after := by
  simp only [Foreign, valid_append, List.mem_append, not_or]
  constructor
  · rintro ⟨⟨first, second⟩, names⟩
    exact ⟨⟨first, fun name listed => ⟨(names name listed).1.1, (names name listed).2.1⟩⟩,
      ⟨second, fun name listed => ⟨(names name listed).1.2, (names name listed).2.2⟩⟩⟩
  · rintro ⟨⟨first, front⟩, second, back⟩
    exact ⟨⟨first, second⟩, fun name listed => ⟨⟨(front name listed).1, (back name listed).1⟩,
      (front name listed).2, (back name listed).2⟩⟩

theorem foreign_nil : Foreign [] := ⟨valid_nil, fun _ _ => ⟨List.not_mem_nil, List.not_mem_nil⟩⟩

theorem foreign_of_subset (foreign : Foreign after) (subset : before ⊆ after) : Foreign before :=
  ⟨fun token member => foreign.1 token (subset member), fun name listed =>
    ⟨fun member => (foreign.2 name listed).1 (subset member),
      fun member => (foreign.2 name listed).2 (subset member)⟩⟩

theorem reserved_plain : ∀ name ∈ reserved, '<' ∉ name ∧ '>' ∉ name ∧ '/' ∉ name := by
  decide

theorem xmlValue_foreign (foreign : Foreign tokens) {name : List Char} (listed : name ∈ reserved) :
    xmlValue (render tokens) name = none := by
  have skipped := @xmlValues_skip [] name tokens (reserved_plain name listed).2.1 foreign.1
    (foreign.2 name listed).1
  rw [List.append_nil] at skipped
  rw [xmlValue, skipped]
  rfl

/-- Only items without an id are read from the tokens, whatever comes behind them. -/
def Passed (tokens : List Token) : Prop :=
  ∀ rest, ∃ blocks, (∀ block ∈ blocks, xmlValue block "instanceId".toList = none) ∧
    xmlValues (render tokens ++ rest) "item".toList = blocks ++ xmlValues rest "item".toList

/-- Wherever reading starts among the tokens, it ends with them. -/
def Closed (tokens : List Token) : Prop := ∀ suffix, suffix <:+ tokens → Passed suffix

theorem passed_nil : Passed [] := fun _ => ⟨[], List.forall_mem_nil _, rfl⟩

theorem Passed.append (first : Passed before) (second : Passed after) :
    Passed (before ++ after) := by
  intro rest
  obtain ⟨blocks, empty, read⟩ := first (render after ++ rest)
  obtain ⟨more, also, later⟩ := second rest
  refine ⟨blocks ++ more, List.forall_mem_append.mpr ⟨empty, also⟩, ?_⟩
  rw [render_append, List.append_assoc, read, later, List.append_assoc]

theorem passed_of_no_item (valid : Valid tokens) (absent : .tag "item".toList ∉ tokens) :
    Passed tokens :=
  fun _ => ⟨[], List.forall_mem_nil _, xmlValues_skip (by decide) valid absent⟩

theorem closed_nil : Closed [] := fun _ suffix => List.suffix_nil.mp suffix ▸ passed_nil

theorem Closed.passed (closed : Closed tokens) : Passed tokens := closed tokens (List.suffix_refl _)

theorem Closed.append (first : Closed before) (second : Closed after) :
    Closed (before ++ after) := by
  rintro suffix ⟨front, whole⟩
  rcases List.append_eq_append_iff.mp whole with ⟨middle, same, split⟩ | ⟨middle, same, split⟩
  · exact split ▸ (first middle ⟨front, same.symm⟩).append second.passed
  · exact second suffix ⟨middle, split.symm⟩

theorem closed_of_no_item (valid : Valid tokens) (absent : .tag "item".toList ∉ tokens) :
    Closed tokens :=
  fun _ suffix => passed_of_no_item (fun token member => valid token (suffix.subset member))
    fun member => absent (suffix.subset member)

/-- An item is read up to the first tag that closes one, and what is left of it is passed. -/
theorem item_block (closed : Closed tokens) (valid : Valid tokens) (rest : List Char) :
    ∃ front later blocks,
      tokens ++ [.tag "/item".toList] = front ++ .tag "/item".toList :: later ∧
      .tag "/item".toList ∉ front ∧
      (∀ block ∈ blocks, xmlValue block "instanceId".toList = none) ∧
      xmlValues (render (.tag "item".toList :: (tokens ++ [.tag "/item".toList])) ++ rest)
        "item".toList = render front :: blocks ++ xmlValues rest "item".toList := by
  have last : Valid [.tag "/item".toList] := by simp [Valid, Token.Valid]
  obtain ⟨front, later, split, first⟩ := List.eq_append_cons_of_mem
    (List.mem_append_right tokens (List.mem_singleton_self (Token.tag "/item".toList)))
  have whole : Closed (tokens ++ [.tag "/item".toList]) :=
    closed.append (closed_of_no_item last (by decide))
  have suffix : later <:+ tokens ++ [.tag "/item".toList] :=
    split ▸ (List.suffix_cons _ later).trans (List.suffix_append front _)
  obtain ⟨blocks, empty, read⟩ := whole later suffix rest
  have inside : Valid front := fun token member =>
    valid_append.mpr ⟨valid, last⟩ token (split ▸ List.mem_append_left _ member)
  refine ⟨front, later, blocks, split, first, empty, ?_⟩
  have block := @xmlValues_block (render later ++ rest) "item".toList front (by decide) inside first
  rw [split, render_cons, render_append, render_cons, List.cons_append, ← read, ← block]
  simp only [Token.render, List.append_assoc]
  rfl

theorem foreign_tag {body : List Char} (plain : '<' ∉ body ∧ '>' ∉ body)
    (other : ∀ name ∈ reserved, body ≠ name ∧ body ≠ '/' :: name) : Foreign [.tag body] := by
  refine ⟨List.forall_mem_singleton.mpr plain, fun name listed => ?_⟩
  simp only [List.mem_singleton, Token.tag.injEq]
  exact ⟨(other name listed).1.symm, (other name listed).2.symm⟩

theorem foreign_text {content : List Char} (plain : '<' ∉ content) : Foreign [.text content] :=
  ⟨List.forall_mem_singleton.mpr plain, fun name _ => by simp⟩

mutual

theorem Node.foreign : ∀ node : Node, Foreign node.tokens
  | .text content => foreign_text content.plain
  | .empty name => by
      obtain ⟨less, greater, slash⟩ := name.plain
      refine foreign_tag ⟨by simp [less], by simp [greater]⟩ fun listed member => ⟨?_, ?_⟩
      · rintro same
        exact (reserved_plain listed member).2.2 (same ▸ by simp)
      · intro same
        cases chars : name.chars with
        | nil =>
            rw [chars] at same
            obtain rfl : listed = [] := (List.cons.inj same).2.symm
            exact absurd member (by decide)
        | cons first rest =>
            rw [chars] at same slash
            exact slash ((List.cons.inj same).1 ▸ List.mem_cons_self)
  | .element name children => by
      obtain ⟨less, greater, slash⟩ := name.plain
      have inner := Node.list_foreign children
      have opening : Foreign [.tag name.chars] := by
        refine foreign_tag ⟨less, greater⟩ fun listed member => ⟨?_, ?_⟩
        · intro same
          exact name.other (same ▸ member)
        · intro same
          exact slash (same ▸ List.mem_cons_self)
      have closing : Foreign [.tag ('/' :: name.chars)] := by
        refine foreign_tag ⟨by simp [less], by simp [greater]⟩ fun listed member => ⟨?_, ?_⟩
        · intro same
          exact (reserved_plain listed member).2.2 (same ▸ List.mem_cons_self)
        · intro same
          exact name.other ((List.cons.inj same).2 ▸ member)
      exact foreign_append.mpr ⟨foreign_append.mpr ⟨opening, inner⟩, closing⟩

theorem Node.list_foreign : ∀ nodes : List Node, Foreign (Node.listTokens nodes)
  | [] => foreign_nil
  | node :: rest => foreign_append.mpr ⟨node.foreign, Node.list_foreign rest⟩

end

theorem Closed.element {name : OtherName} {children : List Node}
    (inner : Closed (Node.listTokens children)) :
    Closed (Node.tokens (.element name children)) := by
  obtain ⟨less, greater, slash⟩ := name.plain
  have foreign := Node.foreign (.element name children)
  have children_valid := (Node.list_foreign children).1
  have closing : Closed [.tag ('/' :: name.chars)] := by
    refine closed_of_no_item (List.forall_mem_singleton.mpr ⟨by simp [less], by simp [greater]⟩) ?_
    intro same
    simp only [List.mem_singleton, Token.tag.injEq] at same
    have slashed : '/' ∈ "item".toList := same ▸ List.mem_cons_self
    exact absurd slashed (by decide)
  intro suffix among
  rw [Node.tokens, List.cons_append, List.suffix_cons_iff] at among
  rcases among with rfl | later
  · by_cases item : name.chars = "item".toList
    · intro rest
      obtain ⟨front, later, blocks, split, -, empty, read⟩ := item_block inner children_valid rest
      rw [Node.tokens, item, List.cons_append] at foreign
      refine ⟨render front :: blocks, List.forall_mem_cons.mpr ⟨?_, empty⟩, ?_⟩
      · refine xmlValue_foreign (foreign_of_subset foreign fun token member => ?_) (by decide)
        have among : token ∈ Node.listTokens children ++ [.tag "/item".toList] :=
          split ▸ List.mem_append_left _ member
        exact List.mem_cons_of_mem _ among
      · rw [item]
        exact read
    · have opening : Passed [.tag name.chars] := by
        refine passed_of_no_item (List.forall_mem_singleton.mpr ⟨less, greater⟩) ?_
        simp only [List.mem_singleton, Token.tag.injEq]
        exact fun same => item same.symm
      exact opening.append (inner.append closing).passed
  · exact inner.append closing suffix later

mutual

theorem Node.closed : ∀ node : Node, Closed node.tokens
  | .text content =>
      closed_of_no_item (List.forall_mem_singleton.mpr content.plain) (by simp [Node.tokens])
  | .empty name => by
      refine closed_of_no_item (Node.foreign (.empty name)).1 fun same => ?_
      simp only [Node.tokens, List.mem_singleton, Token.tag.injEq] at same
      have slashed : '/' ∈ "item".toList := by simp [same]
      exact absurd slashed (by decide)
  | .element name children => Closed.element (Node.list_closed children)

theorem Node.list_closed : ∀ nodes : List Node, Closed (Node.listTokens nodes)
  | [] => closed_nil
  | node :: rest => (Node.closed node).append (Node.list_closed rest)

end

mutual

theorem Node.hasItem_iff : ∀ node : Node, node.hasItem = true ↔ .tag "/item".toList ∈ node.tokens
  | .text content => by simp [Node.hasItem, Node.tokens]
  | .empty name => by
      refine iff_of_false Bool.false_ne_true fun member => ?_
      simp only [Node.tokens, List.mem_singleton, Token.tag.injEq] at member
      cases chars : name.chars with
      | nil =>
          rw [chars] at member
          exact absurd member (by decide)
      | cons first rest =>
          have slash := name.plain.2.2
          rw [chars] at member slash
          exact slash ((List.cons.inj member).1 ▸ List.mem_cons_self)
  | .element name children => by
      have opening : .tag "/item".toList ≠ Token.tag name.chars := by
        intro same
        exact name.plain.2.2 (Token.tag.inj same ▸ List.mem_cons_self)
      have closing : Token.tag "/item".toList = .tag ('/' :: name.chars) ↔
          name.chars = "item".toList := by
        rw [Token.tag.injEq]
        exact ⟨fun same => (List.cons.inj same).2.symm, fun same => by rw [same]; rfl⟩
      rw [Node.hasItem, Bool.or_eq_true, Node.list_hasItem_iff children, decide_eq_true_eq,
        Node.tokens, List.mem_append, List.mem_cons, or_iff_right opening, List.mem_singleton,
        closing, or_comm]

theorem Node.list_hasItem_iff : ∀ nodes : List Node,
    Node.listHasItem nodes = true ↔ .tag "/item".toList ∈ Node.listTokens nodes
  | [] => by simp [Node.listHasItem, Node.listTokens]
  | node :: rest => by
      rw [Node.listHasItem, Node.listTokens, Bool.or_eq_true, List.mem_append,
        Node.hasItem_iff node, Node.list_hasItem_iff rest]

end

def wrappers : List (List Char) :=
  ["placement".toList, "/placement".toList, "cpuOptions".toList, "/cpuOptions".toList]

def Segment.Known : Segment → Prop
  | .value name _ => name ∈ fields
  | .tag body => body ∈ wrappers
  | .node _ => True

theorem Part.mem_around {name field : String} {front back : List Node} {value : Option Text}
    {segment : Segment} (member : segment ∈ Part.around name field front value back) :
    segment = .tag name.toList ∨ (∃ node, segment = .node node) ∨
      (∃ text, segment = .value field.toList text) ∨ segment = .tag ('/' :: name.toList) := by
  simp only [Part.around, List.mem_append, List.mem_cons, List.mem_map, List.not_mem_nil,
    or_false, Option.mem_toList, Option.map_eq_some_iff] at member
  rcases member with (((rfl | ⟨node, -, rfl⟩) | ⟨text, -, rfl⟩) | ⟨node, -, rfl⟩) | rfl
  · exact .inl rfl
  · exact .inr (.inl ⟨node, rfl⟩)
  · exact .inr (.inr (.inl ⟨text, rfl⟩))
  · exact .inr (.inl ⟨node, rfl⟩)
  · exact .inr (.inr (.inr rfl))

theorem Part.around_known {name field : String} {front back : List Node} {value : Option Text}
    (opening : name.toList ∈ wrappers) (closing : '/' :: name.toList ∈ wrappers)
    (listed : field.toList ∈ fields) :
    ∀ segment ∈ Part.around name field front value back, segment.Known := by
  intro segment member
  rcases Part.mem_around member with rfl | ⟨node, rfl⟩ | ⟨text, rfl⟩ | rfl
  · exact opening
  · exact trivial
  · exact listed
  · exact closing

theorem Part.segments_known (part : Part) : ∀ segment ∈ part.segments, segment.Known := by
  cases part with
  | instanceType value => exact List.forall_mem_singleton.mpr (by decide : _ ∈ fields)
  | placement front zone back => exact Part.around_known (by decide) (by decide) (by decide)
  | cpuOptions front count back => exact Part.around_known (by decide) (by decide) (by decide)
  | other node => exact List.forall_mem_singleton.mpr trivial

theorem Instance.segments_known (described : Instance) :
    ∀ segment ∈ described.segments, segment.Known := by
  intro segment member
  rw [Instance.segments, List.mem_append, List.mem_cons, List.mem_flatMap, List.mem_flatMap]
    at member
  rcases member with ⟨part, -, inside⟩ | rfl | ⟨part, -, inside⟩
  · exact part.segments_known segment inside
  · exact (by decide : "instanceId".toList ∈ fields)
  · exact part.segments_known segment inside

variable {segment : Segment} {segments : List Segment} {name : List Char}

theorem fields_reserved (listed : name ∈ fields) : name ∈ reserved := List.mem_cons_of_mem _ listed

namespace Segment.Known

theorem valid (known : segment.Known) : Valid segment.tokens := by
  cases segment with
  | value name text =>
      obtain ⟨less, greater, -⟩ := reserved_plain name (fields_reserved known)
      simp only [Segment.tokens, valid_cons, Token.Valid]
      exact ⟨⟨less, greater⟩, text.plain, ⟨by simp [less], by simp [greater]⟩, valid_nil⟩
  | tag body =>
      have plain : ∀ body ∈ wrappers, '<' ∉ body ∧ '>' ∉ body := by decide
      exact List.forall_mem_singleton.mpr (plain body known)
  | node inner => exact inner.foreign.1

theorem no_item (known : segment.Known) :
    (∃ inner, segment = .node inner) ∨
      .tag "item".toList ∉ segment.tokens ∧ .tag "/item".toList ∉ segment.tokens := by
  cases segment with
  | value name text =>
      have apart : ∀ name ∈ fields, "item".toList ≠ name ∧ "item".toList ≠ '/' :: name ∧
          "/item".toList ≠ name ∧ "/item".toList ≠ '/' :: name := by
        decide
      obtain ⟨first, second, third, fourth⟩ := apart name known
      refine .inr ?_
      simp only [Segment.tokens, List.mem_cons, List.not_mem_nil, Token.tag.injEq, reduceCtorEq,
        first, second, third, fourth, or_self, not_false_iff, and_self]
  | tag body =>
      have apart : ∀ body ∈ wrappers, "item".toList ≠ body ∧ "/item".toList ≠ body := by decide
      obtain ⟨first, second⟩ := apart body known
      refine .inr ?_
      simp only [Segment.tokens, List.mem_singleton, Token.tag.injEq, first, second, not_false_iff,
        and_self]
  | node inner => exact .inl ⟨inner, rfl⟩

theorem closed (known : segment.Known) : Closed segment.tokens := by
  rcases known.no_item with ⟨inner, rfl⟩ | ⟨absent, -⟩
  · exact inner.closed
  · exact closed_of_no_item known.valid absent

end Segment.Known

theorem xmlValues_segment (known : segment.Known) (listed : name ∈ fields)
    (other : segment.valueOf name = none) (rest : List Char) :
    xmlValues (render segment.tokens ++ rest) name = xmlValues rest name := by
  obtain ⟨less, greater, slash⟩ := reserved_plain name (fields_reserved listed)
  refine xmlValues_skip greater known.valid fun member => ?_
  cases segment with
  | value found text =>
      simp only [Segment.tokens, List.mem_cons, List.not_mem_nil, Token.tag.injEq, reduceCtorEq,
        or_false, false_or] at member
      rcases member with same | slashed
      · simp [Segment.valueOf, same] at other
      · exact slash (slashed ▸ List.mem_cons_self)
  | tag body =>
      have apart : ∀ name ∈ fields, name ∉ wrappers := by decide
      simp only [Segment.tokens, List.mem_singleton, Token.tag.injEq] at member
      exact apart name listed (member ▸ known)
  | node inner => exact (inner.foreign.2 name (fields_reserved listed)).1 member

theorem xmlValue_segments (known : ∀ segment ∈ segments, segment.Known) (foreign : Foreign tokens)
    (listed : name ∈ fields) :
    xmlValue (render (segments.flatMap Segment.tokens ++ tokens)) name = valueIn segments name := by
  induction segments with
  | nil => exact xmlValue_foreign foreign (fields_reserved listed)
  | cons segment rest ih =>
      obtain ⟨first, others⟩ := List.forall_mem_cons.mp known
      rw [List.flatMap_cons, List.append_assoc, render_append, valueIn, List.findSome?_cons]
      cases found : segment.valueOf name with
      | none =>
          rw [xmlValue, xmlValues_segment first listed found]
          exact ih others
      | some value =>
          cases segment with
          | value own text =>
              simp only [Segment.valueOf, Option.ite_none_right_eq_some, Option.some.injEq] at found
              obtain ⟨rfl, rfl⟩ := found
              obtain ⟨-, greater, -⟩ := reserved_plain own (fields_reserved listed)
              have plain : Valid [.text text.chars] := List.forall_mem_singleton.mpr text.plain
              have block := @xmlValues_block
                (render (rest.flatMap Segment.tokens ++ tokens)) own [.text text.chars] greater
                plain (by simp)
              have shape : render (Segment.tokens (.value own text)) ++
                  render (rest.flatMap Segment.tokens ++ tokens) =
                    mark own ++ (render [.text text.chars] ++ (mark ('/' :: own) ++
                      render (rest.flatMap Segment.tokens ++ tokens))) := by
                simp [Segment.tokens, render, Token.render]
              rw [xmlValue, shape, block, List.head?_cons]
              simp [render, Token.render]
          | tag body => cases found
          | node inner => cases found

theorem foreign_before {inner : Node} {rest front later : List Token}
    (item : inner.hasItem = true)
    (split : inner.tokens ++ rest = front ++ .tag "/item".toList :: later)
    (first : .tag "/item".toList ∉ front) : Foreign front := by
  have closes := inner.hasItem_iff.mp item
  rcases List.append_eq_append_iff.mp split with ⟨middle, same, -⟩ | ⟨middle, same, -⟩
  · exact absurd (same ▸ List.mem_append_left _ closes) first
  · exact foreign_of_subset inner.foreign fun token member => same ▸ List.mem_append_left _ member

/-- What is read of an item reaches into the first segment with an item in it. -/
theorem exists_front {front later : List Token} (known : ∀ segment ∈ segments, segment.Known)
    (split : segments.flatMap Segment.tokens ++ [.tag "/item".toList] =
      front ++ .tag "/item".toList :: later) (first : .tag "/item".toList ∉ front) :
    ∃ partly, Foreign partly ∧
      front = (segments.takeWhile fun segment => !segment.hasItem).flatMap Segment.tokens ++
        partly := by
  induction segments generalizing front with
  | nil =>
      refine ⟨[], foreign_nil, ?_⟩
      cases front with
      | nil => rfl
      | cons token front =>
          have same := (List.cons.inj split).1
          exact absurd (same ▸ List.mem_cons_self) first
  | cons segment rest ih =>
      obtain ⟨own, others⟩ := List.forall_mem_cons.mp known
      rw [List.flatMap_cons, List.append_assoc] at split
      by_cases item : segment.hasItem = true
      · -- the item is within another element, and only a part of that is read
        rw [List.takeWhile_cons_of_neg (by simp [item])]
        refine ⟨front, ?_, rfl⟩
        cases segment with
        | value name text => cases item
        | tag body => cases item
        | node inner => exact foreign_before item split first
      · have absent : .tag "/item".toList ∉ segment.tokens := by
          rcases own.no_item with ⟨inner, rfl⟩ | ⟨-, absent⟩
          · exact mt inner.hasItem_iff.mpr item
          · exact absent
        rw [List.takeWhile_cons_of_pos (by simp [item]), List.flatMap_cons]
        rcases List.append_eq_append_iff.mp split with ⟨middle, rfl, more⟩ | ⟨middle, same, more⟩
        · obtain ⟨partly, foreign, rfl⟩ := ih others more fun member =>
            first (List.mem_append_right _ member)
          exact ⟨partly, foreign, (List.append_assoc _ _ _).symm⟩
        · cases middle with
          | nil =>
              obtain ⟨partly, foreign, empty⟩ := @ih [] others more.symm List.not_mem_nil
              refine ⟨partly, foreign, ?_⟩
              rw [List.append_nil] at same
              rw [List.append_assoc, ← empty, List.append_nil, same]
          | cons token middle =>
              have closes := (List.cons.inj more).1
              rw [same, List.mem_append, closes] at absent
              exact absurd (.inr List.mem_cons_self) absent

theorem segments_closed (known : ∀ segment ∈ segments, segment.Known) :
    Valid (segments.flatMap Segment.tokens) ∧ Closed (segments.flatMap Segment.tokens) := by
  induction segments with
  | nil => exact ⟨valid_nil, closed_nil⟩
  | cons segment rest ih =>
      obtain ⟨own, others⟩ := List.forall_mem_cons.mp known
      rw [List.flatMap_cons]
      exact ⟨valid_append.mpr ⟨own.valid, (ih others).1⟩, own.closed.append (ih others).2⟩

/-- From an instance the values before its first nested item are read, and nothing from the others. -/
theorem Instance.block (described : Instance) (rest : List Char) :
    ∃ item blocks, (∀ name ∈ fields, xmlValue item name = valueIn described.front name) ∧
      (∀ block ∈ blocks, xmlValue block "instanceId".toList = none) ∧
      xmlValues (render described.tokens ++ rest) "item".toList =
        item :: blocks ++ xmlValues rest "item".toList := by
  have known := described.segments_known
  obtain ⟨valid, closed⟩ := segments_closed known
  obtain ⟨front, later, blocks, split, first, empty, read⟩ := item_block closed valid rest
  obtain ⟨partly, foreign, rfl⟩ := exists_front known split first
  refine ⟨_, blocks, fun name listed => ?_, empty, read⟩
  refine xmlValue_segments (fun segment member => ?_) foreign listed
  exact known segment ((List.takeWhile_sublist _).subset member)

end Blocks

end AetherMesh
