import AetherMesh.Cloud.Ec2Items

/-!
Which resources are discovered. The values of an instance are its own as far as they stand before
the first of its children with an item in it.
-/

namespace AetherMesh

open Markup

/-- Everything that is read of an instance stands before the first child with an item in it, or is
what is taken when it is missing. -/
def Instance.Legible (region : List Char) (described : Instance) : Prop :=
  (valueIn described.front "instanceId".toList).isSome ∧
  (∀ value, valueIn described.segments "instanceType".toList = some value →
    (valueIn described.front "instanceType".toList).isSome ∨ value = "unknown".toList) ∧
  (∀ value, valueIn described.segments "availabilityZone".toList = some value →
    (valueIn described.front "availabilityZone".toList).isSome ∨ value = region) ∧
  ∀ value, valueIn described.segments "coreCount".toList = some value →
    (valueIn described.front "coreCount".toList).isSome ∨ (parseU32 value).getD 1 = 1

section Sets

variable {region : List Char} {segment : Segment} {tokens : List Token}

theorem resourceFrom_congr {values others : List Char → Option (List Char)}
    (same : ∀ name ∈ fields, values name = others name) :
    resourceFrom region values = resourceFrom region others := by
  simp only [fields, List.forall_mem_cons] at same
  obtain ⟨id, kind, zone, count, -⟩ := same
  simp only [resourceFrom, ofInstance, id, kind, zone, count]

theorem resources_none {blocks : List (List Char)}
    (empty : ∀ block ∈ blocks, xmlValue block "instanceId".toList = none) :
    (blocks.filterMap fun item => resourceFrom region (xmlValue item)) = [] := by
  rw [List.filterMap_eq_nil_iff]
  intro block member
  rw [resourceFrom, empty block member]
  rfl

theorem set_resources (instances : List (Text × Instance)) (space : Text) :
    ((xmlValues (render (Listing.content Instance.tokens instances space)) "item".toList).filterMap
        fun item => resourceFrom region (xmlValue item)) =
      instances.filterMap fun entry => resourceFrom region (valueIn entry.2.front) := by
  have skip : ∀ (text : Text) (rest : List Char),
      xmlValues (render [.text text.chars] ++ rest) "item".toList =
        xmlValues rest "item".toList := by
    intro text rest
    exact xmlValues_skip (by decide) (List.forall_mem_singleton.mpr text.plain) (by simp)
  induction instances with
  | nil =>
      have last := skip space []
      rw [List.append_nil] at last
      rw [Listing.content, List.flatMap_nil, List.nil_append, last]
      rfl
  | cons entry rest ih =>
      obtain ⟨item, blocks, values, empty, read⟩ :=
        entry.2.block (render (Listing.content Instance.tokens rest space))
      have shape : render (Listing.content Instance.tokens (entry :: rest) space) =
          render [.text entry.1.chars] ++ (render entry.2.tokens ++
            render (Listing.content Instance.tokens rest space)) := by
        simp [Listing.content, render]
      rw [shape, skip, read, List.filterMap_append, List.filterMap_cons, resources_none empty, ih,
        resourceFrom_congr values, List.filterMap_cons]
      cases resourceFrom region (valueIn entry.2.front) with
      | none => rfl
      | some resource => rfl

theorem segment_inside (known : segment.Known) :
    .tag "/instancesSet".toList ∉ segment.tokens := by
  cases segment with
  | value name text =>
      have apart : ∀ name ∈ fields, "/instancesSet".toList ≠ name ∧
          "/instancesSet".toList ≠ '/' :: name := by
        decide
      obtain ⟨first, second⟩ := apart name known
      simp only [Segment.tokens, List.mem_cons, List.not_mem_nil, Token.tag.injEq, reduceCtorEq,
        first, second, or_self, not_false_iff]
  | tag body =>
      have apart : ∀ body ∈ wrappers, "/instancesSet".toList ≠ body := by decide
      simp only [Segment.tokens, List.mem_singleton, Token.tag.injEq, apart body known,
        not_false_iff]
  | node inner => exact (inner.foreign.2 "instancesSet".toList List.mem_cons_self).2

theorem set_inside (instances : List (Text × Instance)) (last : Text) :
    ∀ token ∈ Listing.content Instance.tokens instances last,
      token.Valid ∧ token ≠ .tag "/instancesSet".toList := by
  intro token member
  rw [Listing.content, List.mem_append, List.mem_flatMap, List.mem_singleton] at member
  rcases member with ⟨⟨space, described⟩, -, inside⟩ | rfl
  · rw [Instance.tokens, List.mem_cons, List.mem_append, List.mem_cons, List.mem_singleton]
      at inside
    rcases inside with rfl | (rfl | within) | rfl
    · exact ⟨space.plain, by simp⟩
    · exact ⟨by simp [Token.Valid], by simp⟩
    · obtain ⟨segment, among, token_member⟩ := List.mem_flatMap.mp within
      have known := described.segments_known segment among
      exact ⟨known.valid token token_member, fun same => segment_inside known (same ▸ token_member)⟩
    · exact ⟨by simp [Token.Valid], by simp⟩
  · exact ⟨last.plain, by simp⟩

def Listing.sets : Listing Instance → List (List Char)
  | .closed => []
  | .listed instances last => [render (Listing.content Instance.tokens instances last)]

theorem xmlValues_foreign (foreign : Foreign tokens) (rest : List Char) :
    xmlValues (render tokens ++ rest) "instancesSet".toList =
      xmlValues rest "instancesSet".toList :=
  xmlValues_skip (by decide) foreign.1 (foreign.2 _ List.mem_cons_self).1

theorem instances_set (instances : Listing Instance) (rest : List Char) :
    xmlValues (render (instances.tokens Instance.tokens "instancesSet") ++ rest)
        "instancesSet".toList =
      instances.sets ++ xmlValues rest "instancesSet".toList := by
  cases instances with
  | closed => exact xmlValues_foreign (foreign_tag (by decide) (by decide)) rest
  | listed instances last =>
      have inside : .tag ('/' :: "instancesSet".toList) ∉
          Listing.content Instance.tokens instances last :=
        fun member => (set_inside instances last _ member).2 rfl
      have block := @xmlValues_block rest _ _ (by decide)
        (fun token member => (set_inside instances last token member).1) inside
      refine Eq.trans ?_ block
      simp [Listing.tokens, render, Token.render]

/-- A reservation and the text before it: its set is read. -/
theorem reservation_set (space : Text) (reservation : Reservation) (rest : List Char) :
    xmlValues (render (.text space.chars :: reservation.tokens) ++ rest) "instancesSet".toList =
      reservation.instances.sets ++ xmlValues rest "instancesSet".toList := by
  have item : Foreign [.tag "item".toList] := foreign_tag (by decide) (by decide)
  have closing : Foreign [.tag "/item".toList] := foreign_tag (by decide) (by decide)
  have front : Foreign ([.text space.chars] ++ [.tag "item".toList] ++
      Node.listTokens reservation.before) :=
    foreign_append.mpr ⟨foreign_append.mpr ⟨foreign_text space.plain, item⟩,
      Node.list_foreign reservation.before⟩
  have back : Foreign (Node.listTokens reservation.after ++ [.tag "/item".toList]) :=
    foreign_append.mpr ⟨Node.list_foreign reservation.after, closing⟩
  have shape : render (.text space.chars :: reservation.tokens) ++ rest =
      render ([.text space.chars] ++ [.tag "item".toList] ++ Node.listTokens reservation.before) ++
        (render (reservation.instances.tokens Instance.tokens "instancesSet") ++
          (render (Node.listTokens reservation.after ++ [.tag "/item".toList]) ++ rest)) := by
    simp [Reservation.tokens, render, Token.render]
  rw [shape, xmlValues_foreign front, instances_set, xmlValues_foreign back]

theorem reservation_sets (reservations : List (Text × Reservation)) (rest : List Char) :
    xmlValues (render (reservations.flatMap fun entry => .text entry.1.chars :: entry.2.tokens) ++
      rest) "instancesSet".toList =
        (reservations.flatMap fun entry => entry.2.instances.sets) ++
          xmlValues rest "instancesSet".toList := by
  induction reservations with
  | nil => rfl
  | cons entry others ih =>
      rw [List.flatMap_cons, render_append, List.append_assoc, reservation_set, ih,
        List.flatMap_cons, List.append_assoc]

theorem front_foreign (reply : Reply) : Foreign reply.front := by
  have declared : Foreign (reply.declaration.map fun name =>
      Token.tag ('?' :: name.chars ++ ['?'])).toList := by
    cases reply.declaration with
    | none => exact foreign_nil
    | some name =>
        obtain ⟨less, greater, -⟩ := name.plain
        refine foreign_tag ⟨by simp [less], by simp [greater]⟩ fun listed member => ⟨?_, ?_⟩
        · intro same
          have marked : ∀ name ∈ reserved, '?' ∉ name := by decide
          exact marked listed member (same ▸ List.mem_cons_self)
        · intro same
          exact absurd (List.cons.inj same).1 (by decide)
  have root : Foreign [.tag "DescribeInstancesResponse".toList] :=
    foreign_tag (by decide) (by decide)
  have start : Foreign (.text reply.start.chars :: .tag "DescribeInstancesResponse".toList ::
      Node.listTokens reply.before) :=
    foreign_append.mpr ⟨foreign_text reply.start.plain,
      foreign_append.mpr ⟨root, Node.list_foreign reply.before⟩⟩
  exact foreign_append.mpr ⟨declared, start⟩

theorem back_foreign (reply : Reply) : Foreign reply.back :=
  foreign_append.mpr ⟨Node.list_foreign reply.after, foreign_tag (by decide) (by decide)⟩

theorem listing_sets (reservations : Listing Reservation) (rest : List Char) :
    xmlValues (render (reservations.tokens Reservation.tokens "reservationSet") ++ rest)
        "instancesSet".toList =
      (reservations.entries.flatMap fun reservation => reservation.instances.sets) ++
        xmlValues rest "instancesSet".toList := by
  cases reservations with
  | closed => exact xmlValues_foreign (foreign_tag (by decide) (by decide)) rest
  | listed reservations last =>
      have opening : Foreign [.tag "reservationSet".toList] := foreign_tag (by decide) (by decide)
      have closing : Foreign [.text last.chars, .tag "/reservationSet".toList] :=
        foreign_append.mpr ⟨foreign_text last.plain, foreign_tag (by decide) (by decide)⟩
      have shape : render ((Listing.listed reservations last).tokens Reservation.tokens
            "reservationSet") ++ rest =
          render [.tag "reservationSet".toList] ++
            (render (reservations.flatMap fun entry => .text entry.1.chars :: entry.2.tokens) ++
              (render [.text last.chars, .tag "/reservationSet".toList] ++ rest)) := by
        simp [Listing.tokens, Listing.content, render, Token.render]
      rw [shape, xmlValues_foreign opening, reservation_sets, xmlValues_foreign closing,
        Listing.entries, List.flatMap_map]

theorem reply_sets (reply : Reply) : xmlValues reply.xml "instancesSet".toList =
    reply.reservations.entries.flatMap fun reservation => reservation.instances.sets := by
  have nothing := xmlValues_foreign (back_foreign reply) []
  rw [List.append_nil] at nothing
  rw [Reply.xml, Reply.tokens, render_append, render_append, List.append_assoc,
    xmlValues_foreign (front_foreign reply), listing_sets, nothing, xmlValues_nil, List.append_nil]

/-- Each instance gives what its front gives, and nothing else is discovered. -/
theorem discoverResources_eq (region : List Char) (reply : Reply) :
    discoverResources region reply.xml =
      reply.instances.filterMap fun described => resourceFrom region (valueIn described.front) := by
  rw [discoverResources, instanceItems, reply_sets, Reply.instances, List.flatMap_assoc,
    List.filterMap_flatMap, List.filterMap_flatMap]
  refine List.flatMap_congr fun reservation _ => ?_
  cases reservation.instances with
  | closed => rfl
  | listed instances last =>
      rw [Listing.sets, List.flatMap_singleton, Listing.entries, List.filterMap_map]
      exact set_resources instances last

end Sets

theorem valueIn_front {described : Instance} {name value : List Char}
    (found : valueIn described.front name = some value) :
    valueIn described.segments name = some value := by
  have whole := List.takeWhile_append_dropWhile (p := fun segment : Segment => !segment.hasItem)
    (l := described.segments)
  rw [valueIn, ← whole, List.findSome?_append]
  rw [valueIn, Instance.front] at found
  rw [found]
  rfl

theorem Part.no_id (part : Part) :
    ∀ segment ∈ part.segments, segment.valueOf "instanceId".toList = none := by
  have around : ∀ (name field : String) (front back : List Node) (value : Option Text),
      field.toList ≠ "instanceId".toList → ∀ segment ∈ Part.around name field front value back,
        segment.valueOf "instanceId".toList = none := by
    intro name field front back value other segment member
    rcases Part.mem_around member with rfl | ⟨node, rfl⟩ | ⟨text, rfl⟩ | rfl
    · rfl
    · rfl
    · exact if_neg other
    · rfl
  cases part with
  | instanceType value =>
      have other : "instanceType".toList ≠ "instanceId".toList := by decide
      refine List.forall_mem_singleton.mpr ?_
      rw [Segment.valueOf, if_neg other]
  | placement front zone back => exact around _ _ _ _ _ (by decide)
  | cpuOptions front count back => exact around _ _ _ _ _ (by decide)
  | other node => exact List.forall_mem_singleton.mpr rfl

theorem valueIn_id (described : Instance) :
    valueIn described.segments "instanceId".toList = some described.id.chars := by
  have before : (described.before.flatMap Part.segments).findSome?
      (Segment.valueOf "instanceId".toList) = none := by
    rw [List.findSome?_eq_none_iff]
    intro segment member
    obtain ⟨part, -, inside⟩ := List.mem_flatMap.mp member
    exact part.no_id segment inside
  rw [valueIn, Instance.segments, List.findSome?_append, before, List.findSome?_cons]
  rfl

/-- With the front alone the same comes out, unless it misses something else than the default. -/
theorem read_front_iff {Result : Type} (described : Instance) (name : List Char)
    (read : Option (List Char) → Result) :
    read (valueIn described.front name) = read (valueIn described.segments name) ↔
      ∀ value, valueIn described.segments name = some value →
        (valueIn described.front name).isSome ∨ read (some value) = read none := by
  cases shown : valueIn described.front name with
  | some value =>
      rw [valueIn_front shown]
      exact iff_of_true rfl fun _ _ => .inl rfl
  | none =>
      constructor
      · intro same value found
        exact .inr (by rw [← found, ← same])
      · intro missed
        cases found : valueIn described.segments name with
        | none => rfl
        | some value =>
            rcases missed value found with shown | same
            · cases shown
            · exact same.symm

theorem ofInstance_inj {region id : List Char} {values others : List Char → Option (List Char)} :
    ofInstance region id values = ofInstance region id others ↔
      (values "instanceType".toList).getD "unknown".toList =
          (others "instanceType".toList).getD "unknown".toList ∧
        (values "availabilityZone".toList).getD region =
          (others "availabilityZone".toList).getD region ∧
        ((values "coreCount".toList).bind parseU32).getD 1 =
          ((others "coreCount".toList).bind parseU32).getD 1 := by
  simp only [ofInstance, CloudResource.withLabel, CloudResource.withClass, CloudResource.new,
    CloudResource.mk.injEq]
  constructor
  · rintro ⟨-, zone, kind, count, -⟩
    exact ⟨kind, zone, count⟩
  · rintro ⟨kind, zone, count⟩
    exact ⟨trivial, zone, kind, count, trivial, trivial, trivial⟩

theorem Instance.legible_iff (region : List Char) (described : Instance) :
    resourceFrom region (valueIn described.front) = some (described.resource region) ↔
      described.Legible region := by
  cases shown : valueIn described.front "instanceId".toList with
  | none =>
      rw [resourceFrom, shown]
      refine iff_of_false nofun fun legible => ?_
      have id := legible.1
      rw [shown] at id
      cases id
  | some id =>
      obtain rfl := Option.some.inj ((valueIn_front shown).symm.trans (valueIn_id described))
      have computed : resourceFrom region (valueIn described.front) =
          some (ofInstance region described.id.chars (valueIn described.front)) := by
        rw [resourceFrom, shown]
        rfl
      have there : (valueIn described.front "instanceId".toList).isSome = true := by
        rw [shown]
        rfl
      rw [computed, Option.some.injEq, Instance.resource, ofInstance_inj, Instance.Legible]
      rw [read_front_iff described _ fun value => value.getD "unknown".toList,
        read_front_iff described _ fun value => value.getD region,
        read_front_iff described _ fun value => (value.bind parseU32).getD 1]
      exact (and_iff_right there).symm

/-- There is one resource for each instance in their order, with the instance's own values, if and
only if everything that is read of an instance stands before its first child with an item in it, or
is what is taken when it is missing. -/
theorem discovers_instances_iff (region : List Char) (reply : Reply) :
    discoverResources region reply.xml = reply.instances.map (Instance.resource region) ↔
      ∀ described ∈ reply.instances, described.Legible region := by
  rw [discoverResources_eq, List.filterMap_eq_map_iff_forall_eq_some]
  exact forall₂_congr fun described _ => described.legible_iff region

def groupSet : Node :=
  .element ⟨"groupSet".toList, by decide, by decide⟩
    [.element ⟨"item".toList, by decide, by decide⟩ []]

def groupedInstance : Instance where
  before := []
  id := ⟨"i-1".toList, by decide⟩
  after := [.other groupSet, .instanceType ⟨"m5.large".toList, by decide⟩]

def groupedReply : Reply where
  declaration := none
  start := ⟨[], by decide⟩
  before := []
  reservations := .listed
    [(⟨[], by decide⟩, ⟨[], .listed [(⟨[], by decide⟩, groupedInstance)] ⟨[], by decide⟩, []⟩)]
    ⟨[], by decide⟩
  after := []

theorem type_behind_groups_missed :
    (discoverResources "eu".toList groupedReply.xml).map CloudResource.kind =
        ["unknown".toList] ∧
      (groupedReply.instances.map (Instance.resource "eu".toList)).map CloudResource.kind =
        ["m5.large".toList] ∧
      discoverResources "eu".toList groupedReply.xml ≠
        groupedReply.instances.map (Instance.resource "eu".toList) := by
  have found : (discoverResources "eu".toList groupedReply.xml).map CloudResource.kind =
      ["unknown".toList] := by
    rw [discoverResources_eq]
    decide
  have own : (groupedReply.instances.map (Instance.resource "eu".toList)).map CloudResource.kind =
      ["m5.large".toList] := by
    decide
  refine ⟨found, own, fun same => ?_⟩
  rw [same, own] at found
  exact absurd found (by decide)

end AetherMesh
