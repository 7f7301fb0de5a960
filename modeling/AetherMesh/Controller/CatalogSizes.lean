import AetherMesh.Controller.Catalog
import AetherMesh.Library.Runs
import Mathlib.Algebra.BigOperators.Group.List.Basic
import Mathlib.Data.List.Perm.Basic

/-!
With how many bytes a node is credited. A dataset has one size in the catalog, that of
the record which entered it, whoever it was about. Two histories that differ in what
other nodes report are replayed side by side.
-/

namespace AetherMesh

open Runs

def DataCatalog.stored (catalog : DataCatalog) (descriptor : DataDescriptor) : Nat :=
  match catalog.get descriptor.id with
  | some entry => entry.descriptor.sizeBytes
  | none => descriptor.sizeBytes

def DataCatalog.credit (catalog : DataCatalog) (nodeId : NodeId) (dataId : DataId) : Option Nat :=
  ((catalog.get dataId).filter fun entry => nodeId ∈ entry.locations).map
    fun entry => entry.descriptor.sizeBytes

namespace DataCatalog

variable {catalog left right : DataCatalog} {nodeId self : NodeId} {dataId : DataId}
  {descriptor : DataDescriptor} {size : Nat}

theorem credit_eq_some_iff : catalog.credit nodeId dataId = some size ↔
    ∃ entry ∈ catalog.entries, entry.descriptor.id = dataId ∧ nodeId ∈ entry.locations ∧
      entry.descriptor.sizeBytes = size := by
  simp only [credit, Option.map_eq_some_iff, Option.filter_eq_some_iff, get_eq_some_iff,
    decide_eq_true_eq]
  constructor
  · rintro ⟨entry, ⟨⟨member, named⟩, held⟩, same⟩
    exact ⟨entry, member, named, held, same⟩
  · rintro ⟨entry, member, named, held, same⟩
    exact ⟨entry, ⟨⟨member, named⟩, held⟩, same⟩

theorem isSome_credit : (catalog.credit nodeId dataId).isSome = catalog.holds dataId nodeId := by
  unfold credit holds
  cases catalog.get dataId with
  | none => rfl
  | some entry => by_cases held : nodeId ∈ entry.locations <;> simp [Option.filter, held]

theorem mem_record {entry : CatalogEntry} : entry ∈ (catalog.record descriptor nodeId).entries ↔
    (∃ old ∈ catalog.entries, insertLocation descriptor.id nodeId old = entry) ∨
      catalog.get descriptor.id = none ∧ entry = ⟨descriptor, {nodeId}⟩ := by
  unfold record
  split
  · rename_i known found
    simp [found]
  · rename_i missing
    have fresh : ∀ old ∈ catalog.entries, insertLocation descriptor.id nodeId old = old := by
      intro old member
      refine if_neg fun same => get_none missing ?_
      exact List.mem_map.mpr ⟨old, member, same⟩
    simp only [List.mem_append, List.mem_singleton, missing, true_and]
    refine or_congr_left ⟨fun member => ⟨entry, member, fresh entry member⟩, ?_⟩
    rintro ⟨old, member, rfl⟩
    rwa [fresh old member]

theorem insertLocation_size (entry : CatalogEntry) :
    (insertLocation dataId nodeId entry).descriptor = entry.descriptor := by
  unfold insertLocation
  split <;> rfl

theorem mem_insertLocation {entry : CatalogEntry} :
    self ∈ (insertLocation dataId nodeId entry).locations ↔
      self ∈ entry.locations ∨ entry.descriptor.id = dataId ∧ self = nodeId := by
  unfold insertLocation
  split
  · rename_i same
    simp [same, or_comm]
  · rename_i different
    simp [different]

theorem credit_record_other (other : nodeId ≠ self ∨ dataId ≠ descriptor.id) :
    (catalog.record descriptor nodeId).credit self dataId = catalog.credit self dataId := by
  refine Option.ext fun size => ?_
  rw [credit_eq_some_iff, credit_eq_some_iff]
  constructor
  · rintro ⟨entry, member, named, held, sized⟩
    rcases mem_record.mp member with ⟨old, present, rfl⟩ | ⟨-, rfl⟩
    · rw [insertLocation_id] at named
      rw [insertLocation_size] at sized
      rcases mem_insertLocation.mp held with before | ⟨same, rfl⟩
      · exact ⟨old, present, named, before, sized⟩
      · exact absurd (named.symm.trans same) (other.resolve_left fun different => different rfl)
    · obtain rfl := Finset.mem_singleton.mp held
      exact absurd named.symm (other.resolve_left fun different => different rfl)
  · rintro ⟨entry, member, named, held, sized⟩
    refine ⟨_, mem_record.mpr (.inl ⟨entry, member, rfl⟩), ?_, mem_insertLocation.mpr (.inl held), ?_⟩
    · rw [insertLocation_id, named]
    · rw [insertLocation_size, sized]

theorem credit_record_own :
    (catalog.record descriptor self).credit self descriptor.id = some (catalog.stored descriptor) := by
  rw [credit_eq_some_iff, stored]
  cases found : catalog.get descriptor.id with
  | some entry =>
      obtain ⟨member, named⟩ := get_eq_some_iff.mp found
      refine ⟨_, mem_record.mpr (.inl ⟨entry, member, rfl⟩), ?_,
        mem_insertLocation.mpr (.inr ⟨named, rfl⟩), ?_⟩
      · rw [insertLocation_id, named]
      · rw [insertLocation_size]
  | none => exact ⟨_, mem_record.mpr (.inr ⟨found, rfl⟩), rfl, Finset.mem_singleton_self self, rfl⟩

theorem credit_of_holds (held : catalog.holds descriptor.id self = true) :
    catalog.credit self descriptor.id = some (catalog.stored descriptor) := by
  unfold holds at held
  unfold credit stored
  cases found : catalog.get descriptor.id with
  | none => simp [found] at held
  | some entry => simpa [found, Option.filter] using held

theorem credit_withdraw {selected : DataId → Bool} :
    (catalog.withdraw nodeId selected).credit self dataId =
      if selected dataId = true ∧ self = nodeId then none else catalog.credit self dataId := by
  refine Option.ext fun size => ?_
  have kept := @holds_withdraw catalog nodeId self selected dataId
  split
  · rename_i gone
    refine iff_of_false (fun credited => ?_) (by simp)
    have held : (catalog.withdraw nodeId selected).holds dataId self = true := by
      rw [← isSome_credit, credited]
      rfl
    exact (kept.mp held).2 gone
  · rename_i stays
    rw [credit_eq_some_iff, credit_eq_some_iff]
    constructor
    · rintro ⟨entry, member, named, held, sized⟩
      simp only [withdraw, List.mem_filter, List.mem_map] at member
      obtain ⟨⟨old, present, rfl⟩, -⟩ := member
      split at named
      · rename_i chosen
        simp only [chosen, if_true, removeLocation, Finset.mem_erase] at held sized
        exact ⟨old, present, named, held.2, sized⟩
      · rename_i spared
        simp only [spared] at held sized
        exact ⟨old, present, named, held, sized⟩
    · rintro ⟨entry, member, named, held, sized⟩
      by_cases chosen : selected entry.descriptor.id = true
      · have different : self ≠ nodeId := fun same => stays ⟨named ▸ chosen, same⟩
        have left : self ∈ (removeLocation nodeId entry).locations :=
          Finset.mem_erase.mpr ⟨different, held⟩
        refine ⟨removeLocation nodeId entry, ?_, named, left, sized⟩
        simp only [withdraw, List.mem_filter, List.mem_map]
        exact ⟨⟨entry, member, if_pos chosen⟩, decide_eq_true (.inl ⟨self, left⟩)⟩
      · refine ⟨entry, ?_, named, held, sized⟩
        simp only [withdraw, List.mem_filter, List.mem_map]
        exact ⟨⟨entry, member, if_neg chosen⟩, by simp [chosen]⟩

theorem sum_local (inputs : List DataId) :
    (((inputs.filterMap catalog.get).filter fun entry => self ∈ entry.locations).map
        fun entry => entry.descriptor.sizeBytes).sum =
      (inputs.map fun dataId => (catalog.credit self dataId).getD 0).sum := by
  induction inputs with
  | nil => rfl
  | cons dataId rest ih =>
      rw [List.map_cons, List.sum_cons, ← ih, credit, List.filterMap_cons]
      cases catalog.get dataId with
      | none => simp
      | some entry =>
          by_cases held : self ∈ entry.locations
          · simp [held, Option.filter]
          · simp [held, Option.filter]

theorem localBytes_eq (inputs : List DataId) : catalog.localBytes self inputs =
    (inputs.map fun dataId => (catalog.credit self dataId).getD 0 % 2 ^ 64).sum % 2 ^ 64 := by
  rw [localBytes, sum_local, List.sum_nat_mod, List.map_map]
  rfl

def portfolio (catalog : DataCatalog) (nodeId : NodeId) : List (DataId × Nat) :=
  (catalog.entries.filter fun entry => nodeId ∈ entry.locations).map
    fun entry => (entry.descriptor.id, entry.descriptor.sizeBytes % 2 ^ 64)

theorem heldBy_eq : catalog.heldBy self =
    ((catalog.portfolio self).length, ((catalog.portfolio self).map Prod.snd).sum % 2 ^ 64) := by
  simp only [heldBy, portfolio, List.length_map, List.map_map, Prod.mk.injEq, true_and]
  rw [List.sum_nat_mod, List.map_map]
  rfl

theorem mem_portfolio {size : Nat} : (dataId, size) ∈ catalog.portfolio self ↔
    (catalog.credit self dataId).map (· % 2 ^ 64) = some size := by
  simp only [portfolio, List.mem_map, List.mem_filter, decide_eq_true_eq, Prod.mk.injEq,
    Option.map_eq_some_iff, credit_eq_some_iff]
  constructor
  · rintro ⟨entry, ⟨member, held⟩, named, sized⟩
    exact ⟨_, ⟨entry, member, named, held, rfl⟩, sized⟩
  · rintro ⟨_, ⟨entry, member, named, held, rfl⟩, sized⟩
    exact ⟨entry, ⟨member, held⟩, named, sized⟩

theorem nodup_portfolio : (catalog.portfolio self).Nodup := by
  have distinct := (List.filter_sublist (p := fun entry : CatalogEntry => self ∈ entry.locations)
    (l := catalog.entries)).map (fun entry => entry.descriptor.id) |>.nodup catalog.distinct
  refine List.Nodup.of_map Prod.fst ?_
  rw [portfolio, List.map_map]
  exact distinct

end DataCatalog

def SameCredit (self : NodeId) (left right : DataCatalog) : Prop :=
  (∀ inputs, left.localBytes self inputs = right.localBytes self inputs) ∧
    left.heldBy self = right.heldBy self

section

variable {left right : DataCatalog} {self : NodeId}

theorem sameCredit_iff
    (alike : ∀ dataId, left.holds dataId self = right.holds dataId self) :
    SameCredit self left right ↔ ∀ dataId, (left.credit self dataId).map (· % 2 ^ 64) =
      (right.credit self dataId).map (· % 2 ^ 64) := by
  constructor
  · rintro ⟨bytes, -⟩ dataId
    have single := bytes [dataId]
    rw [DataCatalog.localBytes_eq, DataCatalog.localBytes_eq] at single
    have held := alike dataId
    rw [← DataCatalog.isSome_credit, ← DataCatalog.isSome_credit] at held
    cases first : left.credit self dataId with
    | none =>
        rw [first] at held
        cases second : right.credit self dataId with
        | none => rfl
        | some size => simp [second] at held
    | some size =>
        rw [first] at held
        cases second : right.credit self dataId with
        | none => simp [second] at held
        | some other => simpa [first, second] using single
  · intro credits
    constructor
    · intro inputs
      have sizes : ∀ dataId, (left.credit self dataId).getD 0 % 2 ^ 64 =
          (right.credit self dataId).getD 0 % 2 ^ 64 := by
        intro dataId
        have same := credits dataId
        cases first : left.credit self dataId with
        | none =>
            rw [first, Option.map_none, eq_comm, Option.map_eq_none_iff] at same
            rw [same]
        | some size =>
            rw [first, Option.map_some, eq_comm, Option.map_eq_some_iff] at same
            obtain ⟨other, second, equal⟩ := same
            rw [second]
            exact equal.symm
      rw [DataCatalog.localBytes_eq, DataCatalog.localBytes_eq]
      exact congrArg (fun sizes => List.sum sizes % 2 ^ 64)
        (List.map_congr_left fun dataId _ => sizes dataId)
    · have permuted : (left.portfolio self).Perm (right.portfolio self) := by
        refine (List.perm_ext_iff_of_nodup DataCatalog.nodup_portfolio
          DataCatalog.nodup_portfolio).mpr ?_
        rintro ⟨dataId, size⟩
        rw [DataCatalog.mem_portfolio, DataCatalog.mem_portfolio, credits]
      rw [DataCatalog.heldBy_eq, DataCatalog.heldBy_eq, permuted.length_eq,
        (permuted.map Prod.snd).sum_nat]

end

/-- What changes the catalog: one dataset of a `DataHeld` message, a transfer or an output that
the controller records, one dataset of a `DataEvicted` message, a node that is forgotten. -/
inductive CatalogUpdate
  | reported (nodeId : NodeId) (descriptor : DataDescriptor)
  | recorded (nodeId : NodeId) (descriptor : DataDescriptor)
  | evicted (nodeId : NodeId) (dataId : DataId)
  | forgotten (nodeId : NodeId)
deriving DecidableEq

namespace CatalogUpdate

def apply (catalog : DataCatalog) : CatalogUpdate → DataCatalog
  | .reported nodeId descriptor | .recorded nodeId descriptor => catalog.record descriptor nodeId
  | .evicted nodeId dataId => catalog.remove dataId nodeId
  | .forgotten nodeId => catalog.forgetNode nodeId

def replay (history : List CatalogUpdate) : DataCatalog := history.foldl apply .new

def isShared (self : NodeId) : CatalogUpdate → Bool
  | .reported nodeId _ => nodeId = self
  | _ => true

end CatalogUpdate

open CatalogUpdate

/-- The next update of two histories: it is in both of them, or another node reports a dataset in
one of them only. -/
inductive Move (self : NodeId)
  | both (update : CatalogUpdate)
  | first (nodeId : NodeId) (descriptor : DataDescriptor) (other : nodeId ≠ self)
  | second (nodeId : NodeId) (descriptor : DataDescriptor) (other : nodeId ≠ self)

namespace Move

variable {self : NodeId}

def inFirst : Move self → List CatalogUpdate
  | .both update => [update]
  | .first nodeId descriptor _ => [.reported nodeId descriptor]
  | .second _ _ _ => []

def inSecond : Move self → List CatalogUpdate
  | .both update => [update]
  | .first _ _ _ => []
  | .second nodeId descriptor _ => [.reported nodeId descriptor]

def next (catalogs : DataCatalog × DataCatalog) (move : Move self) :
    Option (DataCatalog × DataCatalog) :=
  some (move.inFirst.foldl apply catalogs.1, move.inSecond.foldl apply catalogs.2)

/-- When the node becomes a holder of a dataset, its size is the same in both histories. -/
def agrees (catalogs : DataCatalog × DataCatalog) : Move self → Bool
  | .both (.reported nodeId descriptor) | .both (.recorded nodeId descriptor) =>
      nodeId ≠ self ∨ catalogs.1.holds descriptor.id self = true ∨
        catalogs.1.stored descriptor % 2 ^ 64 = catalogs.2.stored descriptor % 2 ^ 64
  | _ => true

theorem run_next (moves : List (Move self)) (catalogs : DataCatalog × DataCatalog) :
    run next catalogs moves = some ((moves.flatMap inFirst).foldl apply catalogs.1,
      (moves.flatMap inSecond).foldl apply catalogs.2) := by
  induction moves generalizing catalogs with
  | nil => rfl
  | cons move rest ih =>
      simp only [run, next, Option.bind_some, ih, List.flatMap_cons, List.foldl_append]

end Move

theorem not_shared {self : NodeId} {update : CatalogUpdate} (apart : update.isShared self = false) :
    ∃ nodeId descriptor, update = .reported nodeId descriptor ∧ nodeId ≠ self := by
  cases update with
  | reported nodeId descriptor => exact ⟨nodeId, descriptor, rfl, of_decide_eq_false apart⟩
  | _ => cases apart

theorem exists_moves (self : NodeId) (first second : List CatalogUpdate)
    (shared : first.filter (isShared self) = second.filter (isShared self)) :
    ∃ moves : List (Move self), moves.flatMap Move.inFirst = first ∧
      moves.flatMap Move.inSecond = second := by
  induction first generalizing second with
  | nil =>
      induction second with
      | nil => exact ⟨[], rfl, rfl⟩
      | cons update rest ih =>
          have apart : update.isShared self = false := by
            by_contra kept
            simp [kept] at shared
          rw [List.filter_cons_of_neg (by simp [apart])] at shared
          obtain ⟨nodeId, descriptor, rfl, other⟩ := not_shared apart
          obtain ⟨moves, left, right⟩ := ih shared
          exact ⟨.second nodeId descriptor other :: moves, by simp [Move.inFirst, left],
            by simp [Move.inSecond, right]⟩
  | cons update rest ih =>
      cases apart : update.isShared self with
      | false =>
          rw [List.filter_cons_of_neg (by simp [apart])] at shared
          obtain ⟨nodeId, descriptor, rfl, other⟩ := not_shared apart
          obtain ⟨moves, left, right⟩ := ih second shared
          exact ⟨.first nodeId descriptor other :: moves, by simp [Move.inFirst, left],
            by simp [Move.inSecond, right]⟩
      | true =>
          rw [List.filter_cons_of_pos apart] at shared
          induction second with
          | nil => cases shared
          | cons next others inner =>
              cases foreign : next.isShared self with
              | false =>
                  rw [List.filter_cons_of_neg (by simp [foreign])] at shared
                  obtain ⟨nodeId, descriptor, rfl, other⟩ := not_shared foreign
                  obtain ⟨moves, left, right⟩ := inner shared
                  exact ⟨.second nodeId descriptor other :: moves, by simp [Move.inFirst, left],
                    by simp [Move.inSecond, right]⟩
              | true =>
                  rw [List.filter_cons_of_pos foreign, List.cons.injEq] at shared
                  obtain ⟨rfl, tail⟩ := shared
                  obtain ⟨moves, left, right⟩ := ih others tail
                  exact ⟨.both update :: moves, by simp [Move.inFirst, left],
                    by simp [Move.inSecond, right]⟩

section

variable {self nodeId : NodeId} {left right : DataCatalog} {descriptor : DataDescriptor}
  {catalogs after : DataCatalog × DataCatalog} {move : Move self}

def SameHoldings (self : NodeId) (catalogs : DataCatalog × DataCatalog) : Prop :=
  ∀ dataId, catalogs.1.holds dataId self = catalogs.2.holds dataId self

theorem alike_of_credit
    (first : ∀ dataId, after.1.credit self dataId = catalogs.1.credit self dataId)
    (second : ∀ dataId, after.2.credit self dataId = catalogs.2.credit self dataId)
    (held : SameHoldings self catalogs) :
    SameHoldings self after ∧
      (SameCredit self catalogs.1 catalogs.2 → SameCredit self after.1 after.2) := by
  have still : SameHoldings self after := by
    intro dataId
    rw [← DataCatalog.isSome_credit, ← DataCatalog.isSome_credit, first, second,
      DataCatalog.isSome_credit, DataCatalog.isSome_credit]
    exact held dataId
  refine ⟨still, fun same => ?_⟩
  rw [sameCredit_iff still]
  intro dataId
  rw [first, second]
  exact (sameCredit_iff held).mp same dataId

theorem alike_withdraw (selected : DataId → Bool) (held : SameHoldings self (left, right)) :
    SameHoldings self (left.withdraw nodeId selected, right.withdraw nodeId selected) ∧
      (SameCredit self left right →
        SameCredit self (left.withdraw nodeId selected) (right.withdraw nodeId selected)) := by
  have still : SameHoldings self (left.withdraw nodeId selected, right.withdraw nodeId selected) := by
    intro dataId
    rw [Bool.eq_iff_iff, DataCatalog.holds_withdraw, DataCatalog.holds_withdraw, held dataId]
  refine ⟨still, fun same => ?_⟩
  rw [sameCredit_iff still]
  intro dataId
  rw [DataCatalog.credit_withdraw, DataCatalog.credit_withdraw]
  split
  · rfl
  · exact (sameCredit_iff held).mp same dataId

theorem alike_record_own (held : SameHoldings self (left, right)) :
    SameHoldings self (left.record descriptor self, right.record descriptor self) ∧
      (SameCredit self left right →
        (SameCredit self (left.record descriptor self) (right.record descriptor self) ↔
          left.holds descriptor.id self = true ∨
            left.stored descriptor % 2 ^ 64 = right.stored descriptor % 2 ^ 64)) := by
  have still : SameHoldings self (left.record descriptor self, right.record descriptor self) := by
    intro dataId
    rw [Bool.eq_iff_iff, DataCatalog.holds_record, DataCatalog.holds_record, held dataId]
  refine ⟨still, fun same => ?_⟩
  have before := (sameCredit_iff held).mp same
  rw [sameCredit_iff still]
  constructor
  · intro credits
    have own := credits descriptor.id
    rw [DataCatalog.credit_record_own, DataCatalog.credit_record_own] at own
    exact .inr (Option.some.inj own)
  · intro agreed dataId
    by_cases named : dataId = descriptor.id
    · subst named
      rw [DataCatalog.credit_record_own, DataCatalog.credit_record_own]
      rcases agreed with holder | sizes
      · have credits := before descriptor.id
        rwa [DataCatalog.credit_of_holds holder,
          DataCatalog.credit_of_holds ((held descriptor.id).symm.trans holder)] at credits
      · exact congrArg some sizes
    · rw [DataCatalog.credit_record_other (.inr named), DataCatalog.credit_record_other (.inr named)]
      exact before dataId

theorem Move.record_step (held : SameHoldings self catalogs)
    (moved : after = (catalogs.1.record descriptor nodeId, catalogs.2.record descriptor nodeId)) :
    SameHoldings self after ∧ (SameCredit self catalogs.1 catalogs.2 →
      (SameCredit self after.1 after.2 ↔ nodeId ≠ self ∨
        catalogs.1.holds descriptor.id self = true ∨
          catalogs.1.stored descriptor % 2 ^ 64 = catalogs.2.stored descriptor % 2 ^ 64)) := by
  subst moved
  by_cases own : nodeId = self
  · subst own
    obtain ⟨still, exactly⟩ := alike_record_own held
    refine ⟨still, fun same => ?_⟩
    rw [exactly same]
    exact (or_iff_right fun different => different rfl).symm
  · obtain ⟨still, kept⟩ := @alike_of_credit self catalogs
      (catalogs.1.record descriptor nodeId, catalogs.2.record descriptor nodeId)
      (fun _ => DataCatalog.credit_record_other (.inl own))
      (fun _ => DataCatalog.credit_record_other (.inl own)) held
    exact ⟨still, fun same => iff_of_true (kept same) (.inl own)⟩

theorem Move.next_step (held : SameHoldings self catalogs)
    (moved : Move.next catalogs move = some after) :
    SameHoldings self after ∧ (SameCredit self catalogs.1 catalogs.2 →
      (SameCredit self after.1 after.2 ↔ Move.agrees catalogs move = true)) := by
  obtain rfl := Option.some.inj moved
  cases move with
  | first nodeId descriptor other =>
      obtain ⟨still, kept⟩ := @alike_of_credit self catalogs
        (catalogs.1.record descriptor nodeId, catalogs.2)
        (fun _ => DataCatalog.credit_record_other (.inl other)) (fun _ => rfl) held
      exact ⟨still, fun same => iff_of_true (kept same) rfl⟩
  | second nodeId descriptor other =>
      obtain ⟨still, kept⟩ := @alike_of_credit self catalogs
        (catalogs.1, catalogs.2.record descriptor nodeId)
        (fun _ => rfl) (fun _ => DataCatalog.credit_record_other (.inl other)) held
      exact ⟨still, fun same => iff_of_true (kept same) rfl⟩
  | both update =>
      cases update with
      | reported nodeId descriptor | recorded nodeId descriptor =>
          obtain ⟨still, exactly⟩ := @Move.record_step self nodeId descriptor catalogs _ held rfl
          exact ⟨still, fun same => (exactly same).trans decide_eq_true_iff.symm⟩
      | evicted nodeId dataId =>
          obtain ⟨still, kept⟩ := @alike_withdraw self nodeId _ _ (fun id => id = dataId) held
          exact ⟨still, fun same => iff_of_true (kept same) rfl⟩
      | forgotten nodeId =>
          obtain ⟨still, kept⟩ := @alike_withdraw self nodeId _ _ (fun _ => true) held
          exact ⟨still, fun same => iff_of_true (kept same) rfl⟩

end

def Aligned (self : NodeId) (moves : List (Move self)) (first second : List CatalogUpdate) : Prop :=
  moves.flatMap Move.inFirst = first ∧ moves.flatMap Move.inSecond = second

/-- Two histories with the same updates apart from what other nodes report: replayed side by side
in any way, they credit the node alike all along if and only if each time it becomes a holder of a
dataset, the two catalogs have the same size for it. -/
theorem credits_alike_iff (self : NodeId) (first second : List CatalogUpdate)
    (shared : first.filter (isShared self) = second.filter (isShared self)) :
    (∃ moves, Aligned self moves first second) ∧
    ∀ moves, Aligned self moves first second →
      run Move.next (.new, .new) moves = some (replay first, replay second) ∧
      (Always Move.next (fun catalogs => SameCredit self catalogs.1 catalogs.2) (.new, .new) moves ↔
        Along Move.next (fun catalogs move => Move.agrees catalogs move = true) (.new, .new)
          moves) := by
  refine ⟨exists_moves self first second shared, ?_⟩
  rintro moves ⟨left, right⟩
  have ran := Move.run_next moves (.new, .new)
  refine ⟨by rw [ran, left, right]; rfl, ?_⟩
  exact @always_iff_along (DataCatalog × DataCatalog) (Move self) Move.next
    (fun catalogs move => Move.agrees catalogs move = true)
    (fun catalogs => SameCredit self catalogs.1 catalogs.2) _ _ moves (SameHoldings self)
    (fun _ => rfl) ⟨fun _ => rfl, rfl⟩ (fun _ _ _ held moved => Move.next_step held moved) ran

def blob : DataId := ⟨List.replicate dataIdLen 1, List.length_replicate⟩

def honest : List CatalogUpdate := [.reported ⟨1⟩ ⟨blob, 2⟩, .recorded ⟨0⟩ ⟨blob, 2⟩]

def inflated : List CatalogUpdate := [.reported ⟨1⟩ ⟨blob, 1000⟩, .recorded ⟨0⟩ ⟨blob, 2⟩]

theorem honest_report_alike :
    SameCredit ⟨0⟩ (replay honest) (replay [.recorded ⟨0⟩ ⟨blob, 2⟩]) := by
  obtain ⟨-, side⟩ := credits_alike_iff ⟨0⟩ honest [.recorded ⟨0⟩ ⟨blob, 2⟩] (by decide)
  obtain ⟨ran, exactly⟩ := side [.first ⟨1⟩ ⟨blob, 2⟩ (by decide), .both (.recorded ⟨0⟩ ⟨blob, 2⟩)]
    ⟨rfl, rfl⟩
  have alike := always_last (exactly.mpr (by decide)) ran
  exact alike

/-- What one node says about the dataset changes what another one is credited with. -/
theorem report_inflates_credit :
    inflated.filter (isShared ⟨0⟩) =
        ([.recorded ⟨0⟩ ⟨blob, 2⟩] : List CatalogUpdate).filter (isShared ⟨0⟩) ∧
      (replay inflated).localBytes ⟨0⟩ [blob] = 1000 ∧ (replay inflated).heldBy ⟨0⟩ = (1, 1000) ∧
      (replay [.recorded ⟨0⟩ ⟨blob, 2⟩]).localBytes ⟨0⟩ [blob] = 2 ∧
      (replay [.recorded ⟨0⟩ ⟨blob, 2⟩]).heldBy ⟨0⟩ = (1, 2) := by
  decide

end AetherMesh
