import AetherMesh.Core.Text
import AetherMesh.Library.Markup
import Mathlib.Algebra.GroupWithZero.Nat

/-!
What is discovered from the reply that describes instances. Values are read from its text, between
a tag and the next one that closes it. A reply is given as what stands in it, with other elements
around and inside of the ones that are read, in any order and any depth.
-/

namespace AetherMesh

open Markup

structure CloudResource where
  id : List Char
  region : List Char
  kind : List Char
  cpuCores : Nat
  memoryBytes : Nat
  hourlyCost : Option (BitVec 64)
  labels : List (List Char × List Char)
deriving DecidableEq

namespace CloudResource

def new (id region : List Char) (cpuCores : Nat) : CloudResource :=
  ⟨id, region, "default".toList, cpuCores, 0, none, []⟩

/-- The source calls the kind of a resource its `class`. -/
def withClass (resource : CloudResource) (kind : List Char) : CloudResource :=
  { resource with kind }

/-- Labels are kept in the order of their keys. -/
def withLabel (resource : CloudResource) (key value : List Char) : CloudResource :=
  { resource with
    labels := resource.labels.filter (fun label => label.1 < key) ++ (key, value) ::
      resource.labels.filter fun label => key < label.1 }

end CloudResource

/-- Each turn makes the rest shorter, so that its length bounds the number of turns. -/
def xmlValuesLoop (tag : List Char) : Nat → List Char → List (List Char)
  | 0, _ => []
  | turns + 1, rest =>
      match splitOnce (mark tag) rest with
      | none => []
      | some (_, after) =>
          match splitOnce (mark ('/' :: tag)) after with
          | none => []
          | some (value, rest) => value :: xmlValuesLoop tag turns rest

def xmlValues (xml tag : List Char) : List (List Char) := xmlValuesLoop tag xml.length xml

def xmlValue (xml tag : List Char) : Option (List Char) := (xmlValues xml tag).head?

def instanceItems (xml : List Char) : List (List Char) :=
  (xmlValues xml "instancesSet".toList).flatMap fun set => xmlValues set "item".toList

/-- `str::parse::<u32>` -/
def parseU32 (text : List Char) : Option Nat :=
  let digits :=
    match text with
    | '+' :: digits => digits
    | _ => text
  if digits.isEmpty then none
  else
    (digits.foldlM (fun value (digit : Char) =>
      if digit.isDigit then some (10 * value + (digit.toNat - 48)) else none) 0).filter
        fun value => value < 2 ^ 32

def ofInstance (region id : List Char) (values : List Char → Option (List Char)) : CloudResource :=
  let instanceType := (values "instanceType".toList).getD "unknown".toList
  let zone := (values "availabilityZone".toList).getD region
  let cores := ((values "coreCount".toList).bind parseU32).getD 1
  (((CloudResource.new id zone cores).withClass instanceType).withLabel "provider".toList
    "aws".toList).withLabel "region".toList region

def resourceFrom (region : List Char) (values : List Char → Option (List Char)) :
    Option CloudResource := do
  let id ← values "instanceId".toList
  return ofInstance region id values

def discoverResources (region xml : List Char) : List CloudResource :=
  (instanceItems xml).filterMap fun item => resourceFrom region (xmlValue item)

def fields : List (List Char) :=
  ["instanceId".toList, "instanceType".toList, "availabilityZone".toList, "coreCount".toList]

/-- The elements that a reply has in one place only. -/
def reserved : List (List Char) := "instancesSet".toList :: fields

structure Text where
  chars : List Char
  plain : '<' ∉ chars

structure OtherName where
  chars : List Char
  plain : '<' ∉ chars ∧ '>' ∉ chars ∧ '/' ∉ chars
  other : chars ∉ reserved

inductive Node
  | text (content : Text)
  | empty (name : OtherName)
  | element (name : OtherName) (children : List Node)

mutual

def Node.tokens : Node → List Token
  | .text content => [.text content.chars]
  | .empty name => [.tag (name.chars ++ ['/'])]
  | .element name children =>
      .tag name.chars :: Node.listTokens children ++ [.tag ('/' :: name.chars)]

def Node.listTokens : List Node → List Token
  | [] => []
  | node :: rest => node.tokens ++ Node.listTokens rest

end

mutual

def Node.hasItem : Node → Bool
  | .text _ | .empty _ => false
  | .element name children => name.chars = "item".toList || Node.listHasItem children

def Node.listHasItem : List Node → Bool
  | [] => false
  | node :: rest => node.hasItem || Node.listHasItem rest

end

inductive Part
  | instanceType (value : Text)
  | placement (before : List Node) (zone : Option Text) (after : List Node)
  | cpuOptions (before : List Node) (count : Option Text) (after : List Node)
  | other (node : Node)

/-- What stands in an instance, one after the other: values of its own, tags around them and
other elements. -/
inductive Segment
  | value (name : List Char) (text : Text)
  | tag (body : List Char)
  | node (node : Node)

namespace Segment

def tokens : Segment → List Token
  | .value name text => [.tag name, .text text.chars, .tag ('/' :: name)]
  | .tag body => [.tag body]
  | .node inner => inner.tokens

def valueOf (name : List Char) : Segment → Option (List Char)
  | .value other text => if other = name then some text.chars else none
  | _ => none

def hasItem : Segment → Bool
  | .node inner => inner.hasItem
  | _ => false

end Segment

def Part.around (name field : String) (before : List Node) (value : Option Text)
    (after : List Node) : List Segment :=
  .tag name.toList :: before.map .node ++ (value.map (.value field.toList)).toList ++
    after.map .node ++ [.tag ('/' :: name.toList)]

def Part.segments : Part → List Segment
  | .instanceType value => [.value "instanceType".toList value]
  | .placement before zone after => around "placement" "availabilityZone" before zone after
  | .cpuOptions before count after => around "cpuOptions" "coreCount" before count after
  | .other node => [.node node]

def valueIn (segments : List Segment) (name : List Char) : Option (List Char) :=
  segments.findSome? (Segment.valueOf name)

structure Instance where
  before : List Part
  id : Text
  after : List Part

namespace Instance

def segments (described : Instance) : List Segment :=
  described.before.flatMap Part.segments ++ .value "instanceId".toList described.id ::
    described.after.flatMap Part.segments

def front (described : Instance) : List Segment :=
  described.segments.takeWhile fun segment => !segment.hasItem

def tokens (described : Instance) : List Token :=
  .tag "item".toList :: described.segments.flatMap Segment.tokens ++ [.tag "/item".toList]

def resource (region : List Char) (described : Instance) : CloudResource :=
  ofInstance region described.id.chars (valueIn described.segments)

end Instance

/-- A set and its entries, with the text before each of them and behind the last one. A set without
entries may be one tag. -/
inductive Listing (Entry : Type)
  | closed
  | listed (entries : List (Text × Entry)) (space : Text)

namespace Listing

variable {Entry : Type} (inner : Entry → List Token)

def entries : Listing Entry → List Entry
  | .closed => []
  | .listed entries _ => entries.map Prod.snd

def content (entries : List (Text × Entry)) (space : Text) : List Token :=
  (entries.flatMap fun entry => .text entry.1.chars :: inner entry.2) ++ [.text space.chars]

def tokens (name : String) : Listing Entry → List Token
  | .closed => [.tag (name.toList ++ ['/'])]
  | .listed entries space =>
      .tag name.toList :: content inner entries space ++ [.tag ('/' :: name.toList)]

end Listing

structure Reservation where
  before : List Node
  instances : Listing Instance
  after : List Node

def Reservation.tokens (reservation : Reservation) : List Token :=
  .tag "item".toList :: Node.listTokens reservation.before ++
    reservation.instances.tokens Instance.tokens "instancesSet" ++
      Node.listTokens reservation.after ++ [.tag "/item".toList]

structure Reply where
  declaration : Option OtherName
  start : Text
  before : List Node
  reservations : Listing Reservation
  after : List Node

namespace Reply

def instances (reply : Reply) : List Instance :=
  reply.reservations.entries.flatMap fun reservation => reservation.instances.entries

def front (reply : Reply) : List Token :=
  (reply.declaration.map fun name => .tag ('?' :: name.chars ++ ['?'])).toList ++
    .text reply.start.chars :: .tag "DescribeInstancesResponse".toList ::
      Node.listTokens reply.before

def back (reply : Reply) : List Token :=
  Node.listTokens reply.after ++ [.tag "/DescribeInstancesResponse".toList]

def tokens (reply : Reply) : List Token :=
  reply.front ++ reply.reservations.tokens Reservation.tokens "reservationSet" ++ reply.back

def xml (reply : Reply) : List Char := render reply.tokens

end Reply

section Splitting

variable {text rest tag : List Char} {value before : List Token} {turns : Nat}

theorem splitOnce_render (plain : '>' ∉ tag) (valid : Valid before) (absent : .tag tag ∉ before) :
    splitOnce (mark tag) (render before ++ rest) =
      (splitOnce (mark tag) rest).map fun parts => (render before ++ parts.1, parts.2) := by
  have occupied : mark tag ≠ [] := List.cons_ne_nil _ _
  cases found : splitOnce (mark tag) rest with
  | none =>
      rw [Option.map_none, splitOnce_none occupied, infix_render plain valid]
      exact fun either => either.elim absent ((splitOnce_none occupied).mp found)
  | some parts =>
      obtain ⟨split, first⟩ := (splitOnce_some occupied).mp found
      refine (splitOnce_some occupied).mpr ⟨by rw [split]; simp only [List.append_assoc], ?_⟩
      rw [List.append_assoc, infix_render plain valid]
      exact fun either => either.elim absent first

theorem splitOnce_mark : splitOnce (mark tag) (mark tag ++ rest) = some ([], rest) := by
  have starts : (mark tag).isPrefixOf (mark tag ++ rest) = true := by simp
  have shape : mark tag ++ rest = '<' :: (tag ++ ['>'] ++ rest) := rfl
  rw [shape, splitOnce, ← shape, if_pos starts, List.drop_left]

theorem splitOnce_shorter {parts : List Char × List Char}
    (found : splitOnce (mark tag) text = some parts) : parts.2.length < text.length := by
  obtain ⟨split, -⟩ := (splitOnce_some (List.cons_ne_nil _ _)).mp found
  rw [split]
  simp only [List.length_append, List.length_cons]
  omega

theorem xmlValuesLoop_enough (more : text.length ≤ turns) :
    xmlValuesLoop tag turns text = xmlValues text tag := by
  rw [xmlValues]
  generalize least : text.length = fewer at more ⊢
  have enough : text.length ≤ fewer := least.le
  clear least
  induction turns generalizing fewer text with
  | zero =>
      obtain rfl : fewer = 0 := by omega
      rfl
  | succ turns ih =>
      cases fewer with
      | zero =>
          rw [List.length_eq_zero_iff.mp (Nat.le_zero.mp enough)]
          rfl
      | succ fewer =>
          rw [xmlValuesLoop, xmlValuesLoop]
          cases found : splitOnce (mark tag) text with
          | none => rfl
          | some parts =>
              have shorter := splitOnce_shorter found
              cases closed : splitOnce (mark ('/' :: tag)) parts.2 with
              | none => simp only [closed]
              | some last =>
                  have shortest := splitOnce_shorter closed
                  simp only [closed]
                  rw [ih fewer (by omega) (by omega)]

theorem xmlValues_eq (text tag : List Char) : xmlValues text tag =
    match splitOnce (mark tag) text with
    | none => []
    | some (_, after) =>
        match splitOnce (mark ('/' :: tag)) after with
        | none => []
        | some (value, rest) => value :: xmlValues rest tag := by
  cases found : splitOnce (mark tag) text with
  | none =>
      rw [xmlValues]
      cases text.length with
      | zero => rfl
      | succ turns => rw [xmlValuesLoop, found]
  | some parts =>
      have shorter := splitOnce_shorter found
      rw [xmlValues]
      obtain ⟨turns, length⟩ := Nat.exists_eq_add_of_lt shorter
      rw [length, xmlValuesLoop, found]
      cases closed : splitOnce (mark ('/' :: tag)) parts.2 with
      | none => simp only [closed]
      | some last =>
          have shortest := splitOnce_shorter closed
          simp only [closed]
          rw [xmlValuesLoop_enough (by omega)]

theorem xmlValues_skip (plain : '>' ∉ tag) (valid : Valid before) (absent : .tag tag ∉ before) :
    xmlValues (render before ++ rest) tag = xmlValues rest tag := by
  rw [xmlValues_eq, splitOnce_render plain valid absent, xmlValues_eq rest]
  cases splitOnce (mark tag) rest with
  | none => rfl
  | some parts => rfl

theorem xmlValues_block (plain : '>' ∉ tag) (valid : Valid value)
    (absent : .tag ('/' :: tag) ∉ value) :
    xmlValues (mark tag ++ (render value ++ (mark ('/' :: tag) ++ rest))) tag =
      render value :: xmlValues rest tag := by
  have closing : '>' ∉ '/' :: tag := by simp [plain]
  rw [xmlValues_eq, splitOnce_mark]
  simp only [splitOnce_render closing valid absent, splitOnce_mark, Option.map_some,
    List.append_nil]

theorem xmlValues_nil : xmlValues [] tag = [] := rfl

end Splitting

end AetherMesh
