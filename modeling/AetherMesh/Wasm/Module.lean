import AetherMesh.Agent.Executor
import AetherMesh.Library.Triples
import AetherMesh.Wasm.Sandbox
import Mathlib.Algebra.Group.Int.Defs

/-!
A whole run of a module. The engine is a parameter: between two calls of the host a module does what
it likes with its memory, and each of these calls takes fuel; how the engine itself writes into a
memory is only known from its documentation. What the host answers may change from one moment to the
next.
-/

namespace AetherMesh

open FileTree ShortReads

structure WasmCapabilities where
  log : Bool
  clock : Bool
  random : Bool
  readDir : Option String
deriving DecidableEq

def WasmCapabilities.none : WasmCapabilities := ⟨false, false, false, Option.none⟩

/-- The ceiling on the memory is a `usize`. -/
structure WasmLimits (width : UsizeWidth) where
  fuel : Nat
  memoryBytes : Nat
  maxOutputBytes : Nat
  capabilities : WasmCapabilities
  memoryFits : memoryBytes ≤ width.max

inductive WasmError
  | load (reason : String)
  | missingExport (name : String)
  | outOfFuel (fuel : Nat)
  | outOfMemory (limit : Nat)
  | trap (reason : String)
  | badOutputRange (ptr len : Nat)
  | outputTooLarge (len limit : Nat)
deriving DecidableEq

def WasmError.display : WasmError → String
  | .load reason => "module could not be loaded: " ++ reason
  | .missingExport name => "module does not export " ++ name
  | .outOfFuel fuel => "module ran out of fuel after " ++ toString fuel ++ " units"
  | .outOfMemory limit => "module exceeded its memory limit of " ++ toString limit ++ " bytes"
  | .trap reason => "module trapped: " ++ reason
  | .badOutputRange ptr len =>
      "module returned " ++ toString len ++ " bytes at offset " ++ toString ptr ++
        ", which is outside its memory"
  | .outputTooLarge len limit =>
      "module returned " ++ toString len ++ " bytes, over the " ++ toString limit ++ " byte limit"

/-- What a character still lacks: how many bytes, and where the next of them lies. -/
structure Begun where
  value : Nat
  left : Nat
  low : UInt8
  high : UInt8

def beginUtf8 (byte : UInt8) : List Char × Option Begun :=
  if byte < 0x80 then ([Char.ofNat byte.toNat], none)
  else if 0xC2 ≤ byte ∧ byte ≤ 0xDF then ([], some ⟨byte.toNat - 0xC0, 1, 0x80, 0xBF⟩)
  else if byte = 0xE0 then ([], some ⟨0, 2, 0xA0, 0xBF⟩)
  else if byte = 0xED then ([], some ⟨0xD, 2, 0x80, 0x9F⟩)
  else if 0xE1 ≤ byte ∧ byte ≤ 0xEF then ([], some ⟨byte.toNat - 0xE0, 2, 0x80, 0xBF⟩)
  else if byte = 0xF0 then ([], some ⟨0, 3, 0x90, 0xBF⟩)
  else if 0xF1 ≤ byte ∧ byte ≤ 0xF3 then ([], some ⟨byte.toNat - 0xF0, 3, 0x80, 0xBF⟩)
  else if byte = 0xF4 then ([], some ⟨4, 3, 0x80, 0x8F⟩)
  else (['\uFFFD'], none)

def lossyFrom : Option Begun → Bytes → List Char
  | none, [] => []
  | some _, [] => ['\uFFFD']
  | none, byte :: rest => (beginUtf8 byte).1 ++ lossyFrom (beginUtf8 byte).2 rest
  | some begun, byte :: rest =>
      if begun.low ≤ byte ∧ byte ≤ begun.high then
        let value := begun.value * 64 + byte.toNat % 64
        if begun.left = 1 then Char.ofNat value :: lossyFrom none rest
        else lossyFrom (some ⟨value, begun.left - 1, 0x80, 0xBF⟩) rest
      else '\uFFFD' :: (beginUtf8 byte).1 ++ lossyFrom (beginUtf8 byte).2 rest

def fromUtf8Lossy (bytes : Bytes) : String := String.ofList (lossyFrom none bytes)

def readText (width : UsizeWidth) (memory : Bytes) (ptr len : Int32) : Option String := do
  let ptr ← tryUsize ptr
  let len ← tryUsize len
  let stop ← addUsize width ptr len
  let slice ← getMut memory ptr stop
  some (fromUtf8Lossy slice)

def inputLen (inputs : List Bytes) (index : Int32) : Int32 :=
  match (tryUsize index).bind fun index => inputs[index]? with
  | none => -1
  | some data => if data.length ≤ 2 ^ 31 - 1 then .ofNat data.length else -1

def unpack (packed : Int64) : Nat × Nat :=
  (packed.toUInt64.toNat / 2 ^ 32, packed.toUInt64.toNat % 2 ^ 32)

def checkOutput {width : UsizeWidth} (ptr len memoryLen : Nat) (limits : WasmLimits width) :
    Except WasmError (Nat × Nat) :=
  if limits.maxOutputBytes < len then .error (.outputTooLarge len limits.maxOutputBytes)
  else if 2 ^ 64 ≤ ptr + len then .error (.badOutputRange ptr len)
  else if memoryLen < ptr + len then .error (.badOutputRange ptr len)
  else .ok (ptr, len)

def classify {width : UsizeWidth} (text : String) (limits : WasmLimits width) : WasmError :=
  if "fuel".toList <:+: text.toList then .outOfFuel limits.fuel
  else if "memory".toList <:+: text.toList ∧ "limit".toList <:+: text.toList then
    .outOfMemory limits.memoryBytes
  else .trap text

inductive GuestCall
  | inputCount
  | inputLen (index : Int32)
  | inputRead (index ptr len : Int32)
  | log (ptr len : Int32)
  | nowUnixMillis
  | random (ptr len : Int32)
  | fileSize (pathPtr pathLen : Int32)
  | fileRead (pathPtr pathLen : Int32) (offset : Int64) (ptr len : Int32)
deriving DecidableEq

def GuestCall.name : GuestCall → String
  | .inputCount => "input_count"
  | .inputLen _ => "input_len"
  | .inputRead .. => "input_read"
  | .log .. => "log"
  | .nowUnixMillis => "now_unix_millis"
  | .random .. => "random"
  | .fileSize .. => "file_size"
  | .fileRead .. => "file_read"

inductive Answer
  | nothing
  | i32 (value : Int32)
  | i64 (value : Int64)
deriving DecidableEq

/-- What a module does next: a call of the host, the value that it returns, or what the engine says
when it stops it. -/
inductive Doing (Thread : Type)
  | calls (call : GuestCall) (thread : Thread) (memory : Bytes)
  | returns (value : Int64) (memory : Bytes)
  | stops (reason : String)

def Doing.memory {Thread : Type} : Doing Thread → Bytes
  | .calls _ _ memory | .returns _ memory => memory
  | .stops _ => []

/-- A module calls only what it imports, and the engine keeps its memory below the limit. -/
structure Guest (limit : Nat) where
  Thread : Type
  imports : List String
  unlinked : String → String
  exports : List String
  initial : Bytes
  start : Option Thread
  alloc : Int32 → Thread
  run : Int32 → Int32 → Thread
  go : Thread → Bytes → Answer → Doing Thread
  initialFits : initial.length ≤ limit
  fits : ∀ thread memory answer, memory.length ≤ limit →
    (go thread memory answer).memory.length ≤ limit
  imported : ∀ thread memory answer call next after,
    go thread memory answer = .calls call next after → call.name ∈ imports

structure Instant where
  disk : Disk
  now : Int64
  entropy : List (Read UInt8)

structure Machine where
  memory : Bytes
  calls : Nat
  fuel : Nat
  logged : List String

section

variable {width : UsizeWidth}

def linked (capabilities : WasmCapabilities) : List String :=
  ["input_count", "input_len", "input_read"] ++
    (if capabilities.log then ["log"] else []) ++
    (if capabilities.clock then ["now_unix_millis"] else []) ++
    (if capabilities.random then ["random"] else []) ++
    (if capabilities.readDir.isSome then ["file_size", "file_read"] else [])

/-- The answer, the memory after it and what is logged, unless the host panics. A module that does not
export its memory is answered without it. -/
def hostCall (width : UsizeWidth) (readDir : Option String) (inputs : List Bytes)
    (exported : Bool) (instant : Instant) (memory : Bytes) :
    GuestCall → Option (Answer × Bytes × List String)
  | .inputCount => some (.i32 (.ofNat inputs.length), memory, [])
  | .inputLen index => some (.i32 (inputLen inputs index), memory, [])
  | .inputRead index ptr len =>
      if exported then
        (readInput width inputs index len memory ptr).map fun (read, memory) =>
          (.i32 read, memory, [])
      else some (.i32 (-1), memory, [])
  | .log ptr len =>
      if exported then some (.nothing, memory, (readText width memory ptr len).toList)
      else some (.nothing, memory, [])
  | .nowUnixMillis => some (.i64 instant.now, memory, [])
  | .random ptr len =>
      if exported then
        (fillRandom width instant.entropy memory ptr len).map fun (filled, memory) =>
          (.i32 filled, memory, [])
      else some (.i32 (-1), memory, [])
  | .fileSize pathPtr pathLen =>
      if exported then
        match readText width memory pathPtr pathLen with
        | none => some (.i64 (-1), memory, [])
        | some path => some (.i64 (fileSize instant.disk readDir path), memory, [])
      else some (.i64 (-1), memory, [])
  | .fileRead pathPtr pathLen offset ptr len =>
      if exported then
        match readText width memory pathPtr pathLen with
        | none => some (.i32 (-1), memory, [])
        | some path =>
            (fileRead instant.disk.host width readDir path offset memory ptr len).map
              fun (read, memory) => (.i32 read, memory, [])
      else some (.i32 (-1), memory, [])

end

/-- A run of the host may panic; an error leaves the machine as it stands. -/
abbrev HostM (α : Type) := Triples.Program Machine WasmError α

/-- How the engine writes bytes into a memory from an offset on: what the memory is afterwards, or an
error, unless it panics. -/
abbrev MemoryWrite := Bytes → Nat → Bytes → Option (Option Bytes)

/-- Bytes that lie within the memory are written, and for others there is an error. -/
structure MemoryWrite.Documented (write : MemoryWrite) : Prop where
  within : ∀ memory offset buffer, offset + buffer.length ≤ memory.length →
    write memory offset buffer = some (some (overwrite memory offset buffer))
  beyond : ∀ memory offset buffer, memory.length < offset + buffer.length →
    write memory offset buffer = some none

structure Setting (width : UsizeWidth) where
  limits : WasmLimits width
  inputs : List Bytes
  guest : Guest limits.memoryBytes
  write : MemoryWrite
  world : Nat → Instant

def castUsize (width : UsizeWidth) (value : Int32) : Nat :=
  (value.toInt % (width.max + 1)).toNat

namespace Setting

section

variable {width : UsizeWidth} (setting : Setting width)

def exported : Bool := "memory" ∈ setting.guest.exports

def host (call : GuestCall) (memory : Bytes) : HostM Answer := do
  let machine ← get
  let outcome := hostCall width setting.limits.capabilities.readDir setting.inputs setting.exported
    (setting.world machine.calls) memory call
  let (answer, memory, lines) ← (fun _ => outcome.map fun answered => (.ok answered, machine) :
    HostM (Answer × Bytes × List String))
  set { machine with memory, calls := machine.calls + 1, logged := machine.logged ++ lines }
  return answer

/-- One function of the module, until it returns or is stopped. Each call of the host takes at least
one unit of fuel. -/
def exec : Nat → setting.guest.Thread → Answer → HostM Int64
  | 0, _, _ => throw (.outOfFuel setting.limits.fuel)
  | fuel + 1, thread, answer => do
      let machine ← get
      match setting.guest.go thread machine.memory answer with
      | .stops reason => throw (classify reason setting.limits)
      | .returns value memory =>
          set { machine with memory, fuel }
          return value
      | .calls call thread memory =>
          let answer ← setting.host call memory
          exec fuel thread answer

def call (thread : setting.guest.Thread) : HostM Int64 := do
  let machine ← get
  setting.exec machine.fuel thread .nothing

def instantiate : HostM Unit := do
  match setting.guest.imports.find? (· ∉ linked setting.limits.capabilities) with
  | some name => throw (classify (setting.guest.unlinked name) setting.limits)
  | none =>
      match setting.guest.start with
      | none => return ()
      | some thread => discard (setting.call thread)

def writeInput (ptr : Int32) (input : Bytes) : HostM Unit := do
  let machine ← get
  let written ← (fun _ => (setting.write machine.memory (castUsize width ptr) input).map
    fun written => (.ok written, machine) : HostM (Option Bytes))
  match written with
  | some memory => set { machine with memory }
  | none => throw (.badOutputRange (ptr.toInt % 2 ^ 64).toNat input.length)

def require (name : String) : HostM Unit :=
  if name ∈ setting.guest.exports then return () else throw (.missingExport name)

/-- The addition and the slice panic when they do not fit. -/
def output (packed : Int64) : HostM Bytes := do
  let machine ← get
  match checkOutput (unpack packed).1 (unpack packed).2 machine.memory.length setting.limits with
  | .error error => throw error
  | .ok (ptr, len) =>
      (fun _ => ((addUsize width ptr len).bind (getMut machine.memory ptr)).map fun slice =>
        (.ok slice, machine) : HostM Bytes)

def run (input : Bytes) : HostM Bytes := do
  setting.instantiate
  setting.require "memory"
  setting.require "alloc"
  setting.require "run"
  let ptr ← setting.call (setting.guest.alloc (.ofNat input.length))
  setting.writeInput ptr.toInt32 input
  let packed ← setting.call (setting.guest.run ptr.toInt32 (.ofNat input.length))
  setting.output packed

end

end Setting

/-- What the engine makes of the bytes of a module under the limits. -/
structure Engine (width : UsizeWidth) where
  load : (limits : WasmLimits width) → Bytes → Except String (Guest limits.memoryBytes)
  write : MemoryWrite

/-- The outcome and the lines that were logged; none is a panic. -/
def runWithInputs {width : UsizeWidth} (engine : Engine width) (world : Nat → Instant)
    (code input : Bytes) (inputs : List Bytes) (limits : WasmLimits width) :
    Option (Except WasmError Bytes × List String) :=
  match engine.load limits code with
  | .error reason => some (.error (.load reason), [])
  | .ok guest =>
      (Setting.run ⟨limits, inputs, guest, engine.write, world⟩ input
        ⟨guest.initial, 0, limits.fuel, []⟩).map fun (outcome, machine) => (outcome, machine.logged)

/-- The two moments agree in what is granted. -/
structure Instant.Agrees (capabilities : WasmCapabilities) (left right : Instant) : Prop where
  clock : capabilities.clock = true → left.now = right.now
  random : capabilities.random = true → left.entropy = right.entropy
  disk : ∀ root, capabilities.readDir = some root → left.disk.AlikeInside root right.disk

section

variable {width : UsizeWidth} {limits : WasmLimits width} {inputs : List Bytes}
  {guest : Guest limits.memoryBytes} {write : MemoryWrite} {left right : Nat → Instant}
  {memory : Bytes}
  {call : GuestCall}

theorem hostCall_agrees {earlier later : Instant} {exported : Bool}
    (agree : earlier.Agrees limits.capabilities later)
    (granted : call.name ∈ linked limits.capabilities) :
    hostCall width limits.capabilities.readDir inputs exported earlier memory call =
      hostCall width limits.capabilities.readDir inputs exported later memory call := by
  cases call with
  | inputCount => rfl
  | inputLen index => rfl
  | inputRead index ptr len => rfl
  | log ptr len => rfl
  | nowUnixMillis =>
      have clock : limits.capabilities.clock = true := by
        simpa [linked, GuestCall.name] using granted
      simp only [hostCall, agree.clock clock]
  | random ptr len =>
      have random : limits.capabilities.random = true := by
        simpa [linked, GuestCall.name] using granted
      simp only [hostCall, agree.random random]
  | fileSize pathPtr pathLen =>
      have some : limits.capabilities.readDir.isSome = true := by
        simpa [linked, GuestCall.name] using granted
      obtain ⟨root, rooted⟩ := Option.isSome_iff_exists.mp some
      have same := fun path => (@outside_unseen _ _ width root path 0 memory 0 0
        (agree.disk root rooted)).2
      simp only [hostCall, rooted, same]
  | fileRead pathPtr pathLen offset ptr len =>
      have some : limits.capabilities.readDir.isSome = true := by
        simpa [linked, GuestCall.name] using granted
      obtain ⟨root, rooted⟩ := Option.isSome_iff_exists.mp some
      have same := fun path => (@outside_unseen _ _ width root path offset memory ptr len
        (agree.disk root rooted)).1
      simp only [hostCall, rooted, same]

theorem host_agrees (agree : ∀ moment, (left moment).Agrees limits.capabilities (right moment))
    (granted : call.name ∈ linked limits.capabilities) :
    Setting.host ⟨limits, inputs, guest, write, left⟩ call memory =
      Setting.host ⟨limits, inputs, guest, write, right⟩ call memory := by
  have same := fun moment => @hostCall_agrees width limits inputs memory call _ _
    (decide ("memory" ∈ guest.exports)) (agree moment) granted
  simp only [Setting.host, Setting.exported, same]

theorem exec_agrees (agree : ∀ moment, (left moment).Agrees limits.capabilities (right moment))
    (granted : ∀ name ∈ guest.imports, name ∈ linked limits.capabilities) (fuel : Nat)
    (thread : guest.Thread) (answer : Answer) :
    Setting.exec ⟨limits, inputs, guest, write, left⟩ fuel thread answer =
      Setting.exec ⟨limits, inputs, guest, write, right⟩ fuel thread answer := by
  induction fuel generalizing thread answer with
  | zero => rfl
  | succ fuel ih =>
      simp only [Setting.exec]
      apply bind_congr
      intro machine
      cases doing : guest.go thread machine.memory answer with
      | stops reason => rfl
      | returns value memory => rfl
      | calls call next memory =>
          have named := guest.imported _ _ _ _ _ _ doing
          simp only [host_agrees agree (granted _ named), ih]

theorem call_agrees (agree : ∀ moment, (left moment).Agrees limits.capabilities (right moment))
    (granted : ∀ name ∈ guest.imports, name ∈ linked limits.capabilities)
    (thread : guest.Thread) :
    Setting.call ⟨limits, inputs, guest, write, left⟩ thread =
      Setting.call ⟨limits, inputs, guest, write, right⟩ thread := by
  simp only [Setting.call]
  apply bind_congr
  intro machine
  exact exec_agrees agree granted machine.fuel thread .nothing

theorem run_ungranted {world : Nat → Instant} {name input : _}
    (found : guest.imports.find? (· ∉ linked limits.capabilities) = some name) :
    Setting.run ⟨limits, inputs, guest, write, world⟩ input =
      throw (classify (guest.unlinked name) limits) := by
  simp only [Setting.run, Setting.instantiate, found]
  rfl

theorem run_agrees (agree : ∀ moment, (left moment).Agrees limits.capabilities (right moment))
    (input : Bytes) :
    Setting.run ⟨limits, inputs, guest, write, left⟩ input =
      Setting.run ⟨limits, inputs, guest, write, right⟩ input := by
  cases found : guest.imports.find? (· ∉ linked limits.capabilities) with
  | some name => rw [run_ungranted found, run_ungranted found]
  | none =>
      have granted : ∀ name ∈ guest.imports, name ∈ linked limits.capabilities := by
        intro name listed
        have kept := List.find?_eq_none.mp found name listed
        simpa using kept
      have calls := @call_agrees width limits inputs guest write left right agree granted
      have started : Setting.instantiate ⟨limits, inputs, guest, write, left⟩ =
          Setting.instantiate ⟨limits, inputs, guest, write, right⟩ := by
        simp only [Setting.instantiate, found]
        cases guest.start with
        | none => rfl
        | some thread => exact congrArg discard (calls thread)
      have required (name : String) : Setting.require ⟨limits, inputs, guest, write, left⟩ name =
          Setting.require ⟨limits, inputs, guest, write, right⟩ name := rfl
      have written (ptr : Int32) : Setting.writeInput ⟨limits, inputs, guest, write, left⟩ ptr input =
          Setting.writeInput ⟨limits, inputs, guest, write, right⟩ ptr input := rfl
      have output (packed : Int64) : Setting.output ⟨limits, inputs, guest, write, left⟩ packed =
          Setting.output ⟨limits, inputs, guest, write, right⟩ packed := rfl
      simp only [Setting.run, started, required, written, output, calls]

end

def memoryWrite : MemoryWrite := fun memory offset buffer =>
  some (if offset + buffer.length ≤ memory.length then some (overwrite memory offset buffer)
    else none)

theorem memoryWrite_documented : memoryWrite.Documented where
  within memory offset buffer fits := by rw [memoryWrite, if_pos fits]
  beyond memory offset buffer outside := by rw [memoryWrite, if_neg (Nat.not_le.mpr outside)]

def keyLimits : WasmLimits .w64 := ⟨100, 16, 16, ⟨false, false, false, some "/data"⟩, by decide⟩

def keyWorld (secret : Bytes) (moment : Nat) : Instant :=
  ⟨Disk.ofTree (linkedTree secret) 40, .ofNat moment, []⟩

def Machine.Within (limit : Nat) (machine : Machine) : Prop := machine.memory.length ≤ limit

section

open Triples

variable {width : UsizeWidth} {setting : Setting width} {machine : Machine} {memory : Bytes}

theorem fillRandom_total (source : List (Read UInt8)) (ptr len : Int32) :
    ∃ result after, fillRandom width source memory ptr len = some (result, after) ∧
      after.length = memory.length := by
  by_cases outside : Outside memory ptr len
  · exact ⟨_, _, fillRandom_outside outside, rfl⟩
  · obtain ⟨-, -, fits⟩ := inside_of outside
    refine ⟨_, _, fillRandom_inside outside, length_overwrite ?_⟩
    rw [List.length_take]
    omega

theorem fileRead_total (host : Host) (root : Option String) (requested : String) (offset : Int64)
    (ptr len : Int32) :
    ∃ result after, fileRead host width root requested offset memory ptr len =
        some (result, after) ∧ after.length = memory.length := by
  cases read : fileReads host root requested offset with
  | none => exact ⟨_, _, fileRead_refused read, rfl⟩
  | some reads =>
      by_cases outside : Outside memory ptr len
      · exact ⟨_, _, fileRead_outside outside, rfl⟩
      · obtain ⟨-, -, fits⟩ := inside_of outside
        refine ⟨_, _, fileRead_inside read outside, length_overwrite ?_⟩
        rw [List.length_take]
        omega

theorem hostCall_total (readDir : Option String) (inputs : List Bytes) (exported : Bool)
    (instant : Instant) (call : GuestCall) :
    ∃ answer after lines, hostCall width readDir inputs exported instant memory call =
        some (answer, after, lines) ∧ after.length = memory.length := by
  cases exported with
  | false => cases call <;> exact ⟨_, _, _, rfl, rfl⟩
  | true =>
      cases call with
      | inputCount => exact ⟨_, _, _, rfl, rfl⟩
      | inputLen index => exact ⟨_, _, _, rfl, rfl⟩
      | inputRead index ptr len =>
          obtain ⟨result, after, ran, same, -, -⟩ :=
            @readInput_respects width memory inputs index ptr len
          rw [HostCall.run] at ran
          refine ⟨.i32 result, after, [], ?_, same⟩
          rw [hostCall, ran]
          rfl
      | log ptr len => exact ⟨_, _, _, rfl, rfl⟩
      | nowUnixMillis => exact ⟨_, _, _, rfl, rfl⟩
      | random ptr len =>
          obtain ⟨result, after, ran, same⟩ :=
            @fillRandom_total width memory instant.entropy ptr len
          refine ⟨.i32 result, after, [], ?_, same⟩
          rw [hostCall, ran]
          rfl
      | fileSize pathPtr pathLen =>
          simp only [hostCall, if_true]
          split
          · exact ⟨_, _, _, rfl, rfl⟩
          · exact ⟨_, _, _, rfl, rfl⟩
      | fileRead pathPtr pathLen offset ptr len =>
          simp only [hostCall, if_true]
          split
          · exact ⟨_, _, _, rfl, rfl⟩
          · rename_i path found
            obtain ⟨result, after, ran, same⟩ :=
              @fileRead_total width memory instant.disk.host readDir path offset ptr len
            refine ⟨.i32 result, after, [], ?_, same⟩
            rw [ran]
            rfl

theorem host_meets (call : GuestCall) (fits : memory.length ≤ setting.limits.memoryBytes)
    (within : machine.Within setting.limits.memoryBytes) :
    Meets (Machine.Within setting.limits.memoryBytes) (setting.host call memory)
      (fun _ _ => True) machine := by
  obtain ⟨answer, after, lines, answered, same⟩ := @hostCall_total width memory
    setting.limits.capabilities.readDir setting.inputs setting.exported
    (setting.world machine.calls) call
  rw [Setting.host]
  apply meets_get within
  refine meets_bind (fun value later => value = (answer, after, lines) ∧ later = machine) ?_ ?_
  · refine meets_step ?_ within ⟨rfl, rfl⟩
    rw [answered]
    rfl
  · rintro value later - ⟨rfl, rfl⟩
    refine meets_bind (fun _ _ => True) ?_ ?_
    · refine meets_step rfl ?_ trivial
      rw [Machine.Within, same]
      exact fits
    · intro value later kept _
      exact meets_pure kept trivial

theorem exec_meets (fuel : Nat) (thread : setting.guest.Thread) (answer : Answer)
    (within : machine.Within setting.limits.memoryBytes) :
    Meets (Machine.Within setting.limits.memoryBytes) (setting.exec fuel thread answer)
      (fun _ _ => True) machine := by
  induction fuel generalizing thread answer machine with
  | zero => exact meets_throw within
  | succ fuel ih =>
      rw [Setting.exec]
      apply meets_get within
      have fits := setting.guest.fits thread machine.memory answer within
      split
      · exact meets_throw within
      · rename_i value memory doing
        rw [doing] at fits
        refine meets_bind (fun _ _ => True) (meets_step rfl fits trivial) ?_
        intro _ later kept _
        exact meets_pure kept trivial
      · rename_i call next memory doing
        rw [doing] at fits
        refine meets_bind _ (host_meets call fits within) ?_
        intro answer later kept _
        exact ih next answer kept

theorem call_meets (thread : setting.guest.Thread)
    (within : machine.Within setting.limits.memoryBytes) :
    Meets (Machine.Within setting.limits.memoryBytes) (setting.call thread) (fun _ _ => True)
      machine := by
  rw [Setting.call]
  apply meets_get within
  exact exec_meets machine.fuel thread .nothing within

theorem instantiate_meets (within : machine.Within setting.limits.memoryBytes) :
    Meets (Machine.Within setting.limits.memoryBytes) setting.instantiate (fun _ _ => True)
      machine := by
  rw [Setting.instantiate]
  split
  · exact meets_throw within
  · split
    · exact meets_pure within trivial
    · rename_i thread started
      refine meets_bind _ (call_meets thread within) ?_
      intro value later kept _
      exact meets_pure kept trivial

theorem require_meets (name : String) (within : machine.Within setting.limits.memoryBytes) :
    Meets (Machine.Within setting.limits.memoryBytes) (setting.require name) (fun _ _ => True)
      machine := by
  rw [Setting.require]
  split
  · exact meets_pure within trivial
  · exact meets_throw within

theorem writeInput_meets (documented : setting.write.Documented) (ptr : Int32) (input : Bytes)
    (within : machine.Within setting.limits.memoryBytes) :
    Meets (Machine.Within setting.limits.memoryBytes) (setting.writeInput ptr input)
      (fun _ _ => True) machine := by
  rw [Setting.writeInput]
  apply meets_get within
  by_cases fits : castUsize width ptr + input.length ≤ machine.memory.length
  · refine meets_bind (fun written after =>
      written = some (overwrite machine.memory (castUsize width ptr) input) ∧ after = machine) ?_ ?_
    · refine meets_step ?_ within ⟨rfl, rfl⟩
      rw [documented.within _ _ _ fits]
      rfl
    · rintro _ _ - ⟨rfl, rfl⟩
      refine meets_step rfl ?_ trivial
      rw [Machine.Within, length_overwrite fits]
      exact within
  · refine meets_bind (fun written _ => written = none) ?_ ?_
    · refine meets_step ?_ within rfl
      rw [documented.beyond _ _ _ (Nat.not_le.mp fits)]
      rfl
    · rintro _ after kept rfl
      exact meets_throw kept

theorem output_meets (packed : Int64) (within : machine.Within setting.limits.memoryBytes) :
    Meets (Machine.Within setting.limits.memoryBytes) (setting.output packed)
      (fun output after => output.length ≤ setting.limits.maxOutputBytes ∧
        output <:+: after.memory) machine := by
  rw [Setting.output]
  apply meets_get within
  split
  · exact meets_throw within
  · rename_i ptr len checked
    rw [checkOutput] at checked
    split at checked
    · cases checked
    split at checked
    · cases checked
    split at checked
    · cases checked
    rename_i short _ inside
    obtain ⟨rfl, rfl⟩ := Prod.mk.inj (Except.ok.inj checked)
    have bounded := setting.limits.memoryFits
    have room : (unpack packed).1 + (unpack packed).2 ≤ width.max := by
      rw [Machine.Within] at within
      omega
    have cut : (addUsize width (unpack packed).1 (unpack packed).2).bind
        (getMut machine.memory (unpack packed).1) =
        some ((machine.memory.drop (unpack packed).1).take (unpack packed).2) := by
      rw [addUsize, if_pos room]
      exact getMut_within (by omega)
    refine meets_step (by rw [cut]; rfl) within ⟨?_, ?_⟩
    · rw [List.length_take]
      omega
    · exact (List.take_prefix _ _).isInfix.trans (List.drop_suffix _ _).isInfix

theorem run_meets (documented : setting.write.Documented) (input : Bytes)
    (within : machine.Within setting.limits.memoryBytes) :
    Meets (Machine.Within setting.limits.memoryBytes) (setting.run input)
      (fun output after => output.length ≤ setting.limits.maxOutputBytes ∧
        output <:+: after.memory) machine := by
  rw [Setting.run]
  refine meets_bind _ (instantiate_meets within) ?_
  intro _ _ within _
  refine meets_bind _ (require_meets "memory" within) ?_
  intro _ _ within _
  refine meets_bind _ (require_meets "alloc" within) ?_
  intro _ _ within _
  refine meets_bind _ (require_meets "run" within) ?_
  intro _ _ within _
  refine meets_bind _ (call_meets _ within) ?_
  intro ptr _ within _
  refine meets_bind _ (writeInput_meets documented ptr.toInt32 input within) ?_
  intro _ _ within _
  refine meets_bind _ (call_meets _ within) ?_
  intro packed _ within _
  exact output_meets packed within

end

/-- Whatever a module does, the host does not panic, and what it copies out is within both limits. -/
theorem module_contained {width : UsizeWidth} (engine : Engine width)
    (documented : engine.write.Documented) (world : Nat → Instant) (code input : Bytes)
    (inputs : List Bytes) (limits : WasmLimits width) :
    ∃ outcome logged, runWithInputs engine world code input inputs limits =
        some (outcome, logged) ∧
      ∀ output, outcome = .ok output →
        output.length ≤ limits.maxOutputBytes ∧ output.length ≤ limits.memoryBytes := by
  unfold runWithInputs
  cases loaded : engine.load limits code with
  | error reason =>
      refine ⟨_, _, rfl, ?_⟩
      intro output same
      cases same
  | ok guest =>
      obtain ⟨outcome, after, ran, kept, reached⟩ :=
        @run_meets width ⟨limits, inputs, guest, engine.write, world⟩
          ⟨guest.initial, 0, limits.fuel, []⟩ documented input guest.initialFits
      refine ⟨outcome, after.logged, ?_, ?_⟩
      · simp only [ran, Option.map_some]
      · intro output same
        obtain ⟨short, inside⟩ := reached output same
        exact ⟨short, inside.length_le.trans kept⟩

def allocatesNowhere (limit : Nat) : Guest limit where
  Thread := Unit
  imports := []
  unlinked name := "unknown import " ++ name
  exports := ["memory", "alloc", "run"]
  initial := []
  start := none
  alloc _ := ()
  run _ _ := ()
  go _ memory _ := .returns (-1) memory
  initialFits := Nat.zero_le limit
  fits _ _ _ within := within
  imported _ _ _ _ _ _ doing := by cases doing

def nowhereEngine : Engine .w64 where
  load limits _ := .ok (allocatesNowhere limits.memoryBytes)
  write := memoryWrite

theorem nowhere_contained :
    runWithInputs nowhereEngine (keyWorld []) [] [5] [] keyLimits =
        some (.error (.badOutputRange (2 ^ 64 - 1) 1), []) ∧
      ∃ outcome logged, runWithInputs nowhereEngine (keyWorld []) [] [5] [] keyLimits =
          some (outcome, logged) ∧
        ∀ output, outcome = .ok output →
          output.length ≤ keyLimits.maxOutputBytes ∧ output.length ≤ keyLimits.memoryBytes :=
  ⟨by decide, module_contained nowhereEngine memoryWrite_documented (keyWorld []) [] [5] [] keyLimits⟩

/-- The runtime of an agent at one moment, with what modules surround themselves with there. -/
def Executor.Runtime.ofEngine {width : UsizeWidth} (digest : Bytes → DataId)
    (engine : Engine width) (limits : WasmLimits width) (world : Nat → Instant) :
    Executor.Runtime where
  digest := digest
  runWithInputs code input inputs :=
    match AetherMesh.runWithInputs engine world code input inputs limits with
    | some (outcome, _) => outcome.mapError WasmError.display
    | none => .error "panicked"

theorem Executor.Runtime.ofEngine_alone {width : UsizeWidth} {limits : WasmLimits width}
    (alone : limits.capabilities = .none) (digest : Bytes → DataId) (engine : Engine width)
    (left right : Nat → Instant) :
    ofEngine digest engine limits left = ofEngine digest engine limits right := by
  have agree (moment : Nat) : (left moment).Agrees limits.capabilities (right moment) := by
    rw [alone]
    exact ⟨nofun, nofun, nofun⟩
  have same (code input : Bytes) (inputs : List Bytes) :
      AetherMesh.runWithInputs engine left code input inputs limits =
        AetherMesh.runWithInputs engine right code input inputs limits := by
    unfold AetherMesh.runWithInputs
    cases loaded : engine.load limits code with
    | error reason => rfl
    | ok guest => simp only [run_agrees agree]
  simp only [ofEngine, same]

end AetherMesh
