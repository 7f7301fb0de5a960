import AetherMesh.Core.Data
import AetherMesh.Library.ShortReads

/-!
The calls of a module that write into its memory. A call gives no result when it panics; otherwise
it gives the number that the module gets and the memory after it.
-/

namespace AetherMesh

open ShortReads

/-- What the operating system says about paths and files. A file that is opened can be read from an
offset on, unless seeking fails. -/
structure Host where
  isAbsolute : String → Bool
  join : String → String → String
  canonicalize : String → Option (List String)
  openFile : List String → Option (Nat → Option (List (Read UInt8)))

inductive UsizeWidth
  | w32
  | w64
deriving DecidableEq

def UsizeWidth.max : UsizeWidth → Nat
  | .w32 => 2 ^ 32 - 1
  | .w64 => 2 ^ 64 - 1

def tryUsize (value : Int32) : Option Nat :=
  if 0 ≤ value.toInt then some value.toInt.toNat else none

def tryU64 (value : Int64) : Option Nat :=
  if 0 ≤ value.toInt then some value.toInt.toNat else none

def addUsize (width : UsizeWidth) (left right : Nat) : Option Nat :=
  if left + right ≤ width.max then some (left + right) else none

def saturatingAdd (width : UsizeWidth) (left right : Nat) : Nat := min (left + right) width.max

def getMut (memory : Bytes) (start stop : Nat) : Option Bytes :=
  if start ≤ stop ∧ stop ≤ memory.length then some ((memory.drop start).take (stop - start))
  else none

/-- The front of a slice; a length beyond its end panics. -/
def sliceTo (data : Bytes) (len : Nat) : Option Bytes :=
  if len ≤ data.length then some (data.take len) else none

/-- Slices of different lengths panic. -/
def copyFromSlice (target source : Bytes) : Option Bytes :=
  if target.length = source.length then some source else none

def readInput (width : UsizeWidth) (inputs : List Bytes) (index len : Int32) (memory : Bytes)
    (ptr : Int32) : Option (Int32 × Bytes) :=
  match tryUsize index, tryUsize len, tryUsize ptr with
  | some index, some len, some ptr =>
      match inputs[index]? with
      | none => some (-1, memory)
      | some data => do
          let len := min len data.length
          let stop ← addUsize width ptr len
          match getMut memory ptr stop with
          | none => some (-1, memory)
          | some target =>
              let front ← sliceTo data len
              let target ← copyFromSlice target front
              some (.ofNat len, overwrite memory ptr target)
  | _, _, _ => some (-1, memory)

/-- The loop over `read`, with how much is written if no read failed, and the buffer. -/
def readLoop (len : Nat) : List (Read UInt8) → Bytes → Nat → Option (Option Nat × Bytes)
  | reads, target, written =>
    if written < len then
      if written ≤ target.length then
        match reads with
        | .delivered (first :: more) :: reads =>
            let piece := (first :: more).take (target.length - written)
            readLoop len reads (overwrite target written piece) (written + piece.length)
        | .delivered [] :: _ | [] => some (some written, target)
        | .failed :: _ => some (none, target)
      else none
    else some (some written, target)

/-- The system's source of entropy is read until the buffer is full, and ending early is an error;
what was read by then stays in the buffer. -/
def fill (source : List (Read UInt8)) (target : Bytes) : Option (Bool × Bytes) :=
  (readLoop target.length source target 0).map fun (written, after) =>
    (written = some target.length, after)

def fillRandom (width : UsizeWidth) (source : List (Read UInt8)) (memory : Bytes)
    (ptr len : Int32) : Option (Int32 × Bytes) :=
  match tryUsize ptr, tryUsize len with
  | some ptr, some len =>
      match getMut memory ptr (saturatingAdd width ptr len) with
      | none => some (-1, memory)
      | some target => do
          let (filled, target) ← fill source target
          some (if filled then .ofNat len else -2, overwrite memory ptr target)
  | _, _ => some (-1, memory)

def resolveInRoot (host : Host) (root requested : String) : Option (List String) :=
  if host.isAbsolute requested ∨ '\x00' ∈ requested.toList then none
  else do
    let realRoot ← host.canonicalize root
    let realPath ← host.canonicalize (host.join root requested)
    if realRoot <+: realPath then some realPath else none

def fileRead (host : Host) (width : UsizeWidth) (root : Option String) (requested : String)
    (offset : Int64) (memory : Bytes) (ptr len : Int32) : Option (Int32 × Bytes) :=
  match root.bind fun root => resolveInRoot host root requested with
  | none => some (-1, memory)
  | some path =>
      match tryUsize ptr, tryUsize len, tryU64 offset with
      | some ptr, some len, some offset =>
          match getMut memory ptr (saturatingAdd width ptr len) with
          | none => some (-1, memory)
          | some target =>
              match (host.openFile path).bind fun seek => seek offset with
              | none => some (-1, memory)
              | some reads => do
                  let (written, target) ← readLoop len reads target 0
                  match written with
                  | some written => some (.ofNat written, overwrite memory ptr target)
                  | none => some (-1, overwrite memory ptr target)
      | _, _, _ => some (-1, memory)

inductive HostCall
  | readInput (inputs : List Bytes) (index ptr len : Int32)
  | fillRandom (source : List (Read UInt8)) (ptr len : Int32)
  | fileRead (host : Host) (root : Option String) (requested : String) (offset : Int64)
      (ptr len : Int32)

def fileReads (host : Host) (root : Option String) (requested : String) (offset : Int64) :
    Option (List (Read UInt8)) := do
  let root ← root
  let path ← resolveInRoot host root requested
  let seek ← host.openFile path
  let offset ← tryU64 offset
  seek offset

namespace HostCall

def run (width : UsizeWidth) (memory : Bytes) : HostCall → Option (Int32 × Bytes)
  | .readInput inputs index ptr len => AetherMesh.readInput width inputs index len memory ptr
  | .fillRandom source ptr len => AetherMesh.fillRandom width source memory ptr len
  | .fileRead host root requested offset ptr len =>
      AetherMesh.fileRead host width root requested offset memory ptr len

def ptr : HostCall → Int32
  | .readInput _ _ ptr _ | .fillRandom _ ptr _ | .fileRead _ _ _ _ ptr _ => ptr

def len : HostCall → Int32
  | .readInput _ _ _ len | .fillRandom _ _ len | .fileRead _ _ _ _ _ len => len

def asked : HostCall → Bytes
  | .readInput inputs index _ _ => ((tryUsize index).bind fun index => inputs[index]?).getD []
  | .fillRandom source _ _ => stream source
  | .fileRead host root requested offset _ _ =>
      ((fileReads host root requested offset).map stream).getD []

/-- The source gives less than asked for and then no more, because of a failure. Bytes of entropy
may not even end. -/
def fails : HostCall → Bool
  | .readInput _ _ _ _ => false
  | .fillRandom _ _ _ => true
  | .fileRead host root requested offset _ _ =>
      ((fileReads host root requested offset).map stopsFailing).getD false

def FailsPartway (memory : Bytes) (call : HostCall) : Prop :=
  call.fails = true ∧ 0 ≤ call.ptr.toInt ∧ 0 ≤ call.len.toInt ∧
    call.ptr.toInt + call.len.toInt ≤ memory.length ∧ call.asked.length < call.len.toInt ∧
    (memory.drop call.ptr.toInt.toNat).take call.asked.length ≠ call.asked

end HostCall

/-- The call does not panic. A result that is not negative is the number of bytes that stand in the
memory from the pointer on, the first of the data asked for, and nothing else has changed; after a
negative result nothing has. -/
def RespectsMemory (width : UsizeWidth) (memory : Bytes) (call : HostCall) : Prop :=
  ∃ result after, call.run width memory = some (result, after) ∧
    after.length = memory.length ∧
    (0 ≤ result.toInt → result.toInt ≤ call.len.toInt ∧
      (∀ index : Nat, index < call.ptr.toInt ∨ call.ptr.toInt + result.toInt ≤ index →
        after[index]? = memory[index]?) ∧
      result.toInt ≤ call.asked.length ∧
      (after.drop call.ptr.toInt.toNat).take result.toInt.toNat =
        call.asked.take result.toInt.toNat) ∧
    (result.toInt < 0 → after = memory)

section

variable {width : UsizeWidth} {memory target data : Bytes} {call : HostCall} {value : Int32}
  {start count written len : Nat} {result : Int32} {reads source : List (Read UInt8)}

theorem tryUsize_negative (negative : value.toInt < 0) : tryUsize value = none :=
  if_neg (Int.not_le.mpr negative)

theorem tryUsize_of_nonneg (nonneg : 0 ≤ value.toInt) : tryUsize value = some value.toInt.toNat :=
  if_pos nonneg

/-- A number of 32 bits with its sign is not at the upper end of any width. -/
theorem add_within (left right : Int32) :
    left.toInt.toNat + right.toInt.toNat ≤ width.max := by
  have first := left.toInt_lt
  have second := right.toInt_lt
  cases width with
  | w32 =>
      rw [UsizeWidth.max]
      omega
  | w64 =>
      rw [UsizeWidth.max]
      omega

theorem getMut_within (fits : start + count ≤ memory.length) :
    getMut memory start (start + count) = some ((memory.drop start).take count) := by
  rw [getMut, if_pos ⟨Nat.le_add_right _ _, fits⟩, Nat.add_sub_cancel_left]

theorem getMut_beyond (beyond : memory.length < start + count) :
    getMut memory start (start + count) = none :=
  if_neg fun both => absurd both.2 (Nat.not_le.mpr beyond)

/-- The loop ends with an error exactly when the source fails too early. Everything that was
delivered by then stands in the buffer. -/
theorem readLoop_eq (whole : target.length = len) (within : written ≤ len) :
    readLoop len reads target written =
      some (if (stream reads).length < len - written ∧ stopsFailing reads = true then none
        else some (written + min (stream reads).length (len - written)),
        overwrite target written ((stream reads).take (len - written))) := by
  induction reads generalizing target written with
  | nil =>
      unfold readLoop
      simp only [whole, within, if_true, stream, stopsFailing, List.take_nil, overwrite_nil,
        List.length_nil, Nat.zero_min, Nat.add_zero, Bool.false_eq_true, and_false, if_false,
        ite_self]
  | cons read rest ih =>
      unfold readLoop
      by_cases room : written < len
      · rw [if_pos room, if_pos (by omega), whole]
        rcases read with (_ | ⟨first, more⟩) | _
        · simp [stream, stopsFailing, overwrite_nil]
        · have some := List.cons_ne_nil first more
          simp only [stream_delivered some, stopsFailing_delivered some]
          generalize first :: more = data
          by_cases short : data.length ≤ len - written
          · have same : (data ++ stream rest).take (len - written) =
                data ++ (stream rest).take (len - (written + data.length)) := by
              rw [List.take_append, List.take_of_length_le short, Nat.sub_sub]
            have count : written + data.length +
                min (stream rest).length (len - (written + data.length)) =
                  written + min (data ++ stream rest).length (len - written) := by
              rw [List.length_append]
              omega
            have fails : (stream rest).length < len - (written + data.length) ↔
                (data ++ stream rest).length < len - written := by
              rw [List.length_append]
              omega
            rw [List.take_of_length_le short, ih (by rw [length_overwrite (by omega), whole])
              (by omega), overwrite_overwrite (by omega), same, count]
            simp only [fails]
          · have long : (data.take (len - written)).length = len - written :=
              List.length_take_of_le (by omega)
            have all : written + (len - written) = len := by omega
            have more : len - written ≤ (data ++ stream rest).length := by
              rw [List.length_append]
              omega
            rw [long, all, ih (by rw [length_overwrite (by omega), whole]) (Nat.le_refl len),
              Nat.sub_self, List.take_zero, overwrite_nil, Nat.min_zero, Nat.min_eq_right more, all,
              List.take_append_of_le_length (by omega), if_neg fun both => Nat.not_lt_zero _ both.1,
              if_neg fun both => absurd both.1 (Nat.not_lt.mpr more), Nat.add_zero]
        · simp only [stream, stopsFailing, List.length_nil, List.take_nil, overwrite_nil,
            Nat.sub_pos_of_lt room, and_self, if_true]
      · have full : len - written = 0 := by omega
        rw [if_neg room, full]
        simp [overwrite_nil]

theorem refused (ran : call.run width memory = some (result, memory)) (negative : result.toInt < 0) :
    RespectsMemory width memory call :=
  ⟨result, memory, ran, rfl, fun nonneg => absurd nonneg (Int.not_le.mpr negative), fun _ => rfl⟩

theorem wrote (count : Nat) (pointer : 0 ≤ call.ptr.toInt)
    (ran : call.run width memory =
      some (.ofNat count, overwrite memory call.ptr.toInt.toNat (call.asked.take count)))
    (bounded : count ≤ call.len.toInt) (there : count ≤ call.asked.length)
    (fits : call.ptr.toInt.toNat + count ≤ memory.length) : RespectsMemory width memory call := by
  have length : (call.asked.take count).length = count := List.length_take_of_le there
  have small : (Int32.ofNat count).toInt = count :=
    Int32.toInt_ofNat_of_lt (by have upper := call.len.toInt_lt; omega)
  refine ⟨_, _, ran, length_overwrite (by rw [length]; exact fits), fun _ => ?_, fun negative => ?_⟩
  · rw [small, Int.toNat_natCast]
    refine ⟨bounded, fun index outside => ?_, by omega, ?_⟩
    · exact getElem?_overwrite (by rw [length]; exact fits) (by rw [length]; omega)
    · have piece := @piece_overwrite UInt8 memory (call.asked.take count) call.ptr.toInt.toNat
        (by rw [length]; exact fits)
      rwa [length] at piece
  · omega

/-- What was written before a failure is seen, unless it stood there already. -/
theorem failed_iff (ran : call.run width memory =
      some (result, overwrite memory call.ptr.toInt.toNat call.asked))
    (negative : result.toInt < 0) (fails : call.fails = true) (pointer : 0 ≤ call.ptr.toInt)
    (nonneg : 0 ≤ call.len.toInt)
    (fits : call.ptr.toInt.toNat + call.len.toInt.toNat ≤ memory.length)
    (short : call.asked.length < call.len.toInt.toNat) :
    RespectsMemory width memory call ↔ ¬ call.FailsPartway memory := by
  constructor
  · rintro ⟨other, after, also, -, -, unchanged⟩ partway
    rw [ran, Option.some.injEq, Prod.mk.injEq] at also
    obtain ⟨rfl, rfl⟩ := also
    exact partway.2.2.2.2.2 ((overwrite_eq_self_iff (by omega)).mp (unchanged negative))
  · intro clean
    have stands : (memory.drop call.ptr.toInt.toNat).take call.asked.length = call.asked := by
      by_contra differs
      exact clean ⟨fails, pointer, nonneg, by omega, by omega, differs⟩
    rw [(overwrite_eq_self_iff (by omega)).mpr stands] at ran
    exact refused ran negative

theorem tryUsize_cases (value : Int32) : value.toInt < 0 ∧ tryUsize value = none ∨
    0 ≤ value.toInt ∧ tryUsize value = some value.toInt.toNat := by
  by_cases nonneg : 0 ≤ value.toInt
  · exact .inr ⟨nonneg, tryUsize_of_nonneg nonneg⟩
  · exact .inl ⟨Int.not_le.mp nonneg, tryUsize_negative (Int.not_le.mp nonneg)⟩

theorem tryUsize_eq_some {count : Nat} : tryUsize value = some count ↔
    0 ≤ value.toInt ∧ value.toInt.toNat = count := by
  rw [tryUsize, Option.ite_none_right_eq_some, Option.some.injEq]

theorem readInput_respects (inputs : List Bytes) (index ptr len : Int32) :
    RespectsMemory width memory (.readInput inputs index ptr len) := by
  have negative : (-1 : Int32).toInt < 0 := by decide
  rcases tryUsize_cases index with ⟨-, place⟩ | ⟨-, place⟩
  · exact refused (by simp only [HostCall.run, readInput, place]) negative
  rcases tryUsize_cases len with ⟨-, size⟩ | ⟨nonneg, size⟩
  · exact refused (by simp only [HostCall.run, readInput, place, size]) negative
  rcases tryUsize_cases ptr with ⟨-, start⟩ | ⟨pointer, start⟩
  · exact refused (by simp only [HostCall.run, readInput, place, size, start]) negative
  cases found : inputs[index.toInt.toNat]? with
  | none => exact refused (by simp only [HostCall.run, readInput, place, size, start, found]) negative
  | some data =>
      have asked : (HostCall.readInput inputs index ptr len).asked = data := by
        simp only [HostCall.asked, place, Option.bind_some, found, Option.getD_some]
      obtain ⟨count, least⟩ : ∃ count, min len.toInt.toNat data.length = count := ⟨_, rfl⟩
      have sum : addUsize width ptr.toInt.toNat count = some (ptr.toInt.toNat + count) := by
        have room := @add_within width ptr len
        exact if_pos (by omega)
      by_cases fits : ptr.toInt.toNat + count ≤ memory.length
      · have front : sliceTo data count = some (data.take count) := if_pos (by omega)
        have equal : ((memory.drop ptr.toInt.toNat).take count).length =
            (data.take count).length := by
          simp only [List.length_take, List.length_drop]
          omega
        refine wrote count pointer ?_ ?_ ?_ fits
        · simp only [HostCall.run, readInput, place, size, start, found, least, sum,
            getMut_within fits, front, copyFromSlice, equal, asked, HostCall.ptr,
            Option.bind_eq_bind, Option.bind_some, if_true]
        · rw [HostCall.len]
          omega
        · rw [asked]
          omega
      · refine refused ?_ negative
        simp only [HostCall.run, readInput, place, size, start, found, least, sum,
          getMut_beyond (Nat.not_le.mp fits), Option.bind_eq_bind, Option.bind_some]

theorem getMut_range (ptr len : Int32) :
    getMut memory ptr.toInt.toNat (saturatingAdd width ptr.toInt.toNat len.toInt.toNat) =
      if ptr.toInt.toNat + len.toInt.toNat ≤ memory.length then
        some ((memory.drop ptr.toInt.toNat).take len.toInt.toNat)
      else none := by
  rw [saturatingAdd, Nat.min_eq_left (add_within ptr len)]
  split
  · rename_i fits
    exact getMut_within fits
  · rename_i beyond
    exact getMut_beyond (Nat.not_le.mp beyond)

/-- The loop over a range of the memory that the buffer is put back into. -/
theorem exists_readLoop (reads : List (Read UInt8))
    (fits : start + count ≤ memory.length) :
    ∃ after, readLoop count reads ((memory.drop start).take count) 0 =
        some (if (stream reads).length < count ∧ stopsFailing reads = true then none
          else some (min (stream reads).length count), after) ∧
      overwrite memory start after = overwrite memory start ((stream reads).take count) := by
  have whole : ((memory.drop start).take count).length = count := by
    rw [List.length_take, List.length_drop]
    omega
  have ran : readLoop count reads _ 0 = _ := readLoop_eq whole (Nat.zero_le count)
  rw [Nat.sub_zero, Nat.zero_add] at ran
  refine ⟨_, ran, overwrite_part fits ?_⟩
  rw [List.length_take]
  exact Nat.min_le_left _ _

def Outside (memory : Bytes) (ptr len : Int32) : Prop :=
  ptr.toInt < 0 ∨ len.toInt < 0 ∨ memory.length < ptr.toInt.toNat + len.toInt.toNat

theorem inside_of {ptr len : Int32} (inside : ¬Outside memory ptr len) : 0 ≤ ptr.toInt ∧
    0 ≤ len.toInt ∧ ptr.toInt.toNat + len.toInt.toNat ≤ memory.length := by
  rw [Outside] at inside
  omega

theorem not_partway (outside : Outside memory call.ptr call.len) : ¬call.FailsPartway memory := by
  rintro ⟨-, pointer, nonneg, fits, -, -⟩
  rw [Outside] at outside
  omega

theorem fillRandom_outside {ptr len : Int32} (outside : Outside memory ptr len) :
    fillRandom width source memory ptr len = some (-1, memory) := by
  rcases tryUsize_cases ptr with ⟨-, start⟩ | ⟨pointer, start⟩
  · simp only [fillRandom, start]
  rcases tryUsize_cases len with ⟨-, size⟩ | ⟨nonneg, size⟩
  · simp only [fillRandom, start, size]
  have range := @getMut_range width memory ptr len
  rw [if_neg (by rw [Outside] at outside; omega)] at range
  simp only [fillRandom, start, size, range]

theorem fillRandom_inside {ptr len : Int32} (inside : ¬Outside memory ptr len) :
    fillRandom width source memory ptr len =
      some (if len.toInt.toNat ≤ (stream source).length then .ofNat len.toInt.toNat else -2,
        overwrite memory ptr.toInt.toNat ((stream source).take len.toInt.toNat)) := by
  obtain ⟨pointer, nonneg, fits⟩ := inside_of inside
  have range := @getMut_range width memory ptr len
  rw [if_pos fits] at range
  obtain ⟨after, ran, same⟩ := exists_readLoop source fits
  have whole : ((memory.drop ptr.toInt.toNat).take len.toInt.toNat).length = len.toInt.toNat := by
    rw [List.length_take, List.length_drop]
    omega
  -- an end counts as a failure too, so what the loop says of the end of the source is not needed
  have filled : ((if (stream source).length < len.toInt.toNat ∧ stopsFailing source = true
      then none else some (min (stream source).length len.toInt.toNat)) =
        some len.toInt.toNat) ↔ len.toInt.toNat ≤ (stream source).length := by
    split
    · rename_i stops
      exact iff_of_false nofun (Nat.not_le.mpr stops.1)
    · rw [Option.some.injEq]
      omega
  simp only [fillRandom, tryUsize_of_nonneg pointer, tryUsize_of_nonneg nonneg, range, fill, whole,
    ran, same, filled, Option.map_some, Option.bind_eq_bind, Option.bind_some, decide_eq_true_eq]

theorem fillRandom_respects_iff (source : List (Read UInt8)) (ptr len : Int32) :
    RespectsMemory width memory (.fillRandom source ptr len) ↔
      ¬ HostCall.FailsPartway memory (.fillRandom source ptr len) := by
  by_cases outside : Outside memory ptr len
  · exact iff_of_true (refused (fillRandom_outside outside) (by decide)) (not_partway outside)
  obtain ⟨pointer, nonneg, fits⟩ := inside_of outside
  have ran := @fillRandom_inside width memory source ptr len outside
  by_cases enough : len.toInt.toNat ≤ (stream source).length
  · rw [if_pos enough] at ran
    refine iff_of_true (wrote len.toInt.toNat pointer ran
      (Int.le_of_eq (Int.toNat_of_nonneg nonneg)) enough fits) fun partway => ?_
    have short := partway.2.2.2.2.1
    simp only [HostCall.asked, HostCall.len] at short
    omega
  · have short : (stream source).length < len.toInt.toNat := Nat.not_le.mp enough
    rw [if_neg enough, List.take_of_length_le (Nat.le_of_lt short)] at ran
    exact failed_iff ran (by decide) rfl pointer nonneg fits short

theorem fileReads_eq_some {host : Host} {root : Option String} {requested : String}
    {offset : Int64} : fileReads host root requested offset = some reads ↔
      ∃ path seek place, (root.bind fun root => resolveInRoot host root requested) = some path ∧
        host.openFile path = some seek ∧ tryU64 offset = some place ∧ seek place = some reads := by
  cases root with
  | none => simp [fileReads]
  | some root => simp [fileReads, Option.bind_eq_some_iff]

theorem fileRead_refused {host : Host} {root : Option String} {requested : String}
    {offset : Int64} {ptr len : Int32} (missing : fileReads host root requested offset = none) :
    fileRead host width root requested offset memory ptr len = some (-1, memory) := by
  unfold fileRead
  split
  · rfl
  · rename_i path resolved
    split
    · rename_i start count place first second position
      split
      · rfl
      · split
        · rfl
        · rename_i reads found
          obtain ⟨seek, opened, found⟩ := Option.bind_eq_some_iff.mp found
          have read := fileReads_eq_some.mpr ⟨path, seek, place, resolved, opened, position, found⟩
          rw [missing] at read
          cases read
    · rfl

theorem fileRead_outside {host : Host} {root : Option String} {requested : String}
    {offset : Int64} {ptr len : Int32} (outside : Outside memory ptr len) :
    fileRead host width root requested offset memory ptr len = some (-1, memory) := by
  unfold fileRead
  split
  · rfl
  · split
    · rename_i start count place first second position
      obtain ⟨pointer, rfl⟩ := tryUsize_eq_some.mp first
      obtain ⟨nonneg, rfl⟩ := tryUsize_eq_some.mp second
      have range := @getMut_range width memory ptr len
      rw [if_neg (by rw [Outside] at outside; omega)] at range
      rw [range]
    · rfl

theorem fileRead_inside {host : Host} {root : Option String} {requested : String}
    {offset : Int64} {ptr len : Int32}
    (read : fileReads host root requested offset = some reads)
    (inside : ¬Outside memory ptr len) :
    fileRead host width root requested offset memory ptr len =
      some (if (stream reads).length < len.toInt.toNat ∧ stopsFailing reads = true then -1
          else .ofNat (min (stream reads).length len.toInt.toNat),
        overwrite memory ptr.toInt.toNat ((stream reads).take len.toInt.toNat)) := by
  obtain ⟨pointer, nonneg, fits⟩ := inside_of inside
  obtain ⟨path, seek, place, resolved, opened, position, found⟩ := fileReads_eq_some.mp read
  have range := @getMut_range width memory ptr len
  rw [if_pos fits] at range
  obtain ⟨after, ran, same⟩ := exists_readLoop reads fits
  simp only [fileRead, resolved, tryUsize_of_nonneg pointer, tryUsize_of_nonneg nonneg, position,
    range, opened, found, ran, same, Option.bind_eq_bind, Option.bind_some]
  by_cases stops : (stream reads).length < len.toInt.toNat ∧ stopsFailing reads = true
  · rw [if_pos stops, if_pos stops]
  · rw [if_neg stops, if_neg stops]

theorem fileRead_respects_iff (host : Host) (root : Option String) (requested : String)
    (offset : Int64) (ptr len : Int32) :
    RespectsMemory width memory (.fileRead host root requested offset ptr len) ↔
      ¬ HostCall.FailsPartway memory (.fileRead host root requested offset ptr len) := by
  by_cases outside : Outside memory ptr len
  · exact iff_of_true (refused (fileRead_outside outside) (by decide)) (not_partway outside)
  obtain ⟨pointer, nonneg, fits⟩ := inside_of outside
  cases read : fileReads host root requested offset with
  | none =>
      refine iff_of_true (refused (fileRead_refused read) (by decide)) fun partway => ?_
      have fails := partway.1
      simp only [HostCall.fails, read, Option.map_none, Option.getD_none, Bool.false_eq_true]
        at fails
  | some reads =>
      have ran : fileRead host width root requested offset memory ptr len = _ :=
        fileRead_inside read outside
      have asked : (HostCall.fileRead host root requested offset ptr len).asked =
          stream reads := by
        simp only [HostCall.asked, read, Option.map_some, Option.getD_some]
      have fails : (HostCall.fileRead host root requested offset ptr len).fails =
          stopsFailing reads := by
        simp only [HostCall.fails, read, Option.map_some, Option.getD_some]
      by_cases stops : (stream reads).length < len.toInt.toNat ∧ stopsFailing reads = true
      · rw [if_pos stops, List.take_of_length_le (Nat.le_of_lt stops.1), ← asked] at ran
        exact failed_iff ran (by decide) (fails.trans stops.2) pointer nonneg fits
          (asked ▸ stops.1)
      · obtain ⟨count, least⟩ : ∃ count, min (stream reads).length len.toInt.toNat = count :=
          ⟨_, rfl⟩
        have front : (stream reads).take len.toInt.toNat = (stream reads).take count :=
          List.take_eq_take_iff.mpr (by omega)
        rw [if_neg stops, front, least, ← asked] at ran
        refine iff_of_true (wrote count pointer ran ?_ ?_ ?_) fun partway => ?_
        · rw [HostCall.len]
          omega
        · rw [asked]
          omega
        · rw [HostCall.ptr]
          omega
        · have short := partway.2.2.2.2.1
          simp only [asked, HostCall.len] at short
          exact stops ⟨by omega, fails ▸ partway.1⟩

end

/-- A call respects the memory if and only if no read fails after others have changed it. -/
theorem respects_memory_iff (width : UsizeWidth) (memory : Bytes) (call : HostCall) :
    RespectsMemory width memory call ↔ ¬ call.FailsPartway memory := by
  cases call with
  | readInput inputs index ptr len =>
      exact iff_of_true (readInput_respects inputs index ptr len) fun partway =>
        Bool.false_ne_true partway.1
  | fillRandom source ptr len => exact fillRandom_respects_iff source ptr len
  | fileRead host root requested offset ptr len =>
      exact fileRead_respects_iff host root requested offset ptr len

def failingDisk : Host where
  isAbsolute _ := false
  join root requested := root ++ "/" ++ requested
  canonicalize path := some (if path = "data" then ["data"] else ["data", path])
  openFile _ := some fun _ => some [.delivered [7], .failed]

theorem failed_read_seen :
    HostCall.run .w64 [0, 0] (.fileRead failingDisk (some "data") "parts" 0 0 2) =
        some (-1, [7, 0]) ∧
      ¬ RespectsMemory .w64 [0, 0] (.fileRead failingDisk (some "data") "parts" 0 0 2) := by
  have ran : HostCall.run .w64 [0, 0] (.fileRead failingDisk (some "data") "parts" 0 0 2) =
      some (-1, [7, 0]) := by
    decide
  refine ⟨ran, ?_⟩
  rintro ⟨result, after, also, -, -, unchanged⟩
  rw [ran, Option.some.injEq, Prod.mk.injEq] at also
  obtain ⟨rfl, rfl⟩ := also
  exact absurd (unchanged (by decide)) (by decide)

end AetherMesh
