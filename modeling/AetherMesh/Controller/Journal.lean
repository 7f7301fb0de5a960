import AetherMesh.Controller.Checkpoint
import AetherMesh.Library.Runs

/-!
The journal as a file. `append` writes one JSON object and a line feed at the end
of whatever is there; `records` reads the file back as lines of UTF-8 text. A
process that dies while it writes leaves the first bytes of the line. `parse`
stands for `serde_json::from_str`.
-/

namespace AetherMesh

def escapeChar (char : Char) : List Char :=
  if char = '"' then ['\\', '"']
  else if char = '\\' then ['\\', '\\']
  else if char = '\n' then ['\\', 'n']
  else if char = '\r' then ['\\', 'r']
  else if char = '\t' then ['\\', 't']
  else if char = '\x08' then ['\\', 'b']
  else if char = '\x0c' then ['\\', 'f']
  else if char.toNat < 32 then ['\\', 'u', '0', '0'] ++ hexByte (UInt8.ofNat char.toNat)
  else [char]

def jsonString (text : List Char) : List Char :=
  '"' :: text.flatMap escapeChar ++ ['"']

def jsonField (name : String) (value : List Char) : List Char :=
  jsonString name.toList ++ ':' :: value

def jsonNumber (value : Nat) : List Char :=
  Nat.toDigits 10 value

def jsonObject (fields : List (List Char)) : List Char :=
  '\x7b' :: [','].intercalate fields ++ ['\x7d']

def Record.json (record : Record) : List Char :=
  jsonObject [
    jsonField "run" (jsonString record.run.toList),
    jsonField "fingerprint" (jsonString record.fingerprint.toList),
    jsonField "step" (jsonNumber record.step),
    jsonField "task_id" (jsonString (uuidText record.taskId.uuid)),
    jsonField "node_id" (jsonString (uuidText record.nodeId.uuid)),
    jsonField "output_id" (jsonString record.outputId.display.toList),
    jsonField "duration_ms" (jsonNumber record.durationMs)]

/-- `serde_json::to_string` of a record. -/
def Record.toJson (record : Record) : String :=
  String.ofList record.json

def Record.line (record : Record) : Bytes :=
  asBytes record.toJson ++ [10]

def decodeUtf8 (bytes : Bytes) : Option String :=
  String.fromUTF8? ⟨bytes.toArray⟩

def isWhitespace (char : Char) : Bool :=
  char.toNat ∈ [9, 10, 11, 12, 13, 32, 133, 160, 5760, 8232, 8233, 8239, 8287, 12288] ∨
    (8192 ≤ char.toNat ∧ char.toNat ≤ 8202)

def isBlank (text : String) : Bool :=
  text.toList.all isWhitespace

def dropReturn (text : String) : String :=
  if text.toList.getLast? = some '\r' then String.ofList text.toList.dropLast else text

theorem decodeUtf8_asBytes (text : String) : decodeUtf8 (asBytes text) = some text := by
  have same : (⟨(asBytes text).toArray⟩ : ByteArray) = text.toByteArray := by simp [asBytes]
  rw [decodeUtf8, same, String.fromUTF8?, dif_pos text.isValidUTF8]
  rfl

theorem asBytes_of_decodeUtf8 {bytes : Bytes} {text : String} (decoded : decodeUtf8 bytes = some text) :
    asBytes text = bytes := by
  unfold decodeUtf8 String.fromUTF8? at decoded
  split at decoded
  · obtain rfl := Option.some.inj decoded
    simp [asBytes, String.fromUTF8]
  · simp at decoded

theorem toByteArray_eq_utf8Encode (text : String) : text.toByteArray = text.toList.utf8Encode := by
  rw [← String.toByteArray_ofList, String.ofList_toList]

theorem asBytes_eq_flatMap (text : String) :
    asBytes text = text.toList.flatMap String.utf8EncodeChar := by
  rw [asBytes, toByteArray_eq_utf8Encode, List.utf8Encode]
  simp

theorem toList_prefix_of_asBytes {text other : String} (begun : asBytes text <+: asBytes other) :
    text.toList <+: other.toList := by
  obtain ⟨rest, same⟩ := begun
  refine List.isPrefix_of_utf8Encode_append_eq_utf8Encode ⟨rest.toArray⟩ ?_
  rw [← toByteArray_eq_utf8Encode, ← toByteArray_eq_utf8Encode]
  apply ByteArray.ext
  apply Array.toList_inj.mp
  simpa [asBytes] using same

theorem line_feed_of_mem_utf8EncodeChar {char : Char} (member : (10 : UInt8) ∈ String.utf8EncodeChar char) :
    char = '\n' := by
  have same (value : Nat) (equal : (10 : UInt8) = UInt8.ofNat value) : value % 256 = 10 := by
    have values := congrArg UInt8.toNat equal
    rw [UInt8.toNat_ofNat'] at values
    exact values.symm
  simp only [String.utf8EncodeChar] at member
  split at member
  · rename_i small
    have value := same _ (List.mem_singleton.mp member)
    exact Char.toNat_inj.mp (show char.val.toNat = 10 by omega)
  · exfalso
    split at member
    · simp only [List.mem_cons, List.not_mem_nil, or_false] at member
      rcases member with first | second
      · have := same _ first
        omega
      · have := same _ second
        omega
    · split at member
      · simp only [List.mem_cons, List.not_mem_nil, or_false] at member
        rcases member with first | second | third
        · have := same _ first
          omega
        · have := same _ second
          omega
        · have := same _ third
          omega
      · simp only [List.mem_cons, List.not_mem_nil, or_false] at member
        rcases member with first | second | third | fourth
        · have := same _ first
          omega
        · have := same _ second
          omega
        · have := same _ third
          omega
        · have := same _ fourth
          omega

theorem line_feed_not_mem_asBytes {text : String} (clean : '\n' ∉ text.toList) :
    (10 : UInt8) ∉ asBytes text := by
  rw [asBytes_eq_flatMap]
  intro member
  obtain ⟨char, present, inside⟩ := List.mem_flatMap.mp member
  exact clean (line_feed_of_mem_utf8EncodeChar inside ▸ present)

theorem line_feed_ne_digitChar : ∀ digit < 16, '\n' ≠ Nat.digitChar digit := by
  decide

theorem line_feed_not_mem_escapeChar (char : Char) : '\n' ∉ escapeChar char := by
  unfold escapeChar
  split_ifs with quote backslash feed
  all_goals try decide
  · have high := line_feed_ne_digitChar ((UInt8.ofNat char.toNat).toNat / 16)
      (by have := (UInt8.ofNat char.toNat).toNat_lt; omega)
    have low := line_feed_ne_digitChar ((UInt8.ofNat char.toNat).toNat % 16) (by omega)
    simp only [hexByte, List.cons_append, List.nil_append, List.mem_cons, List.not_mem_nil, or_false,
      high, low]
    decide
  · simpa using Ne.symm feed

theorem line_feed_not_mem_jsonString (text : List Char) : '\n' ∉ jsonString text := by
  simp only [jsonString, List.cons_append, List.mem_cons, List.mem_append, List.mem_flatMap,
    List.not_mem_nil, or_false, not_or, not_exists, not_and]
  exact ⟨by decide, fun char _ => line_feed_not_mem_escapeChar char, by decide⟩

theorem line_feed_not_mem_jsonNumber (value : Nat) : '\n' ∉ jsonNumber value := by
  intro member
  have digit := Nat.isDigit_of_mem_toDigits (by decide) (by decide) member
  exact absurd digit (by decide)

theorem toJson_clean (record : Record) : '\n' ∉ record.toJson.toList := by
  simp [Record.toJson, Record.json, jsonObject, jsonField, List.intercalate,
    line_feed_not_mem_jsonString, line_feed_not_mem_jsonNumber]

theorem Record.line_eq (record : Record) :
    record.line = record.json.flatMap String.utf8EncodeChar ++ [10] := by
  rw [Record.line, asBytes_eq_flatMap, Record.toJson, String.toList_ofList]

theorem toJson_shape (record : Record) :
    ∃ middle, record.toJson.toList = '\x7b' :: middle ++ ['\x7d'] := by
  exact ⟨_, String.toList_ofList⟩

namespace Journal

def readLine (parse : String → Option Record) (path : String) (line : Bytes × Bool) :
    Except CheckpointError (List Record) :=
  match decodeUtf8 line.1 with
  | none => .error (.io path "stream did not contain valid UTF-8")
  | some text =>
      let text := if line.2 then dropReturn text else text
      if isBlank text then .ok [] else .ok (parse text).toList

def recordsFrom (parse : String → Option Record) (path : String) :
    List (Bytes × Bool) → Except CheckpointError (List Record)
  | [] => .ok []
  | line :: rest =>
      match readLine parse path line with
      | .error error => .error error
      | .ok found => (recordsFrom parse path rest).map (found ++ ·)

def records (parse : String → Option Record) (path : String) (disk : Bytes) :
    Except CheckpointError (List Record) :=
  recordsFrom parse path (Separated.lines 10 disk)

structure State where
  disk : Bytes
  isOpen : Bool
deriving DecidableEq

def created : State := ⟨[], false⟩

inductive Event
  | opened
  | append (record : Record)
  | crash (record : Record) (written : Nat)
deriving DecidableEq

/-- A process that died during an `append` has to open the file again. -/
def next (state : State) : Event → Option State
  | .opened => some { state with isOpen := true }
  | .append record =>
      if state.isOpen then some { state with disk := state.disk ++ record.line } else none
  | .crash record written =>
      if state.isOpen then some ⟨state.disk ++ record.line.take written, false⟩ else none

def completed (trace : List Event) : List Record :=
  trace.filterMap fun event =>
    match event with
    | .append record => some record
    | _ => none

def attempted (trace : List Event) : List Record :=
  trace.filterMap fun event =>
    match event with
    | .append record => some record
    | .crash record _ => some record
    | .opened => none

def Terminated (disk : Bytes) : Prop :=
  disk = [] ∨ disk.getLast? = some 10

instance (disk : Bytes) : Decidable (Terminated disk) :=
  inferInstanceAs (Decidable (_ ∨ _))

/-- Nothing is written after an unfinished line, and a line is not cut inside a character. -/
def Mends (state : State) : Event → Prop
  | .opened => True
  | .append _ => Terminated state.disk
  | .crash record written => written = 0 ∨
      (Terminated state.disk ∧ (decodeUtf8 (record.line.take written)).isSome = true)

instance (state : State) (event : Event) : Decidable (Mends state event) :=
  match event with
  | .opened => inferInstanceAs (Decidable True)
  | .append _ => inferInstanceAs (Decidable (Terminated _))
  | .crash _ _ => inferInstanceAs (Decidable (_ ∨ _))

structure Holds (past : List Event) (disk : Bytes) (whole : List Record)
    (torn : Option (Record × String)) : Prop where
  bytes : disk = Separated.joined 10 (whole.map fun record => asBytes record.toJson) ++
    (torn.map fun begun => asBytes begun.2).getD []
  done : (completed past).Sublist whole
  called : (whole ++ (torn.map Prod.fst).toList).Sublist (attempted past)
  begun : ∀ record text, torn = some (record, text) →
    text ≠ "" ∧ text.toList <+: record.toJson.toList

theorem toJson_bytes_clean (record : Record) : (10 : UInt8) ∉ asBytes record.toJson :=
  line_feed_not_mem_asBytes (toJson_clean record)

theorem prefix_bytes_clean {text : String} {record : Record}
    (begun : text.toList <+: record.toJson.toList) : (10 : UInt8) ∉ asBytes text :=
  line_feed_not_mem_asBytes fun member => toJson_clean record (begun.subset member)

theorem asBytes_ne_nil {text : String} (nonempty : text ≠ "") : asBytes text ≠ [] := by
  intro empty
  exact nonempty (asBytes_injective (empty.trans (by decide +kernel)))

section Holds

variable {past : List Event} {disk : Bytes} {whole : List Record} {torn : Option (Record × String)}

theorem Holds.whole_of_terminated (holds : Holds past disk whole torn) (ended : Terminated disk) :
    torn = none := by
  cases torn with
  | none => rfl
  | some begun =>
      obtain ⟨record, text⟩ := begun
      obtain ⟨nonempty, begins⟩ := holds.begun record text rfl
      have bytes : disk = _ ++ asBytes text := holds.bytes
      have present := asBytes_ne_nil nonempty
      rcases ended with empty | last
      · rw [empty] at bytes
        exact absurd (List.append_eq_nil_iff.mp bytes.symm).2 present
      · rw [bytes, List.getLast?_append_of_ne_nil _ present] at last
        exact absurd (List.mem_of_getLast? last) (prefix_bytes_clean begins)

theorem attempted_snoc (past : List Event) (event : Event) :
    attempted (past ++ [event]) = attempted past ++ attempted [event] := by
  simp [attempted]

theorem completed_snoc (past : List Event) (event : Event) :
    completed (past ++ [event]) = completed past ++ completed [event] := by
  simp [completed]

theorem Holds.opened (holds : Holds past disk whole torn) :
    Holds (past ++ [.opened]) disk whole torn := by
  refine ⟨holds.bytes, ?_, ?_, holds.begun⟩
  · simpa [completed] using holds.done
  · simpa [attempted] using holds.called

theorem Holds.write (holds : Holds past disk whole none) (record : Record) {event : Event}
    (called : attempted [event] = [record]) (done : (completed [event]).Sublist [record]) :
    Holds (past ++ [event]) (disk ++ record.line) (whole ++ [record]) none := by
  refine ⟨?_, ?_, ?_, by simp⟩
  · rw [holds.bytes]
    simp [Separated.joined, Record.line]
  · rw [completed_snoc]
    exact holds.done.append done
  · rw [attempted_snoc, called]
    simpa using holds.called.append (List.Sublist.refl [record])

theorem Holds.nothing (holds : Holds past disk whole torn) (record : Record) :
    Holds (past ++ [.crash record 0]) disk whole torn := by
  refine ⟨holds.bytes, ?_, ?_, holds.begun⟩
  · simpa [completed] using holds.done
  · rw [attempted_snoc]
    exact holds.called.trans (List.sublist_append_left _ _)

theorem Holds.tear (holds : Holds past disk whole none) {record : Record} {written : Nat}
    {text : String} (positive : 0 < written) (short : written ≤ (asBytes record.toJson).length)
    (decoded : decodeUtf8 (record.line.take written) = some text) :
    Holds (past ++ [.crash record written]) (disk ++ record.line.take written) whole
      (some (record, text)) := by
  have bytes := asBytes_of_decodeUtf8 decoded
  have cut : record.line.take written = (asBytes record.toJson).take written := by
    rw [Record.line, List.take_append_of_le_length short]
  refine ⟨?_, ?_, ?_, ?_⟩
  · rw [holds.bytes]
    simp [bytes]
  · simpa [completed] using holds.done
  · rw [attempted_snoc]
    simpa [attempted] using holds.called.append (List.Sublist.refl [record])
  · rintro _ _ same
    obtain ⟨rfl, rfl⟩ := Prod.mk.inj (Option.some.inj same)
    constructor
    · rintro rfl
      have empty : asBytes "" = [] := by decide +kernel
      rw [empty, cut] at bytes
      have size := congrArg List.length bytes
      simp at size
      omega
    · apply toList_prefix_of_asBytes
      rw [bytes, cut]
      exact List.take_prefix written _

theorem Holds.step (holds : Holds past disk whole torn) {state after : State} {event : Event}
    (same : state.disk = disk) (mends : Mends state event) (moved : next state event = some after) :
    ∃ whole torn, Holds (past ++ [event]) after.disk whole torn := by
  subst same
  cases event with
  | opened =>
      obtain rfl := Option.some.inj moved
      exact ⟨whole, torn, holds.opened⟩
  | append record =>
      have closed := holds.whole_of_terminated mends
      subst closed
      simp only [next, Option.ite_none_right_eq_some, Option.some.injEq] at moved
      obtain ⟨_, rfl⟩ := moved
      exact ⟨whole ++ [record], none, holds.write record rfl (List.Sublist.refl _)⟩
  | crash record written =>
      simp only [next, Option.ite_none_right_eq_some, Option.some.injEq] at moved
      obtain ⟨_, rfl⟩ := moved
      by_cases zero : written = 0
      · subst zero
        exact ⟨whole, torn, by simpa using holds.nothing record⟩
      · obtain ⟨ended, decodes⟩ := mends.resolve_left zero
        have closed := holds.whole_of_terminated ended
        subst closed
        by_cases short : written ≤ (asBytes record.toJson).length
        · obtain ⟨text, decoded⟩ := Option.isSome_iff_exists.mp decodes
          exact ⟨whole, some (record, text), holds.tear (Nat.pos_of_ne_zero zero) short decoded⟩
        · have all : record.line.take written = record.line := by
            apply List.take_of_length_le
            simp only [Record.line, List.length_append, List.length_singleton]
            omega
          refine ⟨whole ++ [record], none, ?_⟩
          simp only [all]
          exact holds.write record rfl (List.nil_sublist _)

end Holds

section Reading

variable {parse : String → Option Record} {path : String}

theorem toJson_not_blank (record : Record) : isBlank record.toJson = false := by
  obtain ⟨middle, shape⟩ := toJson_shape record
  have visible : isWhitespace '\x7b' = false := by decide
  simp [isBlank, shape, visible]

theorem dropReturn_toJson (record : Record) : dropReturn record.toJson = record.toJson := by
  obtain ⟨middle, shape⟩ := toJson_shape record
  have last : record.toJson.toList.getLast? = some '\x7d' := by
    rw [shape, List.getLast?_append]
    rfl
  rw [dropReturn, last, if_neg (by decide)]

theorem readLine_toJson {record : Record} (roundTrip : parse record.toJson = some record)
    (ended : Bool) : readLine parse path (asBytes record.toJson, ended) = .ok [record] := by
  simp only [readLine, decodeUtf8_asBytes, dropReturn_toJson, ite_self, toJson_not_blank, roundTrip]
  rfl

theorem recordsFrom_whole {whole : List Record}
    (roundTrip : ∀ record ∈ whole, parse record.toJson = some record)
    {rest : List (Bytes × Bool)} {later : List Record}
    (read : recordsFrom parse path rest = .ok later) :
    recordsFrom parse path (whole.map (fun record => (asBytes record.toJson, true)) ++ rest) =
      .ok (whole ++ later) := by
  induction whole with
  | nil => simpa using read
  | cons record others ih =>
      have first := @readLine_toJson parse path record (roundTrip record (by simp)) true
      have further := ih fun other member => roundTrip other (List.mem_cons_of_mem _ member)
      rw [List.map_cons, List.cons_append, recordsFrom, first, further]
      rfl

theorem readLine_begun {record : Record} {text : String}
    (begins : text.toList <+: record.toJson.toList)
    (roundTrip : parse record.toJson = some record)
    (incomplete : ∀ text : String, text.toList <+: record.toJson.toList → text ≠ record.toJson →
      parse text = none) :
    readLine parse path (asBytes text, false) = .ok (if text = record.toJson then [record] else []) := by
  by_cases full : text = record.toJson
  · rw [if_pos full, full]
    exact readLine_toJson roundTrip false
  · rw [if_neg full]
    simp [readLine, decodeUtf8_asBytes, incomplete text begins full]

theorem Holds.records {past : List Event} {disk : Bytes} {whole : List Record}
    {torn : Option (Record × String)} (holds : Holds past disk whole torn)
    (roundTrip : ∀ record ∈ attempted past, parse record.toJson = some record)
    (incomplete : ∀ record ∈ attempted past, ∀ text : String,
      text.toList <+: record.toJson.toList → text ≠ record.toJson → parse text = none) :
    ∃ found, Journal.records parse path disk = .ok found ∧ (completed past).Sublist found ∧
      found.Sublist (attempted past) := by
  have wholeTrip : ∀ record ∈ whole, parse record.toJson = some record := fun record member =>
    roundTrip record (holds.called.subset (List.mem_append_left _ member))
  have cleanLines : ∀ field ∈ whole.map fun record => asBytes record.toJson, (10 : UInt8) ∉ field := by
    intro field member
    obtain ⟨record, _, rfl⟩ := List.mem_map.mp member
    exact toJson_bytes_clean record
  unfold Journal.records
  rw [holds.bytes]
  cases torn with
  | none =>
      refine ⟨whole ++ [], ?_, by simpa using holds.done, by simpa using holds.called⟩
      rw [Separated.lines_joined_append cleanLines (by simp), List.map_map]
      exact recordsFrom_whole wholeTrip rfl
  | some begun =>
      obtain ⟨record, text⟩ := begun
      obtain ⟨nonempty, begins⟩ := holds.begun record text rfl
      have called : (whole ++ [record]).Sublist (attempted past) := holds.called
      have member : record ∈ attempted past := called.subset (by simp)
      have last := @readLine_begun parse path record text begins (roundTrip record member)
        (incomplete record member)
      refine ⟨whole ++ if text = record.toJson then [record] else [], ?_, ?_, ?_⟩
      · rw [Option.map_some, Option.getD_some,
          Separated.lines_joined_append cleanLines (prefix_bytes_clean begins), List.map_map,
          if_neg (asBytes_ne_nil nonempty)]
        refine recordsFrom_whole wholeTrip ?_
        rw [recordsFrom, last]
        exact congrArg Except.ok (List.append_nil _)
      · exact holds.done.trans (List.sublist_append_left _ _)
      · split
        · exact called
        · rw [List.append_nil]
          exact (List.sublist_append_left whole [record]).trans called

end Reading

theorem records_keep_completed {parse : String → Option Record} {path : String}
    {trace : List Event} {final : State}
    (roundTrip : ∀ record ∈ attempted trace, parse record.toJson = some record)
    (incomplete : ∀ record ∈ attempted trace, ∀ text : String,
      text.toList <+: record.toJson.toList → text ≠ record.toJson → parse text = none)
    (mends : Runs.Along next Mends created trace)
    (ran : Runs.run next created trace = some final) :
    ∃ found, records parse path final.disk = .ok found ∧ (completed trace).Sublist found ∧
      found.Sublist (attempted trace) := by
  have holds : ∃ whole torn, Holds trace final.disk whole torn := by
    refine @Runs.run_history _ _ next Mends
      (fun past state => ∃ whole torn, Holds past state.disk whole torn) created final trace ?_ ?_
      mends ran
    · exact ⟨[], none, rfl, List.Sublist.refl _, List.Sublist.refl _, by simp⟩
    · rintro past state event after ⟨whole, torn, holds⟩ moved met
      exact holds.step rfl met moved
  obtain ⟨whole, torn, holds⟩ := holds
  exact holds.records roundTrip incomplete

section Samples

variable (left right : Record) (written : Nat)

def tornThenOpened : List Event := [.opened, .crash left written, .opened]

def tornThenAppended : List Event := [.opened, .crash left written, .opened, .append right]

def appendedThenTorn : List Event := [.opened, .append left, .crash right written, .opened]

theorem run_tornThenOpened : Runs.run next created (tornThenOpened left written) =
    some ⟨left.line.take written, true⟩ := by
  simp [Runs.run, tornThenOpened, next, created]

theorem run_tornThenAppended : Runs.run next created (tornThenAppended left right written) =
    some ⟨left.line.take written ++ right.line, true⟩ := by
  simp [Runs.run, tornThenAppended, next, created]

theorem run_appendedThenTorn : Runs.run next created (appendedThenTorn left right written) =
    some ⟨left.line ++ right.line.take written, true⟩ := by
  simp [Runs.run, appendedThenTorn, next, created]

theorem appendedThenTorn_mends (decodes : (decodeUtf8 (right.line.take written)).isSome = true) :
    Runs.Along next Mends created (appendedThenTorn left right written) := by
  have empty : Terminated [] := Or.inl rfl
  have ended : Terminated left.line := Or.inr (by simp [Record.line])
  simp [Runs.Along, appendedThenTorn, next, created, Mends, decodes, ended, empty]

theorem asBytes_brace (text : String) : asBytes ("\x7b" ++ text) = 123 :: asBytes text := by
  have head : "\x7b".toList.flatMap String.utf8EncodeChar = [123] := by decide +kernel
  rw [asBytes_eq_flatMap, asBytes_eq_flatMap, String.toList_append, List.flatMap_append, head,
    List.singleton_append]

theorem records_behind_brace {parse : String → Option Record} (path : String)
    (unread : parse ("\x7b" ++ right.toJson) = none) :
    records parse path ([123] ++ right.line) = .ok [] := by
  have clean : (10 : UInt8) ∉ asBytes ("\x7b" ++ right.toJson) := by
    rw [asBytes_brace]
    exact List.not_mem_cons_of_ne_of_not_mem (by decide) (toJson_bytes_clean right)
  have bytes : [123] ++ right.line =
      Separated.joined 10 [asBytes ("\x7b" ++ right.toJson)] ++ [] := by
    rw [asBytes_brace]
    simp [Separated.joined, Record.line]
  have kept : dropReturn ("\x7b" ++ right.toJson) = "\x7b" ++ right.toJson := by
    obtain ⟨middle, shape⟩ := toJson_shape right
    rw [dropReturn, String.toList_append, shape, ← List.append_assoc, List.getLast?_concat,
      if_neg (by decide)]
  rw [records, bytes, Separated.lines_joined_append (by simpa using clean) (by simp)]
  simp [recordsFrom, readLine, decodeUtf8_asBytes, kept, unread, Except.map]

def parseTwo (text : String) : Option Record :=
  if text = left.toJson then some left
  else if text = right.toJson then some right
  else none

variable {left right}

theorem parseTwo_roundTrip (different : right.toJson ≠ left.toJson) {record : Record}
    (member : record ∈ [left, right]) : parseTwo left right record.toJson = some record := by
  rcases List.mem_pair.mp member with rfl | rfl
  · rw [parseTwo, if_pos rfl]
  · rw [parseTwo, if_neg different, if_pos rfl]

theorem parseTwo_incomplete (apart : ¬ right.toJson.toList <+: left.toJson.toList)
    (alsoApart : ¬ left.toJson.toList <+: right.toJson.toList) {record : Record}
    (member : record ∈ [left, right]) {text : String} (begins : text.toList <+: record.toJson.toList)
    (shorter : text ≠ record.toJson) : parseTwo left right text = none := by
  rcases List.mem_pair.mp member with rfl | rfl
  · rw [parseTwo, if_neg shorter, if_neg]
    rintro rfl
    exact apart begins
  · rw [parseTwo, if_neg, if_neg shorter]
    rintro rfl
    exact alsoApart begins

theorem char_eq_of_begins {text other : String} {index : Nat} {char next : Char}
    (begins : text.toList <+: other.toList) (shown : text.toList[index]? = some char)
    (otherShown : other.toList[index]? = some next) : char = next := by
  obtain ⟨rest, same⟩ := begins
  have inside := (List.getElem?_eq_some_iff.mp shown).1
  rw [← same, List.getElem?_append_left inside, shown] at otherShown
  exact Option.some.inj otherShown

end Samples

def recordOf (run : String) : Record where
  run
  fingerprint := ""
  step := 0
  taskId := ⟨0⟩
  nodeId := ⟨0⟩
  outputId := ⟨List.replicate 32 0, rfl⟩
  durationMs := 0

theorem torn_line_breaks_reading :
    (∃ final, Runs.run next created (tornThenOpened (recordOf "é") 9) = some final ∧
      ∀ parse path, records parse path final.disk =
        .error (.io path "stream did not contain valid UTF-8")) ∧
    ∃ final, Runs.run next created (tornThenAppended (recordOf "a") (recordOf "b") 1) = some final ∧
      completed (tornThenAppended (recordOf "a") (recordOf "b") 1) = [recordOf "b"] ∧
      ∀ parse path, parse ("\x7b" ++ (recordOf "b").toJson) = none →
        records parse path final.disk = .ok [] := by
  constructor
  · have cut : (recordOf "é").line.take 9 = [123, 34, 114, 117, 110, 34, 58, 34, 195] := by
      rw [Record.line_eq]
      decide +kernel
    have split : Separated.lines 10 [123, 34, 114, 117, 110, 34, 58, 34, 195] =
        [(([123, 34, 114, 117, 110, 34, 58, 34, 195] : Bytes), false)] := by
      decide
    have undecodable : decodeUtf8 [123, 34, 114, 117, 110, 34, 58, 34, 195] = none := by
      decide +kernel
    refine ⟨_, run_tornThenOpened (recordOf "é") 9, ?_⟩
    intro parse path
    rw [records, cut, split, recordsFrom, readLine, undecodable]
  · have cut : (recordOf "a").line.take 1 = [123] := by
      rw [Record.line_eq]
      decide +kernel
    refine ⟨_, run_tornThenAppended (recordOf "a") (recordOf "b") 1, by simp [completed, tornThenAppended], ?_⟩
    intro parse path unread
    rw [cut]
    exact records_behind_brace (recordOf "b") path unread

theorem torn_end_keeps_completed :
    ∃ final, Runs.run next created (appendedThenTorn (recordOf "a") (recordOf "é") 8) = some final ∧
      ∃ found, records (parseTwo (recordOf "a") (recordOf "é")) "journal" final.disk = .ok found ∧
        [recordOf "a"].Sublist found ∧ found.Sublist [recordOf "a", recordOf "é"] := by
  have named (run : String) (char : Char) (shown : (recordOf run).json[8]? = some char) :
      (recordOf run).toJson.toList[8]? = some char := by
    rw [Record.toJson, String.toList_ofList, shown]
  have plain := named "a" 'a' (by decide +kernel)
  have accented := named "é" 'é' (by decide +kernel)
  have apart : ¬ (recordOf "é").toJson.toList <+: (recordOf "a").toJson.toList := fun begins =>
    absurd (char_eq_of_begins begins accented plain) (by decide)
  have alsoApart : ¬ (recordOf "a").toJson.toList <+: (recordOf "é").toJson.toList := fun begins =>
    absurd (char_eq_of_begins begins plain accented) (by decide)
  have different : (recordOf "é").toJson ≠ (recordOf "a").toJson := by
    intro same
    exact apart (by simp [same])
  have cut : (recordOf "é").line.take 8 = [123, 34, 114, 117, 110, 34, 58, 34] := by
    rw [Record.line_eq]
    decide +kernel
  have decodes : (decodeUtf8 ((recordOf "é").line.take 8)).isSome = true := by
    rw [cut]
    decide +kernel
  refine ⟨_, run_appendedThenTorn (recordOf "a") (recordOf "é") 8, ?_⟩
  refine @records_keep_completed (parseTwo (recordOf "a") (recordOf "é")) "journal"
    (appendedThenTorn (recordOf "a") (recordOf "é") 8) _ ?_ ?_
    (appendedThenTorn_mends (recordOf "a") (recordOf "é") 8 decodes)
    (run_appendedThenTorn (recordOf "a") (recordOf "é") 8)
  · intro record member
    exact parseTwo_roundTrip different member
  · intro record member text begins shorter
    exact parseTwo_incomplete apart alsoApart member begins shorter

end Journal

end AetherMesh
