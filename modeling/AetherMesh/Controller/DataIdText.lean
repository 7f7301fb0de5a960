import AetherMesh.Controller.ClientRequests

/-!
Which texts are read as data ids. A sign is taken for a digit, and a text of the right length is
cut without looking where its characters end.
-/

namespace AetherMesh

def isHexDigit (char : Char) : Bool :=
  ('0' ≤ char ∧ char ≤ '9') ∨ ('a' ≤ char ∧ char ≤ 'f') ∨ ('A' ≤ char ∧ char ≤ 'F')

def HexDigits (text : String) : Prop :=
  text.toList.length = dataIdLen * 2 ∧ ∀ char ∈ text.toList, isHexDigit char = true

def lowerCase (text : String) : String := String.ofList (text.toList.map Char.toLower)

structure ReadsDigits (text : String) : Prop where
  returns : DataId.fromStr text ≠ none
  accepted : (∃ id, DataId.fromStr text = some (.ok id)) ↔ HexDigits text
  displayed : ∀ id, DataId.fromStr text = some (.ok id) → id.display = lowerCase text

def Signed (text : String) : Prop :=
  (asBytes text).length = dataIdLen * 2 ∧
    (∀ index < dataIdLen, (hexPair (asBytes text) index).isSome = true) ∧
      ∃ index < dataIdLen, (asBytes text)[index * 2]? = some 43

def lowerDigit (byte : UInt8) : Char := (Char.ofNat byte.toNat).toLower

variable {text : String} {bytes : Bytes} {count index : Nat}

theorem hexDigit_spec {byte : UInt8} {value : Nat} (found : hexDigit byte = some value) :
    value < 16 ∧ Nat.digitChar value = lowerDigit byte ∧ byte.toNat < 128 := by
  have all : ∀ number < 256, (hexDigit (UInt8.ofNat number)).all (fun value =>
      value < 16 ∧ Nat.digitChar value = lowerDigit (UInt8.ofNat number) ∧
        (UInt8.ofNat number).toNat < 128) = true := by decide +kernel
  have here := all byte.toNat byte.toNat_lt
  rw [UInt8.ofNat_toNat, found, Option.all_some] at here
  exact of_decide_eq_true here

theorem isHexDigit_eq : ∀ number < 128,
    isHexDigit (Char.ofNat number) = (hexDigit (UInt8.ofNat number)).isSome := by
  decide +kernel

theorem hexByte_pair {high low : UInt8} {first second : Nat} (one : hexDigit high = some first)
    (two : hexDigit low = some second) :
    hexByte (UInt8.ofNat (first * 16 + second)) = [lowerDigit high, lowerDigit low] := by
  have left := hexDigit_spec one
  have right := hexDigit_spec two
  have value : (UInt8.ofNat (first * 16 + second)).toNat = first * 16 + second := by
    rw [UInt8.toNat_ofNat']
    omega
  rw [hexByte, value, show (first * 16 + second) / 16 = first by omega,
    show (first * 16 + second) % 16 = second by omega, left.2.1, right.2.1]

theorem hexPair_eq (inside : index * 2 + 1 < bytes.length) :
    hexPair bytes index = fromStrRadix [bytes[index * 2], bytes[index * 2 + 1]] := by
  rw [hexPair, List.drop_eq_getElem_cons (by omega), List.drop_eq_getElem_cons (by omega)]
  rfl

theorem fromStrRadix_plain {high low : UInt8} {first second : Nat}
    (one : hexDigit high = some first) (two : hexDigit low = some second) :
    fromStrRadix [high, low] = some (UInt8.ofNat (first * 16 + second)) := by
  unfold fromStrRadix
  split
  · rename_i same
    obtain ⟨rfl, -⟩ := List.cons.inj same
    cases one
  · rename_i other same
    obtain ⟨rfl, tail⟩ := List.cons.inj same
    obtain ⟨rfl, -⟩ := List.cons.inj tail
    rw [one, two]
    rfl
  · rename_i none
    exact absurd rfl (none high low)

theorem hexDigit_of_fromStrRadix {high low : UInt8}
    (parsed : (fromStrRadix [high, low]).isSome = true) :
    (high = 43 ∨ (hexDigit high).isSome = true) ∧ (hexDigit low).isSome = true := by
  unfold fromStrRadix at parsed
  split at parsed
  · rename_i same
    obtain ⟨rfl, tail⟩ := List.cons.inj same
    obtain ⟨rfl, -⟩ := List.cons.inj tail
    exact ⟨.inl rfl, by simpa using parsed⟩
  · rename_i same
    obtain ⟨rfl, tail⟩ := List.cons.inj same
    obtain ⟨rfl, -⟩ := List.cons.inj tail
    cases first : hexDigit high with
    | none => simp [first] at parsed
    | some value => exact ⟨.inr rfl, by simpa [first] using parsed⟩
  · cases parsed

theorem ascii_of_encode {char : Char} (ascii : ∀ byte ∈ String.utf8EncodeChar char, byte.toNat < 128) :
    char.toNat < 128 := by
  have head (value : Nat) (large : 128 ≤ value % 256) (rest : List UInt8)
      (encoded : String.utf8EncodeChar char = UInt8.ofNat value :: rest) : False := by
    have small := ascii (UInt8.ofNat value) (by rw [encoded]; exact List.mem_cons_self)
    rw [UInt8.toNat_ofNat'] at small
    omega
  by_contra wide
  have value : ¬char.val.toNat ≤ 127 := by
    have same : char.toNat = char.val.toNat := rfl
    omega
  simp only [String.utf8EncodeChar, value, if_false] at head
  split at head
  · exact head _ (by omega) _ rfl
  · split at head
    · exact head _ (by omega) _ rfl
    · exact head _ (by omega) _ rfl

theorem encode_of_ascii {char : Char} (ascii : char.toNat < 128) :
    String.utf8EncodeChar char = [UInt8.ofNat char.toNat] := by
  have value : char.val.toNat ≤ 127 := Nat.le_of_lt_succ ascii
  rw [String.utf8EncodeChar, if_pos value]
  rfl

theorem asBytes_of_ascii (ascii : ∀ char ∈ text.toList, char.toNat < 128) :
    asBytes text = text.toList.map fun char => UInt8.ofNat char.toNat := by
  rw [asBytes_eq_flatMap]
  generalize text.toList = chars at ascii
  induction chars with
  | nil => rfl
  | cons first rest ih =>
      obtain ⟨here, later⟩ := List.forall_mem_cons.mp ascii
      rw [List.flatMap_cons, encode_of_ascii here, ih later]
      rfl

theorem ascii_of_asBytes (ascii : ∀ byte ∈ asBytes text, byte.toNat < 128) :
    ∀ char ∈ text.toList, char.toNat < 128 := by
  intro char member
  refine ascii_of_encode fun byte encoded => ascii byte ?_
  rw [asBytes_eq_flatMap]
  exact List.mem_flatMap.mpr ⟨char, member, encoded⟩

theorem parsePairs_ok {parsed : { parsed : Bytes // parsed.length = count }}
    (ended : parsePairs bytes count index = some (.ok parsed)) :
    ∀ offset < count, (hexPair bytes (index + offset)).isSome = true := by
  induction count generalizing index with
  | zero => nofun
  | succ count ih =>
      rw [parsePairs] at ended
      split at ended
      · split at ended
        · cases ended
        · rename_i byte found
          obtain ⟨later, rest, inner⟩ := Option.map_eq_some_iff.mp ended
          cases later with
          | error error => cases inner
          | ok rest' =>
              intro offset bound
              cases offset with
              | zero => simp [found]
              | succ offset =>
                  have next := ih rest offset (Nat.lt_of_succ_lt_succ bound)
                  rwa [Nat.succ_add_eq_add_succ] at next
      · cases ended

theorem parsePairs_error {error : DataIdParseError}
    (ended : parsePairs bytes count index = some (.error error)) :
    ∃ offset < count, hexPair bytes (index + offset) = none := by
  induction count generalizing index error with
  | zero => cases ended
  | succ count ih =>
      rw [parsePairs] at ended
      split at ended
      · split at ended
        · rename_i missing
          exact ⟨0, Nat.succ_pos _, missing⟩
        · obtain ⟨later, rest, inner⟩ := Option.map_eq_some_iff.mp ended
          cases later with
          | error error =>
              obtain ⟨offset, bound, missing⟩ := ih rest
              refine ⟨offset + 1, Nat.succ_lt_succ bound, ?_⟩
              rwa [← Nat.succ_add_eq_add_succ]
          | ok rest' => cases inner
      · cases ended

theorem parsePairs_display {parsed : { parsed : Bytes // parsed.length = count }}
    (plain : ∀ byte ∈ bytes, (hexDigit byte).isSome = true)
    (fits : (index + count) * 2 ≤ bytes.length)
    (ended : parsePairs bytes count index = some (.ok parsed)) :
    parsed.1.flatMap hexByte = ((bytes.drop (index * 2)).take (count * 2)).map lowerDigit := by
  induction count generalizing index with
  | zero => simp [List.eq_nil_of_length_eq_zero parsed.2]
  | succ count ih =>
      have inside : index * 2 + 1 < bytes.length := by omega
      obtain ⟨first, one⟩ := Option.isSome_iff_exists.mp
        (plain bytes[index * 2] (List.getElem_mem (by omega)))
      obtain ⟨second, two⟩ := Option.isSome_iff_exists.mp
        (plain bytes[index * 2 + 1] (List.getElem_mem inside))
      rw [parsePairs, hexPair_eq inside, fromStrRadix_plain one two] at ended
      split at ended
      · obtain ⟨later, rest, inner⟩ := Option.map_eq_some_iff.mp ended
        cases later with
        | error error => cases inner
        | ok tail =>
            obtain rfl := Except.ok.inj inner
            have further := @ih (index + 1) tail (by omega) rest
            rw [List.drop_eq_getElem_cons (by omega), List.drop_eq_getElem_cons (by omega),
              Nat.succ_mul, List.take_succ_cons, List.take_succ_cons, List.map_cons, List.map_cons,
              List.flatMap_cons, hexByte_pair one two, further, Nat.succ_mul]
            rfl
      · cases ended

theorem hexDigits_iff : HexDigits text ↔ (asBytes text).length = dataIdLen * 2 ∧
    ∀ byte ∈ asBytes text, (hexDigit byte).isSome = true := by
  constructor
  · rintro ⟨size, digits⟩
    have ascii : ∀ char ∈ text.toList, char.toNat < 128 := by
      intro char member
      have digit := of_decide_eq_true (digits char member)
      simp only [Char.le_def, UInt32.le_iff_toNat_le] at digit
      have same : char.toNat = char.val.toNat := rfl
      rcases digit with ⟨-, last⟩ | ⟨-, last⟩ | ⟨-, last⟩
      · exact same ▸ last.trans_lt (by decide)
      · exact same ▸ last.trans_lt (by decide)
      · exact same ▸ last.trans_lt (by decide)
    rw [asBytes_of_ascii ascii, List.length_map]
    refine ⟨size, ?_⟩
    intro byte member
    obtain ⟨char, listed, rfl⟩ := List.mem_map.mp member
    rw [← isHexDigit_eq char.toNat (ascii char listed), Char.ofNat_toNat]
    exact digits char listed
  · rintro ⟨size, digits⟩
    have ascii := ascii_of_asBytes fun byte member =>
      (hexDigit_spec (Option.some_get (digits byte member)).symm).2.2
    rw [asBytes_of_ascii ascii] at size digits
    refine ⟨by rwa [List.length_map] at size, ?_⟩
    intro char member
    have digit := digits _ (List.mem_map_of_mem member)
    rwa [← isHexDigit_eq char.toNat (ascii char member), Char.ofNat_toNat] at digit

theorem fromStr_eq_ok {id : DataId} (read : DataId.fromStr text = some (.ok id)) :
    (asBytes text).length = dataIdLen * 2 ∧
      parsePairs (asBytes text) dataIdLen 0 = some (.ok ⟨id.asBytes, id.size⟩) := by
  rw [DataId.fromStr] at read
  split at read
  · cases read
  · rename_i size
    refine ⟨not_not.mp size, ?_⟩
    obtain ⟨ended, parsed, inner⟩ := Option.map_eq_some_iff.mp read
    cases ended with
    | error error => cases inner
    | ok found =>
        obtain rfl := Except.ok.inj inner
        exact parsed

theorem fromStr_none : DataId.fromStr text = none ↔ Straddled text := by
  rw [← parseDataId_panics, Outcome.Panics, parseDataId, ExceptT.run_mk, Option.map_eq_none_iff]

/-- Digits only: no pair starts with a sign, and every character is one byte. -/
theorem HexDigits.apart (digits : HexDigits text) : ¬Straddled text ∧ ¬Signed text := by
  obtain ⟨size, plain⟩ := hexDigits_iff.mp digits
  have digit (index : Nat) (byte : UInt8) (found : (asBytes text)[index]? = some byte) :
      ∃ value, hexDigit byte = some value :=
    Option.isSome_iff_exists.mp (plain byte (List.mem_of_getElem? found))
  constructor
  · rintro ⟨-, index, bound, -, cut⟩
    cases found : (asBytes text)[index * 2 + 2]? with
    | none =>
        have past := List.getElem?_eq_none_iff.mp found
        rw [isCharBoundary, found] at cut
        simp at cut
        omega
    | some byte =>
        obtain ⟨value, read⟩ := digit _ byte found
        have ascii := (hexDigit_spec read).2.2
        have small : byte < 128 := UInt8.lt_iff_toNat_lt.mpr ascii
        rw [isCharBoundary, found] at cut
        simp [small] at cut
  · rintro ⟨-, -, index, bound, plus⟩
    obtain ⟨value, read⟩ := digit _ 43 plus
    cases read

theorem HexDigits.read (digits : HexDigits text) : ∃ id, DataId.fromStr text = some (.ok id) := by
  obtain ⟨size, plain⟩ := hexDigits_iff.mp digits
  cases parsed : parsePairs (asBytes text) dataIdLen 0 with
  | none =>
      have panicked : DataId.fromStr text = none := by
        rw [DataId.fromStr, if_neg (not_not.mpr size), parsed]
        rfl
      exact absurd (fromStr_none.mp panicked) digits.apart.1
  | some ended =>
      cases ended with
      | error error =>
          obtain ⟨offset, bound, missing⟩ := parsePairs_error parsed
          have inside : offset * 2 + 1 < (asBytes text).length := by omega
          obtain ⟨first, one⟩ := Option.isSome_iff_exists.mp
            (plain (asBytes text)[offset * 2] (List.getElem_mem (by omega)))
          obtain ⟨second, two⟩ := Option.isSome_iff_exists.mp
            (plain (asBytes text)[offset * 2 + 1] (List.getElem_mem inside))
          rw [Nat.zero_add, hexPair_eq inside, fromStrRadix_plain one two] at missing
          cases missing
      | ok found =>
          refine ⟨⟨found.1, found.2⟩, ?_⟩
          rw [DataId.fromStr, if_neg (not_not.mpr size), parsed]
          rfl

theorem HexDigits.display (digits : HexDigits text) {id : DataId}
    (read : DataId.fromStr text = some (.ok id)) : id.display = lowerCase text := by
  obtain ⟨size, plain⟩ := hexDigits_iff.mp digits
  obtain ⟨-, parsed⟩ := fromStr_eq_ok read
  have shown := parsePairs_display plain (by omega) parsed
  have ascii := ascii_of_asBytes fun byte member =>
    (hexDigit_spec (Option.some_get (plain byte member)).symm).2.2
  rw [Nat.zero_mul, List.drop_zero, ← size, List.take_length, asBytes_of_ascii ascii,
    List.map_map] at shown
  rw [DataId.display, lowerCase, shown]
  refine congrArg String.ofList (List.map_congr_left fun char member => ?_)
  have value : (UInt8.ofNat char.toNat).toNat = char.toNat := by
    have small := ascii char member
    rw [UInt8.toNat_ofNat']
    omega
  rw [Function.comp_apply, lowerDigit, value, Char.ofNat_toNat]

theorem hexDigits_of_read {id : DataId} (read : DataId.fromStr text = some (.ok id))
    (unsigned : ¬Signed text) : HexDigits text := by
  obtain ⟨size, parsed⟩ := fromStr_eq_ok read
  have pairs : ∀ index < dataIdLen, (hexPair (asBytes text) index).isSome = true := by
    intro index bound
    have pair := parsePairs_ok parsed index bound
    rwa [Nat.zero_add] at pair
  refine hexDigits_iff.mpr ⟨size, ?_⟩
  intro byte member
  obtain ⟨place, inside, rfl⟩ := List.getElem_of_mem member
  have half : place / 2 < dataIdLen := by omega
  have bound : place / 2 * 2 + 1 < (asBytes text).length := by omega
  have pair := pairs (place / 2) half
  rw [hexPair_eq bound] at pair
  obtain ⟨high, low⟩ := hexDigit_of_fromStrRadix pair
  rcases Nat.mod_two_eq_zero_or_one place with even | odd
  · have same : place / 2 * 2 = place := by omega
    simp only [same] at high
    refine high.resolve_left fun plus => unsigned ⟨size, pairs, place / 2, half, ?_⟩
    rw [same, List.getElem?_eq_getElem inside, plus]
  · have same : place / 2 * 2 + 1 = place := by omega
    simpa only [same] using low

theorem hexByte_digits (byte : UInt8) :
    ∀ char ∈ hexByte byte, isHexDigit char = true ∧ char.toLower = char := by
  have digit : ∀ value < 16, isHexDigit (Nat.digitChar value) = true ∧
      (Nat.digitChar value).toLower = Nat.digitChar value := by decide
  have bound := byte.toNat_lt
  intro char member
  rcases List.mem_pair.mp member with rfl | rfl
  · exact digit _ (by omega)
  · exact digit _ (by omega)

theorem DataId.toList_display (id : DataId) : id.display.toList = id.asBytes.flatMap hexByte :=
  String.toList_ofList

theorem DataId.hexDigits_display (id : DataId) :
    HexDigits id.display ∧ lowerCase id.display = id.display := by
  have digits (char : Char) (member : char ∈ id.display.toList) :
      isHexDigit char = true ∧ char.toLower = char := by
    rw [id.toList_display] at member
    obtain ⟨byte, -, shown⟩ := List.mem_flatMap.mp member
    exact hexByte_digits byte char shown
  have length : ∀ bytes : Bytes, (bytes.flatMap hexByte).length = bytes.length * 2 := by
    intro bytes
    induction bytes with
    | nil => rfl
    | cons byte rest ih =>
        rw [List.flatMap_cons, List.length_append, ih, List.length_cons, Nat.succ_mul, Nat.add_comm]
        rfl
  refine ⟨⟨?_, fun char member => (digits char member).1⟩, ?_⟩
  · rw [id.toList_display, length, id.size]
  · rw [lowerCase, List.map_congr_left (fun char member => (digits char member).2), List.map_id',
      String.ofList_toList]

theorem DataId.fromStr_display (id : DataId) : DataId.fromStr id.display = some (.ok id) := by
  obtain ⟨digits, lower⟩ := id.hexDigits_display
  obtain ⟨other, read⟩ := digits.read
  have same : other = id := DataId.display_injective ((digits.display read).trans lower)
  rw [read, same]

theorem Signed.read (signed : Signed text) (returns : DataId.fromStr text ≠ none) :
    ∃ id, DataId.fromStr text = some (.ok id) := by
  obtain ⟨size, pairs, -⟩ := signed
  rw [DataId.fromStr, if_neg (not_not.mpr size)] at returns ⊢
  cases parsed : parsePairs (asBytes text) dataIdLen 0 with
  | none =>
      rw [parsed] at returns
      exact absurd rfl returns
  | some ended =>
      cases ended with
      | error error =>
          obtain ⟨offset, bound, missing⟩ := parsePairs_error parsed
          have pair := pairs offset bound
          rw [Nat.zero_add] at missing
          rw [missing] at pair
          cases pair
      | ok found => exact ⟨⟨found.1, found.2⟩, rfl⟩

/-- A text is read as it should be unless a sign is taken for a digit or a character is cut. -/
theorem data_ids_read_iff (id : DataId) (text : String) :
    DataId.fromStr id.display = some (.ok id) ∧
      (ReadsDigits text ↔ ¬Straddled text ∧ ¬Signed text) := by
  refine ⟨id.fromStr_display, ?_, ?_⟩
  · rintro ⟨returns, accepted, -⟩
    refine ⟨fun straddled => returns (fromStr_none.mpr straddled), ?_⟩
    intro signed
    have digits := accepted.mp (signed.read returns)
    exact digits.apart.2 signed
  · rintro ⟨whole, unsigned⟩
    refine ⟨fun panicked => whole (fromStr_none.mp panicked), ?_, ?_⟩
    · exact ⟨fun ⟨_, read⟩ => hexDigits_of_read read unsigned, HexDigits.read⟩
    · exact fun id read => (hexDigits_of_read read unsigned).display read

def signedText : String := String.ofList ("+f".toList ++ List.replicate 62 '0')

def cutText : String := String.ofList ("0€".toList ++ List.replicate 60 '0')

theorem sign_is_read_and_cut_panics :
    (∃ id, DataId.fromStr signedText = some (.ok id)) ∧ ¬HexDigits signedText ∧
      ¬ReadsDigits signedText ∧ (asBytes cutText).length = 64 ∧
      DataId.fromStr cutText = none ∧ ¬ReadsDigits cutText := by
  have read : ((DataId.fromStr signedText).bind fun parsed => parsed.toOption).isSome = true := by
    decide +kernel
  obtain ⟨id, found⟩ := Option.isSome_iff_exists.mp read
  obtain ⟨parsed, ended, ok⟩ := Option.bind_eq_some_iff.mp found
  have accepted : ∃ id, DataId.fromStr signedText = some (.ok id) := by
    cases parsed with
    | error error => cases ok
    | ok id => exact ⟨id, ended⟩
  have signs : ¬HexDigits signedText := by
    rintro ⟨-, digits⟩
    exact absurd (digits '+' (by decide +kernel)) (by decide)
  have panicked : DataId.fromStr cutText = none := by decide +kernel
  exact ⟨accepted, signs, fun reads => signs (reads.accepted.mp accepted), by decide +kernel,
    panicked, fun reads => reads.returns panicked⟩

end AetherMesh
