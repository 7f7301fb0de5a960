import Mathlib.Data.List.Basic

/-!
The JSON of the Java client: a writer and a parser for the frames of the protocol. Text is a
sequence of UTF-16 code units, surrogates alone included. How doubles are written and read is a
parameter.
-/

namespace AetherMesh.Json

abbrev JavaString := List UInt16

def unit (character : Char) : UInt16 := character.val.toUInt16

def units (text : String) : JavaString := text.toList.map unit

/-- The entries of a map are in the order of iteration. -/
inductive Value (Double : Type)
  | null
  | text (units : JavaString)
  | boolean (value : Bool)
  | number (value : Double)
  | list (items : List (Value Double))
  | map (entries : List (JavaString × Value Double))

inductive Failure
  | illegalArgument (message : JavaString)
  | numberFormat
  | indexOutOfBounds
  /-- The bound on the steps is reached; this is no behaviour of the code. -/
  | unfinished
deriving DecidableEq

structure Doubles (Double : Type) where
  toText : Double → JavaString
  valueOf : JavaString → Option Double

section

def hexDigit (value : Nat) : UInt16 := .ofNat (if value < 10 then 48 + value else 87 + value)

def hex4 (character : UInt16) : JavaString :=
  [hexDigit (character.toNat / 4096), hexDigit (character.toNat / 256 % 16),
    hexDigit (character.toNat / 16 % 16), hexDigit (character.toNat % 16)]

def escaped (character : UInt16) : JavaString :=
  if character = unit '"' then [unit '\\', unit '"']
  else if character = unit '\\' then [unit '\\', unit '\\']
  else if character = unit '\n' then [unit '\\', unit 'n']
  else if character = unit '\r' then [unit '\\', unit 'r']
  else if character = unit '\t' then [unit '\\', unit 't']
  else if character < 0x20 then unit '\\' :: unit 'u' :: hex4 character
  else [character]

def writeString (text : JavaString) : JavaString :=
  unit '"' :: text.flatMap escaped ++ [unit '"']

variable {Double : Type} (doubles : Doubles Double)

mutual

def writeValue : Value Double → JavaString
  | .null => [unit 'n', unit 'u', unit 'l', unit 'l']
  | .text text => writeString text
  | .boolean true => [unit 't', unit 'r', unit 'u', unit 'e']
  | .boolean false => [unit 'f', unit 'a', unit 'l', unit 's', unit 'e']
  | .number value => doubles.toText value
  | .map entries => unit '{' :: writeEntries true entries ++ [unit '}']
  | .list items => unit '[' :: writeItems true items ++ [unit ']']

def writeEntries (first : Bool) : List (JavaString × Value Double) → JavaString
  | [] => []
  | (key, value) :: rest =>
      (if first then [] else [unit ',']) ++ writeString key ++ unit ':' :: writeValue value ++
        writeEntries false rest

def writeItems (first : Bool) : List (Value Double) → JavaString
  | [] => []
  | value :: rest =>
      (if first then [] else [unit ',']) ++ writeValue value ++ writeItems false rest

end

def write (entries : List (JavaString × Value Double)) : JavaString :=
  writeValue doubles (.map entries)

end

/-- `Character.isWhitespace`: spaces and separators that may break, and some control characters. -/
def isWhitespace (character : UInt16) : Bool :=
  9 ≤ character ∧ character ≤ 13 ∨ 28 ≤ character ∧ character ≤ 32 ∨ character = 0x1680 ∨
    0x2000 ≤ character ∧ character ≤ 0x200a ∧ character ≠ 0x2007 ∨ character = 0x2028 ∨
    character = 0x2029 ∨ character = 0x205f ∨ character = 0x3000

def zeros : List Nat :=
  [0x30, 0x660, 0x6f0, 0x7c0, 0x966, 0x9e6, 0xa66, 0xae6, 0xb66, 0xbe6, 0xc66, 0xce6, 0xd66, 0xde6,
    0xe50, 0xed0, 0xf20, 0x1040, 0x1090, 0x17e0, 0x1810, 0x1946, 0x19d0, 0x1a80, 0x1a90, 0x1b50,
    0x1bb0, 0x1c40, 0x1c50, 0xa620, 0xa8d0, 0xa900, 0xa9d0, 0xa9f0, 0xaa50, 0xabf0, 0xff10]

/-- `Character.digit` with radix 16: digits of any script, letters of the Latin one and wide ones. -/
def digitOf (character : UInt16) : Option Nat :=
  let value := character.toNat
  match zeros.find? fun first => first ≤ value ∧ value < first + 10 with
  | some first => some (value - first)
  | none =>
      if 0x61 ≤ value ∧ value ≤ 0x66 then some (value - 0x61 + 10)
      else if 0x41 ≤ value ∧ value ≤ 0x46 then some (value - 0x41 + 10)
      else if 0xff41 ≤ value ∧ value ≤ 0xff46 then some (value - 0xff41 + 10)
      else if 0xff21 ≤ value ∧ value ≤ 0xff26 then some (value - 0xff21 + 10)
      else none

def parseDigits (digits : JavaString) : Option Nat :=
  digits.foldlM (fun value digit => (digitOf digit).map fun more => 16 * value + more) 0

/-- `Integer.parseInt` with radix 16, cast to a code unit. There may be a sign before the digits. -/
def parseHex (digits : JavaString) : Option UInt16 :=
  match digits with
  | [] => none
  | sign :: rest =>
      if sign = unit '-' then
        if rest = [] then none else (parseDigits rest).map fun value => 0 - .ofNat value
      else if sign = unit '+' then
        if rest = [] then none else (parseDigits rest).map fun value => .ofNat value
      else (parseDigits digits).map fun value => .ofNat value

/-- The place in the text, which the source calls `at`, and what is left of it from there. -/
structure Parser where
  position : Nat
  rest : JavaString
deriving DecidableEq

namespace Parser

def advance (parser : Parser) (count : Nat) : Parser :=
  ⟨parser.position + count, parser.rest.drop count⟩

def atEnd (parser : Parser) : Bool := parser.rest.isEmpty

def skipWhitespace (parser : Parser) : Parser :=
  parser.advance (parser.rest.takeWhile isWhitespace).length

def failure {α : Type} (message : String) : Except Failure α :=
  .error (.illegalArgument (units message))

def failureAt {α : Type} (message : JavaString) (position : Nat) : Except Failure α :=
  .error (.illegalArgument (message ++ units " at " ++ units (toString position)))

def peek (parser : Parser) : Except Failure UInt16 :=
  match parser.rest with
  | [] => failure "unexpected end of JSON"
  | next :: _ => .ok next

def expect (character : UInt16) (parser : Parser) : Except Failure Parser := do
  let next ← parser.peek
  if next = character then .ok (parser.advance 1)
  else failureAt (units "expected " ++ [character]) parser.position

def unescape (escape : UInt16) : Option UInt16 :=
  if escape = unit '"' ∨ escape = unit '\\' ∨ escape = unit '/' then some escape
  else if escape = unit 'b' then some 8
  else if escape = unit 'f' then some 12
  else if escape = unit 'n' then some 10
  else if escape = unit 'r' then some 13
  else if escape = unit 't' then some 9
  else none

def stringLoop (position : Nat) (out : JavaString) :
    JavaString → Except Failure (JavaString × Parser)
  | [] => failure "unterminated string"
  | character :: rest =>
      if character = unit '"' then .ok (out, ⟨position + 1, rest⟩)
      else if character ≠ unit '\\' then stringLoop (position + 1) (out ++ [character]) rest
      else
        match rest with
        | [] => .error .indexOutOfBounds
        | escape :: rest =>
            match unescape escape with
            | some character => stringLoop (position + 2) (out ++ [character]) rest
            | none =>
                if escape = unit 'u' then
                  match rest with
                  | first :: second :: third :: fourth :: rest =>
                      match parseHex [first, second, third, fourth] with
                      | some character => stringLoop (position + 6) (out ++ [character]) rest
                      | none => .error .numberFormat
                  | _ => .error .indexOutOfBounds
                else .error (.illegalArgument (units "bad escape \\" ++ [escape]))

def string (parser : Parser) : Except Failure (JavaString × Parser) := do
  let parser ← parser.expect (unit '"')
  stringLoop parser.position [] parser.rest

section

variable {Double : Type} (doubles : Doubles Double)

def literal (word : JavaString) (value : Value Double) (parser : Parser) :
    Except Failure (Value Double × Parser) :=
  if word.isPrefixOf parser.rest then .ok (value, parser.advance word.length)
  else failureAt (units "expected " ++ word) parser.position

def number (parser : Parser) : Except Failure (Value Double × Parser) :=
  let digits := parser.rest.takeWhile fun character => character ∈ units "-+.eE0123456789"
  if digits = [] then failureAt (units "expected a value") parser.position
  else
    match doubles.valueOf digits with
    | some value => .ok (.number value, parser.advance digits.length)
    | none => .error .numberFormat

/-- The entry of a key that is there already keeps its place. -/
def put (entries : List (JavaString × Value Double)) (key : JavaString) (value : Value Double) :
    List (JavaString × Value Double) :=
  if key ∈ entries.map Prod.fst then
    entries.map fun entry => if entry.1 = key then (key, value) else entry
  else entries ++ [(key, value)]

mutual

def value (bound : Nat) (parser : Parser) : Except Failure (Value Double × Parser) :=
  match bound with
  | 0 => .error .unfinished
  | bound + 1 =>
      let parser := parser.skipWhitespace
      match parser.rest with
      | [] => failure "unexpected end of JSON"
      | next :: _ =>
          if next = unit '{' then object bound parser
          else if next = unit '[' then array bound parser
          else if next = unit '"' then
            parser.string.map fun (text, parser) => (.text text, parser)
          else if next = unit 't' then
            parser.literal [unit 't', unit 'r', unit 'u', unit 'e'] (.boolean true)
          else if next = unit 'f' then
            parser.literal [unit 'f', unit 'a', unit 'l', unit 's', unit 'e'] (.boolean false)
          else if next = unit 'n' then
            parser.literal [unit 'n', unit 'u', unit 'l', unit 'l'] .null
          else parser.number doubles

def object (bound : Nat) (parser : Parser) : Except Failure (Value Double × Parser) :=
  match bound with
  | 0 => .error .unfinished
  | bound + 1 => do
      let parser ← parser.expect (unit '{')
      let parser := parser.skipWhitespace
      let next ← parser.peek
      if next = unit '}' then .ok (.map [], parser.advance 1)
      else objectLoop bound [] parser

def objectLoop (bound : Nat) (result : List (JavaString × Value Double)) (parser : Parser) :
    Except Failure (Value Double × Parser) :=
  match bound with
  | 0 => .error .unfinished
  | bound + 1 => do
      let parser := parser.skipWhitespace
      let (key, parser) ← parser.string
      let parser := parser.skipWhitespace
      let parser ← parser.expect (unit ':')
      let (read, parser) ← value bound parser
      let result := put result key read
      let parser := parser.skipWhitespace
      let next ← parser.peek
      let parser := parser.advance 1
      if next = unit '}' then .ok (.map result, parser)
      else if next = unit ',' then objectLoop bound result parser
      else failureAt (units "expected , or \x7d in object") parser.position

def array (bound : Nat) (parser : Parser) : Except Failure (Value Double × Parser) :=
  match bound with
  | 0 => .error .unfinished
  | bound + 1 => do
      let parser ← parser.expect (unit '[')
      let parser := parser.skipWhitespace
      let next ← parser.peek
      if next = unit ']' then .ok (.list [], parser.advance 1)
      else arrayLoop bound [] parser

def arrayLoop (bound : Nat) (result : List (Value Double)) (parser : Parser) :
    Except Failure (Value Double × Parser) :=
  match bound with
  | 0 => .error .unfinished
  | bound + 1 => do
      let (read, parser) ← value bound parser
      let result := result ++ [read]
      let parser := parser.skipWhitespace
      let next ← parser.peek
      let parser := parser.advance 1
      if next = unit ']' then .ok (.list result, parser)
      else if next = unit ',' then arrayLoop bound result parser
      else failureAt (units "expected , or ] in array") parser.position

end

end

end Parser

def parseObject {Double : Type} (doubles : Doubles Double) (bound : Nat) (text : JavaString) :
    Except Failure (List (JavaString × Value Double)) := do
  let parser := Parser.skipWhitespace ⟨0, text⟩
  let (read, parser) ← parser.value doubles bound
  let parser := parser.skipWhitespace
  if parser.atEnd then
    match read with
    | .map entries => .ok entries
    | _ => Parser.failure "expected a JSON object"
  else Parser.failure "trailing text after the JSON value"

section

variable {Double : Type} {doubles : Doubles Double}

mutual

/-- Without numbers, and with different keys in every map. -/
def Plain : Value Double → Prop
  | .null | .text _ | .boolean _ => True
  | .number _ => False
  | .list items => PlainItems items
  | .map entries => (entries.map Prod.fst).Nodup ∧ PlainEntries entries

def PlainEntries : List (JavaString × Value Double) → Prop
  | [] => True
  | (_, value) :: rest => Plain value ∧ PlainEntries rest

def PlainItems : List (Value Double) → Prop
  | [] => True
  | value :: rest => Plain value ∧ PlainItems rest

end

end

/-- Whatever stands behind the text, it is read as the result up to there. -/
def Reads {α : Type} (read : Parser → Except Failure (α × Parser)) (text : JavaString)
    (result : α) : Prop :=
  ∀ position tail, read ⟨position, text ++ tail⟩ = .ok (result, ⟨position + text.length, tail⟩)

namespace Parser

variable {position : Nat} {rest tail out text : JavaString} {next character : UInt16}

theorem skipWhitespace_cons (solid : isWhitespace next = false) :
    skipWhitespace ⟨position, next :: rest⟩ = ⟨position, next :: rest⟩ := by
  rw [skipWhitespace, List.takeWhile_cons_of_neg (by simp [solid])]
  rfl

theorem expect_cons : expect next ⟨position, next :: rest⟩ = .ok ⟨position + 1, rest⟩ := by
  simp only [expect, peek, bind, Except.bind, if_true]
  rfl

theorem peek_cons : peek ⟨position, next :: rest⟩ = .ok next := rfl

theorem advance_cons : advance ⟨position, next :: rest⟩ 1 = ⟨position + 1, rest⟩ := rfl

theorem parseHex_control (control : character < 0x20) :
    parseHex (hex4 character) = some character := by
  have all : ∀ value < 32, parseHex (hex4 (.ofNat value)) = some (.ofNat value) := by decide
  have read := all character.toNat (UInt16.lt_iff_toNat_lt.mp control)
  rwa [UInt16.ofNat_toNat] at read

theorem stringLoop_quote :
    stringLoop position out (unit '"' :: rest) = .ok (out, ⟨position + 1, rest⟩) := by
  rw [stringLoop.eq_def]
  exact if_pos rfl

theorem stringLoop_plain (quote : character ≠ unit '"') (backslash : character ≠ unit '\\') :
    stringLoop position out (character :: rest) =
      stringLoop (position + 1) (out ++ [character]) rest := by
  rw [stringLoop.eq_def]
  simp only [if_neg quote, if_pos backslash]

theorem stringLoop_escaped : stringLoop position out (escaped character ++ rest) =
    stringLoop (position + (escaped character).length) (out ++ [character]) rest := by
  unfold escaped
  split
  · rename_i same
    rw [same]
    rfl
  split
  · rename_i same
    rw [same]
    rfl
  split
  · rename_i same
    rw [same]
    rfl
  split
  · rename_i same
    rw [same]
    rfl
  split
  · rename_i same
    rw [same]
    rfl
  split
  · rename_i control
    have read := parseHex_control control
    rw [hex4] at read
    simp only [hex4, List.cons_append, List.nil_append, stringLoop, read]
    rfl
  · rename_i quote backslash _ _ _ _
    exact stringLoop_plain quote backslash

theorem stringLoop_read : stringLoop position out (text.flatMap escaped ++ unit '"' :: tail) =
    .ok (out ++ text, ⟨position + (text.flatMap escaped).length + 1, tail⟩) := by
  induction text generalizing position out with
  | nil =>
      rw [List.flatMap_nil, List.nil_append, stringLoop_quote, List.append_nil]
      rfl
  | cons character text ih =>
      rw [List.flatMap_cons, List.append_assoc, stringLoop_escaped, ih, List.length_append,
        Nat.add_assoc position, List.append_assoc, List.singleton_append]

theorem string_reads (text : JavaString) : Reads string (writeString text) text := by
  intro position tail
  have length : (writeString text).length = 1 + (text.flatMap escaped).length + 1 := by
    simp only [writeString, List.length_append, List.length_cons, List.length_nil]
    omega
  have shape : writeString text ++ tail =
      unit '"' :: (text.flatMap escaped ++ unit '"' :: tail) := by
    simp only [writeString, List.cons_append, List.append_assoc, List.nil_append]
  rw [length, shape, string, expect_cons]
  simp only [bind, Except.bind]
  rw [stringLoop_read, List.nil_append, ← Nat.add_assoc, ← Nat.add_assoc]

section

variable {Double : Type} {doubles : Doubles Double} {bound : Nat} {read : Value Double}
  {key : JavaString} {entries result : List (JavaString × Value Double)}
  {items values : List (Value Double)}

theorem literal_reads (word : JavaString) (read : Value Double) :
    Reads (literal word read) word read := by
  intro position tail
  have there : word.isPrefixOf (word ++ tail) = true := by simp
  simp only [literal, there, if_true, advance, List.drop_left]

theorem value_eq (solid : isWhitespace next = false) :
    value doubles (bound + 1) ⟨position, next :: rest⟩ =
      if next = unit '{' then object doubles bound ⟨position, next :: rest⟩
      else if next = unit '[' then array doubles bound ⟨position, next :: rest⟩
      else if next = unit '"' then
        (string ⟨position, next :: rest⟩).map fun (text, parser) => (.text text, parser)
      else if next = unit 't' then
        literal [unit 't', unit 'r', unit 'u', unit 'e'] (.boolean true) ⟨position, next :: rest⟩
      else if next = unit 'f' then
        literal [unit 'f', unit 'a', unit 'l', unit 's', unit 'e'] (.boolean false)
          ⟨position, next :: rest⟩
      else if next = unit 'n' then
        literal [unit 'n', unit 'u', unit 'l', unit 'l'] .null ⟨position, next :: rest⟩
      else number doubles ⟨position, next :: rest⟩ := by
  rw [value.eq_def]
  simp only [skipWhitespace_cons solid]

theorem put_fresh (fresh : key ∉ entries.map Prod.fst) :
    put entries key read = entries ++ [(key, read)] :=
  if_neg fresh

theorem objectLoop_turn (reads : Reads (value doubles bound) text read)
    (fresh : key ∉ result.map Prod.fst) (solid : isWhitespace next = false) :
    objectLoop doubles (bound + 1) result
        ⟨position, writeString key ++ unit ':' :: text ++ next :: rest⟩ =
      if next = unit '}' then
        .ok (.map (result ++ [(key, read)]),
          ⟨position + (writeString key).length + text.length + 2, rest⟩)
      else if next = unit ',' then
        objectLoop doubles bound (result ++ [(key, read)])
          ⟨position + (writeString key).length + text.length + 2, rest⟩
      else
        failureAt (units "expected , or \x7d in object")
          (position + (writeString key).length + text.length + 2) := by
  have quoted : skipWhitespace ⟨position, writeString key ++ (unit ':' :: (text ++ next :: rest))⟩ =
      ⟨position, writeString key ++ (unit ':' :: (text ++ next :: rest))⟩ :=
    skipWhitespace_cons (by decide)
  have colon : skipWhitespace ⟨position + (writeString key).length,
      unit ':' :: (text ++ next :: rest)⟩ =
        ⟨position + (writeString key).length, unit ':' :: (text ++ next :: rest)⟩ :=
    skipWhitespace_cons (by decide)
  have place : position + (writeString key).length + 1 + text.length + 1 =
      position + (writeString key).length + text.length + 2 := by
    omega
  rw [objectLoop.eq_def, List.append_assoc, List.cons_append]
  simp only [quoted, string_reads key position, colon, expect_cons, reads (_ + 1), bind,
    Except.bind, skipWhitespace_cons solid, peek_cons, advance_cons, put_fresh fresh, place]

theorem arrayLoop_turn (reads : Reads (value doubles bound) text read)
    (solid : isWhitespace next = false) :
    arrayLoop doubles (bound + 1) values ⟨position, text ++ next :: rest⟩ =
      if next = unit ']' then
        .ok (.list (values ++ [read]), ⟨position + text.length + 1, rest⟩)
      else if next = unit ',' then
        arrayLoop doubles bound (values ++ [read]) ⟨position + text.length + 1, rest⟩
      else failureAt (units "expected , or ] in array") (position + text.length + 1) := by
  rw [arrayLoop.eq_def]
  simp only [reads position, bind, Except.bind, skipWhitespace_cons solid, peek_cons, advance_cons]

theorem writeEntries_later {entry : JavaString × Value Double} :
    writeEntries doubles false (entry :: entries) =
      unit ',' :: writeEntries doubles true (entry :: entries) :=
  rfl

theorem writeItems_later {item : Value Double} :
    writeItems doubles false (item :: items) =
      unit ',' :: writeItems doubles true (item :: items) :=
  rfl

theorem null_reads :
    Reads (value doubles (bound + 1)) [unit 'n', unit 'u', unit 'l', unit 'l'] .null := by
  intro position tail
  rw [List.cons_append, value_eq (by decide), if_neg (by decide), if_neg (by decide),
    if_neg (by decide), if_neg (by decide), if_neg (by decide), if_pos rfl]
  exact literal_reads _ _ position tail

theorem boolean_reads (flag : Bool) :
    Reads (value doubles (bound + 1)) (writeValue doubles (.boolean flag)) (.boolean flag) := by
  intro position tail
  cases flag with
  | false =>
      rw [writeValue, List.cons_append, value_eq (by decide), if_neg (by decide),
        if_neg (by decide), if_neg (by decide), if_neg (by decide), if_pos rfl]
      exact literal_reads _ _ position tail
  | true =>
      rw [writeValue, List.cons_append, value_eq (by decide), if_neg (by decide),
        if_neg (by decide), if_neg (by decide), if_pos rfl]
      exact literal_reads _ _ position tail

theorem text_reads (text : JavaString) :
    Reads (value doubles (bound + 1)) (writeString text) (.text text) := by
  intro position tail
  have read := string_reads text position tail
  rw [writeString, List.cons_append, List.cons_append] at read ⊢
  rw [value_eq (by decide), if_neg (by decide), if_neg (by decide), if_pos rfl, read]
  rfl

theorem object_reads (reads : Reads (objectLoop doubles bound []) (unit '"' :: text) read) :
    Reads (value doubles (bound + 2)) (unit '{' :: unit '"' :: text) read := by
  intro position tail
  have inner := reads (position + 1) tail
  have quote : skipWhitespace ⟨position + 1, unit '"' :: (text ++ tail)⟩ =
      ⟨position + 1, unit '"' :: (text ++ tail)⟩ :=
    skipWhitespace_cons (by decide)
  rw [List.cons_append] at inner
  rw [List.cons_append, List.cons_append, value_eq (by decide), if_pos rfl, object.eq_def]
  simp only [expect_cons, bind, Except.bind, quote, peek_cons,
    if_neg (by decide : unit '"' ≠ unit '}'), inner, List.length_cons]
  rw [Nat.add_assoc position 1, Nat.add_comm 1]

theorem empty_object_reads :
    Reads (value doubles (bound + 2)) [unit '{', unit '}'] (.map []) := by
  intro position tail
  have closing : skipWhitespace ⟨position + 1, unit '}' :: tail⟩ =
      ⟨position + 1, unit '}' :: tail⟩ :=
    skipWhitespace_cons (by decide)
  rw [List.cons_append, List.cons_append, value_eq (by decide), if_pos rfl, object.eq_def,
    List.nil_append]
  simp only [expect_cons, bind, Except.bind, closing, peek_cons, if_true, advance_cons]
  rfl

/-- An array with items is read by the loop over them, if the first of them starts as a value. -/
theorem array_reads (reads : Reads (arrayLoop doubles bound []) (next :: text) read)
    (solid : isWhitespace next = false) (other : next ≠ unit ']') :
    Reads (value doubles (bound + 2)) (unit '[' :: next :: text) read := by
  intro position tail
  have inner := reads (position + 1) tail
  rw [List.cons_append] at inner
  rw [List.cons_append, List.cons_append, value_eq (by decide), if_neg (by decide), if_pos rfl,
    array.eq_def]
  simp only [expect_cons, bind, Except.bind, skipWhitespace_cons solid, peek_cons, if_neg other,
    inner, List.length_cons]
  rw [Nat.add_assoc position 1, Nat.add_comm 1]

theorem empty_array_reads :
    Reads (value doubles (bound + 2)) [unit '[', unit ']'] (.list []) := by
  intro position tail
  have closing : skipWhitespace ⟨position + 1, unit ']' :: tail⟩ =
      ⟨position + 1, unit ']' :: tail⟩ :=
    skipWhitespace_cons (by decide)
  rw [List.cons_append, List.cons_append, value_eq (by decide), if_neg (by decide), if_pos rfl,
    array.eq_def, List.nil_append]
  simp only [expect_cons, bind, Except.bind, closing, peek_cons, if_true, advance_cons]
  rfl

/-- What is written for a value starts with something solid that closes no array. -/
theorem exists_writeValue {written : Value Double} (plain : Plain written) :
    ∃ next text, writeValue doubles written = next :: text ∧ isWhitespace next = false ∧
      next ≠ unit ']' := by
  cases written with
  | null => exact ⟨_, _, rfl, by decide, by decide⟩
  | text text => exact ⟨_, _, rfl, by decide, by decide⟩
  | boolean flag =>
      cases flag with
      | false => exact ⟨_, _, rfl, by decide, by decide⟩
      | true => exact ⟨_, _, rfl, by decide, by decide⟩
  | number value => exact plain.elim
  | list items => exact ⟨_, _, rfl, by decide, by decide⟩
  | map entries => exact ⟨_, _, rfl, by decide, by decide⟩

theorem last_entry_reads {written : Value Double}
    (reads : Reads (value doubles bound) (writeValue doubles written) written)
    (fresh : key ∉ entries.map Prod.fst) :
    Reads (objectLoop doubles (bound + 1) entries)
      (writeEntries doubles true [(key, written)] ++ [unit '}'])
      (.map (entries ++ [(key, written)])) := by
  intro position tail
  have shape : writeEntries doubles true [(key, written)] ++ [unit '}'] ++ tail =
      writeString key ++ unit ':' :: writeValue doubles written ++ unit '}' :: tail := by
    simp [writeEntries]
  have length : (writeEntries doubles true [(key, written)] ++ [unit '}']).length =
      (writeString key).length + (writeValue doubles written).length + 2 := by
    simp only [writeEntries, List.length_append, List.length_cons, List.length_nil, if_true]
    omega
  rw [shape, length, objectLoop_turn reads fresh (by decide), if_pos rfl]
  simp only [Nat.add_assoc]

theorem more_entries_read {written : Value Double} {entry : JavaString × Value Double}
    (reads : Reads (value doubles bound) (writeValue doubles written) written)
    (fresh : key ∉ entries.map Prod.fst)
    (later : Reads (objectLoop doubles bound (entries ++ [(key, written)]))
      (writeEntries doubles true (entry :: result) ++ [unit '}']) read) :
    Reads (objectLoop doubles (bound + 1) entries)
      (writeEntries doubles true ((key, written) :: entry :: result) ++ [unit '}']) read := by
  intro position tail
  have shape : writeEntries doubles true ((key, written) :: entry :: result) ++ [unit '}'] ++ tail =
      writeString key ++ unit ':' :: writeValue doubles written ++
        unit ',' :: (writeEntries doubles true (entry :: result) ++ [unit '}'] ++ tail) := by
    rw [writeEntries, writeEntries_later]
    simp
  have length : (writeEntries doubles true ((key, written) :: entry :: result) ++ [unit '}']).length =
      (writeString key).length + (writeValue doubles written).length + 2 +
        (writeEntries doubles true (entry :: result) ++ [unit '}']).length := by
    rw [writeEntries, writeEntries_later]
    simp only [List.length_append, List.length_cons, List.length_nil, if_true]
    omega
  rw [shape, length, objectLoop_turn reads fresh (by decide), if_neg (by decide), if_pos rfl, later]
  simp only [Nat.add_assoc]

theorem last_item_reads {written : Value Double}
    (reads : Reads (value doubles bound) (writeValue doubles written) written) :
    Reads (arrayLoop doubles (bound + 1) items)
      (writeItems doubles true [written] ++ [unit ']']) (.list (items ++ [written])) := by
  intro position tail
  have shape : writeItems doubles true [written] ++ [unit ']'] ++ tail =
      writeValue doubles written ++ unit ']' :: tail := by
    simp [writeItems]
  have length : (writeItems doubles true [written] ++ [unit ']']).length =
      (writeValue doubles written).length + 1 := by
    simp [writeItems]
  rw [shape, length, arrayLoop_turn reads (by decide), if_pos rfl, Nat.add_assoc]

theorem more_items_read {written item : Value Double}
    (reads : Reads (value doubles bound) (writeValue doubles written) written)
    (later : Reads (arrayLoop doubles bound (items ++ [written]))
      (writeItems doubles true (item :: values) ++ [unit ']']) read) :
    Reads (arrayLoop doubles (bound + 1) items)
      (writeItems doubles true (written :: item :: values) ++ [unit ']']) read := by
  intro position tail
  have shape : writeItems doubles true (written :: item :: values) ++ [unit ']'] ++ tail =
      writeValue doubles written ++
        unit ',' :: (writeItems doubles true (item :: values) ++ [unit ']'] ++ tail) := by
    rw [writeItems, writeItems_later]
    simp
  have length : (writeItems doubles true (written :: item :: values) ++ [unit ']']).length =
      (writeValue doubles written).length + 1 +
        (writeItems doubles true (item :: values) ++ [unit ']']).length := by
    rw [writeItems, writeItems_later]
    simp only [List.length_append, List.length_cons, List.length_nil, if_true]
    omega
  rw [shape, length, arrayLoop_turn reads (by decide), if_neg (by decide), if_pos rfl, later]
  simp only [Nat.add_assoc]

theorem fresh_key {later : List (JavaString × Value Double)}
    (distinct : ((entries ++ (key, read) :: later).map Prod.fst).Nodup) :
    key ∉ entries.map Prod.fst := by
  rw [List.map_append, List.map_cons] at distinct
  exact fun earlier => (List.nodup_append.mp distinct).2.2 key earlier key List.mem_cons_self rfl

mutual

theorem value_reads : ∀ written : Value Double, Plain written → ∃ enough, ∀ bound,
    enough ≤ bound → Reads (value doubles bound) (writeValue doubles written) written
  | .null, _ => by
      refine ⟨1, fun bound large => ?_⟩
      obtain ⟨bound, rfl⟩ := Nat.exists_eq_add_of_le' large
      exact null_reads
  | .boolean flag, _ => by
      refine ⟨1, fun bound large => ?_⟩
      obtain ⟨bound, rfl⟩ := Nat.exists_eq_add_of_le' large
      exact boolean_reads flag
  | .text text, _ => by
      refine ⟨1, fun bound large => ?_⟩
      obtain ⟨bound, rfl⟩ := Nat.exists_eq_add_of_le' large
      exact text_reads text
  | .number _, plain => plain.elim
  | .map [], _ => by
      refine ⟨2, fun bound large => ?_⟩
      obtain ⟨bound, rfl⟩ := Nat.exists_eq_add_of_le' large
      exact empty_object_reads
  | .map ((key, first) :: rest), plain => by
      obtain ⟨enough, reads⟩ := entries_read key first rest plain.2
      refine ⟨enough + 2, fun bound large => ?_⟩
      obtain ⟨bound, rfl⟩ := Nat.exists_eq_add_of_le' (Nat.le_of_add_left_le large)
      exact object_reads (reads bound (by omega) [] plain.1)
  | .list [], _ => by
      refine ⟨2, fun bound large => ?_⟩
      obtain ⟨bound, rfl⟩ := Nat.exists_eq_add_of_le' large
      exact empty_array_reads
  | .list (first :: rest), plain => by
      obtain ⟨enough, reads⟩ := items_read first rest plain
      refine ⟨enough + 2, fun bound large => ?_⟩
      obtain ⟨bound, rfl⟩ := Nat.exists_eq_add_of_le' (Nat.le_of_add_left_le large)
      obtain ⟨next, text, starts, solid, other⟩ := @exists_writeValue _ doubles first plain.1
      have inner := reads bound (by omega) []
      have shape : writeItems doubles true (first :: rest) ++ [unit ']'] =
          next :: (text ++ writeItems doubles false rest ++ [unit ']']) := by
        simp [writeItems, starts]
      have whole : writeValue doubles (.list (first :: rest)) =
          unit '[' :: next :: (text ++ writeItems doubles false rest ++ [unit ']']) := by
        rw [writeValue, List.cons_append, shape]
      rw [shape] at inner
      rw [whole]
      exact array_reads inner solid other
termination_by written => sizeOf written

theorem entries_read : ∀ (key : JavaString) (first : Value Double)
    (rest : List (JavaString × Value Double)), PlainEntries ((key, first) :: rest) →
    ∃ enough, ∀ bound, enough ≤ bound → ∀ before,
      ((before ++ (key, first) :: rest).map Prod.fst).Nodup →
      Reads (objectLoop doubles bound before)
        (writeEntries doubles true ((key, first) :: rest) ++ [unit '}'])
        (.map (before ++ (key, first) :: rest))
  | key, first, [], plain => by
      obtain ⟨enough, reads⟩ := value_reads first plain.1
      refine ⟨enough + 1, fun bound large before distinct => ?_⟩
      obtain ⟨bound, rfl⟩ := Nat.exists_eq_add_of_le' (Nat.le_of_add_left_le large)
      exact last_entry_reads (reads bound (by omega)) (fresh_key distinct)
  | key, first, (other, second) :: rest, plain => by
      obtain ⟨enough, reads⟩ := value_reads first plain.1
      obtain ⟨more, later⟩ := entries_read other second rest plain.2
      refine ⟨enough + more + 1, fun bound large before distinct => ?_⟩
      obtain ⟨bound, rfl⟩ := Nat.exists_eq_add_of_le' (Nat.le_of_add_left_le large)
      have following := later bound (by omega) (before ++ [(key, first)])
      rw [List.append_assoc] at following
      exact more_entries_read (reads bound (by omega)) (fresh_key distinct) (following distinct)
termination_by key first rest => sizeOf ((key, first) :: rest)

theorem items_read : ∀ (first : Value Double) (rest : List (Value Double)),
    PlainItems (first :: rest) → ∃ enough, ∀ bound, enough ≤ bound → ∀ before,
      Reads (arrayLoop doubles bound before)
        (writeItems doubles true (first :: rest) ++ [unit ']']) (.list (before ++ first :: rest))
  | first, [], plain => by
      obtain ⟨enough, reads⟩ := value_reads first plain.1
      refine ⟨enough + 1, fun bound large before => ?_⟩
      obtain ⟨bound, rfl⟩ := Nat.exists_eq_add_of_le' (Nat.le_of_add_left_le large)
      exact last_item_reads (reads bound (by omega))
  | first, second :: rest, plain => by
      obtain ⟨enough, reads⟩ := value_reads first plain.1
      obtain ⟨more, later⟩ := items_read second rest plain.2
      refine ⟨enough + more + 1, fun bound large before => ?_⟩
      obtain ⟨bound, rfl⟩ := Nat.exists_eq_add_of_le' (Nat.le_of_add_left_le large)
      have following := later bound (by omega) (before ++ [first])
      rw [List.append_assoc] at following
      exact more_items_read (reads bound (by omega)) following
termination_by first rest => sizeOf (first :: rest)

end

end

end Parser

variable {Double : Type} {doubles : Doubles Double} {entries : List (JavaString × Value Double)}

/-- A map that is written is read back with its keys in order, however deep its values are. -/
theorem parseObject_write (plain : Plain (.map entries)) :
    ∃ enough, ∀ bound, enough ≤ bound →
      parseObject doubles bound (write doubles entries) = .ok entries := by
  obtain ⟨enough, reads⟩ := @Parser.value_reads _ doubles (.map entries) plain
  refine ⟨enough, fun bound large => ?_⟩
  have read := reads bound large 0 []
  rw [List.append_nil, Nat.zero_add] at read
  have start : Parser.skipWhitespace ⟨0, write doubles entries⟩ = ⟨0, write doubles entries⟩ :=
    Parser.skipWhitespace_cons (by decide)
  rw [parseObject, start, write, read]
  rfl

def noDoubles : Doubles Unit := ⟨fun _ => [], fun _ => none⟩

def awkward : List (JavaString × Value Unit) :=
  [([0x22, 0xd800], .list [.text [0x1f, 0x5c], .null, .map [], .list []]), ([], .boolean true)]

theorem awkward_read_back : ∃ enough, ∀ bound, enough ≤ bound →
    parseObject noDoubles bound (write noDoubles awkward) = .ok awkward :=
  parseObject_write (by simp [awkward, Plain, PlainEntries, PlainItems])

end AetherMesh.Json
