import AetherMesh.Controller.ClientRequests
import Mathlib.Data.List.TakeWhile

/-!
Constraints as text. What is displayed is the key and the value with nothing around them, so a
key that ends with an exclamation mark runs into the separator.
-/

namespace AetherMesh

def Constraint.display : Constraint → String
  | .equals key value => key ++ "=" ++ value
  | .present key => key
  | .notEquals key value => key ++ "!=" ++ value

def KeepsMeaning (input : String) : Prop :=
  ∀ constraint, Constraint.fromStr input = .ok constraint →
    Constraint.fromStr constraint.display = .ok constraint

/-- The first equals sign follows an exclamation mark and white space, and no sign stands right
behind one. -/
def Glues (input : String) : Prop :=
  ¬"!=".toList <:+: trim input.toList ∧
    ∃ key space value, trim input.toList = key ++ '!' :: space ++ '=' :: value ∧ '=' ∉ key ∧
      space ≠ [] ∧ ∀ char ∈ space, isWhitespace char = true

section Trimming

variable {text front back : List Char}

def Trimmed (text : List Char) : Prop :=
  (∀ char ∈ text.head?, isWhitespace char = false) ∧
    ∀ char ∈ text.getLast?, isWhitespace char = false

def Blank (text : List Char) : Prop := ∀ char ∈ text, isWhitespace char = true

theorem dropWhile_spec (text : List Char) : ∃ front, Blank front ∧
    text = front ++ text.dropWhile isWhitespace ∧
    ∀ char ∈ (text.dropWhile isWhitespace).head?, isWhitespace char = false := by
  refine ⟨text.takeWhile isWhitespace, ?_, List.takeWhile_append_dropWhile.symm, ?_⟩
  · exact fun char member => List.mem_takeWhile_imp member
  · intro char first
    have stopped := List.head?_dropWhile_not isWhitespace text
    rw [Option.mem_def.mp first] at stopped
    exact stopped

theorem trim_spec (text : List Char) : Trimmed (trim text) ∧
    ∃ front back, Blank front ∧ Blank back ∧ text = front ++ trim text ++ back := by
  obtain ⟨front, leading, split, first⟩ := dropWhile_spec text
  obtain ⟨back, trailing, rest, last⟩ := dropWhile_spec (text.dropWhile isWhitespace).reverse
  have whole : text.dropWhile isWhitespace = trim text ++ back.reverse := by
    have turned := congrArg List.reverse rest
    rwa [List.reverse_reverse, List.reverse_append] at turned
  refine ⟨⟨?_, ?_⟩, front, back.reverse, leading, ?_, ?_⟩
  · intro char head
    refine first char ?_
    rw [whole]
    exact List.mem_head?_append_of_mem_head? head
  · intro char tail
    refine last char ?_
    rwa [trim, List.getLast?_reverse] at tail
  · exact fun char member => trailing char (List.mem_reverse.mp member)
  · rw [List.append_assoc, ← whole]
    exact split

theorem dropWhile_eq_self (first : ∀ char ∈ text.head?, isWhitespace char = false) :
    text.dropWhile isWhitespace = text := by
  cases text with
  | nil => rfl
  | cons char rest => rw [List.dropWhile_cons_of_neg (by simp [first char rfl])]

theorem Trimmed.trim_eq (trimmed : Trimmed text) : trim text = text := by
  rw [trim, dropWhile_eq_self trimmed.1, dropWhile_eq_self, List.reverse_reverse]
  intro char first
  rw [List.head?_reverse] at first
  exact trimmed.2 char first

end Trimming

theorem split_first {front back key value : List Char} {char : Char}
    (same : front ++ char :: back = key ++ char :: value) (first : char ∉ key) :
    front = key ∨ ∃ middle, front = key ++ char :: middle ∧ value = middle ++ char :: back := by
  rcases List.append_eq_append_iff.mp same with ⟨middle, whole, tail⟩ | ⟨middle, whole, tail⟩
  · cases middle with
    | nil => exact .inl (by rw [whole, List.append_nil])
    | cons head rest =>
        obtain ⟨rfl, -⟩ := List.cons.inj tail
        exact absurd (by rw [whole]; simp) first
  · cases middle with
    | nil => exact .inl (by rw [whole, List.append_nil])
    | cons head rest =>
        obtain ⟨rfl, later⟩ := List.cons.inj tail
        exact .inr ⟨rest, whole, later⟩

section Reading

variable {text key value : List Char} {constraint : Constraint} {input : String}

theorem split_notEquals : splitOnce "!=".toList text = some (key, value) ↔
    text = key ++ "!=".toList ++ value ∧ ¬"!=".toList <:+: key := by
  rw [splitOnce_some (by decide)]
  refine and_congr_right fun _ => not_congr ?_
  have last : "!=".toList.dropLast = ['!'] := by decide
  rw [last, List.infix_concat_iff]
  refine or_iff_right ?_
  rintro ⟨front, same⟩
  have ends := congrArg List.getLast? same
  rw [List.getLast?_concat, List.getLast?_append, show "!=".toList.getLast? = some '=' by decide]
    at ends
  exact absurd (Option.some.inj ends) (by decide)

theorem split_equals : splitOnce "=".toList text = some (key, value) ↔
    text = key ++ '=' :: value ∧ '=' ∉ key := by
  rw [splitOnce_some (by decide)]
  have last : "=".toList.dropLast = [] := by decide
  have single : "=".toList = ['='] := by decide
  rw [last, single, List.append_nil, List.append_assoc, List.singleton_append,
    List.singleton_infix_iff]

theorem split_none : splitOnce "=".toList text = none ↔ '=' ∉ text := by
  rw [splitOnce_none (by decide), show "=".toList = ['='] by decide, List.singleton_infix_iff]

inductive Reads (text : List Char) : Constraint → Prop
  | notEquals (key value : List Char) (split : text = key ++ "!=".toList ++ value)
      (first : ¬"!=".toList <:+: key) (named : trim key ≠ []) :
      Reads text (.notEquals (String.ofList (trim key)) (String.ofList (trim value)))
  | equals (key value : List Char) (none : ¬"!=".toList <:+: text)
      (split : text = key ++ '=' :: value) (first : '=' ∉ key) (named : trim key ≠ []) :
      Reads text (.equals (String.ofList (trim key)) (String.ofList (trim value)))
  | present (none : ¬"!=".toList <:+: text) (plain : '=' ∉ text) (named : text ≠ []) :
      Reads text (.present (String.ofList text))

theorem fromStr_ok : Constraint.fromStr input = .ok constraint ↔
    Reads (trim input.toList) constraint := by
  unfold Constraint.fromStr
  constructor
  · intro read
    simp only at read
    split at read
    · rename_i key value split
      obtain ⟨whole, first⟩ := split_notEquals.mp split
      split at read
      · cases read
      · rename_i named
        cases read
        exact .notEquals key value whole first named
    · rename_i none
      have absent := (splitOnce_none (by decide)).mp none
      split at read
      · rename_i key value split
        obtain ⟨whole, first⟩ := split_equals.mp split
        split at read
        · cases read
        · rename_i named
          cases read
          exact .equals key value absent whole first named
      · rename_i plain
        split at read
        · cases read
        · rename_i named
          cases read
          exact .present absent (split_none.mp plain) named
  · intro reads
    simp only
    cases reads with
    | notEquals key value split first named =>
        rw [split_notEquals.mpr ⟨split, first⟩]
        exact if_neg named
    | equals key value none split first named =>
        rw [(splitOnce_none (by decide)).mpr none, split_equals.mpr ⟨split, first⟩]
        exact if_neg named
    | present none plain named =>
        rw [(splitOnce_none (by decide)).mpr none, split_none.mpr plain]
        exact if_neg named

theorem trim_within (text : List Char) : trim text <:+: text := by
  obtain ⟨-, front, back, -, -, split⟩ := trim_spec text
  exact ⟨front, back, split.symm⟩

theorem notEquals_solid : ∀ char ∈ "!=".toList, isWhitespace char = false := by
  simp [isWhitespace]

theorem equals_solid : ∀ char ∈ "=".toList, isWhitespace char = false := by
  simp [isWhitespace]

theorem Trimmed.join {separator : List Char} (left : Trimmed key) (named : key ≠ [])
    (right : Trimmed value) (occupied : separator ≠ [])
    (solid : ∀ char ∈ separator, isWhitespace char = false) :
    Trimmed (key ++ separator ++ value) := by
  constructor
  · intro char head
    rw [List.append_assoc, List.head?_append_of_ne_nil _ named] at head
    exact left.1 char head
  · intro char last
    rw [List.getLast?_append] at last
    cases found : value.getLast? with
    | some other =>
        rw [found] at last
        exact right.2 char (by rw [found]; exact last)
    | none =>
        rw [found, Option.none_or, List.getLast?_append_of_ne_nil _ occupied] at last
        exact solid char (List.mem_of_getLast? last)

theorem toList_notEquals : (Constraint.display (.notEquals (String.ofList key)
    (String.ofList value))).toList = key ++ "!=".toList ++ value := by
  simp [Constraint.display]

theorem toList_equals : (Constraint.display (.equals (String.ofList key)
    (String.ofList value))).toList = key ++ "=".toList ++ value := by
  simp [Constraint.display]

/-- The separator of a displayed inequality is the first one in it. -/
theorem keeps_notEquals (named : trim key ≠ []) (first : ¬"!=".toList <:+: key) :
    Constraint.fromStr (Constraint.display (.notEquals (String.ofList (trim key))
      (String.ofList (trim value)))) =
        .ok (.notEquals (String.ofList (trim key)) (String.ofList (trim value))) := by
  have left := (trim_spec key).1
  have right := (trim_spec value).1
  rw [fromStr_ok, toList_notEquals,
    (left.join named right (by decide) notEquals_solid).trim_eq]
  have reads := Reads.notEquals (trim key) (trim value) rfl
    (fun inside => first (inside.trans (trim_within key))) (by rwa [left.trim_eq])
  rwa [left.trim_eq, right.trim_eq] at reads

theorem keeps_equals (named : trim key ≠ []) (first : '=' ∉ key)
    (none : ¬"!=".toList <:+: value) (apart : (trim key).getLast? ≠ some '!') :
    Constraint.fromStr (Constraint.display (.equals (String.ofList (trim key))
      (String.ofList (trim value)))) =
        .ok (.equals (String.ofList (trim key)) (String.ofList (trim value))) := by
  have left := (trim_spec key).1
  have right := (trim_spec value).1
  have unnamed : '=' ∉ trim key := fun member => first ((trim_within key).subset member)
  rw [fromStr_ok, toList_equals, (left.join named right (by decide) equals_solid).trim_eq]
  have reads := Reads.equals (trim key) (trim value) ?_ rfl unnamed (by rwa [left.trim_eq])
  · rw [left.trim_eq, right.trim_eq] at reads
    simpa using reads
  · rintro ⟨front, back, same⟩
    have split : (front ++ ['!']) ++ '=' :: back = trim key ++ '=' :: trim value := by
      rw [← same]
      simp
    rcases split_first split unnamed with whole | ⟨middle, before, after⟩
    · rw [← whole, List.getLast?_concat] at apart
      exact apart rfl
    · refine none (List.IsInfix.trans ?_ (trim_within value))
      rcases List.eq_nil_or_concat middle with rfl | ⟨inner, last, rfl⟩
      · have ends := congrArg List.getLast? before
        rw [List.getLast?_concat, List.getLast?_concat] at ends
        cases ends
      · have ends := congrArg List.getLast? before
        rw [List.getLast?_concat, List.concat_eq_append, ← List.cons_append, ← List.append_assoc,
          List.getLast?_concat] at ends
        obtain rfl := Option.some.inj ends
        exact ⟨inner, back, by rw [after]; simp⟩

theorem trim_marked {front space : List Char} (blank : Blank space) :
    (trim (front ++ '!' :: space)).getLast? = some '!' := by
  have dropped : ∃ rest, (front ++ '!' :: space).dropWhile isWhitespace = rest ++ '!' :: space := by
    induction front with
    | nil => exact ⟨[], List.dropWhile_cons_of_neg (by decide)⟩
    | cons char front ih =>
        rw [List.cons_append, List.dropWhile_cons]
        split
        · exact ih
        · exact ⟨char :: front, rfl⟩
  obtain ⟨rest, whole⟩ := dropped
  have trailing : ∀ char ∈ space.reverse, isWhitespace char = true :=
    fun char member => blank char (List.mem_reverse.mp member)
  rw [trim, whole, List.reverse_append, List.reverse_cons, List.append_assoc,
    List.dropWhile_append_of_pos trailing, List.singleton_append,
    List.dropWhile_cons_of_neg (by decide), List.reverse_cons, List.getLast?_concat]

theorem plain_marked {front space : List Char} (plain : '=' ∉ front) (blank : Blank space) :
    '=' ∉ front ++ '!' :: space := by
  intro member
  rcases List.mem_append.mp member with before | behind
  · exact plain before
  · rcases List.mem_cons.mp behind with equal | later
    · cases equal
    · exact absurd (blank '=' later) (by decide)

theorem glues_iff (none : ¬"!=".toList <:+: text) (split : text = key ++ '=' :: value)
    (first : '=' ∉ key) : (trim key).getLast? = some '!' ↔
      ∃ front space value, text = front ++ '!' :: space ++ '=' :: value ∧ '=' ∉ front ∧
        space ≠ [] ∧ ∀ char ∈ space, isWhitespace char = true := by
  constructor
  · intro marked
    obtain ⟨-, leading, space, -, blank, whole⟩ := trim_spec key
    obtain ⟨inner, named⟩ := List.getLast?_eq_some_iff.mp marked
    rw [named] at whole
    refine ⟨leading ++ inner, space, value, ?_, ?_, ?_, blank⟩
    · rw [split, whole]
      simp
    · intro member
      refine first ?_
      rw [whole, ← List.append_assoc]
      exact List.mem_append_left _ (List.mem_append_left _ member)
    · rintro rfl
      refine none ⟨leading ++ inner, value, ?_⟩
      rw [split, whole]
      simp
  · rintro ⟨front, space, other, same, plain, -, blank⟩
    have unsplit := plain_marked plain blank
    rcases split_first (split.symm.trans same) unsplit with whole | ⟨middle, before, -⟩
    · rw [whole]
      exact trim_marked blank
    · exact absurd (by rw [before]; simp) first

/-- Only a key that runs into the separator changes what a constraint means. -/
theorem keeps_meaning_iff (input : String) : KeepsMeaning input ↔ ¬Glues input := by
  constructor
  · rintro keeps ⟨none, front, space, value, split, plain, spaced, blank⟩
    have unsplit := plain_marked plain blank
    have marked := @trim_marked front space blank
    have named : trim (front ++ '!' :: space) ≠ [] := by
      intro empty
      rw [empty] at marked
      cases marked
    have read := fromStr_ok.mpr (Reads.equals _ value none split unsplit named)
    have again := fromStr_ok.mp (keeps _ read)
    have trimmed := ((trim_spec (front ++ '!' :: space)).1.join named (trim_spec value).1
      (by decide) equals_solid : Trimmed (_ ++ "=".toList ++ _)).trim_eq
    rw [toList_equals, trimmed] at again
    -- the displayed form has the separator that the text has not
    obtain ⟨inner, ends⟩ := List.getLast?_eq_some_iff.mp marked
    have glued : "!=".toList <:+: trim (front ++ '!' :: space) ++ "=".toList ++ trim value :=
      ⟨inner, trim value, by rw [ends]; simp⟩
    generalize shape : Constraint.equals _ _ = constraint at again
    cases again with
    | notEquals | present => cases shape
    | equals key value none => exact none glued
  · intro apart constraint read
    have reads := fromStr_ok.mp read
    cases reads with
    | notEquals key value split first named => exact keeps_notEquals named first
    | equals key value none split first named =>
        have within : value <:+: trim input.toList := ⟨key ++ ['='], [], by rw [split]; simp⟩
        refine keeps_equals named first (fun inside => none (inside.trans within)) ?_
        exact fun marked => apart ⟨none, (glues_iff none split first).mp marked⟩
    | present none plain named =>
        rw [fromStr_ok, Constraint.display, String.toList_ofList, (trim_spec input.toList).1.trim_eq]
        exact .present none plain named

theorem mark_joins_separator :
    Constraint.fromStr "a! =b" = .ok (.equals "a!" "b") ∧
      (Constraint.equals "a!" "b").display = "a!=b" ∧
      Constraint.fromStr "a!=b" = .ok (.notEquals "a" "b") ∧ ¬KeepsMeaning "a! =b" := by
  have read : Constraint.fromStr "a! =b" = .ok (.equals "a!" "b") := by decide +kernel
  have other : Constraint.fromStr "a!=b" = .ok (.notEquals "a" "b") := by decide +kernel
  have shown : (Constraint.equals "a!" "b").display = "a!=b" := by decide +kernel
  refine ⟨read, shown, other, fun keeps => ?_⟩
  have again := keeps _ read
  rw [shown, other] at again
  cases again

end Reading

end AetherMesh
