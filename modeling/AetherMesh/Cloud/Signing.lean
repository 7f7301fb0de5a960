import AetherMesh.Cloud.CivilDate
import AetherMesh.Controller.ConstraintText
import AetherMesh.Core.Text
import AetherMesh.Library.Fields
import AetherMesh.Library.KeyedChain
import Mathlib.Data.List.Lex
import Mathlib.Data.Prod.Lex
import Mathlib.Data.String.Basic

/-!
The signature of a request. What is signed is a text that the request determines; where the hashes do
not collide, a signature determines the request, up to the order of its query.
-/

namespace AetherMesh.Signing

abbrev Text := List Char

structure Crypto where
  sha256 : Bytes → Bytes
  hmac : Bytes → Bytes → Bytes

/-- The time is in seconds since the epoch, and the epoch for a time before it. -/
structure Request where
  method : Text
  host : Text
  path : Text
  body : Bytes
  accessKeyId : Text
  secretAccessKey : Text
  sessionToken : Option Text
  region : Text
  service : Text
  seconds : UInt64

def bytesOf (text : Text) : Bytes := asBytes (String.ofList text)

def hexEncode (bytes : Bytes) : Text := bytes.flatMap hexByte

def splitQuery (path : Text) : Text × Text := (splitOnce ['?'] path).getD (path, [])

def queryPair (part : Text) : Text × Text := (splitOnce ['='] part).getD (part, [])

def queryPairs (query : Text) : List (Text × Text) :=
  ((query.splitOn '&').filter (· ≠ [])).map queryPair

def pairLe (left right : Text × Text) : Bool :=
  left.1 < right.1 ∨ left.1 = right.1 ∧ left.2 ≤ right.2

def renderPair (pair : Text × Text) : Text := pair.1 ++ '=' :: pair.2

def canonicalQuery (query : Text) : Text :=
  if query = [] then []
  else List.intercalate ['&'] (((queryPairs query).mergeSort pairLe).map renderPair)

section

variable (crypto : Crypto) (request : Request)

def payloadHash : Text := hexEncode (crypto.sha256 request.body)

def headers (datetime : Text) : List (Text × Text) :=
  (("host".toList, request.host) :: ("x-amz-content-sha256".toList, payloadHash crypto request) ::
      ("x-amz-date".toList, datetime) ::
      request.sessionToken.toList.map fun token => ("x-amz-security-token".toList, token)).mergeSort
    fun left right => left.1 ≤ right.1

def canonicalHeaders (headers : List (Text × Text)) : Text :=
  headers.flatMap fun (name, value) => name ++ ':' :: trim value ++ ['\n']

def signedHeaders (headers : List (Text × Text)) : Text :=
  List.intercalate [';'] (headers.map Prod.fst)

def canonicalRequest (datetime : Text) : Text :=
  List.intercalate ['\n'] [request.method, (splitQuery request.path).1,
    canonicalQuery (splitQuery request.path).2,
    canonicalHeaders (headers crypto request datetime),
    signedHeaders (headers crypto request datetime), payloadHash crypto request]

def scope (date : Text) : Text :=
  List.intercalate ['/'] [date, request.region, request.service, "aws4_request".toList]

def stringToSign (date datetime : Text) : Text :=
  List.intercalate ['\n'] ["AWS4-HMAC-SHA256".toList, datetime, scope request date,
    hexEncode (crypto.sha256 (bytesOf (canonicalRequest crypto request datetime)))]

def signingKey (date : Text) : Bytes :=
  let key := crypto.hmac (bytesOf ("AWS4".toList ++ request.secretAccessKey)) (bytesOf date)
  let key := crypto.hmac key (bytesOf request.region)
  let key := crypto.hmac key (bytesOf request.service)
  crypto.hmac key (bytesOf "aws4_request".toList)

def signature (date datetime : Text) : Text :=
  hexEncode (crypto.hmac (signingKey crypto request date)
    (bytesOf (stringToSign crypto request date datetime)))

def authorization (date datetime : Text) : Text :=
  "AWS4-HMAC-SHA256 Credential=".toList ++ request.accessKeyId ++ '/' :: scope request date ++
    ", SignedHeaders=".toList ++ signedHeaders (headers crypto request datetime) ++
    ", Signature=".toList ++ signature crypto request date datetime

/-- The host is signed but not sent again. -/
def sign : Option (List (Text × Text)) := do
  let (date, datetime) ← timestamps request.seconds.toNat
  some ((headers crypto request datetime.toList).filter (fun header => header.1 ≠ "host".toList) ++
    [("authorization".toList, authorization crypto request date.toList datetime.toList)])

end

section

variable {query left right : Text} {pair : Text × Text}

theorem queryPair_eq (part : Text) :
    '=' ∉ (queryPair part).1 ∧ (part = renderPair (queryPair part) ∨ '=' ∉ part ∧
      queryPair part = (part, [])) := by
  rw [queryPair]
  cases split : splitOnce ['='] part with
  | none =>
      have absent := (splitOnce_none (by decide)).mp split
      rw [List.singleton_infix_iff] at absent
      exact ⟨absent, Or.inr ⟨absent, rfl⟩⟩
  | some found =>
      obtain ⟨front, back⟩ := found
      obtain ⟨whole, first⟩ := (splitOnce_some (by decide)).mp split
      have clean : '=' ∉ front := by
        rw [List.singleton_infix_iff] at first
        intro inside
        exact first (List.mem_append_left _ inside)
      refine ⟨clean, Or.inl ?_⟩
      rw [whole, List.append_assoc]
      rfl

theorem queryPair_render (clean : '=' ∉ pair.1) : queryPair (renderPair pair) = pair := by
  have split : splitOnce ['='] (renderPair pair) = some pair := by
    refine (splitOnce_some (by decide)).mpr ⟨?_, ?_⟩
    · rw [renderPair, List.append_assoc]
      rfl
    · rw [List.singleton_infix_iff]
      simpa using clean
  rw [queryPair, split]
  rfl

theorem pairLe_total (left right : Text × Text) : (pairLe left right || pairLe right left) = true := by
  simp only [pairLe, Bool.or_eq_true, decide_eq_true_eq]
  rcases lt_trichotomy left.1 right.1 with less | same | more
  · exact Or.inl (Or.inl less)
  · rcases le_total left.2 right.2 with below | above
    · exact Or.inl (Or.inr ⟨same, below⟩)
    · exact Or.inr (Or.inr ⟨same.symm, above⟩)
  · exact Or.inr (Or.inl more)

theorem pairLe_trans (left middle right : Text × Text) (first : pairLe left middle = true)
    (second : pairLe middle right = true) : pairLe left right = true := by
  simp only [pairLe, decide_eq_true_eq] at first second ⊢
  rcases first with less | ⟨same, below⟩
  · rcases second with more | ⟨also, -⟩
    · exact Or.inl (lt_trans less more)
    · exact Or.inl (also ▸ less)
  · rcases second with more | ⟨also, above⟩
    · exact Or.inl (same ▸ more)
    · exact Or.inr ⟨same.trans also, le_trans below above⟩

theorem pairLe_antisymm {left right : Text × Text} (first : pairLe left right = true)
    (second : pairLe right left = true) : left = right := by
  simp only [pairLe, decide_eq_true_eq] at first second
  rcases first with less | ⟨same, below⟩
  · rcases second with more | ⟨also, -⟩
    · exact absurd (lt_trans less more) (lt_irrefl _)
    · exact absurd (also ▸ less) (lt_irrefl _)
  · rcases second with more | ⟨-, above⟩
    · exact absurd (same ▸ more) (lt_irrefl _)
    · exact Prod.ext same (le_antisymm below above)

theorem sorted_eq {left right : List (Text × Text)} (perm : left.Perm right) :
    left.mergeSort pairLe = right.mergeSort pairLe := by
  have leftSorted := List.pairwise_mergeSort pairLe_trans pairLe_total left
  have rightSorted := List.pairwise_mergeSort pairLe_trans pairLe_total right
  have same := ((List.mergeSort_perm left pairLe).trans perm).trans
    (List.mergeSort_perm right pairLe).symm
  refine List.Perm.eq_of_pairwise ?_ leftSorted rightSorted same
  intro first second _ _ below above
  exact pairLe_antisymm below above

theorem queryPairs_clean (among : pair ∈ queryPairs query) :
    '=' ∉ pair.1 ∧ '&' ∉ renderPair pair ∧ ∀ char ∈ renderPair pair, char = '=' ∨ char ∈ query := by
  obtain ⟨part, kept, split⟩ := List.mem_map.mp among
  have part_in := (List.mem_filter.mp kept).1
  have clean := Fields.splitOn_clean part_in
  obtain ⟨named, whole | ⟨bare, alone⟩⟩ := queryPair_eq part
  · rw [split] at named whole
    rw [← whole]
    exact ⟨named, clean, fun char inside => Or.inr (Fields.mem_of_splitOn part_in inside)⟩
  · rw [split] at named alone
    rw [renderPair, alone]
    refine ⟨bare, ?_, fun char inside => ?_⟩
    · intro inside
      rcases List.mem_append.mp inside with within | behind
      · exact clean within
      · exact absurd (List.mem_singleton.mp behind) (by decide)
    · rcases List.mem_append.mp inside with within | behind
      · exact Or.inr (Fields.mem_of_splitOn part_in within)
      · exact Or.inl (List.mem_singleton.mp behind)

theorem canonicalQuery_join (query : Text) : canonicalQuery query =
    List.intercalate ['&'] (((queryPairs query).mergeSort pairLe).map renderPair) := by
  rw [canonicalQuery]
  split
  · rename_i empty
    have none : queryPairs [] = [] := rfl
    rw [empty, none, List.mergeSort_nil]
    rfl
  · rfl

theorem queryPairs_canonicalQuery (query : Text) :
    queryPairs (canonicalQuery query) = (queryPairs query).mergeSort pairLe := by
  have each (pair : Text × Text) (among : pair ∈ (queryPairs query).mergeSort pairLe) :=
    queryPairs_clean (List.mem_mergeSort.mp among)
  rw [canonicalQuery_join]
  generalize (queryPairs query).mergeSort pairLe = pairs at each
  by_cases empty : pairs = []
  · subst empty
    rfl
  · have clean : ∀ field ∈ pairs.map renderPair, '&' ∉ field := by
      intro field among
      obtain ⟨pair, member, rendered⟩ := List.mem_map.mp among
      rw [← rendered]
      exact (each pair member).2.1
    have occupied : ∀ field ∈ pairs.map renderPair, decide (field ≠ []) = true := by
      intro field among
      obtain ⟨pair, member, rendered⟩ := List.mem_map.mp among
      rw [← rendered, renderPair]
      simp
    rw [queryPairs, List.splitOn_intercalate '&' clean (by simpa using empty),
      List.filter_eq_self.mpr occupied, List.map_map]
    have back : ∀ pair ∈ pairs, (queryPair ∘ renderPair) pair = pair :=
      fun pair member => queryPair_render (each pair member).1
    rw [List.map_congr_left back, List.map_id']

theorem canonicalQuery_eq_iff :
    canonicalQuery left = canonicalQuery right ↔ (queryPairs left).Perm (queryPairs right) := by
  constructor
  · intro same
    have pairs := congrArg queryPairs same
    rw [queryPairs_canonicalQuery, queryPairs_canonicalQuery] at pairs
    have leftPerm := List.mergeSort_perm (queryPairs left) pairLe
    have rightPerm := List.mergeSort_perm (queryPairs right) pairLe
    rw [pairs] at leftPerm
    exact leftPerm.symm.trans rightPerm
  · intro perm
    rw [canonicalQuery_join, canonicalQuery_join, sorted_eq perm]

/-- Two queries are signed as one text exactly when they hold the same pairs, as often, in whatever
order, and these are read back from the text, sorted. -/
theorem canonicalQuery_sound (left right : Text) :
    (canonicalQuery left = canonicalQuery right ↔ (queryPairs left).Perm (queryPairs right)) ∧
      queryPairs (canonicalQuery left) = (queryPairs left).mergeSort pairLe :=
  ⟨canonicalQuery_eq_iff, queryPairs_canonicalQuery left⟩

end

end AetherMesh.Signing
