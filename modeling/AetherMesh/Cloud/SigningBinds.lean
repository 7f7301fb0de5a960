import AetherMesh.Cloud.Signing
import AetherMesh.Controller.DataIdText

/-!
What a signature binds. The text that is signed is read back line by line: the time of the request
from its digits, and each header from its line.
-/

namespace AetherMesh.Signing

open Calendar KeyedChain

section

variable {width value other : Nat}

theorem padded_toList :
    (padded width value).toList =
      List.replicate (width - (Nat.toDigits 10 value).length) '0' ++ Nat.toDigits 10 value :=
  String.toList_ofList

theorem padded_injective (same : padded width value = padded width other) : value = other := by
  have digits := congrArg (fun text => Nat.ofDigitChars 10 (String.toList text) 0) same
  simpa only [padded_toList, Nat.ofDigitChars_append, Nat.ofDigitChars_replicate_zero,
    Nat.mul_zero, Nat.ofDigitChars_ten_toDigits] using digits

theorem padded_digits : ∀ char ∈ (padded width value).toList, char.isDigit = true := by
  intro char inside
  rw [padded_toList] at inside
  rcases List.mem_append.mp inside with zero | digit
  · rw [List.eq_of_mem_replicate zero]
    rfl
  · exact Nat.isDigit_of_mem_toDigits (by decide) (by decide) digit

theorem padded_length (small : value < 100) : (padded 2 value).toList.length = 2 := by
  have long : (Nat.toDigits 10 value).length ≤ 2 :=
    (Nat.length_toDigits_le_iff (by decide) (by decide)).mpr small
  rw [padded_toList, List.length_append, List.length_replicate]
  omega

/-- The last of two texts is read off when it is two digits long. -/
theorem padded_last {front back : Text} (small : value < 100) (also : other < 100)
    (same : front ++ (padded 2 value).toList = back ++ (padded 2 other).toList) :
    front = back ∧ value = other := by
  obtain ⟨fronts, digits⟩ := List.append_inj' same ((padded_length small).trans
    (padded_length also).symm)
  exact ⟨fronts, padded_injective (String.toList_inj.mp digits)⟩

theorem date_small (date : Date) : date.month < 100 ∧ date.day < 100 := by
  have month := date.month_le
  have day := date.day_le
  have longest : monthLength date.year date.month ≤ 31 := by
    unfold monthLength
    split
    · split <;> decide
    all_goals decide
  omega

theorem date_since (date : Date) (since : 0 ≤ date.number) : 1970 ≤ date.year := by
  by_contra before
  have bounds := date.number_bounds
  have earlier : daysBeforeYear date.year + yearLength date.year ≤ daysBeforeYear 1970 :=
    daysBeforeYear_lt (by omega)
  have epoch : daysBeforeYear 1970 = 0 := by decide
  omega

/-- The digits of a time tell the time: all but the year have two of them. -/
theorem timestamps_injective {left right : UInt64} {leftDate rightDate datetime : String}
    (one : timestamps left.toNat = some (leftDate, datetime))
    (two : timestamps right.toNat = some (rightDate, datetime)) :
    left = right ∧ leftDate = rightDate := by
  obtain ⟨date, number, found⟩ := timestamps_eq left.toNat_lt
  obtain ⟨otherDate, otherNumber, otherFound⟩ := timestamps_eq right.toNat_lt
  have leftSmall := date_small date
  have rightSmall := date_small otherDate
  have leftTime := found
  have rightTime := otherFound
  rw [one, Option.some.injEq, Prod.mk.injEq] at leftTime
  rw [two, Option.some.injEq, Prod.mk.injEq] at rightTime
  have texts := congrArg String.toList (leftTime.2.symm.trans rightTime.2)
  simp only [String.toList_append] at texts
  have inner := List.append_cancel_right texts
  obtain ⟨inner, seconds⟩ := padded_last (by omega) (by omega) inner
  obtain ⟨inner, minutes⟩ := padded_last (by omega) (by omega) inner
  obtain ⟨inner, hours⟩ := padded_last (by omega) (by omega) inner
  obtain ⟨inner, days⟩ := padded_last leftSmall.2 rightSmall.2 (List.append_cancel_right inner)
  obtain ⟨inner, months⟩ := padded_last leftSmall.1 rightSmall.1 inner
  have years := padded_injective (String.toList_inj.mp inner)
  have since := date_since date (by omega)
  have also := date_since otherDate (by omega)
  have same : date = otherDate := by
    cases date
    cases otherDate
    simp only [Date.mk.injEq]
    simp only at years since also months days
    exact ⟨by omega, months, days⟩
  have whole : left.toNat = right.toNat := by
    rw [same] at number
    omega
  refine ⟨UInt64.toNat_inj.mp whole, ?_⟩
  rw [leftTime.1, rightTime.1, same]

end

section

variable {crypto : Crypto} {request left right : Request} {date datetime : Text}

def headerLine (header : Text × Text) : Text := header.1 ++ ':' :: trim header.2

def unsorted (crypto : Crypto) (request : Request) (datetime : Text) : List (Text × Text) :=
  ("host".toList, request.host) :: ("x-amz-content-sha256".toList, payloadHash crypto request) ::
    ("x-amz-date".toList, datetime) ::
    request.sessionToken.toList.map fun token => ("x-amz-security-token".toList, token)

/-- The headers are listed in their order, so that sorting them changes nothing. -/
theorem headers_eq : headers crypto request datetime = unsorted crypto request datetime := by
  apply List.mergeSort_of_pairwise
  have names : ((unsorted crypto request datetime).map Prod.fst).Pairwise (· ≤ ·) := by
    cases request with
    | mk method host path body accessKeyId secretAccessKey sessionToken region service seconds =>
        cases sessionToken with
        | none =>
            have names : ["host".toList, "x-amz-content-sha256".toList,
              "x-amz-date".toList].Pairwise (· ≤ ·) := by decide
            exact names
        | some token =>
            have names : ["host".toList, "x-amz-content-sha256".toList, "x-amz-date".toList,
              "x-amz-security-token".toList].Pairwise (· ≤ ·) := by decide
            exact names
  refine (List.pairwise_map.mp names).imp ?_
  exact fun below => decide_eq_true below

/-- The lines of the text whose hash is signed; an empty one stands behind the headers. -/
def lines (crypto : Crypto) (request : Request) (datetime : Text) : List Text :=
  [request.method, (splitQuery request.path).1, canonicalQuery (splitQuery request.path).2] ++
    ((headers crypto request datetime).map headerLine ++
      [[], signedHeaders (headers crypto request datetime), payloadHash crypto request])

theorem canonicalRequest_lines : canonicalRequest crypto request datetime =
    List.intercalate ['\n'] (lines crypto request datetime) := by
  have ended : canonicalHeaders (headers crypto request datetime) =
      ((headers crypto request datetime).map headerLine).flatMap (· ++ ['\n']) := by
    rw [canonicalHeaders, List.flatMap_map]
    rfl
  rw [canonicalRequest, ended, List.intercalate_cons_cons, List.intercalate_cons_cons,
    List.intercalate_cons_cons, Fields.intercalate_ended, lines]
  simp only [List.cons_append, List.nil_append]
  rw [List.intercalate_cons_cons, List.intercalate_cons_cons,
    List.intercalate_cons_of_ne_nil (by simp)]

structure Clean (request : Request) : Prop where
  method : '\n' ∉ request.method
  path : '\n' ∉ request.path
  host : '\n' ∉ request.host
  token : ∀ token ∈ request.sessionToken, '\n' ∉ token

theorem mem_canonicalQuery {query : Text} {char : Char} (inside : char ∈ canonicalQuery query) :
    char = '&' ∨ char = '=' ∨ char ∈ query := by
  rw [canonicalQuery_join] at inside
  rcases Fields.mem_intercalate inside with between | ⟨field, among, within⟩
  · exact Or.inl between
  · obtain ⟨pair, member, rendered⟩ := List.mem_map.mp among
    rw [← rendered] at within
    exact Or.inr ((queryPairs_clean (List.mem_mergeSort.mp member)).2.2 char within)

theorem splitQuery_within (path : Text) :
    (splitQuery path).1 ⊆ path ∧ (splitQuery path).2 ⊆ path := by
  rw [splitQuery]
  cases split : splitOnce ['?'] path with
  | none => exact ⟨List.Subset.refl _, List.nil_subset _⟩
  | some found =>
      obtain ⟨front, back⟩ := found
      obtain ⟨whole, -⟩ := (splitOnce_some (by decide)).mp split
      rw [whole]
      exact ⟨fun char inside => List.mem_append_left _ (List.mem_append_left _ inside),
        fun char inside => List.mem_append_right _ inside⟩

theorem hexEncode_clean (bytes : Bytes) : '\n' ∉ hexEncode bytes := by
  intro inside
  obtain ⟨byte, -, digit⟩ := List.mem_flatMap.mp inside
  have hex := (hexByte_digits byte _ digit).1
  exact absurd hex (by decide)

theorem names_clean {header : Text × Text} (among : header ∈ unsorted crypto request datetime) :
    '\n' ∉ header.1 := by
  have plain : ∀ name ∈ ["host".toList, "x-amz-content-sha256".toList, "x-amz-date".toList,
      "x-amz-security-token".toList], '\n' ∉ name := by decide
  apply plain
  rw [unsorted] at among
  simp only [List.mem_cons, List.mem_map] at among ⊢
  rcases among with same | same | same | ⟨token, -, same⟩
  · exact Or.inl (congrArg Prod.fst same)
  · exact Or.inr (Or.inl (congrArg Prod.fst same))
  · exact Or.inr (Or.inr (Or.inl (congrArg Prod.fst same)))
  · exact Or.inr (Or.inr (Or.inr (Or.inl (congrArg Prod.fst same.symm))))

theorem values_clean (clean : Clean request) (timed : '\n' ∉ datetime) {header : Text × Text}
    (among : header ∈ unsorted crypto request datetime) : '\n' ∉ header.2 := by
  rw [unsorted] at among
  simp only [List.mem_cons, List.mem_map] at among
  rcases among with same | same | same | ⟨token, given, same⟩
  · rw [same]
    exact clean.host
  · rw [same]
    exact hexEncode_clean _
  · rw [same]
    exact timed
  · rw [← same]
    exact clean.token token (Option.mem_toList.mp given)

theorem lines_clean (clean : Clean request) (timed : '\n' ∉ datetime) :
    ∀ line ∈ lines crypto request datetime, '\n' ∉ line := by
  intro line among
  rw [lines, headers_eq] at among
  simp only [List.mem_append, List.mem_cons, List.not_mem_nil, or_false, List.mem_map] at among
  rcases among with (same | same | same) | ⟨header, within, same⟩ | same | same | same
  · rw [same]
    exact clean.method
  · rw [same]
    exact fun inside => clean.path ((splitQuery_within _).1 inside)
  · rw [same]
    intro inside
    rcases mem_canonicalQuery inside with mark | mark | within
    · exact absurd mark (by decide)
    · exact absurd mark (by decide)
    · exact clean.path ((splitQuery_within _).2 within)
  · rw [← same, headerLine]
    intro inside
    rcases List.mem_append.mp inside with name | value
    · exact names_clean within name
    · rcases List.mem_cons.mp value with mark | own
      · exact absurd mark (by decide)
      · exact values_clean clean timed within ((trim_within _).subset own)
  · rw [same]
    exact List.not_mem_nil
  · rw [same, signedHeaders]
    intro inside
    rcases Fields.mem_intercalate inside with mark | ⟨name, listed, own⟩
    · exact absurd mark (by decide)
    · obtain ⟨header, within, named⟩ := List.mem_map.mp listed
      rw [← named] at own
      exact names_clean within own
  · rw [same]
    exact hexEncode_clean _

/-- What two requests share when their signatures do. -/
structure Agree (left right : Request) : Prop where
  method : left.method = right.method
  path : (splitQuery left.path).1 = (splitQuery right.path).1
  query : (queryPairs (splitQuery left.path).2).Perm (queryPairs (splitQuery right.path).2)
  host : trim left.host = trim right.host
  token : left.sessionToken.map trim = right.sessionToken.map trim
  body : left.body = right.body
  seconds : left.seconds = right.seconds
  region : left.region = right.region
  service : left.service = right.service
  secret : left.secretAccessKey = right.secretAccessKey

theorem headerLine_injective {name value other : Text}
    (same : headerLine (name, value) = headerLine (name, other)) : trim value = trim other :=
  (List.cons.inj (List.append_cancel_left same)).2

theorem agree_of_lines {datetime : Text}
    (same : lines crypto left datetime = lines crypto right datetime) :
    left.method = right.method ∧ (splitQuery left.path).1 = (splitQuery right.path).1 ∧
      canonicalQuery (splitQuery left.path).2 = canonicalQuery (splitQuery right.path).2 ∧
      trim left.host = trim right.host ∧
      left.sessionToken.map trim = right.sessionToken.map trim ∧
      payloadHash crypto left = payloadHash crypto right := by
  have long := congrArg List.length same
  simp only [lines, headers_eq, unsorted, List.length_append, List.length_map, List.length_cons,
    List.length_nil] at long
  simp only [lines, headers_eq, unsorted, List.map_cons, List.map_map, List.cons_append,
    List.nil_append, List.cons.injEq] at same
  obtain ⟨method, path, query, host, -, -, rest⟩ := same
  obtain ⟨tokens, ends⟩ := List.append_inj rest (by rw [List.length_map, List.length_map]; omega)
  simp only [List.cons.injEq, true_and, and_true] at ends
  refine ⟨method, path, query, headerLine_injective host, ?_, ends.2⟩
  cases leftToken : left.sessionToken with
  | none =>
      cases rightToken : right.sessionToken with
      | none => rfl
      | some token => simp [leftToken, rightToken] at tokens
  | some token =>
      cases rightToken : right.sessionToken with
      | none => simp [leftToken, rightToken] at tokens
      | some other =>
          rw [leftToken, rightToken] at tokens
          exact congrArg some (headerLine_injective (List.cons.inj tokens).1)

theorem lines_of_agree (crypto : Crypto) (agree : Agree left right) (datetime : Text) :
    lines crypto left datetime = lines crypto right datetime := by
  have payloads : payloadHash crypto left = payloadHash crypto right := by
    rw [payloadHash, payloadHash, agree.body]
  have tokens := agree.token
  simp only [lines, headers_eq, unsorted, signedHeaders, headerLine, agree.method, agree.path,
    canonicalQuery_eq_iff.mpr agree.query, List.map_cons, List.map_map, agree.host, payloads]
  cases leftToken : left.sessionToken with
  | none =>
      rw [leftToken] at tokens
      have none := Option.map_eq_none_iff.mp tokens.symm
      rw [none]
  | some token =>
      rw [leftToken, Option.map_some] at tokens
      obtain ⟨other, rightToken, trimmed⟩ := Option.map_eq_some_iff.mp tokens.symm
      rw [rightToken]
      simp [headerLine, trimmed]

end

theorem bytesOf_injective {left right : Text} (same : bytesOf left = bytesOf right) :
    left = right :=
  String.ofList_injective (asBytes_injective same)

theorem timestamps_clean {seconds : UInt64} {date datetime : String}
    (timed : timestamps seconds.toNat = some (date, datetime)) : '\n' ∉ datetime.toList := by
  obtain ⟨day, -, found⟩ := timestamps_eq seconds.toNat_lt
  rw [found, Option.some.injEq, Prod.mk.injEq] at timed
  rw [← timed.2]
  simp only [String.toList_append, List.mem_append, not_or]
  have digits {width value : Nat} : '\n' ∉ (padded width value).toList :=
    fun inside => absurd (padded_digits _ inside) (by decide)
  exact ⟨⟨⟨⟨⟨⟨⟨digits, digits⟩, digits⟩, by decide⟩, digits⟩, digits⟩, digits⟩, by decide⟩

section

variable (crypto : Crypto) (request : Request)

def signedData (date datetime : Text) : List Bytes :=
  [bytesOf date, bytesOf request.region, bytesOf request.service, bytesOf "aws4_request".toList,
    bytesOf (stringToSign crypto request date datetime)]

def macs (date datetime : Text) : List (Bytes × Bytes) :=
  calls crypto.hmac (bytesOf ("AWS4".toList ++ request.secretAccessKey))
    (signedData crypto request date datetime)

theorem signature_eq (date datetime : Text) : signature crypto request date datetime =
    hexEncode ((signedData crypto request date datetime).foldl crypto.hmac
      (bytesOf ("AWS4".toList ++ request.secretAccessKey))) :=
  rfl

/-- The hashes are different where what they are given is. Keys that differ only in the zeros at
their ends are one key, so that this is asked of the calls of the two requests alone. -/
structure Uncollided (left right : Request) (leftDate leftTime rightDate rightTime : Text) : Prop where
  bodies : crypto.sha256 left.body = crypto.sha256 right.body → left.body = right.body
  requests : crypto.sha256 (bytesOf (canonicalRequest crypto left leftTime)) =
      crypto.sha256 (bytesOf (canonicalRequest crypto right rightTime)) →
    bytesOf (canonicalRequest crypto left leftTime) =
      bytesOf (canonicalRequest crypto right rightTime)
  keyed : Apart crypto.hmac (macs crypto left leftDate leftTime)
    (macs crypto right rightDate rightTime)

end

section

variable {crypto : Crypto} {left right : Request} {leftDate leftTime rightDate rightTime : String}

theorem stringToSign_injective (timed : '\n' ∉ leftTime.toList) (alsoTimed : '\n' ∉ rightTime.toList)
    (regions : left.region = right.region) (services : left.service = right.service)
    (same : stringToSign crypto left leftDate.toList leftTime.toList =
      stringToSign crypto right leftDate.toList rightTime.toList) :
    leftTime = rightTime ∧
      crypto.sha256 (bytesOf (canonicalRequest crypto left leftTime.toList)) =
        crypto.sha256 (bytesOf (canonicalRequest crypto right rightTime.toList)) := by
  have scopes : scope left leftDate.toList = scope right leftDate.toList := by
    rw [scope, scope, regions, services]
  simp only [stringToSign, List.intercalate_cons_cons, List.intercalate_singleton,
    List.append_assoc, List.singleton_append, scopes] at same
  obtain ⟨times, hashes⟩ := Fields.first_field timed alsoTimed
    (List.cons.inj (List.append_cancel_left same)).2
  have digests := (List.cons.inj (List.append_cancel_left hashes)).2
  exact ⟨String.toList_inj.mp times, flatMap_hexByte_injective digests⟩

/-- Where the hashes do not collide, two requests have one signature exactly when they agree in all
that is signed: not in the order of the query, nor in the space around the host or the token. -/
theorem signature_binds (leftTimed : timestamps left.seconds.toNat = some (leftDate, leftTime))
    (rightTimed : timestamps right.seconds.toNat = some (rightDate, rightTime))
    (leftClean : Clean left) (rightClean : Clean right)
    (uncollided : Uncollided crypto left right leftDate.toList leftTime.toList rightDate.toList
      rightTime.toList) :
    signature crypto left leftDate.toList leftTime.toList =
      signature crypto right rightDate.toList rightTime.toList ↔ Agree left right := by
  constructor
  · intro same
    rw [signature_eq, signature_eq] at same
    have long : (signedData crypto left leftDate.toList leftTime.toList).length =
        (signedData crypto right rightDate.toList rightTime.toList).length := rfl
    obtain ⟨keys, data⟩ := derived_injective long uncollided.keyed (flatMap_hexByte_injective same)
    have secrets := List.append_cancel_left (bytesOf_injective keys)
    simp only [signedData, List.cons.injEq, true_and, and_true] at data
    obtain ⟨dates, regions, services, texts⟩ := data
    have regions := bytesOf_injective regions
    have services := bytesOf_injective services
    have dates := String.toList_inj.mp (bytesOf_injective dates)
    subst dates
    obtain ⟨times, digests⟩ := stringToSign_injective (timestamps_clean leftTimed)
      (timestamps_clean rightTimed) regions services (bytesOf_injective texts)
    subst times
    have requests := bytesOf_injective (uncollided.requests digests)
    rw [canonicalRequest_lines, canonicalRequest_lines] at requests
    have whole := Fields.intercalate_injective
      (lines_clean leftClean (timestamps_clean leftTimed))
      (lines_clean rightClean (timestamps_clean rightTimed)) (by simp [lines]) (by simp [lines])
      requests
    obtain ⟨method, path, query, host, token, payload⟩ := agree_of_lines whole
    exact {
      method
      path
      query := canonicalQuery_eq_iff.mp query
      host
      token
      body := uncollided.bodies (flatMap_hexByte_injective payload)
      seconds := (timestamps_injective leftTimed rightTimed).1
      region := regions
      service := services
      secret := secrets }
  · intro agree
    rw [agree.seconds, rightTimed, Option.some.injEq, Prod.mk.injEq] at leftTimed
    have requests : canonicalRequest crypto left rightTime.toList =
        canonicalRequest crypto right rightTime.toList := by
      rw [canonicalRequest_lines, canonicalRequest_lines, lines_of_agree crypto agree]
    rw [← leftTimed.1, ← leftTimed.2]
    simp only [signature, signingKey, stringToSign, scope, requests, agree.secret, agree.region,
      agree.service]

end

def keptCrypto : Crypto where
  sha256 bytes := bytes
  hmac key data := List.replicate key.length 1 ++ 0 :: (key ++ data)

theorem keptCrypto_apart (left right : List (Bytes × Bytes)) : Apart keptCrypto.hmac left right := by
  intro call _ other _ same
  have ones (count : Nat) : (0 : UInt8) ∉ List.replicate count 1 :=
    fun inside => absurd (List.eq_of_mem_replicate inside) (by decide)
  obtain ⟨lengths, parts⟩ := Fields.first_field (ones _) (ones _) same
  have long := congrArg List.length lengths
  rw [List.length_replicate, List.length_replicate] at long
  obtain ⟨keys, data⟩ := List.append_inj parts long
  exact Prod.ext keys data

def describe (query : String) : Request where
  method := "GET".toList
  host := "ec2.us-east-1.amazonaws.com".toList
  path := "/?".toList ++ query.toList
  body := []
  accessKeyId := "AKIDEXAMPLE".toList
  secretAccessKey := "secret".toList
  sessionToken := some "TOKEN".toList
  region := "us-east-1".toList
  service := "ec2".toList
  seconds := 1440938160

theorem described_uncollided (query other : String) (leftDate leftTime rightDate rightTime : Text) :
    Uncollided keptCrypto (describe query) (describe other) leftDate leftTime rightDate rightTime where
  bodies same := same
  requests same := same
  keyed := keptCrypto_apart _ _

theorem reordered_same :
    signature keptCrypto (describe "b=2&a=1") "20150830".toList "20150830T123600Z".toList =
      signature keptCrypto (describe "a=1&b=2") "20150830".toList "20150830T123600Z".toList := by
  have timed (query : String) : timestamps (describe query).seconds.toNat =
      some ("20150830", "20150830T123600Z") := by
    have found : timestamps (1440938160 : UInt64).toNat =
      some ("20150830", "20150830T123600Z") := by decide +kernel
    exact found
  have method : '\n' ∉ "GET".toList := by decide
  have host : '\n' ∉ "ec2.us-east-1.amazonaws.com".toList := by decide
  have token : ∀ token ∈ some "TOKEN".toList, '\n' ∉ token := by decide
  have clean (query : String) (fits : '\n' ∉ "/?".toList ++ query.toList) : Clean (describe query) :=
    ⟨method, fits, host, token⟩
  refine (signature_binds (timed _) (timed _) (clean "b=2&a=1" (by decide))
    (clean "a=1&b=2" (by decide)) (described_uncollided _ _ _ _ _ _)).mpr ?_
  exact ⟨rfl, by decide, by decide, rfl, rfl, rfl, rfl, rfl, rfl, rfl⟩

end AetherMesh.Signing
