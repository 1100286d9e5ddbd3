import WalletTopUp.Http.Endpoint
import WalletTopUp.Proofs.Url.Resolve

/-!
# Where messages go

The path of an endpoint consists of names that stand for themselves and of encoded arguments
(`Http.Part`).  A message always goes to the host of the service, and it goes to the place of its
parts unless an argument is `.` or `..`, which are names for places and are not changed by encoding
(`Http.Part.hasPath_iff`).
-/

namespace WalletTopUp

namespace Http

/-! ## Parts of paths -/

/-- A part of a path. -/
inductive Part where
  /-- A name that stands for itself. -/
  | fixed (name : String)
  /-- An argument, which is encoded. -/
  | argument (text : String)

namespace Part

variable {part : Part} {parts : List Part} {url base : Url} {old : List (List Char)}

/-- How a part is written. -/
def spelled : Part → List Char
  | fixed name => name.toList
  | argument text => Text.encodePart text

/-- The path of parts. -/
def written (parts : List Part) : List Char := Url.pathChars (.segments (parts.map spelled))

/-- Whether a name of a path means a part. -/
def Means : Part → List Char → Prop
  | fixed expected, name => name = expected.toList
  | argument text, name => Text.percentDecode name = Text.utf8 text.toList

/-- Whether a part is an argument that consists of one or two points. -/
def isDots : Part → Bool
  | fixed _ => false
  | argument text => text == "." || text == ".."

/-- Whether a part needs no encoding and is no name made of points, or is an argument. -/
def isSound : Part → Bool
  | fixed name => name.toList.all Text.isUnreserved && !Url.isDots name.toList
  | argument _ => true

/-- The path of an address has a name for each part, in order, and no others. -/
def HasPath (url : Url) (parts : List Part) : Prop :=
  ∃ names, url.path = .segments names ∧ List.Forall₂ Means parts names

/-- A part that is spelled means what it stands for. -/
theorem means_spelled (part : Part) : part.Means part.spelled := by
  cases part with
  | fixed name => exact rfl
  | argument text => exact Text.percentDecode_encodePart text

/-- What is spelled has no character that an address would read as anything but part of a name. -/
theorem isPart_of_mem_spelled (sound : part.isSound = true) :
    ∀ c ∈ part.spelled, Text.IsPart c := by
  cases part with
  | fixed name =>
      intro c member
      have plain := (Bool.and_eq_true_iff.mp sound).1
      exact .inl (List.all_eq_true.mp plain c member)
  | argument text => exact Text.isPart_of_mem_encodePart

/-- Encoding makes no name of points, and leaves those that there are. -/
theorem isDots_spelled (sound : part.isSound = true) :
    Url.isDots part.spelled = part.isDots := by
  cases part with
  | fixed name =>
      have apart := (Bool.and_eq_true_iff.mp sound).2
      rw [Bool.not_eq_true'] at apart
      exact apart
  | argument text =>
      apply Bool.eq_iff_iff.mpr
      constructor
      · intro dots
        have decoded := Url.percentDecode_of_isDots
          (fun c member => (Text.isPart_of_mem_encodePart c member).ascii) dots
        rw [Text.percentDecode_encodePart] at decoded
        rcases decoded with single | double
        · have same : text.toList = ".".toList := Text.utf8_injective single
          rw [isDots, String.toList_injective same]
          decide
        · have same : text.toList = "..".toList := Text.utf8_injective double
          rw [isDots, String.toList_injective same]
          decide
      · intro dots
        rcases Bool.or_eq_true_iff.mp dots with same | same
        · rw [beq_iff_eq.mp same]
          decide
        · rw [beq_iff_eq.mp same]
          decide

/-- A part that consists of points is not meant by an empty name. -/
theorem not_means_nil (dots : part.isDots = true) : ¬part.Means [] := by
  cases part with
  | fixed name => cases dots
  | argument text =>
      intro empty
      rcases Bool.or_eq_true_iff.mp dots with same | same
      · rw [beq_iff_eq.mp same] at empty
        cases empty
      · rw [beq_iff_eq.mp same] at empty
        cases empty

/-- Parts that have a name each keep it from being followed as points. -/
theorem isDots_eq_false_of_means (sound : ∀ part ∈ parts, part.isSound = true)
    (means : List.Forall₂ Means parts (Url.follow List.dropLast [] (parts.map spelled))) :
    ∀ part ∈ parts, part.isDots = false := by
  intro part member
  by_contra points
  have dots : ∃ name ∈ parts.map spelled, Url.isDots name = true := by
    refine ⟨part.spelled, List.mem_map_of_mem member, ?_⟩
    rw [isDots_spelled (sound part member)]
    exact Bool.of_not_eq_false points
  rcases Url.follow_of_dots [] dots with shorter | ⟨⟨last, ends, lastDots⟩, empty⟩
  · rw [← means.length_eq, List.length_map, List.length_nil, Nat.zero_add] at shorter
    exact Nat.lt_irrefl _ shorter
  · -- The last name is empty, and the last part consists of points.
    obtain ⟨front, whole⟩ := List.getLast?_eq_some_iff.mp empty
    rw [List.getLast?_map] at ends
    obtain ⟨final, endsWith, rfl⟩ := Option.map_eq_some_iff.mp ends
    obtain ⟨others, rfl⟩ := List.getLast?_eq_some_iff.mp endsWith
    rw [whole, ← List.forall₂_reverse_iff, List.reverse_append, List.reverse_append] at means
    have finalSound := sound final (List.mem_append_right _ List.mem_cons_self)
    rw [isDots_spelled finalSound] at lastDots
    cases means with
    | cons meansLast _ => exact not_means_nil lastDots meansLast

/-- **The place to which the names of parts lead is the place of the parts unless one of them
consists of points.** -/
theorem hasPath_iff (sound : ∀ part ∈ parts, part.isSound = true)
    (path : url.path = .segments (Url.follow List.dropLast [] (parts.map spelled))) :
    HasPath url parts ↔ ∀ part ∈ parts, part.isDots = false := by
  constructor
  · rintro ⟨names, same, means⟩
    obtain rfl := UrlPath.segments.inj (same.symm.trans path)
    exact isDots_eq_false_of_means sound means
  · intro plain
    refine ⟨parts.map spelled, ?_, ?_⟩
    · rw [path, Url.follow_of_plain, List.nil_append]
      intro name member
      obtain ⟨part, inside, rfl⟩ := List.mem_map.mp member
      rw [isDots_spelled (sound part inside)]
      exact plain part inside
    · rw [List.forall₂_map_right_iff, List.forall₂_same]
      exact fun part _ => means_spelled part

/-- A name means one argument only. -/
theorem argument_of_means {text other : String} {name : List Char}
    (means : (argument text).Means name) (meansOther : (argument other).Means name) :
    text = other :=
  String.toList_injective (Text.utf8_injective (means.symm.trans meansOther))

/-- Parts of one path mean the same names. -/
theorem shared_of_hasPath {others : List Part} (first : HasPath url parts)
    (second : HasPath url others) :
    List.Forall₂ (fun part other => ∃ name, part.Means name ∧ other.Means name) parts others := by
  obtain ⟨names, path, means⟩ := first
  obtain ⟨sameNames, samePath, meansOther⟩ := second
  obtain rfl := UrlPath.segments.inj (path.symm.trans samePath)
  clear path samePath
  induction means generalizing others with
  | nil =>
      cases meansOther
      exact .nil
  | cons partMeans _ ih =>
      cases meansOther with
      | cons otherMeans rest => exact .cons ⟨_, partMeans, otherMeans⟩ (ih rest)

end Part

/-! ## Addresses of web services -/

/-- A web address goes by one of two schemes. -/
theorem scheme_of_isWeb {url : Url} (web : url.isWeb = true) :
    url.scheme = ['h', 't', 't', 'p'] ∨ url.scheme = ['h', 't', 't', 'p', 's'] := by
  rcases Bool.or_eq_true_iff.mp web with plain | secure
  · exact .inl (beq_iff_eq.mp plain)
  · exact .inr (beq_iff_eq.mp secure)

/-- A web address is no file. -/
theorem scheme_ne_file {url : Url} (web : url.isWeb = true) :
    url.scheme ≠ ['f', 'i', 'l', 'e'] := by
  rcases scheme_of_isWeb web with scheme | scheme
  · rw [scheme]
    decide
  · rw [scheme]
    decide

/-- The address of a web service has places. -/
theorem segments_of_parse? {text : String} {base : Url}
    (parsed : Url.parse? text = some base)
    (web : base.isWeb = true) : ∃ names, base.path = .segments names := by
  simp only [Url.parse?, Option.bind_eq_bind, Option.bind_eq_some_iff] at parsed
  obtain ⟨⟨scheme, rest⟩, _, ⟨authority, path⟩, placed, same⟩ := parsed
  obtain rfl := Option.some.inj same
  have noFile : (scheme == ['f', 'i', 'l', 'e']) = false := beq_false_of_ne (scheme_ne_file web)
  have special : Url.isSpecial scheme = true := by
    rcases scheme_of_isWeb web with plain | secure
    · obtain rfl : scheme = ['h', 't', 't', 'p'] := plain
      decide
    · obtain rfl : scheme = ['h', 't', 't', 'p', 's'] := secure
      decide
  simp only [Url.hierarchy?, noFile, special, Bool.false_eq_true, if_false, if_true,
    Option.map_eq_some_iff] at placed
  obtain ⟨_, _, same⟩ := placed
  obtain ⟨_, rfl⟩ := Prod.mk.inj same
  exact ⟨_, rfl⟩

namespace Endpoint

variable {endpoint : Endpoint} {base : Url} {old : List (List Char)} {part : Part}
  {parts : List Part}

/-- There is a message for an endpoint, which goes to the host of an address, and exactly under a
condition it goes to the place of parts. -/
def GoesTo (endpoint : Endpoint) (base : Url) (parts : List Part) (condition : Prop) : Prop :=
  ∃ message, endpoint.message base = .ok message
    ∧ message.url.scheme = base.scheme ∧ message.url.authority = base.authority
    ∧ (Part.HasPath message.url parts ↔ condition)

/-- **A message goes to the place of its parts unless an argument consists of points.** -/
theorem goesTo_of_parts (web : base.isWeb = true)
    (places : base.path = .segments old)
    (written : endpoint.path = Part.written (part :: parts))
    (sound : ∀ other ∈ part :: parts, other.isSound = true) :
    endpoint.GoesTo base (part :: parts) (∀ other ∈ part :: parts, other.isDots = false) := by
  have plain : Url.ArePlain ((part :: parts).map Part.spelled) := by
    intro name member
    obtain ⟨other, inside, rfl⟩ := List.mem_map.mp member
    exact Part.isPart_of_mem_spelled (sound other inside)
  have resolved := Url.resolve?_pathChars places (scheme_ne_file web) plain
  rw [← List.map_cons, ← Part.written, ← written] at resolved
  obtain ⟨place, found, scheme, authority, path⟩ : ∃ place, base.resolve? endpoint.path = some place
      ∧ place.scheme = base.scheme ∧ place.authority = base.authority
      ∧ place.path = .segments (Url.follow List.dropLast [] ((part :: parts).map Part.spelled)) :=
    ⟨_, resolved, rfl, rfl, rfl⟩
  obtain ⟨sameScheme, sameAuthority, samePath⟩ := Url.withPairs_eq place endpoint.query
  have still : (place.withPairs endpoint.query).isWeb = true := by
    rw [Url.isWeb, sameScheme, scheme]
    exact web
  refine ⟨⟨endpoint.method, place.withPairs endpoint.query, endpoint.body⟩, ?_, ?_, ?_, ?_⟩
  · simp only [message, found, still, if_true]
  · exact sameScheme.trans scheme
  · exact sameAuthority.trans authority
  · exact Part.hasPath_iff sound (samePath.trans path)

/-! ## Transactions and quotes -/

/-- The parts of the place of a transaction. -/
def transactionParts (uid : String) : List Part :=
  [.fixed "broker", .fixed "8.20200815", .fixed "gateways", .fixed "adyen_v2",
    .fixed "transactions", .argument uid]

/-- The parts of the place of a quote. -/
def quoteParts (currency value : String) : List Part :=
  [.fixed "broker", .fixed "8.20180518", .fixed "exchanges", .argument currency,
    .fixed "convert", .argument value]

/-- Parts are written one after another. -/
theorem written_append (first second : List Part) :
    Part.written (first ++ second) = Part.written first ++ Part.written second := by
  simp only [Part.written, Url.pathChars, List.map_append, List.flatMap_append]

/-- An argument is encoded after a slash. -/
theorem written_argument (text : String) :
    Part.written [.argument text] = '/' :: Text.encodePart text := List.append_nil _

/-- The path of a transaction is written from its parts. -/
theorem path_transaction (uid : String) :
    transactionPath uid = Part.written (transactionParts uid) := by
  have front : gateway ++ "/transactions/".toList
      = Part.written [.fixed "broker", .fixed "8.20200815", .fixed "gateways", .fixed "adyen_v2",
          .fixed "transactions"] ++ ['/'] := by decide +kernel
  rw [transactionPath, front, List.append_assoc, List.singleton_append, ← written_argument,
    ← written_append]
  rfl

/-- The path of a quote is written from its parts. -/
theorem path_quote (currency value : String) (target : Option String) :
    (quote currency value target).path = Part.written (quoteParts currency value) := by
  have front : "/broker/8.20180518/exchanges/".toList
      = Part.written [.fixed "broker", .fixed "8.20180518", .fixed "exchanges"] ++ ['/'] := by
    decide +kernel
  have middle : "/convert/".toList = Part.written [.fixed "convert"] ++ ['/'] := by decide +kernel
  have parts : quoteParts currency value
      = [Part.fixed "broker", .fixed "8.20180518", .fixed "exchanges"] ++ ([Part.argument currency]
          ++ ([Part.fixed "convert"] ++ [Part.argument value])) := rfl
  rw [parts, written_append, written_append, written_append, written_argument, written_argument]
  simp only [quote, front, middle, List.append_assoc, List.nil_append, List.cons_append]

/-- The fixed parts of a transaction's path need no encoding. -/
theorem sound_transactionParts (uid : String) :
    ∀ part ∈ transactionParts uid, part.isSound = true :=
  List.all_eq_true.mp rfl

/-- The fixed parts of a quote's path need no encoding. -/
theorem sound_quoteParts (currency value : String) :
    ∀ part ∈ quoteParts currency value, part.isSound = true :=
  List.all_eq_true.mp rfl

/-- Only an id of one or two points is taken for a step in the path of a transaction. -/
theorem noDots_transactionParts (uid : String) :
    (∀ part ∈ transactionParts uid, part.isDots = false) ↔ uid ≠ "." ∧ uid ≠ ".." := by
  simp [transactionParts, Part.isDots]

/-- Only a currency or a value of one or two points is taken for a step in the path of a quote. -/
theorem noDots_quoteParts (currency value : String) :
    (∀ part ∈ quoteParts currency value, part.isDots = false)
      ↔ (currency ≠ "." ∧ currency ≠ "..") ∧ value ≠ "." ∧ value ≠ ".." := by
  simp [quoteParts, Part.isDots]

/-- What goes to the path of a transaction goes to the place of the transaction unless its name
consists of points. -/
theorem goesTo_transaction {uid : String} (web : base.isWeb = true)
    (places : base.path = .segments old)
    (path : endpoint.path = transactionPath uid) :
    endpoint.GoesTo base (transactionParts uid) (uid ≠ "." ∧ uid ≠ "..") := by
  rw [← noDots_transactionParts]
  exact goesTo_of_parts web places (path.trans (path_transaction uid)) (sound_transactionParts uid)

/-- A request for a quote goes to its path exactly if neither argument is taken for a step. -/
theorem goesTo_quote (web : base.isWeb = true) (places : base.path = .segments old)
    (currency value : String) (target : Option String) :
    (quote currency value target).GoesTo base (quoteParts currency value)
      ((currency ≠ "." ∧ currency ≠ "..") ∧ value ≠ "." ∧ value ≠ "..") := by
  rw [← noDots_quoteParts]
  exact goesTo_of_parts web places (path_quote currency value target)
    (sound_quoteParts currency value)

/-- **A request goes to what it asks about**, at the host of the service, unless an argument is `.`
or `..`; and no place is the place of two transactions or of two quotes. -/
theorem addressed_iff {text : String} {base : Url}
    (parsed : Url.parse? text = some base) (web : base.isWeb = true) :
    (∀ uid wallet,
        (transaction uid wallet).GoesTo base (transactionParts uid) (uid ≠ "." ∧ uid ≠ ".."))
    ∧ (∀ uid wallet details data,
        (redirect uid wallet details data).GoesTo base (transactionParts uid)
          (uid ≠ "." ∧ uid ≠ ".."))
    ∧ (∀ currency value target,
        (quote currency value target).GoesTo base (quoteParts currency value)
          ((currency ≠ "." ∧ currency ≠ "..") ∧ value ≠ "." ∧ value ≠ ".."))
    ∧ (∀ url uid other, Part.HasPath url (transactionParts uid) →
        Part.HasPath url (transactionParts other) → uid = other)
    ∧ (∀ url currency value otherCurrency otherValue, Part.HasPath url (quoteParts currency value) →
        Part.HasPath url (quoteParts otherCurrency otherValue) →
        currency = otherCurrency ∧ value = otherValue) := by
  obtain ⟨old, places⟩ := segments_of_parse? parsed web
  refine ⟨?_, ?_, ?_, ?_, ?_⟩
  · intro uid wallet
    exact goesTo_transaction web places rfl
  · intro uid wallet details data
    exact goesTo_transaction web places rfl
  · exact goesTo_quote web places
  · intro url uid other first second
    have shared := Part.shared_of_hasPath first second
    simp only [transactionParts, List.forall₂_cons] at shared
    obtain ⟨_, _, _, _, _, ⟨name, means, meansOther⟩, _⟩ := shared
    exact Part.argument_of_means means meansOther
  · intro url currency value otherCurrency otherValue first second
    have shared := Part.shared_of_hasPath first second
    simp only [quoteParts, List.forall₂_cons] at shared
    obtain ⟨_, _, _, ⟨_, meansFirst, meansSecond⟩, _, ⟨_, means, meansOther⟩, _⟩ := shared
    exact ⟨Part.argument_of_means meansFirst meansSecond, Part.argument_of_means means meansOther⟩

theorem addressed_iff_of_slashes : ∃ base message,
    Url.parse? "https://pay.example.com:8443/api/" = some base ∧ base.isWeb = true
      ∧ (transaction "a/../b?ü" "0xw").message base = .ok message
      ∧ Part.HasPath message.url (transactionParts "a/../b?ü") := by
  have checked : ∃ base ∈ Url.parse? "https://pay.example.com:8443/api/", base.isWeb = true := by
    decide +kernel
  obtain ⟨base, parsed, web⟩ := checked
  obtain ⟨message, made, _, _, place⟩ := (addressed_iff parsed web).1 "a/../b?ü" "0xw"
  exact ⟨base, message, parsed, web, made, place.mpr (by decide +kernel)⟩

/-- **Two points leave the transactions**, and two quotes that are asked for with points go to one
place. -/
theorem two_points_leave_transactions : ∃ base,
    Url.parse? "http://services.test" = some base ∧ base.isWeb = true
      ∧ (∃ message, (transaction ".." "0xw").message base = .ok message
        ∧ message.url.target = "/broker/8.20200815/gateways/adyen_v2/?wallet.address=0xw"
        ∧ ¬Part.HasPath message.url (transactionParts ".."))
      ∧ ∃ message other, (quote "." "." none).message base = .ok message
        ∧ (quote "convert" ".." none).message base = .ok other ∧ message.url = other.url := by
  have checked : ∃ base ∈ Url.parse? "http://services.test", base.isWeb = true
      ∧ ((transaction ".." "0xw").message base).toOption.map (fun message => message.url.target)
          = some "/broker/8.20200815/gateways/adyen_v2/?wallet.address=0xw"
      ∧ ((quote "." "." none).message base).toOption.map Message.url
          = ((quote "convert" ".." none).message base).toOption.map Message.url := by
    decide +kernel
  obtain ⟨base, parsed, web, target, same⟩ := checked
  obtain ⟨old, places⟩ := segments_of_parse? parsed web
  refine ⟨base, parsed, web, ?_, ?_⟩
  · obtain ⟨message, made, _, _, place⟩ :=
      goesTo_transaction web places (rfl : (transaction ".." "0xw").path = transactionPath "..")
    rw [made] at target
    refine ⟨message, made, Option.some.inj target, ?_⟩
    rw [place]
    exact fun apart => apart.2 rfl
  · obtain ⟨message, made, _⟩ := goesTo_quote web places "." "." none
    obtain ⟨other, madeOther, _⟩ := goesTo_quote web places "convert" ".." none
    rw [made, madeOther] at same
    exact ⟨message, other, made, madeOther, Option.some.inj same⟩

end Endpoint

end Http

end WalletTopUp
