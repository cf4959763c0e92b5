import Mathlib.Data.List.TakeWhile
import MXNetOperator.Url.Escape

/-!
Contract: splitting a URL into its parts.

Owns `url.Parse` of the Go library for the parts a client is built from, the
scheme, the host with its port and the path, decoded and as it was written, with
every way it fails; query, fragment and user information are checked and
dropped.  A parsed host holds no delimiter, so after a scheme it is parsed as a
host again.  If it contains no percent sign it is plain and parses to itself;
otherwise the second parsing fails or makes it shorter.

Does not own the encoding of a URL back into text, its path apart.
-/

namespace MXNetOperator.Url

/-! ### Source functions -/

/-- The parts of a URL.  `opaqueText` is what follows the scheme of a URL like
`mailto:`; `rawPath` is empty where the default encoding of the path is meant. -/
structure URL where
  scheme : Bytes
  opaqueText : Bytes
  host : Bytes
  path : Bytes
  rawPath : Bytes
deriving DecidableEq

/-- `setPath`: the path and the raw path. -/
def setPath (text : Bytes) : Except ParseError (Bytes × Bytes) := do
  let path ← unescape .path text
  .ok (path, if text = escapePath path then [] else text)

/-- `EscapedPath`: the path a request to the URL carries. -/
def URL.escapedPath (url : URL) : Bytes :=
  if url.rawPath ≠ [] ∧ validEncodedPath url.rawPath ∧ unescape .path url.rawPath = .ok url.path then
    url.rawPath
  else if url.path = bytes "*" then bytes "*"
  else escapePath url.path

/-- The text before the last occurrence of a byte, and the text after it. -/
def splitLast (stop : UInt8) : Bytes → Option (Bytes × Bytes)
  | [] => none
  | byte :: rest =>
      match splitLast stop rest with
      | some (front, back) => some (byte :: front, back)
      | none => if byte = stop then some ([], rest) else none

/-- The text before the first occurrence of a pattern, and the text from there. -/
def splitInfix (pattern : Bytes) : Bytes → Option (Bytes × Bytes)
  | [] => none
  | byte :: rest =>
      if pattern.isPrefixOf (byte :: rest) then some ([], byte :: rest)
      else (splitInfix pattern rest).map fun split => (byte :: split.1, split.2)

def isSchemeByte (byte : UInt8) : Bool := isLetter byte || isDigit byte || oneOf "+-." byte

/-- `getscheme`. -/
def getScheme (raw : Bytes) : Except ParseError (Bytes × Bytes) :=
  match raw with
  | [] => .ok ([], raw)
  | first :: _ =>
      if first = colon then .error .missingScheme
      else if isLetter first then
        match raw.dropWhile isSchemeByte with
        | stop :: rest =>
            if stop = colon then .ok (raw.takeWhile isSchemeByte, rest) else .ok ([], raw)
        | [] => .ok ([], raw)
      else .ok ([], raw)

/-- `validOptionalPort`. -/
def validOptionalPort : Bytes → Bool
  | [] => true
  | byte :: digits => byte == colon && digits.all isDigit

def parseHost (host : Bytes) : Except ParseError Bytes :=
  if host.head? = some openBracket then
    match splitLast closeBracket host with
    | none => .error .missingBracket
    | some (inside, port) =>
        if validOptionalPort port then
          -- a zone identifier follows the first "%25"
          match splitInfix (bytes "%25") inside with
          | some (address, zone) => do
              let address ← unescape .host address
              let zone ← unescape .zone zone
              let rest ← unescape .host (closeBracket :: port)
              .ok (address ++ zone ++ rest)
          | none => unescape .host host
        else .error (.invalidPort port)
  else unescape .host host

/-- `validUserinfo`. -/
def validUserinfo (userinfo : Bytes) : Bool :=
  userinfo.all fun byte => isLetter byte || isDigit byte || oneOf "-._:~!$&'()*+,;=%@" byte

def parseAuthority (authority : Bytes) : Except ParseError Bytes :=
  match splitLast atSign authority with
  | none => parseHost authority
  | some (userinfo, rest) => do
      let host ← parseHost rest
      if validUserinfo userinfo then
        let _ ← unescape .userPassword (userinfo.takeWhile (· != colon))
        let _ ← unescape .userPassword ((userinfo.dropWhile (· != colon)).drop 1)
        .ok host
      else .error .invalidUserinfo

/-- The part of `parse` after the scheme and without the query. -/
def parseRest (scheme rest : Bytes) : Except ParseError URL :=
  if rest.head? ≠ some slash ∧ scheme ≠ [] then
    .ok ⟨scheme, rest, [], [], []⟩
  else if rest.head? ≠ some slash ∧ colon ∈ rest.takeWhile (· != slash) then
    .error .colonInFirstSegment
  else if (scheme ≠ [] ∨ (bytes "///").isPrefixOf rest = false) ∧ (bytes "//").isPrefixOf rest then do
    let host ← parseAuthority ((rest.drop 2).takeWhile (· != slash))
    let paths ← setPath ((rest.drop 2).dropWhile (· != slash))
    .ok ⟨scheme, [], host, paths.1, paths.2⟩
  else do
    let paths ← setPath rest
    .ok ⟨scheme, [], [], paths.1, paths.2⟩

/-- `parse`, for a text without a fragment. -/
def parseReference (raw : Bytes) : Except ParseError URL :=
  if raw = bytes "*" then .ok ⟨[], [], [], raw, []⟩
  else do
    let (scheme, rest) ← getScheme raw
    parseRest (scheme.map toLower) (rest.takeWhile (· != questionMark))

/-- `url.Parse`. -/
def parse (raw : Bytes) : Except ParseError URL := do
  let url ← parseReference (raw.takeWhile (· != numberSign))
  let _ ← unescape .fragment ((raw.dropWhile (· != numberSign)).drop 1)
  .ok url

example : parse (bytes "https://example.com:8443/notify") =
    .ok ⟨bytes "https", [], bytes "example.com:8443", bytes "/notify", []⟩ := by decide +kernel

example : parse (bytes "HTTP://u:p@[fe80::1%25en0]:80/a%20b?q#f") =
    .ok ⟨bytes "http", [], bytes "[fe80::1%en0]:80", bytes "/a b", []⟩ := by decide +kernel

example : parse (bytes "localhost:8080") =
    .ok ⟨bytes "localhost", bytes "8080", [], [], []⟩ := by decide +kernel

example : parse (bytes "https://example.com/a%2Fb") =
    .ok ⟨bytes "https", [], bytes "example.com", bytes "/a/b", bytes "/a%2Fb"⟩ := by decide +kernel

/-! ### Hosts -/

/-- A byte of a host that needs no escape. -/
def IsHostByte (byte : UInt8) : Prop := 128 ≤ byte.toNat ∨ shouldEscapeHost byte = false

theorem IsHostByte.accepted {byte : UInt8} (fits : IsHostByte byte) :
    refusesByte .host byte = false := by
  rcases fits with high | plain
  · simp [refusesByte, Nat.not_lt.mpr high]
  · simp [refusesByte, plain]

/-- Percent signs apart, escapes in a host stand for bytes outside ASCII. -/
theorem decoded_host_byte {high low : UInt8} (hexHigh : isHex high = true)
    (hexLow : isHex low = true) (accepted : refusesEscape .host high low = false) :
    UInt8.ofNat (unhex high * 16 + unhex low) = percent ∨
      128 ≤ (UInt8.ofNat (unhex high * 16 + unhex low)).toNat := by
  have highBound := unhex_lt hexHigh
  have lowBound := unhex_lt hexLow
  simp only [refusesEscape, Bool.and_eq_false_iff, decide_eq_false_iff_not, not_not] at accepted
  rcases accepted with large | same
  · right
    rw [UInt8.toNat_ofNat_of_lt' (by rw [UInt8.size]; omega)]
    omega
  · left
    obtain ⟨rfl, rest⟩ := List.cons.inj same
    obtain ⟨rfl, _⟩ := List.cons.inj rest
    decide

/-- The escapes of a zone add the space. -/
theorem decoded_zone_byte {high low : UInt8} (accepted : refusesEscape .zone high low = false) :
    UInt8.ofNat (unhex high * 16 + unhex low) = percent ∨
      UInt8.ofNat (unhex high * 16 + unhex low) = ' '.toUInt8 ∨
      IsHostByte (UInt8.ofNat (unhex high * 16 + unhex low)) := by
  simp only [refusesEscape, Bool.and_eq_false_iff, decide_eq_false_iff_not, not_not] at accepted
  rcases accepted with (same | blank) | plain
  · obtain ⟨rfl, rest⟩ := List.cons.inj same
    obtain ⟨rfl, _⟩ := List.cons.inj rest
    exact Or.inl (by decide)
  · exact Or.inr (Or.inl blank)
  · exact Or.inr (Or.inr (Or.inr plain))

/-- What decoded bytes are, from what literal and escaped bytes may be. -/
theorem unescape_forall {mode : Mode} {allowed : UInt8 → Prop}
    (literal : ∀ byte, byte ≠ percent → refusesByte mode byte = false → allowed byte)
    (escaped : ∀ high low, isHex high = true → isHex low = true →
      refusesEscape mode high low = false → allowed (UInt8.ofNat (unhex high * 16 + unhex low))) :
    ∀ {raw text : Bytes}, unescape mode raw = .ok text → ∀ byte ∈ text, allowed byte
  | [], text, decodes => by
      cases decodes
      simp
  | first :: raw, text, decodes => by
      intro byte member
      rcases unescape_cons decodes with
        ⟨rfl, high, low, tail, more, rfl, hexHigh, hexLow, accepted, decoded, rfl⟩ |
        ⟨notPercent, accepted, more, decoded, rfl⟩
      · rcases List.mem_cons.mp member with rfl | later
        · exact escaped high low hexHigh hexLow accepted
        · exact unescape_forall literal escaped decoded byte later
      · rcases List.mem_cons.mp member with rfl | later
        · exact literal byte notPercent accepted
        · exact unescape_forall literal escaped decoded byte later

theorem IsHostByte.of_accepted {byte : UInt8} (accepted : refusesByte .host byte = false) :
    IsHostByte byte := by
  simp only [refusesByte, Bool.and_eq_false_iff, decide_eq_false_iff_not, Nat.not_lt] at accepted
  exact accepted

theorem unescape_host_bytes {raw host : Bytes} (decodes : unescape .host raw = .ok host) :
    ∀ byte ∈ host, byte = percent ∨ IsHostByte byte := by
  refine unescape_forall (fun byte _ accepted => Or.inr (IsHostByte.of_accepted accepted)) ?_ decodes
  intro high low hexHigh hexLow accepted
  exact (decoded_host_byte hexHigh hexLow accepted).imp_right Or.inl

theorem unescape_zone_bytes {raw zone : Bytes} (decodes : unescape .zone raw = .ok zone) :
    ∀ byte ∈ zone, byte = percent ∨ byte = ' '.toUInt8 ∨ IsHostByte byte := by
  refine unescape_forall (fun byte _ accepted => Or.inr (Or.inr ?_)) ?_ decodes
  · exact IsHostByte.of_accepted accepted
  · intro high low _ _ accepted
    exact decoded_zone_byte accepted

/-- Only an open bracket decodes to one. -/
theorem head_of_unescape_host {raw host : Bytes} (decodes : unescape .host raw = .ok host)
    (bracketed : host.head? = some openBracket) : raw.head? = some openBracket := by
  cases raw with
  | nil =>
      cases decodes
      cases bracketed
  | cons byte raw =>
      rcases unescape_cons decodes with
        ⟨_, high, low, tail, more, _, hexHigh, hexLow, accepted, _, rfl⟩ | ⟨_, _, more, _, rfl⟩
      · have same : UInt8.ofNat (unhex high * 16 + unhex low) = openBracket :=
          Option.some.inj bracketed
        rcases decoded_host_byte hexHigh hexLow accepted with isPercent | outside
        · rw [isPercent] at same
          exact absurd same (by decide)
        · rw [same] at outside
          exact absurd outside (by decide)
      · exact bracketed

/-- A host that reads the same wherever it stands. -/
structure PlainHost (host : Bytes) : Prop where
  fits : ∀ byte ∈ host, IsHostByte byte
  bracket : host.head? = some openBracket →
    ∃ inside port, host = inside ++ closeBracket :: port ∧ validOptionalPort port = true

theorem PlainHost.not_mem {host : Bytes} (plain : PlainHost host) {byte : UInt8}
    (ascii : byte.toNat < 128) (escaped : shouldEscapeHost byte = true) : byte ∉ host := by
  intro member
  rcases plain.fits byte member with high | free
  · omega
  · rw [escaped] at free
    cases free

section Split

variable {stop : UInt8} {raw front back pattern : Bytes}

theorem splitLast_of_not_mem (free : stop ∉ raw) : splitLast stop raw = none := by
  induction raw with
  | nil => rfl
  | cons byte raw inductionHypothesis =>
      rw [splitLast, inductionHypothesis fun member => free (List.mem_cons_of_mem _ member)]
      exact if_neg fun same : byte = stop => free (same ▸ List.mem_cons_self)

theorem splitLast_append (free : stop ∉ back) :
    splitLast stop (front ++ stop :: back) = some (front, back) := by
  induction front with
  | nil =>
      rw [List.nil_append, splitLast, splitLast_of_not_mem free]
      exact if_pos rfl
  | cons byte front inductionHypothesis =>
      rw [List.cons_append, splitLast, inductionHypothesis]

theorem eq_append_of_splitLast (found : splitLast stop raw = some (front, back)) :
    raw = front ++ stop :: back := by
  induction raw generalizing front with
  | nil => cases found
  | cons byte raw inductionHypothesis =>
      rw [splitLast] at found
      split at found
      · rename_i inner innerBack later
        cases found
        rw [inductionHypothesis later, List.cons_append]
      · split at found
        · rename_i same
          cases found
          rw [same, List.nil_append]
        · cases found

theorem prefix_of_splitInfix (found : splitInfix pattern raw = some (front, back)) :
    pattern <+: back := by
  induction raw generalizing front with
  | nil => cases found
  | cons byte raw inductionHypothesis =>
      rw [splitInfix] at found
      split at found
      · rename_i starts
        cases found
        exact List.isPrefixOf_iff_prefix.mp starts
      · obtain ⟨split, later, same⟩ := Option.map_eq_some_iff.mp found
        cases same
        exact inductionHypothesis later

theorem splitInfix_of_not_mem {first : UInt8} {rest : Bytes} (free : first ∉ raw) :
    splitInfix (first :: rest) raw = none := by
  induction raw with
  | nil => rfl
  | cons byte raw inductionHypothesis =>
      have differs : (first :: rest).isPrefixOf (byte :: raw) = false := by
        have other : first ≠ byte := fun same => free (same ▸ List.mem_cons_self)
        simp [List.isPrefixOf, other]
      rw [splitInfix, differs,
        inductionHypothesis fun member => free (List.mem_cons_of_mem _ member)]
      rfl

end Split

theorem IsHostByte.of_digit {byte : UInt8} (digit : isDigit byte = true) : IsHostByte byte := by
  right
  simp [shouldEscapeHost, digit]

/-- The bytes of a port. -/
theorem of_validOptionalPort {port : Bytes} (valid : validOptionalPort port = true) :
    ∀ byte ∈ port, byte = colon ∨ isDigit byte = true := by
  intro byte member
  cases port with
  | nil => cases member
  | cons first digits =>
      simp only [validOptionalPort, Bool.and_eq_true, beq_iff_eq, List.all_eq_true] at valid
      rcases List.mem_cons.mp member with rfl | later
      · exact Or.inl valid.1
      · exact Or.inr (valid.2 byte later)

theorem not_mem_port {port : Bytes} {byte : UInt8} (valid : validOptionalPort port = true)
    (noColon : byte ≠ colon) (noDigit : isDigit byte = false) : byte ∉ port := by
  intro member
  rcases of_validOptionalPort valid byte member with same | digit
  · exact noColon same
  · rw [noDigit] at digit
    cases digit

/-- A bracket and a port decode to themselves. -/
theorem unescape_port {port : Bytes} (valid : validOptionalPort port = true) :
    unescape .host (closeBracket :: port) = .ok (closeBracket :: port) := by
  apply unescape_self
  intro byte member
  rcases List.mem_cons.mp member with rfl | inPort
  · decide
  · refine ⟨fun same => not_mem_port valid (by decide) (by decide) (same ▸ inPort), ?_⟩
    rcases of_validOptionalPort valid byte inPort with rfl | digit
    · decide
    · exact (IsHostByte.of_digit digit).accepted

/-- The escape that starts a zone leaves a percent sign. -/
theorem percent_mem_zone {zone decodedZone : Bytes} (marked : bytes "%25" <+: zone)
    (decodes : unescape .zone zone = .ok decodedZone) : percent ∈ decodedZone := by
  obtain ⟨rest, rfl⟩ := marked
  rcases unescape_cons decodes with ⟨_, high, low, tail, more, cut, _, _, _, _, rfl⟩ | ⟨literal, _⟩
  · obtain ⟨rfl, cutAgain⟩ := List.cons.inj cut
    obtain ⟨rfl, _⟩ := List.cons.inj cutAgain
    exact List.mem_cons_self
  · exact absurd rfl literal

theorem fits_of_free {raw host : Bytes} (decodes : unescape .host raw = .ok host)
    (free : percent ∉ host) : ∀ byte ∈ host, IsHostByte byte := by
  intro byte member
  exact (unescape_host_bytes decodes byte member).resolve_left fun same => free (same ▸ member)

/-- What `parseHost` accepts is plain unless it holds a percent sign. -/
theorem parseHost_plain {raw host : Bytes} (parsed : parseHost raw = .ok host)
    (free : percent ∉ host) : PlainHost host := by
  unfold parseHost at parsed
  split at parsed
  · split at parsed
    · cases parsed
    · rename_i inside port found
      split at parsed
      · rename_i valid
        split at parsed
        · -- a zone starts with an escaped percent sign
          rename_i address zone cut
          obtain ⟨decodedAddress, _, parsed⟩ := bind_eq_ok parsed
          obtain ⟨decodedZone, decodes, parsed⟩ := bind_eq_ok parsed
          obtain ⟨decodedPort, _, same⟩ := bind_eq_ok parsed
          have marked := percent_mem_zone (prefix_of_splitInfix cut) decodes
          rw [← Except.ok.inj same] at free
          exact absurd (List.mem_append_left _ (List.mem_append_right _ marked)) free
        · refine ⟨fits_of_free parsed free, fun _ => ?_⟩
          rw [eq_append_of_splitLast found] at parsed
          obtain ⟨first, second, _, decodedPort, same⟩ := unescape_append (by decide) parsed
          rw [unescape_port valid] at decodedPort
          exact ⟨first, port, by rw [same, ← Except.ok.inj decodedPort], valid⟩
      · cases parsed
  · rename_i unbracketed
    exact ⟨fits_of_free parsed free,
      fun bracketed => absurd (head_of_unescape_host parsed bracketed) unbracketed⟩

theorem parseHost_self {host : Bytes} (plain : PlainHost host) : parseHost host = .ok host := by
  have free : percent ∉ host := plain.not_mem (by decide) (by decide)
  have decoded : unescape .host host = .ok host := unescape_self fun byte member =>
    ⟨fun same => free (same ▸ member), (plain.fits byte member).accepted⟩
  unfold parseHost
  split
  · rename_i bracketed
    obtain ⟨inside, port, rfl, valid⟩ := plain.bracket bracketed
    rw [splitLast_append (not_mem_port valid (by decide) (by decide))]
    have outside : percent ∉ inside := fun member => free (List.mem_append_left _ member)
    simp only [valid, if_true]
    rw [show bytes "%25" = percent :: bytes "25" from rfl, splitInfix_of_not_mem outside]
    exact decoded
  · exact decoded

/-- A host without the bytes at which a URL is cut. -/
structure BareHost (host : Bytes) : Prop where
  noSlash : slash ∉ host
  noQuestion : questionMark ∉ host
  noNumber : numberSign ∉ host
  noAt : atSign ∉ host

theorem BareHost.of_bytes {host : Bytes}
    (loose : ∀ byte ∈ host, byte = percent ∨ byte = ' '.toUInt8 ∨ IsHostByte byte) :
    BareHost host := by
  have outside : ∀ stop : UInt8, stop ≠ percent → stop ≠ ' '.toUInt8 → stop.toNat < 128 →
      shouldEscapeHost stop = true → stop ∉ host := by
    intro stop notPercent notSpace ascii escaped member
    rcases loose stop member with same | same | high | free
    · exact notPercent same
    · exact notSpace same
    · omega
    · rw [escaped] at free
      cases free
  exact ⟨outside slash (by decide) (by decide) (by decide) (by decide),
    outside questionMark (by decide) (by decide) (by decide) (by decide),
    outside numberSign (by decide) (by decide) (by decide) (by decide),
    outside atSign (by decide) (by decide) (by decide) (by decide)⟩

theorem parseHost_bare {raw host : Bytes} (parsed : parseHost raw = .ok host) : BareHost host := by
  have loosen : ∀ {text decoded : Bytes}, unescape .host text = .ok decoded →
      ∀ byte ∈ decoded, byte = percent ∨ byte = ' '.toUInt8 ∨ IsHostByte byte :=
    fun decodes byte member => (unescape_host_bytes decodes byte member).imp_right Or.inr
  unfold parseHost at parsed
  split at parsed
  · split at parsed
    · cases parsed
    · split at parsed
      · split at parsed
        · obtain ⟨address, decodedAddress, parsed⟩ := bind_eq_ok parsed
          obtain ⟨zone, decodedZone, parsed⟩ := bind_eq_ok parsed
          obtain ⟨rest, decodedRest, same⟩ := bind_eq_ok parsed
          rw [← Except.ok.inj same]
          refine .of_bytes fun byte member => ?_
          rcases List.mem_append.mp member with front | inRest
          · rcases List.mem_append.mp front with inAddress | inZone
            · exact loosen decodedAddress byte inAddress
            · exact unescape_zone_bytes decodedZone byte inZone
          · exact loosen decodedRest byte inRest
        · exact .of_bytes (loosen parsed)
      · cases parsed
  · exact .of_bytes (loosen parsed)

theorem parseAuthority_bare {host : Bytes} (bare : BareHost host) :
    parseAuthority host = parseHost host := by
  rw [parseAuthority, splitLast_of_not_mem bare.noAt]

/-! #### A second parsing -/

theorem unescape_length_le {mode : Mode} : ∀ {raw text : Bytes},
    unescape mode raw = .ok text → text.length ≤ raw.length
  | [], text, decodes => by
      cases decodes
      exact Nat.le_refl _
  | first :: raw, text, decodes => by
      rcases unescape_cons decodes with
        ⟨rfl, high, low, tail, more, rfl, _, _, _, decoded, rfl⟩ | ⟨_, _, more, decoded, rfl⟩
      · have shorter := unescape_length_le decoded
        simp only [List.length_cons]
        omega
      · exact Nat.succ_le_succ (unescape_length_le decoded)

/-- Each percent sign that is decoded takes two digits with it. -/
theorem unescape_length_lt {mode : Mode} : ∀ {raw text : Bytes},
    unescape mode raw = .ok text → percent ∈ raw → text.length < raw.length
  | [], _, _, marked => absurd marked List.not_mem_nil
  | first :: raw, text, decodes, marked => by
      rcases unescape_cons decodes with
        ⟨rfl, high, low, tail, more, rfl, _, _, _, decoded, rfl⟩ |
        ⟨literal, _, more, decoded, rfl⟩
      · have shorter := unescape_length_le decoded
        simp only [List.length_cons]
        omega
      · have later := (List.mem_cons.mp marked).resolve_left fun same => literal same.symm
        exact Nat.succ_lt_succ (unescape_length_lt decoded later)

theorem append_of_splitInfix {pattern raw front back : Bytes}
    (found : splitInfix pattern raw = some (front, back)) : raw = front ++ back := by
  induction raw generalizing front with
  | nil => cases found
  | cons byte raw inductionHypothesis =>
      rw [splitInfix] at found
      split at found
      · cases found
        rfl
      · obtain ⟨split, later, same⟩ := Option.map_eq_some_iff.mp found
        cases same
        rw [List.cons_append, ← inductionHypothesis later]

/-- A host with a percent sign does not parse to itself. -/
theorem parseHost_shorter {host found : Bytes} (parsed : parseHost host = .ok found)
    (marked : percent ∈ host) : found.length < host.length := by
  unfold parseHost at parsed
  split at parsed
  · split at parsed
    · cases parsed
    · rename_i inside port split
      split at parsed
      · split at parsed
        · rename_i address zone cut
          obtain ⟨decodedAddress, addressDecodes, parsed⟩ := bind_eq_ok parsed
          obtain ⟨decodedZone, zoneDecodes, parsed⟩ := bind_eq_ok parsed
          obtain ⟨decodedRest, restDecodes, same⟩ := bind_eq_ok parsed
          have inZone : percent ∈ zone :=
            (prefix_of_splitInfix cut).subset List.mem_cons_self
          have first := unescape_length_le addressDecodes
          have second := unescape_length_lt zoneDecodes inZone
          have third := unescape_length_le restDecodes
          rw [← Except.ok.inj same, eq_append_of_splitLast split, append_of_splitInfix cut]
          simp only [List.length_append, List.length_cons] at third ⊢
          omega
        · exact unescape_length_lt parsed marked
      · cases parsed
  · exact unescape_length_lt parsed marked

theorem parseAuthority_host {authority host : Bytes} (parsed : parseAuthority authority = .ok host) :
    ∃ raw, parseHost raw = .ok host := by
  unfold parseAuthority at parsed
  split at parsed
  · exact ⟨_, parsed⟩
  · obtain ⟨value, parsedHost, rest⟩ := bind_eq_ok parsed
    split at rest
    · obtain ⟨_, _, rest⟩ := bind_eq_ok rest
      obtain ⟨_, _, same⟩ := bind_eq_ok rest
      cases same
      exact ⟨_, parsedHost⟩
    · cases rest

/-! ### URLs -/

section Whole

variable {raw host : Bytes} {url : URL}

/-- The path as it was written. -/
def URL.pathText (url : URL) : Bytes :=
  if url.rawPath = [] then escapePath url.path else url.rawPath

theorem pathText_of_setPath {text : Bytes} (set : setPath text = .ok (url.path, url.rawPath)) :
    url.pathText = text ∧ unescape .path text = .ok url.path := by
  obtain ⟨path, decodes, same⟩ := bind_eq_ok set
  obtain ⟨rfl, kept⟩ := Prod.mk.inj (Except.ok.inj same)
  refine ⟨?_, decodes⟩
  unfold URL.pathText
  rw [← kept]
  by_cases default : text = escapePath url.path
  · rw [if_pos default, if_pos rfl, default]
  · have written : text ≠ [] := by
      rintro rfl
      have empty : [] = url.path := Except.ok.inj decodes
      exact default (by rw [← empty]; rfl)
    rw [if_neg default, if_neg written]

/-- What parsing says of a URL with a host: the host was read as one, and the
path is what its text decodes to. -/
structure Located (url : URL) : Prop where
  host : ∃ raw, parseHost raw = .ok url.host
  path : unescape .path url.pathText = .ok url.path

theorem parseRest_located {scheme rest : Bytes} (parsed : parseRest scheme rest = .ok url)
    (hosted : url.host ≠ []) : Located url := by
  unfold parseRest at parsed
  split at parsed
  · cases parsed
    exact absurd rfl hosted
  · split at parsed
    · cases parsed
    · split at parsed
      · obtain ⟨host, parsedAuthority, parsed⟩ := bind_eq_ok parsed
        obtain ⟨paths, set, same⟩ := bind_eq_ok parsed
        have parts := Except.ok.inj same
        subst parts
        obtain ⟨written, decodes⟩ :=
          @pathText_of_setPath ⟨scheme, [], host, paths.1, paths.2⟩ _ set
        exact ⟨parseAuthority_host parsedAuthority, written ▸ decodes⟩
      · obtain ⟨_, _, same⟩ := bind_eq_ok parsed
        cases same
        exact absurd rfl hosted

theorem parse_located (parsed : parse raw = .ok url) (hosted : url.host ≠ []) : Located url := by
  obtain ⟨reference, parsed, rest⟩ := bind_eq_ok parsed
  obtain ⟨_, _, same⟩ := bind_eq_ok rest
  cases same
  unfold parseReference at parsed
  split at parsed
  · cases parsed
    exact absurd rfl hosted
  · obtain ⟨split, _, parsed⟩ := bind_eq_ok parsed
    exact parseRest_located parsed hosted

theorem takeWhile_ne_self {stop : UInt8} (free : stop ∉ raw) :
    raw.takeWhile (· != stop) = raw := by
  rw [List.takeWhile_eq_self_iff]
  intro byte member
  rw [bne_iff_ne]
  exact fun same => free (same ▸ member)

theorem dropWhile_ne_nil {stop : UInt8} (free : stop ∉ raw) :
    raw.dropWhile (· != stop) = [] := by
  rw [List.dropWhile_eq_nil_iff]
  intro byte member
  rw [bne_iff_ne]
  exact fun same => free (same ▸ member)

/-- Without a fragment to check, a URL is what its reference is. -/
theorem parse_eq_parseReference (free : numberSign ∉ raw) : parse raw = parseReference raw := by
  rw [parse, takeWhile_ne_self free, dropWhile_ne_nil free]
  cases parseReference raw <;> rfl

/-- After a scheme a host without delimiters is parsed as the host. -/
theorem parse_scheme_host {scheme : Bytes} (named : scheme = bytes "http" ∨ scheme = bytes "https")
    (bare : BareHost host) :
    parse (scheme ++ bytes "://" ++ host) =
      (parseHost host).map fun found => ⟨scheme, [], found, [], []⟩ := by
  have query : (slash :: slash :: host).takeWhile (· != questionMark) = slash :: slash :: host := by
    apply takeWhile_ne_self
    simp only [List.mem_cons, not_or]
    exact ⟨by decide, by decide, bare.noQuestion⟩
  have rest : parseRest scheme (slash :: slash :: host) =
      (parseHost host).map fun found => ⟨scheme, [], found, [], []⟩ := by
    have some : scheme ≠ [] := by
      rcases named with rfl | rfl <;> decide
    have double : (bytes "//").isPrefixOf (slash :: slash :: host) = true := by
      rfl
    rw [parseRest, if_neg (by simp), if_neg (by simp), if_pos ⟨Or.inl some, double⟩]
    show (parseAuthority (host.takeWhile (· != slash)) >>= fun found =>
      setPath (host.dropWhile (· != slash)) >>= fun paths =>
        (.ok ⟨scheme, [], found, paths.1, paths.2⟩ : Except ParseError URL)) = _
    rw [takeWhile_ne_self bare.noSlash, dropWhile_ne_nil bare.noSlash, parseAuthority_bare bare]
    cases parseHost host <;> rfl
  have cut : getScheme (scheme ++ bytes "://" ++ host) = .ok (scheme, slash :: slash :: host) := by
    rcases named with rfl | rfl <;> rfl
  have lower : scheme.map toLower = scheme := by
    rcases named with rfl | rfl <;> decide
  have notStar : scheme ++ bytes "://" ++ host ≠ bytes "*" := by
    rcases named with rfl | rfl <;> exact fun same => absurd (List.cons.inj same).1 (by decide)
  have noFragment : numberSign ∉ scheme ++ bytes "://" ++ host := by
    have inScheme : numberSign ∉ scheme ++ bytes "://" := by
      rcases named with rfl | rfl <;> decide
    exact fun member => (List.mem_append.mp member).elim inScheme bare.noNumber
  rw [parse_eq_parseReference noFragment, parseReference, if_neg notStar, cut]
  show parseRest (scheme.map toLower) ((slash :: slash :: host).takeWhile (· != questionMark)) = _
  rw [lower, query, rest]

/-- Without a slash there is no host. -/
theorem parseRest_host {scheme rest : Bytes} (free : slash ∉ rest)
    (parsed : parseRest scheme rest = .ok url) : url.host = [] := by
  unfold parseRest at parsed
  split at parsed
  · cases parsed
    rfl
  · split at parsed
    · cases parsed
    · split at parsed
      · rename_i double
        obtain ⟨tail, rfl⟩ := List.isPrefixOf_iff_prefix.mp double.2
        exact absurd List.mem_cons_self free
      · obtain ⟨_, _, same⟩ := bind_eq_ok parsed
        cases same
        rfl

theorem suffix_of_getScheme {scheme rest : Bytes} (cut : getScheme raw = .ok (scheme, rest)) :
    rest <:+ raw := by
  unfold getScheme at cut
  split at cut
  · cases cut
    exact List.suffix_refl _
  · split at cut
    · cases cut
    · split at cut
      · split at cut
        · rename_i stop tail dropped
          split at cut
          · cases cut
            exact (List.suffix_cons stop _).trans (dropped ▸ List.dropWhile_suffix _)
          · cases cut
            exact List.suffix_refl _
        · cases cut
          exact List.suffix_refl _
      · cases cut
        exact List.suffix_refl _

/-- A host alone has no host part. -/
theorem parse_host_alone (bare : BareHost host) (parsed : parse host = .ok url) :
    url.host = [] := by
  rw [parse_eq_parseReference bare.noNumber] at parsed
  unfold parseReference at parsed
  split at parsed
  · cases parsed
    rfl
  · obtain ⟨⟨scheme, rest⟩, cut, parsed⟩ := bind_eq_ok parsed
    refine parseRest_host (fun member => bare.noSlash ?_) parsed
    exact (suffix_of_getScheme cut).subset (List.takeWhile_subset _ member)

end Whole

end MXNetOperator.Url
