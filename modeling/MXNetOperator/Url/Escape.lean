import Mathlib.Data.List.Forall2
import MXNetOperator.Url.Path

/-!
Contract: percent encoding.

Owns `unescape` of the Go library in all modes a URL is parsed with, with every
way it fails, and for paths `escape` and `validEncodedPath`.  The default
encoding of a path decodes to it.  An encoded path means the list of its
segments, each decoded: a slash that is escaped belongs to its segment, and is a
separator like any other once the path is decoded as a whole.
-/

namespace MXNetOperator.Url

/-! ### Bytes -/

def colon : UInt8 := ':'.toUInt8

def percent : UInt8 := '%'.toUInt8

def questionMark : UInt8 := '?'.toUInt8

def numberSign : UInt8 := '#'.toUInt8

def atSign : UInt8 := '@'.toUInt8

def openBracket : UInt8 := '['.toUInt8

def closeBracket : UInt8 := ']'.toUInt8

def within (first last : Char) (byte : UInt8) : Bool :=
  first.toNat ≤ byte.toNat && byte.toNat ≤ last.toNat

def isLetter (byte : UInt8) : Bool := within 'a' 'z' byte || within 'A' 'Z' byte

def isDigit (byte : UInt8) : Bool := within '0' '9' byte

def isHex (byte : UInt8) : Bool := isDigit byte || within 'a' 'f' byte || within 'A' 'F' byte

def unhex (byte : UInt8) : Nat :=
  if isDigit byte then byte.toNat - '0'.toNat
  else if within 'a' 'f' byte then byte.toNat - 'a'.toNat + 10
  else byte.toNat - 'A'.toNat + 10

def toLower (byte : UInt8) : UInt8 := if within 'A' 'Z' byte then byte + 32 else byte

/-- Whether a byte is one of the characters of a text. -/
def oneOf (text : String) (byte : UInt8) : Bool := (bytes text).contains byte

/-! ### Source functions -/

inductive Mode where
  | path
  | userPassword
  | host
  | zone
  | fragment
deriving DecidableEq

inductive ParseError where
  | missingScheme
  | colonInFirstSegment
  | missingBracket
  | invalidPort (port : Bytes)
  | invalidUserinfo
  | escape (text : Bytes)
  | invalidHost (byte : UInt8)
deriving DecidableEq

/-- `shouldEscape` for hosts, which zones share. -/
def shouldEscapeHost (byte : UInt8) : Bool :=
  !(isLetter byte || isDigit byte || oneOf "!$&'()*+,;=:[]<>\"" byte || oneOf "-_.~" byte)

/-- Whether `unescape` refuses the escaped byte. -/
def refusesEscape (mode : Mode) (high low : UInt8) : Bool :=
  match mode with
  | .host => decide (unhex high < 8) && decide ([high, low] ≠ bytes "25")
  | .zone =>
      let value := UInt8.ofNat (unhex high * 16 + unhex low)
      decide ([high, low] ≠ bytes "25") && decide (value ≠ ' '.toUInt8) && shouldEscapeHost value
  | _ => false

/-- Whether `unescape` refuses the byte as it stands. -/
def refusesByte (mode : Mode) (byte : UInt8) : Bool :=
  match mode with
  | .host | .zone => decide (byte.toNat < 128) && shouldEscapeHost byte
  | _ => false

def unescape (mode : Mode) : Bytes → Except ParseError Bytes
  | [] => .ok []
  | byte :: rest =>
      if byte = percent then
        match rest with
        | high :: low :: tail =>
            if (isHex high && isHex low) = false || refusesEscape mode high low then
              .error (.escape [byte, high, low])
            else
              (unescape mode tail).map (UInt8.ofNat (unhex high * 16 + unhex low) :: ·)
        | short => .error (.escape (byte :: short))
      else if refusesByte mode byte then
        .error (.invalidHost byte)
      else
        (unescape mode rest).map (byte :: ·)

/-- `shouldEscape` for paths. -/
def shouldEscapePath (byte : UInt8) : Bool :=
  !(isLetter byte || isDigit byte || oneOf "-_.~" byte || oneOf "$&+,/:;=@" byte)

def upperHex (digit : Nat) : UInt8 :=
  if digit < 10 then UInt8.ofNat ('0'.toNat + digit) else UInt8.ofNat ('A'.toNat + digit - 10)

def escapeByte (byte : UInt8) : Bytes :=
  if shouldEscapePath byte then
    [percent, upperHex (byte.toNat / 16), upperHex (byte.toNat % 16)]
  else [byte]

/-- `escape` for paths. -/
def escapePath (path : Bytes) : Bytes := path.flatMap escapeByte

/-- `validEncodedPath`. -/
def validEncodedPath (text : Bytes) : Bool :=
  text.all fun byte => oneOf "!$&'()*+,;=:@" byte || oneOf "[]" byte || byte == percent ||
    !shouldEscapePath byte

/-! ### Percent decoding -/

section Unescape

variable {mode : Mode} {raw text front back : Bytes} {stop : UInt8}

theorem unescape_literal {byte : UInt8} (literal : byte ≠ percent) :
    unescape mode (byte :: raw) =
      if refusesByte mode byte then .error (.invalidHost byte)
      else (unescape mode raw).map (byte :: ·) := by
  match raw with
  | [] => simp [unescape, literal]
  | [_] => simp [unescape, literal]
  | _ :: _ :: _ => rw [unescape, if_neg literal]

theorem unescape_escape {high low : UInt8} :
    unescape mode (percent :: high :: low :: raw) =
      if (isHex high && isHex low) = false || refusesEscape mode high low then
        .error (.escape [percent, high, low])
      else
        (unescape mode raw).map (UInt8.ofNat (unhex high * 16 + unhex low) :: ·) := by
  rw [unescape, if_pos rfl]

theorem bind_eq_ok {α β : Type} {first : Except ParseError α} {next : α → Except ParseError β}
    {result : β} (bound : (first >>= next) = .ok result) :
    ∃ value, first = .ok value ∧ next value = .ok result := by
  cases first with
  | error error => cases bound
  | ok value => exact ⟨value, rfl, bound⟩

theorem map_eq_ok {rest : Except ParseError Bytes} {byte : UInt8}
    (mapped : rest.map (byte :: ·) = .ok text) : ∃ tail, rest = .ok tail ∧ text = byte :: tail := by
  cases rest with
  | error error => cases mapped
  | ok tail => exact ⟨tail, rfl, (Except.ok.inj mapped).symm⟩

theorem unescape_self (plain : ∀ byte ∈ raw, byte ≠ percent ∧ refusesByte mode byte = false) :
    unescape mode raw = .ok raw := by
  induction raw with
  | nil => rfl
  | cons byte rest inductionHypothesis =>
      obtain ⟨notPercent, accepted⟩ := plain byte List.mem_cons_self
      rw [unescape_literal notPercent, if_neg (by simp [accepted]),
        inductionHypothesis fun later member => plain later (List.mem_cons_of_mem _ member)]
      rfl

/-- Decoding starts with an escape or with a byte that stands for itself. -/
theorem unescape_cons {byte : UInt8} (decodes : unescape mode (byte :: raw) = .ok text) :
    (byte = percent ∧ ∃ high low tail more, raw = high :: low :: tail ∧ isHex high = true ∧
        isHex low = true ∧ refusesEscape mode high low = false ∧
        unescape mode tail = .ok more ∧
        text = UInt8.ofNat (unhex high * 16 + unhex low) :: more) ∨
      (byte ≠ percent ∧ refusesByte mode byte = false ∧
        ∃ more, unescape mode raw = .ok more ∧ text = byte :: more) := by
  by_cases literal : byte = percent
  · refine Or.inl ⟨literal, ?_⟩
    subst literal
    match raw with
    | [] => cases decodes
    | [_] => cases decodes
    | high :: low :: tail =>
        rw [unescape_escape] at decodes
        split at decodes
        · cases decodes
        · rename_i accepted
          obtain ⟨more, decoded, same⟩ := map_eq_ok decodes
          simp only [Bool.or_eq_true, decide_eq_true_eq, not_or, Bool.not_eq_false,
            Bool.and_eq_true, Bool.not_eq_true] at accepted
          exact ⟨high, low, tail, more, rfl, accepted.1.1, accepted.1.2, accepted.2, decoded, same⟩
  · rw [unescape_literal literal] at decodes
    split at decodes
    · cases decodes
    · rename_i accepted
      exact Or.inr ⟨literal, Bool.not_eq_true _ ▸ accepted, map_eq_ok decodes⟩

/-- A byte that is no hexadecimal digit cuts the text to decode in two. -/
theorem unescape_append (outside : isHex stop = false) : ∀ {front text : Bytes},
    unescape mode (front ++ stop :: back) = .ok text →
      ∃ first second, unescape mode front = .ok first ∧
        unescape mode (stop :: back) = .ok second ∧ text = first ++ second
  | [], text, decodes => ⟨[], text, rfl, decodes, rfl⟩
  | byte :: rest, text, decodes => by
      rcases unescape_cons decodes with
        ⟨rfl, high, low, tail, more, cut, hexHigh, hexLow, accepted, decoded, rfl⟩ |
        ⟨literal, accepted, more, decoded, rfl⟩
      · match rest with
        | [] =>
            obtain ⟨rfl, _⟩ := List.cons.inj cut
            rw [outside] at hexHigh
            cases hexHigh
        | [_] =>
            obtain ⟨rfl, cutAgain⟩ := List.cons.inj cut
            obtain ⟨rfl, _⟩ := List.cons.inj cutAgain
            rw [outside] at hexLow
            cases hexLow
        | _ :: _ :: rest =>
            obtain ⟨rfl, cutAgain⟩ := List.cons.inj cut
            obtain ⟨rfl, rfl⟩ := List.cons.inj cutAgain
            obtain ⟨first, second, decodedFront, decodedBack, rfl⟩ :=
              unescape_append outside decoded
            refine ⟨_ :: first, second, ?_, decodedBack, rfl⟩
            rw [unescape_escape, if_neg (by simp [hexHigh, hexLow, accepted]), decodedFront]
            rfl
      · obtain ⟨first, second, decodedFront, decodedBack, rfl⟩ := unescape_append outside decoded
        refine ⟨byte :: first, second, ?_, decodedBack, rfl⟩
        rw [unescape_literal literal, if_neg (by simp [accepted]), decodedFront]
        rfl

end Unescape

/-! ### Hexadecimal digits -/

theorem unhex_lt {byte : UInt8} (hex : isHex byte = true) : unhex byte < 16 := by
  simp only [isHex, isDigit, within, Bool.or_eq_true, Bool.and_eq_true, decide_eq_true_eq,
    Char.reduceToNat] at hex
  simp only [unhex, isDigit, within, Bool.and_eq_true, decide_eq_true_eq, Char.reduceToNat]
  split
  · omega
  · split <;> omega

theorem isHex_upperHex : ∀ digit < 16, isHex (upperHex digit) = true := by decide

theorem unhex_upperHex : ∀ digit < 16, unhex (upperHex digit) = digit := by decide

theorem upperHex_ne_slash : ∀ digit < 16, upperHex digit ≠ slash := by decide

/-! ### Encoded paths -/

section Encoded

variable {path text : Bytes} {byte : UInt8}

theorem unescape_escapeByte :
    unescape .path (escapeByte byte ++ text) = (unescape .path text).map (byte :: ·) := by
  have bound := UInt8.toNat_lt byte
  unfold escapeByte
  split
  · have high := isHex_upperHex (byte.toNat / 16) (by omega)
    have low := isHex_upperHex (byte.toNat % 16) (by omega)
    have same : UInt8.ofNat (unhex (upperHex (byte.toNat / 16)) * 16 +
        unhex (upperHex (byte.toNat % 16))) = byte := by
      rw [unhex_upperHex _ (by omega), unhex_upperHex _ (by omega), Nat.div_add_mod']
      exact UInt8.ofNat_toNat
    show unescape .path (percent :: _ :: _ :: text) = _
    rw [unescape_escape, if_neg (by simp [high, low, refusesEscape]), same]
  · rename_i plain
    have literal : byte ≠ percent := by
      rintro rfl
      exact plain (by decide)
    show unescape .path (byte :: text) = _
    rw [unescape_literal literal, if_neg (by simp [refusesByte])]

/-- The default encoding decodes. -/
theorem unescape_escapePath : unescape .path (escapePath path) = .ok path := by
  induction path with
  | nil => rfl
  | cons byte path inductionHypothesis =>
      rw [escapePath, List.flatMap_cons, unescape_escapeByte, ← escapePath, inductionHypothesis]
      rfl

theorem slash_not_mem_escapePath (free : slash ∉ path) : slash ∉ escapePath path := by
  intro member
  obtain ⟨byte, inside, escaped⟩ := List.mem_flatMap.mp member
  have bound := UInt8.toNat_lt byte
  unfold escapeByte at escaped
  split at escaped
  · simp only [List.mem_cons, List.not_mem_nil, or_false] at escaped
    rcases escaped with same | same | same
    · exact absurd same (by decide)
    · exact upperHex_ne_slash (byte.toNat / 16) (by omega) same.symm
    · exact upperHex_ne_slash (byte.toNat % 16) (by omega) same.symm
  · exact free (List.mem_singleton.mp escaped ▸ inside)

theorem escapePath_intercalate (parts : List Bytes) :
    escapePath ([slash].intercalate parts) = [slash].intercalate (parts.map escapePath) := by
  induction parts with
  | nil => rfl
  | cons first rest inductionHypothesis =>
      cases rest with
      | nil => simp
      | cons second rest =>
          have root : escapePath [slash] = [slash] := by decide
          rw [List.intercalate_cons_cons, List.map_cons, List.map_cons, List.intercalate_cons_cons,
            ← List.map_cons, ← inductionHypothesis, escapePath, List.flatMap_append,
            List.flatMap_append, ← escapePath, ← escapePath, ← escapePath, root]

/-- The default encoding escapes no slash, so it has the segments of the path. -/
theorem splitOn_escapePath :
    (escapePath path).splitOn slash = (path.splitOn slash).map escapePath := by
  have encoded := escapePath_intercalate (path.splitOn slash)
  rw [List.intercalate_splitOn] at encoded
  rw [encoded]
  refine List.splitOn_intercalate slash ?_ (by simp [List.splitOn_ne_nil])
  intro part member
  obtain ⟨segment, isSegment, rfl⟩ := List.mem_map.mp member
  exact slash_not_mem_escapePath (slash_not_mem_splitOn isSegment)

/-- The encoded path `text` has these segments. -/
def HasSegments (text : Bytes) (segments : List Bytes) : Prop :=
  List.Forall₂ (fun part segment => unescape .path part = .ok segment) (text.splitOn slash) segments

theorem HasSegments.unique {first second : List Bytes} (left : HasSegments text first)
    (right : HasSegments text second) : first = second :=
  List.right_unique_forall₂' (fun _ _ _ one other => Except.ok.inj (one.symm.trans other)) left right

theorem hasSegments_escapePath : HasSegments (escapePath path) (path.splitOn slash) := by
  rw [HasSegments, splitOn_escapePath, List.forall₂_map_left_iff]
  exact List.forall₂_same.mpr fun _ _ => unescape_escapePath

/-- What separates two parts separates what they decode to. -/
theorem unescape_intercalate {parts : List Bytes} (filled : parts ≠ [])
    (decodes : unescape .path ([slash].intercalate parts) = .ok path) :
    ∃ segments, List.Forall₂ (fun part segment => unescape .path part = .ok segment) parts segments ∧
      [slash].intercalate segments = path := by
  induction parts generalizing path with
  | nil => exact absurd rfl filled
  | cons first rest inductionHypothesis =>
      cases rest with
      | nil =>
          rw [List.intercalate_singleton] at decodes
          exact ⟨[path], .cons decodes .nil, List.intercalate_singleton⟩
      | cons second rest =>
          rw [List.intercalate_cons_cons, List.append_assoc, List.singleton_append] at decodes
          obtain ⟨front, back, decodedFront, decodedBack, rfl⟩ :=
            unescape_append (by decide) decodes
          rw [unescape_literal (by decide), if_neg (by decide)] at decodedBack
          obtain ⟨tail, decodedTail, rfl⟩ := map_eq_ok decodedBack
          obtain ⟨segments, decoded, rfl⟩ := inductionHypothesis (by simp) decodedTail
          cases decoded with
          | cons head others =>
              refine ⟨_, .cons decodedFront (.cons head others), ?_⟩
              rw [List.intercalate_cons_cons, List.append_assoc, List.singleton_append]

theorem exists_hasSegments (decodes : unescape .path text = .ok path) :
    ∃ segments, HasSegments text segments ∧ [slash].intercalate segments = path := by
  have whole : [slash].intercalate (text.splitOn slash) = text := List.intercalate_splitOn slash
  rw [← whole] at decodes
  exact unescape_intercalate (List.splitOn_ne_nil slash text) decodes

end Encoded

end MXNetOperator.Url
