import MXNetOperator.Codec.Delimited

/-!
Contract: the JSON texts that `encoding/json` writes for strings and bytes.

Owns string escaping with HTML escaping switched on, as `json.Marshal` does it,
and padded standard base64 for byte slices, both with the decoder that shows
them self-delimiting.  Strings are sequences of code points: the replacement of
invalid UTF-8 is outside this model.
-/

namespace MXNetOperator.Codec

/-! ### Strings -/

/-- Lower-case hexadecimal digits. -/
def hexDigit (value : Nat) : Char :=
  if value < 10 then Char.ofNat (48 + value) else Char.ofNat (87 + value)

def hexValue (digit : Char) : Nat :=
  if digit.toNat < 58 then digit.toNat - 48 else digit.toNat - 87

theorem hexValue_hexDigit : ∀ value < 16, hexValue (hexDigit value) = value := by decide

/-- ASCII characters written as `\u00XX`: control characters without a short
form and the characters unsafe in HTML. -/
def isHexEscaped (char : Char) : Bool :=
  char.toNat < 32 || char == '<' || char == '>' || char == '&'

/-- One character of a JSON string. -/
def escapeChar (char : Char) : List Char :=
  if char = '\\' ∨ char = '"' then ['\\', char]
  else if char = '\n' then ['\\', 'n']
  else if char = '\r' then ['\\', 'r']
  else if char = '\t' then ['\\', 't']
  else if isHexEscaped char then
    ['\\', 'u', '0', '0', hexDigit (char.toNat / 16), hexDigit (char.toNat % 16)]
  else if char = Char.ofNat 0x2028 ∨ char = Char.ofNat 0x2029 then
    -- line and paragraph separators
    ['\\', 'u', '2', '0', '2', hexDigit (char.toNat % 16)]
  else [char]

/-- A JSON string. -/
def quoted (text : String) : List Char :=
  '"' :: (text.toList.flatMap escapeChar ++ ['"'])

/-- Read one character of a JSON string and leave the rest. -/
def readChar : List Char → Option (Char × List Char)
  | '\\' :: 'n' :: rest => some ('\n', rest)
  | '\\' :: 'r' :: rest => some ('\r', rest)
  | '\\' :: 't' :: rest => some ('\t', rest)
  | '\\' :: 'u' :: a :: b :: c :: d :: rest =>
      some (Char.ofNat (hexValue a * 4096 + hexValue b * 256 + hexValue c * 16 + hexValue d), rest)
  | '\\' :: char :: rest => some (char, rest)
  | char :: rest => some (char, rest)
  | [] => none

theorem isHexEscaped_lt {char : Char} (escaped : isHexEscaped char = true) : char.toNat < 64 := by
  simp only [isHexEscaped, Bool.or_eq_true, decide_eq_true_eq, beq_iff_eq] at escaped
  rcases escaped with ((control | rfl) | rfl) | rfl
  · omega
  · decide
  · decide
  · decide

theorem readChar_escapeChar (char : Char) (rest : List Char) :
    readChar (escapeChar char ++ rest) = some (char, rest) := by
  unfold escapeChar
  split
  · rename_i special
    rcases special with rfl | rfl <;> rfl
  · rename_i plain
    split
    · rename_i same
      subst same
      rfl
    · split
      · rename_i same
        subst same
        rfl
      · split
        · rename_i same
          subst same
          rfl
        · split
          · rename_i escaped
            have bound := isHexEscaped_lt escaped
            have high := hexValue_hexDigit (char.toNat / 16) (by omega)
            have low := hexValue_hexDigit (char.toNat % 16) (by omega)
            have zero : hexValue '0' = 0 := by decide
            show some (Char.ofNat _, rest) = _
            rw [high, low, zero]
            have value : 0 * 4096 + 0 * 256 + char.toNat / 16 * 16 + char.toNat % 16 =
                char.toNat := by omega
            rw [value, Char.ofNat_toNat]
          · split
            · rename_i separator
              rcases separator with rfl | rfl <;> rfl
            · have notBackslash : char ≠ '\\' := fun same => plain (Or.inl same)
              simp [readChar, notBackslash]

theorem escapeChar_delimited : SelfDelimiting escapeChar :=
  .of_decode readChar_escapeChar

theorem escapeChar_start (char : Char) :
    ∃ head tail, escapeChar char = head :: tail ∧ head ≠ '"' := by
  unfold escapeChar
  split
  · exact ⟨_, _, rfl, by decide⟩
  · rename_i plain
    repeat' split
    all_goals first
      | exact ⟨_, _, rfl, by decide⟩
      | exact ⟨_, _, rfl, fun same => plain (Or.inr same)⟩

theorem quoted_delimited : SelfDelimiting quoted :=
  ((escapeChar_delimited.terminated escapeChar_start).framed ['"']).comap String.toList
    fun _ _ => String.toList_injective

/-! ### Bytes -/

/-- The alphabet of standard base64. -/
def base64Char (sextet : Nat) : Char :=
  if sextet < 26 then Char.ofNat (65 + sextet)
  else if sextet < 52 then Char.ofNat (71 + sextet)
  else if sextet < 62 then Char.ofNat (sextet - 4)
  else if sextet = 62 then '+'
  else '/'

def base64Value (char : Char) : Nat :=
  if char = '+' then 62
  else if char = '/' then 63
  else if char.toNat < 58 then char.toNat + 4
  else if char.toNat < 91 then char.toNat - 65
  else char.toNat - 71

theorem base64Value_base64Char : ∀ sextet < 64, base64Value (base64Char sextet) = sextet := by
  decide

theorem base64Char_ne_pad : ∀ sextet < 64, base64Char sextet ≠ '=' := by decide

theorem base64Char_ne_quote : ∀ sextet < 64, base64Char sextet ≠ '"' := by decide

/-- `base64.StdEncoding`: three bytes in four characters, the last group padded. -/
def base64 : List UInt8 → List Char
  | [] => []
  | [a] => [base64Char (a.toNat / 4), base64Char (a.toNat % 4 * 16), '=', '=']
  | [a, b] =>
      [base64Char (a.toNat / 4), base64Char (a.toNat % 4 * 16 + b.toNat / 16),
        base64Char (b.toNat % 16 * 4), '=']
  | a :: b :: c :: rest =>
      base64Char (a.toNat / 4) :: base64Char (a.toNat % 4 * 16 + b.toNat / 16) ::
        base64Char (b.toNat % 16 * 4 + c.toNat / 64) :: base64Char (c.toNat % 64) :: base64 rest

/-- Three bytes from four sextets. -/
def joinSextets (first second third fourth : Nat) : List UInt8 :=
  [.ofNat (first * 4 + second / 16), .ofNat (second % 16 * 16 + third / 4),
    .ofNat (third % 4 * 64 + fourth)]

def readBase64 : List Char → List UInt8
  | first :: second :: third :: fourth :: rest =>
      if fourth = '=' then
        if third = '=' then
          (joinSextets (base64Value first) (base64Value second) 0 0).take 1
        else
          (joinSextets (base64Value first) (base64Value second) (base64Value third) 0).take 2
      else
        joinSextets (base64Value first) (base64Value second) (base64Value third)
          (base64Value fourth) ++ readBase64 rest
  | _ => []

theorem ofNat_toNat_eq {byte : UInt8} {value : Nat} (same : value = byte.toNat) :
    UInt8.ofNat value = byte := by
  rw [same, UInt8.ofNat_toNat]

theorem readBase64_base64 (bytes : List UInt8) : readBase64 (base64 bytes) = bytes := by
  fun_induction base64 bytes with
  | case1 => rfl
  | case2 a =>
      have bound := a.toNat_lt
      simp only [readBase64, if_true, joinSextets, List.take, List.cons.injEq, and_true,
        base64Value_base64Char (a.toNat / 4) (by omega),
        base64Value_base64Char (a.toNat % 4 * 16) (by omega)]
      exact ofNat_toNat_eq (by omega)
  | case3 a b =>
      have bound := a.toNat_lt
      have boundNext := b.toNat_lt
      simp only [readBase64, if_true, if_neg (base64Char_ne_pad (b.toNat % 16 * 4) (by omega)),
        joinSextets, List.take, List.cons.injEq, and_true,
        base64Value_base64Char (a.toNat / 4) (by omega),
        base64Value_base64Char (a.toNat % 4 * 16 + b.toNat / 16) (by omega),
        base64Value_base64Char (b.toNat % 16 * 4) (by omega)]
      exact ⟨ofNat_toNat_eq (by omega), ofNat_toNat_eq (by omega)⟩
  | case4 a b c rest inductionHypothesis =>
      have bound := a.toNat_lt
      have boundNext := b.toNat_lt
      have boundLast := c.toNat_lt
      simp only [readBase64, if_neg (base64Char_ne_pad (c.toNat % 64) (by omega)), joinSextets,
        List.cons_append, List.nil_append, List.cons.injEq, inductionHypothesis, and_true,
        base64Value_base64Char (a.toNat / 4) (by omega),
        base64Value_base64Char (a.toNat % 4 * 16 + b.toNat / 16) (by omega),
        base64Value_base64Char (b.toNat % 16 * 4 + c.toNat / 64) (by omega),
        base64Value_base64Char (c.toNat % 64) (by omega)]
      exact ⟨ofNat_toNat_eq (by omega), ofNat_toNat_eq (by omega), ofNat_toNat_eq (by omega)⟩

theorem quote_not_mem_base64 (bytes : List UInt8) : '"' ∉ base64 bytes := by
  have free : ∀ sextet < 64, '"' ≠ base64Char sextet :=
    fun sextet bound => (base64Char_ne_quote sextet bound).symm
  fun_induction base64 bytes with
  | case1 => simp
  | case2 a =>
      have bound := a.toNat_lt
      simp [free (a.toNat / 4) (by omega), free (a.toNat % 4 * 16) (by omega)]
  | case3 a b =>
      have bound := a.toNat_lt
      have boundNext := b.toNat_lt
      simp [free (a.toNat / 4) (by omega), free (a.toNat % 4 * 16 + b.toNat / 16) (by omega),
        free (b.toNat % 16 * 4) (by omega)]
  | case4 a b c rest inductionHypothesis =>
      have bound := a.toNat_lt
      have boundNext := b.toNat_lt
      have boundLast := c.toNat_lt
      simp [free (a.toNat / 4) (by omega), free (a.toNat % 4 * 16 + b.toNat / 16) (by omega),
        free (b.toNat % 16 * 4 + c.toNat / 64) (by omega), free (c.toNat % 64) (by omega),
        inductionHypothesis]

/-- A byte slice as a JSON string. -/
def quotedBytes (bytes : List UInt8) : List Char :=
  '"' :: (base64 bytes ++ ['"'])

theorem quotedBytes_delimited : SelfDelimiting quotedBytes :=
  (SelfDelimiting.of_injective (Function.LeftInverse.injective readBase64_base64)
    quote_not_mem_base64).framed ['"']

end MXNetOperator.Codec
