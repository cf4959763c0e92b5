import MXNetOperator.Kube.Object

/-!
Contract: the name formats of the API server.

Owns the tests of `k8s.io/apimachinery/pkg/util/validation` for DNS names: the
server admits a custom resource under a DNS-1123 subdomain and a service under a
DNS-1035 label.  Label values are `Kube.Object`'s.
-/

namespace MXNetOperator.Kube

/-- `[a-z0-9]`. -/
def isLowerAlphanum (letter : Char) : Bool :=
  letter.isLower || letter.isDigit

/-- The regular expression of DNS labels: a letter that passes `first`, then
lower-case alphanumerics and `-`, the last one alphanumeric. -/
def matchesDNSLabel (first : Char → Bool) (text : List Char) : Bool :=
  text.head?.any first && text.getLast?.any isLowerAlphanum &&
    text.all fun letter => isLowerAlphanum letter || letter == '-'

def dns1123SubdomainMaxLength : Nat := 253

/-- `validation.IsDNS1123Subdomain`: DNS-1123 labels separated by dots. -/
def isDNS1123Subdomain (value : String) : Bool :=
  value.toList.length ≤ dns1123SubdomainMaxLength &&
    (value.toList.splitOn '.').all (matchesDNSLabel isLowerAlphanum)

def dns1035LabelMaxLength : Nat := 63

/-- `validation.IsDNS1035Label`. -/
def isDNS1035Label (value : String) : Bool :=
  value.toList.length ≤ dns1035LabelMaxLength && matchesDNSLabel Char.isLower value.toList

/-! ### Subdomains as texts -/

/-- A text between lower-case alphanumerics, whose letters all pass `inside`. -/
structure DNSText (inside : Char → Prop) (text : List Char) : Prop where
  head : ∃ letter, text.head? = some letter ∧ isLowerAlphanum letter = true
  last : ∃ letter, text.getLast? = some letter ∧ isLowerAlphanum letter = true
  letters : ∀ letter ∈ text, isLowerAlphanum letter = true ∨ inside letter

theorem matchesDNSLabel_iff {first : Char → Bool} {text : List Char} :
    matchesDNSLabel first text = true ↔
      (∃ letter, text.head? = some letter ∧ first letter = true) ∧
        (∃ letter, text.getLast? = some letter ∧ isLowerAlphanum letter = true) ∧
        ∀ letter ∈ text, isLowerAlphanum letter = true ∨ letter = '-' := by
  simp only [matchesDNSLabel, Bool.and_eq_true, Option.any_eq_true, List.all_eq_true,
    Bool.or_eq_true, beq_iff_eq, and_assoc]

/-- Labels joined by dots begin and end as labels do. -/
theorem dnsText_joined {parts : List (List Char)} (nonempty : parts ≠ [])
    (labels : ∀ part ∈ parts, matchesDNSLabel isLowerAlphanum part = true) :
    DNSText (fun letter => letter = '-' ∨ letter = '.') (['.'].intercalate parts) := by
  induction parts with
  | nil => exact absurd rfl nonempty
  | cons part rest inductionHypothesis =>
      obtain ⟨⟨first, isFirst, firstFits⟩, last, letters⟩ :=
        matchesDNSLabel_iff.mp (labels part List.mem_cons_self)
      have inside : ∀ letter ∈ part,
          isLowerAlphanum letter = true ∨ letter = '-' ∨ letter = '.' :=
        fun letter member => (letters letter member).imp_right Or.inl
      cases rest with
      | nil =>
          rw [List.intercalate_singleton]
          exact ⟨⟨first, isFirst, firstFits⟩, last, inside⟩
      | cons next others =>
          have tail := inductionHypothesis (by simp)
            fun part member => labels part (List.mem_cons_of_mem _ member)
          obtain ⟨final, isFinal, finalFits⟩ := tail.last
          rw [List.intercalate_cons_cons]
          refine ⟨⟨first, ?_, firstFits⟩, ⟨final, ?_, finalFits⟩, ?_⟩
          · simp [isFirst]
          · rw [List.getLast?_append, isFinal, Option.some_or]
          · intro letter member
            rcases List.mem_append.mp member with front | late
            · rcases List.mem_append.mp front with early | dot
              · exact inside letter early
              · exact Or.inr (Or.inr (List.mem_singleton.mp dot))
            · exact tail.letters letter late

theorem dnsText_of_subdomain {value : String} (admitted : isDNS1123Subdomain value = true) :
    DNSText (fun letter => letter = '-' ∨ letter = '.') value.toList := by
  simp only [isDNS1123Subdomain, Bool.and_eq_true, List.all_eq_true] at admitted
  have joined := dnsText_joined (List.splitOn_ne_nil _ _) admitted.2
  rwa [List.intercalate_splitOn] at joined

end MXNetOperator.Kube
