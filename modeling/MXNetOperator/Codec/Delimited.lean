import Mathlib.Data.List.Basic

/-!
Contract: encoders whose output shows where it ends.

A self-delimiting encoder can be cut off from whatever follows it, so encoders
in sequence stay readable and a record is determined by its text.  Owns the
notion, its closure under sequencing, framing, options and terminated lists,
and injectivity.  Does not own any particular text format.
-/

namespace MXNetOperator.Codec

universe u v

variable {σ : Type u} {α β : Type v}

/-- Two texts that no continuation makes equal. -/
def Clash (left right : List σ) : Prop :=
  ∀ leftRest rightRest, left ++ leftRest ≠ right ++ rightRest

theorem Clash.of_incomparable {left right : List σ} (notLeft : ¬ left <+: right)
    (notRight : ¬ right <+: left) : Clash left right := by
  intro leftRest rightRest same
  rcases List.prefix_or_prefix_of_prefix (List.prefix_append left leftRest)
    (same ▸ List.prefix_append right rightRest) with before | before
  · exact notLeft before
  · exact notRight before

theorem Clash.append_right {left right : List σ} (clash : Clash left right) (more : List σ) :
    Clash left (right ++ more) := by
  intro leftRest rightRest same
  rw [List.append_assoc] at same
  exact clash _ _ same

/-- The first occurrence of a symbol cuts a text in one way. -/
theorem append_stop_inj {stop : σ} {left right leftRest rightRest : List σ}
    (freeLeft : stop ∉ left) (freeRight : stop ∉ right)
    (same : left ++ [stop] ++ leftRest = right ++ [stop] ++ rightRest) :
    left = right ∧ leftRest = rightRest := by
  induction left generalizing right with
  | nil =>
      cases right with
      | nil => exact ⟨rfl, List.append_cancel_left same⟩
      | cons symbol right =>
          obtain ⟨rfl, _⟩ := List.cons.inj same
          exact absurd List.mem_cons_self freeRight
  | cons symbol left inductionHypothesis =>
      cases right with
      | nil =>
          obtain ⟨rfl, _⟩ := List.cons.inj same
          exact absurd List.mem_cons_self freeLeft
      | cons other right =>
          obtain ⟨rfl, rest⟩ := List.cons.inj same
          obtain ⟨rfl, sameRest⟩ := inductionHypothesis
            (fun member => freeLeft (List.mem_cons_of_mem _ member))
            (fun member => freeRight (List.mem_cons_of_mem _ member)) rest
          exact ⟨rfl, sameRest⟩

/-- The encoding of a value determines the value and where the encoding ends. -/
structure SelfDelimiting (encode : α → List σ) : Prop where
  cut : ∀ {left right : α} {leftRest rightRest : List σ},
    encode left ++ leftRest = encode right ++ rightRest → left = right ∧ leftRest = rightRest

namespace SelfDelimiting

variable {encode : α → List σ} {encodeNext : β → List σ}

theorem injective (delimited : SelfDelimiting encode) : Function.Injective encode := by
  intro left right same
  exact (delimited.cut (congrArg (· ++ []) same)).1

/-- A decoder that returns what it leaves unread proves an encoder
self-delimiting. -/
theorem of_decode {decode : List σ → Option (α × List σ)}
    (decodes : ∀ value rest, decode (encode value ++ rest) = some (value, rest)) :
    SelfDelimiting encode := by
  refine ⟨fun {left right leftRest rightRest} same => ?_⟩
  have read := decodes left leftRest
  rw [same, decodes right rightRest] at read
  obtain ⟨sameValue, sameRest⟩ := Prod.mk.inj (Option.some.inj read)
  exact ⟨sameValue.symm, sameRest.symm⟩

/-- A value encoded by parts that determine it. -/
theorem comap (delimited : SelfDelimiting encode) (project : β → α)
    (faithful : Function.Injective project) : SelfDelimiting fun value => encode (project value) := by
  refine ⟨fun {left right leftRest rightRest} same => ?_⟩
  obtain ⟨sameValue, sameRest⟩ := delimited.cut same
  exact ⟨faithful sameValue, sameRest⟩

/-- A fixed text in front. -/
theorem framed (delimited : SelfDelimiting encode) (text : List σ) :
    SelfDelimiting fun value => text ++ encode value := by
  refine ⟨fun {left right leftRest rightRest} same => ?_⟩
  rw [List.append_assoc, List.append_assoc] at same
  exact delimited.cut (List.append_cancel_left same)

/-- A fixed text behind. -/
theorem closed (delimited : SelfDelimiting encode) (text : List σ) :
    SelfDelimiting fun value => encode value ++ text := by
  refine ⟨fun {left right leftRest rightRest} same => ?_⟩
  rw [List.append_assoc, List.append_assoc] at same
  obtain ⟨sameValue, sameRest⟩ := delimited.cut same
  exact ⟨sameValue, List.append_cancel_left sameRest⟩

/-- One encoding after the other. -/
theorem append (first : SelfDelimiting encode) (second : SelfDelimiting encodeNext) :
    SelfDelimiting fun pair : α × β => encode pair.1 ++ encodeNext pair.2 := by
  refine ⟨fun {left right leftRest rightRest} same => ?_⟩
  rw [List.append_assoc, List.append_assoc] at same
  obtain ⟨sameFirst, rest⟩ := first.cut same
  obtain ⟨sameSecond, sameRest⟩ := second.cut rest
  exact ⟨Prod.ext sameFirst sameSecond, sameRest⟩

/-- An optional value whose absence has a text of its own. -/
theorem option (delimited : SelfDelimiting encode) (absent : List σ)
    (clash : ∀ value, Clash absent (encode value)) :
    SelfDelimiting fun value : Option α => value.elim absent encode := by
  refine ⟨fun {left right leftRest rightRest} same => ?_⟩
  cases left with
  | none =>
      cases right with
      | none => exact ⟨rfl, List.append_cancel_left same⟩
      | some value => exact absurd same (clash value leftRest rightRest)
  | some value =>
      cases right with
      | none => exact absurd same.symm (clash value rightRest leftRest)
      | some other =>
          obtain ⟨sameValue, sameRest⟩ := delimited.cut same
          exact ⟨congrArg some sameValue, sameRest⟩

/-- A list of encodings with a symbol at the end that none of them starts with. -/
theorem terminated (delimited : SelfDelimiting encode) {stop : σ}
    (starts : ∀ value, ∃ head tail, encode value = head :: tail ∧ head ≠ stop) :
    SelfDelimiting fun values : List α => values.flatMap encode ++ [stop] := by
  refine ⟨fun {left right leftRest rightRest} same => ?_⟩
  induction left generalizing right with
  | nil =>
      cases right with
      | nil => exact ⟨rfl, List.append_cancel_left same⟩
      | cons value right =>
          obtain ⟨head, tail, encoded, differs⟩ := starts value
          simp only [List.flatMap_nil, List.flatMap_cons, encoded, List.nil_append,
            List.cons_append, List.cons.injEq] at same
          exact absurd same.1.symm differs
  | cons value left inductionHypothesis =>
      cases right with
      | nil =>
          obtain ⟨head, tail, encoded, differs⟩ := starts value
          simp only [List.flatMap_nil, List.flatMap_cons, encoded, List.nil_append,
            List.cons_append, List.cons.injEq] at same
          exact absurd same.1 differs
      | cons other right =>
          simp only [List.flatMap_cons, List.append_assoc] at same
          obtain ⟨rfl, rest⟩ := delimited.cut same
          rw [← List.append_assoc, ← List.append_assoc (right.flatMap encode)] at rest
          obtain ⟨rfl, sameRest⟩ := inductionHypothesis rest
          exact ⟨rfl, sameRest⟩

/-- An injective text with a symbol at the end that it does not contain. -/
theorem of_injective {stop : σ} (injective : Function.Injective encode)
    (absent : ∀ value, stop ∉ encode value) :
    SelfDelimiting fun value => encode value ++ [stop] := by
  refine ⟨fun {left right leftRest rightRest} same => ?_⟩
  obtain ⟨sameText, sameRest⟩ := append_stop_inj (absent left) (absent right) same
  exact ⟨injective sameText, sameRest⟩

end SelfDelimiting

end MXNetOperator.Codec
