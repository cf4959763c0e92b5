import Mathlib.Data.List.Basic

/-!
Contract: lexical path cleaning.

Owns byte strings, `path.Clean` and `path.Join` of the Go library, computed
segment by segment, and that cleaning a rooted path is idempotent: joining a
rooted path with further roots or with nothing does no more than clean it.
-/

namespace MXNetOperator.Url

/-- A Go string. -/
abbrev Bytes := List UInt8

/-- The bytes of a text in UTF-8. -/
def bytes (text : String) : Bytes := text.toList.flatMap String.utf8EncodeChar

def slash : UInt8 := '/'.toUInt8

def dot : Bytes := ['.'.toUInt8]

def dotDot : Bytes := ['.'.toUInt8, '.'.toUInt8]

/-- One segment after the segments `out` already read, the last one first. -/
def pushSegment (rooted : Bool) (out : List Bytes) (segment : Bytes) : List Bytes :=
  if segment = [] ∨ segment = dot then out
  else if segment = dotDot then
    match out with
    | last :: rest => if last = dotDot then segment :: out else rest
    | [] => if rooted then [] else [segment]
  else segment :: out

/-- `path.Clean`. -/
def clean (path : Bytes) : Bytes :=
  let rooted := path.head? == some slash
  let segments := ((path.splitOn slash).foldl (pushSegment rooted) []).reverse
  let cleaned := (if rooted then [slash] else []) ++ [slash].intercalate segments
  if cleaned = [] then dot else cleaned

/-- `path.Join`: leading empty elements are skipped. -/
def join (elements : List Bytes) : Bytes :=
  match elements.dropWhile List.isEmpty with
  | [] => []
  | rest => clean ([slash].intercalate rest)

/-! ### Rooted paths -/

/-- The segments of a rooted path that remain. -/
def resolve (segments : List Bytes) : List Bytes :=
  (segments.foldl (pushSegment true) []).reverse

/-- A segment that stands for itself. -/
def IsPlain (segment : Bytes) : Prop :=
  segment ≠ [] ∧ segment ≠ dot ∧ segment ≠ dotDot

theorem clean_rooted (path : Bytes) :
    clean (slash :: path) = slash :: [slash].intercalate (resolve (path.splitOn slash)) := by
  have cut : (slash :: path).splitOn slash = [] :: path.splitOn slash := by
    simp [List.splitOn_cons_eq_if_modifyHead]
  have skip : pushSegment true [] [] = [] := rfl
  simp [clean, cut, skip, resolve]

theorem pushSegment_plain {rooted : Bool} {out : List Bytes} {segment : Bytes}
    (plain : IsPlain segment) : pushSegment rooted out segment = segment :: out := by
  obtain ⟨filled, notDot, notDotDot⟩ := plain
  simp [pushSegment, filled, notDot, notDotDot]

/-- Segments of a rooted path are kept as they are or dropped. -/
theorem pushSegment_keeps {out : List Bytes} {segment : Bytes}
    (plain : ∀ kept ∈ out, IsPlain kept) :
    ∀ kept ∈ pushSegment true out segment, IsPlain kept ∧ (kept ∈ out ∨ kept = segment) := by
  intro kept member
  unfold pushSegment at member
  split at member
  · exact ⟨plain kept member, Or.inl member⟩
  · rename_i filled
    split at member
    · split at member
      · rename_i last rest
        split at member
        · rename_i same
          exact absurd same (plain last List.mem_cons_self).2.2
        · exact ⟨plain kept (List.mem_cons_of_mem _ member),
            Or.inl (List.mem_cons_of_mem _ member)⟩
      · cases member
    · rename_i notDotDot
      rcases List.mem_cons.mp member with rfl | older
      · exact ⟨⟨fun same => filled (Or.inl same), fun same => filled (Or.inr same), notDotDot⟩,
          Or.inr rfl⟩
      · exact ⟨plain kept older, Or.inl older⟩

theorem foldl_pushSegment_keeps {segments out : List Bytes} (plain : ∀ kept ∈ out, IsPlain kept) :
    ∀ kept ∈ segments.foldl (pushSegment true) out,
      IsPlain kept ∧ (kept ∈ out ∨ kept ∈ segments) := by
  induction segments generalizing out with
  | nil => exact fun kept member => ⟨plain kept member, Or.inl member⟩
  | cons segment rest inductionHypothesis =>
      intro kept member
      obtain ⟨isPlain, origin⟩ := inductionHypothesis
        (fun kept member => (pushSegment_keeps plain kept member).1) kept member
      refine ⟨isPlain, ?_⟩
      rcases origin with pushed | later
      · rcases (pushSegment_keeps plain kept pushed).2 with older | rfl
        · exact Or.inl older
        · exact Or.inr List.mem_cons_self
      · exact Or.inr (List.mem_cons_of_mem _ later)

theorem mem_resolve {segments : List Bytes} {kept : Bytes} (member : kept ∈ resolve segments) :
    IsPlain kept ∧ kept ∈ segments := by
  have found := foldl_pushSegment_keeps (fun kept member => absurd member List.not_mem_nil) kept
    (List.mem_reverse.mp member)
  exact ⟨found.1, found.2.resolve_left List.not_mem_nil⟩

theorem foldl_pushSegment_plain {segments out : List Bytes}
    (plain : ∀ segment ∈ segments, IsPlain segment) :
    segments.foldl (pushSegment true) out = segments.reverse ++ out := by
  induction segments generalizing out with
  | nil => rfl
  | cons segment rest inductionHypothesis =>
      rw [List.foldl_cons, pushSegment_plain (plain segment List.mem_cons_self),
        inductionHypothesis fun later member => plain later (List.mem_cons_of_mem _ member)]
      simp

theorem resolve_plain {segments : List Bytes} (plain : ∀ segment ∈ segments, IsPlain segment) :
    resolve segments = segments := by
  rw [resolve, foldl_pushSegment_plain plain, List.append_nil, List.reverse_reverse]

@[simp] theorem resolve_nil_cons {segments : List Bytes} :
    resolve ([] :: segments) = resolve segments := rfl

@[simp] theorem resolve_append_nil {segments : List Bytes} :
    resolve (segments ++ [[]]) = resolve segments := by
  simp [resolve, pushSegment]

theorem slash_not_mem_splitOn {path segment : Bytes} (member : segment ∈ path.splitOn slash) :
    slash ∉ segment := by
  induction path generalizing segment with
  | nil =>
      rw [List.splitOn_nil, List.mem_singleton] at member
      rw [member]
      exact List.not_mem_nil
  | cons byte path inductionHypothesis =>
      rw [List.splitOn_cons_eq_if_modifyHead] at member
      split at member
      · rcases List.mem_cons.mp member with rfl | later
        · exact List.not_mem_nil
        · exact inductionHypothesis later
      · rename_i differs
        cases cut : path.splitOn slash with
        | nil => exact absurd cut (List.splitOn_ne_nil slash path)
        | cons first rest =>
            rw [cut] at member inductionHypothesis
            rcases List.mem_cons.mp member with rfl | later
            · intro found
              rcases List.mem_cons.mp found with same | inside
              · exact differs (by simp [same])
              · exact inductionHypothesis List.mem_cons_self inside
            · exact inductionHypothesis (List.mem_cons_of_mem _ later)

/-- What is left of a path reads back as it is. -/
theorem resolve_splitOn_resolve (path : Bytes) :
    resolve (([slash].intercalate (resolve (path.splitOn slash))).splitOn slash) =
      resolve (path.splitOn slash) := by
  by_cases nothing : resolve (path.splitOn slash) = []
  · rw [nothing]
    rfl
  · rw [List.splitOn_intercalate slash
      (fun segment member => slash_not_mem_splitOn (mem_resolve member).2) nothing]
    exact resolve_plain fun segment member => (mem_resolve member).1

/-- Further roots do not count. -/
theorem clean_slash_slash (path : Bytes) : clean (slash :: slash :: path) = clean (slash :: path) := by
  have cut : (slash :: path).splitOn slash = [] :: path.splitOn slash := by
    simp [List.splitOn_cons_eq_if_modifyHead]
  rw [clean_rooted, clean_rooted, cut, resolve_nil_cons]

theorem clean_append_slash (path : Bytes) :
    clean (slash :: (path ++ [slash])) = clean (slash :: path) := by
  rw [clean_rooted, clean_rooted, List.splitOn_append_cons_self, List.splitOn_nil,
    resolve_append_nil]

theorem join_root (path : Bytes) : join [[slash], path] = clean (slash :: path) := by
  have text : [slash].intercalate [[slash], path] = slash :: slash :: path := by
    rw [List.intercalate_cons_cons, List.intercalate_singleton]
    rfl
  rw [← clean_slash_slash, ← text]
  rfl

/-- Joining a clean rooted path with nothing or with a root leaves it alone. -/
theorem join_clean_nil (path : Bytes) :
    join [clean (slash :: path), []] = clean (slash :: path) := by
  rw [clean_rooted]
  show clean (slash :: ([slash].intercalate (resolve (path.splitOn slash)) ++ [slash])) = _
  rw [clean_append_slash, clean_rooted, resolve_splitOn_resolve]

theorem join_root_clean (path : Bytes) :
    join [[slash], clean (slash :: path)] = clean (slash :: path) := by
  rw [join_root, clean_rooted path, clean_slash_slash, clean_rooted, resolve_splitOn_resolve]

end MXNetOperator.Url
