import Mathlib.Data.List.Lex
import Mathlib.Data.List.MinMax

/-!
# Path patterns

Patterns of static segments, parameters and wildcards, the paths that they match with what they
capture, and the order in which the patterns of a table are preferred: at the first place where two
of them differ in kind, a static segment wins over a parameter and a parameter over a wildcard.
-/

namespace Routing

/-- A static segment has no slash in it. -/
inductive Segment where
  | static (text : String) (no_slash : '/' ∉ text.toList := by decide)
  | param
  | wildcard
  deriving DecidableEq, Repr

/-- What a pattern captures from a path, when it matches. A static segment and a parameter go up to
    the next slash; a parameter takes one character at least, as does a wildcard, which takes all
    that is left. -/
def captures : List Segment → List Char → Option (List String)
  | [], [] => some []
  | .static text _ :: pattern, '/' :: rest =>
    if rest.takeWhile (· ≠ '/') = text.toList then captures pattern (rest.dropWhile (· ≠ '/'))
    else none
  | .param :: pattern, '/' :: rest =>
    if rest.takeWhile (· ≠ '/') = [] then none
    else
      (captures pattern (rest.dropWhile (· ≠ '/'))).map
        (String.ofList (rest.takeWhile (· ≠ '/')) :: ·)
  | [.wildcard], '/' :: rest => if rest = [] then none else some [String.ofList rest]
  | _, _ => none

def Matches (pattern : List Segment) (path : List Char) : Prop := (captures pattern path).isSome

instance (pattern : List Segment) (path : List Char) : Decidable (Matches pattern path) :=
  inferInstanceAs (Decidable ((captures pattern path).isSome = true))

/-! ## What each kind of segment matches -/

section Segments

variable {pattern : List Segment} {path : List Char} {captured : List String}

theorem captures_nil_iff : captures [] path = some captured ↔ path = [] ∧ captured = [] := by
  cases path with
  | nil => simp [captures, eq_comm]
  | cons c rest => simp [captures]

/-- The rest of a path that matches is empty or starts with a slash. -/
theorem captures_head (h : captures pattern path = some captured) :
    path = [] ∨ ∃ rest, path = '/' :: rest := by
  unfold captures at h
  split at h
  all_goals first
    | exact .inl rfl
    | exact .inr ⟨_, rfl⟩
    | cases h

/-- A segment without a slash, and what comes after it. -/
theorem takeWhile_segment {segment tail : List Char} (hsegment : '/' ∉ segment)
    (htail : tail = [] ∨ ∃ rest, tail = '/' :: rest) :
    (segment ++ tail).takeWhile (· ≠ '/') = segment ∧
      (segment ++ tail).dropWhile (· ≠ '/') = tail := by
  have hall : ∀ c ∈ segment, decide (c ≠ '/') = true :=
    fun c hc => decide_eq_true fun heq => hsegment (heq ▸ hc)
  rw [List.takeWhile_append_of_pos hall, List.dropWhile_append_of_pos hall]
  obtain rfl | ⟨rest, rfl⟩ := htail
  · simp
  · simp

theorem not_mem_takeWhile (rest : List Char) : '/' ∉ rest.takeWhile (· ≠ '/') := by
  intro hmem
  have hall := List.all_eq_true.mp (List.all_takeWhile (p := (· ≠ '/')) (l := rest)) _ hmem
  simp at hall

/-- A pattern that is not empty matches only what starts with a slash. -/
theorem captures_cons_head {segment : Segment}
    (h : captures (segment :: pattern) path = some captured) : ∃ rest, path = '/' :: rest := by
  obtain rfl | hslash := captures_head h
  · cases segment <;> simp [captures] at h
  · exact hslash

theorem captures_static_iff {text : String} (htext : '/' ∉ text.toList) :
    captures (.static text htext :: pattern) path = some captured ↔
      ∃ tail, path = '/' :: (text.toList ++ tail) ∧ captures pattern tail = some captured := by
  constructor
  · intro h
    obtain ⟨rest, rfl⟩ := captures_cons_head h
    rw [captures] at h
    split at h
    · rename_i heq
      refine ⟨rest.dropWhile (· ≠ '/'), ?_, h⟩
      rw [← heq, List.takeWhile_append_dropWhile]
    · cases h
  · rintro ⟨tail, rfl, h⟩
    obtain ⟨htake, hdrop⟩ := takeWhile_segment htext (captures_head h)
    rw [captures, if_pos htake, hdrop]
    exact h

theorem captures_param_iff :
    captures (.param :: pattern) path = some captured ↔
      ∃ segment tail others, path = '/' :: (segment ++ tail) ∧ segment ≠ [] ∧ '/' ∉ segment ∧
        captures pattern tail = some others ∧ captured = String.ofList segment :: others := by
  constructor
  · intro h
    obtain ⟨rest, rfl⟩ := captures_cons_head h
    rw [captures] at h
    split at h
    · cases h
    · rename_i hne
      obtain ⟨others, hothers, rfl⟩ := Option.map_eq_some_iff.mp h
      refine ⟨rest.takeWhile (· ≠ '/'), rest.dropWhile (· ≠ '/'), others, ?_, hne,
        not_mem_takeWhile rest, hothers, rfl⟩
      rw [List.takeWhile_append_dropWhile]
  · rintro ⟨segment, tail, others, rfl, hne, hslash, h, rfl⟩
    obtain ⟨htake, hdrop⟩ := takeWhile_segment hslash (captures_head h)
    rw [captures, htake, hdrop, if_neg hne, h, Option.map_some]

theorem captures_wildcard_iff :
    captures [.wildcard] path = some captured ↔
      ∃ rest, path = '/' :: rest ∧ rest ≠ [] ∧ captured = [String.ofList rest] := by
  constructor
  · intro h
    obtain ⟨rest, rfl⟩ := captures_cons_head h
    rw [captures] at h
    split at h
    · cases h
    · rename_i hne
      exact ⟨rest, rfl, hne, (Option.some.inj h).symm⟩
  · rintro ⟨rest, rfl, hne, rfl⟩
    rw [captures, if_neg hne]

/-- A pattern with its parameters and its wildcard filled in. -/
def fill : List Segment → List String → List Char
  | [], _ => []
  | .static text _ :: pattern, captured => '/' :: (text.toList ++ fill pattern captured)
  | .param :: pattern, text :: captured => '/' :: (text.toList ++ fill pattern captured)
  | .wildcard :: _, text :: _ => '/' :: text.toList
  | _, _ => []

/-- A text that a parameter takes. -/
structure IsSegment (text : String) : Prop where
  nonempty : text ≠ ""
  no_slash : '/' ∉ text.toList

/-- The texts that a pattern can capture. -/
inductive Fits : List Segment → List String → Prop where
  | nil : Fits [] []
  | static {text : String} {no_slash : '/' ∉ text.toList} {pattern : List Segment}
      {captured : List String} : Fits pattern captured →
      Fits (.static text no_slash :: pattern) captured
  | param {text : String} {pattern : List Segment} {captured : List String} : IsSegment text →
      Fits pattern captured → Fits (.param :: pattern) (text :: captured)
  | wildcard {text : String} : text ≠ "" → Fits [.wildcard] [text]

@[simp] theorem fits_nil_iff : Fits [] captured ↔ captured = [] := by
  constructor
  · rintro ⟨⟩
    rfl
  · rintro rfl
    exact .nil

@[simp] theorem fits_static_iff {text : String} {no_slash : '/' ∉ text.toList} :
    Fits (.static text no_slash :: pattern) captured ↔ Fits pattern captured := by
  constructor
  · intro h
    cases h with
    | static h => exact h
  · exact .static

@[simp] theorem fits_param_iff :
    Fits (.param :: pattern) captured ↔
      ∃ text others, captured = text :: others ∧ IsSegment text ∧ Fits pattern others := by
  constructor
  · intro h
    cases h with
    | param htext h => exact ⟨_, _, rfl, htext, h⟩
  · rintro ⟨text, others, rfl, htext, h⟩
    exact .param htext h

@[simp] theorem fits_wildcard_iff :
    Fits [.wildcard] captured ↔ ∃ text, captured = [text] ∧ text ≠ "" := by
  constructor
  · intro h
    cases h with
    | wildcard hne => exact ⟨_, rfl, hne⟩
  · rintro ⟨text, rfl, hne⟩
    exact .wildcard hne

/-- A pattern matches exactly the paths that it can be filled in to. -/
theorem captures_iff :
    captures pattern path = some captured ↔
      Fits pattern captured ∧ path = fill pattern captured := by
  induction pattern generalizing path captured with
  | nil => rw [captures_nil_iff, fits_nil_iff, and_comm, fill]
  | cons segment pattern ih =>
    cases segment with
    | static text htext =>
      rw [captures_static_iff, fits_static_iff, fill]
      constructor
      · rintro ⟨tail, rfl, h⟩
        obtain ⟨hfits, rfl⟩ := ih.mp h
        exact ⟨hfits, rfl⟩
      · rintro ⟨hfits, rfl⟩
        exact ⟨_, rfl, ih.mpr ⟨hfits, rfl⟩⟩
    | param =>
      rw [captures_param_iff, fits_param_iff]
      constructor
      · rintro ⟨text, tail, others, rfl, hne, hslash, h, rfl⟩
        obtain ⟨hfits, rfl⟩ := ih.mp h
        refine ⟨⟨_, others, rfl, ⟨by simpa using hne, by simpa using hslash⟩, hfits⟩, ?_⟩
        rw [fill, String.toList_ofList]
      · rintro ⟨⟨text, others, rfl, htext, hfits⟩, rfl⟩
        exact ⟨text.toList, _, others, rfl, by simpa using htext.nonempty, htext.no_slash,
          ih.mpr ⟨hfits, rfl⟩, by rw [String.ofList_toList]⟩
    | wildcard =>
      cases pattern with
      | nil =>
        rw [captures_wildcard_iff, fits_wildcard_iff]
        constructor
        · rintro ⟨rest, rfl, hne, rfl⟩
          exact ⟨⟨_, rfl, by simpa using hne⟩, by rw [fill, String.toList_ofList]⟩
        · rintro ⟨⟨text, rfl, hne⟩, rfl⟩
          exact ⟨text.toList, rfl, by simpa using hne, by rw [String.ofList_toList]⟩
      | cons =>
        constructor
        · intro h
          simp [captures] at h
        · rintro ⟨hfits, -⟩
          cases hfits

theorem matches_iff :
    Matches pattern path ↔ ∃ captured, Fits pattern captured ∧ path = fill pattern captured := by
  simp only [Matches, Option.isSome_iff_exists, captures_iff]

end Segments

/-! ## Which pattern of a table is chosen -/

/-- The place of a kind of segment in the order of preference. -/
def Segment.rank : Segment → Nat
  | .static .. => 0
  | .param => 1
  | .wildcard => 2

/-- Patterns are preferred in the lexicographic order of their ranks. -/
def rank (pattern : List Segment) : List Nat := pattern.map Segment.rank

/-- A way to choose a pattern of a table for a path: one that matches, and none that another
    matching pattern is preferred to. A path that some pattern matches may still be given to
    none. -/
structure Selector where
  select : List (List Segment) → List Char → Option (List Segment)
  sound : ∀ table path pattern, select table path = some pattern →
    pattern ∈ table ∧ Matches pattern path
  preferred : ∀ table path pattern, select table path = some pattern →
    ∀ other ∈ table, Matches other path → ¬ rank other < rank pattern

namespace Selector

/-- The last pattern in the order of preference is chosen when something is and it is the only one
    that matches. -/
theorem select_last_iff (S : Selector) {table : List (List Segment)} {path : List Char}
    {pattern : List Segment} (hlast : ∀ other ∈ table, other ≠ pattern → rank other < rank pattern) :
    S.select table path = some pattern ↔
      S.select table path ≠ none ∧ Matches pattern path ∧
        ∀ other ∈ table, other ≠ pattern → ¬ Matches other path := by
  constructor
  · intro h
    exact ⟨by simp [h], (S.sound table path pattern h).2, fun other hother hne hmatches =>
      S.preferred table path pattern h other hother hmatches (hlast other hother hne)⟩
  · rintro ⟨hsome, -, hnone⟩
    obtain ⟨chosen, hselect⟩ := Option.ne_none_iff_exists'.mp hsome
    obtain ⟨hchosen, hmatches⟩ := S.sound table path chosen hselect
    by_cases heq : chosen = pattern
    · rw [hselect, heq]
    · exact absurd hmatches (hnone chosen hchosen heq)

/-- The first of the most preferred patterns. -/
def least : Selector where
  select table path := (table.filter (Matches · path)).argmin rank
  sound table path pattern h := by simpa using List.argmin_mem h
  preferred table path pattern h other hother hmatches :=
    List.not_lt_of_mem_argmin (List.mem_filter.mpr ⟨hother, decide_eq_true hmatches⟩) h

/-- It finds every path that some pattern matches. -/
theorem least_eq_none_iff {table : List (List Segment)} {path : List Char} :
    least.select table path = none ↔ ∀ pattern ∈ table, ¬ Matches pattern path := by
  simp [least, List.argmin_eq_none, List.filter_eq_nil_iff]

/-- A selector that leaves some paths out. -/
def except (S : Selector) (left : List Char → Bool) : Selector where
  select table path := if left path then none else S.select table path
  sound table path pattern h := S.sound table path pattern (Option.ite_none_left_eq_some.mp h).2
  preferred table path pattern h :=
    S.preferred table path pattern (Option.ite_none_left_eq_some.mp h).2

end Selector

end Routing
