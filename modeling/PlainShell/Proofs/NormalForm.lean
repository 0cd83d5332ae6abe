import Mathlib.Data.List.Basic
import Mathlib.Data.List.TakeWhile
import PlainShell.Path

/-!
The normal form of an absolute path: one or two slashes, then plain parts with single slashes
between them. Cleaning an absolute path gives a normal form and leaves a normal form as it is, so
that what a path resolves to no longer depends on any directory.
-/

namespace PlainShell

theorem Text.not_mem_of_mem_splitOn {mark : Symbol} {text piece : Text}
    (member : piece ∈ text.splitOn mark) : mark ∉ piece := by
  induction text generalizing piece with
  | nil => simp_all
  | cons symbol rest ih =>
    rw [List.splitOn_cons_eq_if_modifyHead] at member
    split at member
    · rcases List.mem_cons.mp member with rfl | further
      · simp
      · exact ih further
    · next other =>
      cases pieces : rest.splitOn mark with
      | nil => exact absurd pieces (List.splitOn_ne_nil mark rest)
      | cons first later =>
        rw [pieces, List.modifyHead_cons] at member
        rcases List.mem_cons.mp member with rfl | further
        · have free : mark ∉ first := ih (by simp [pieces])
          have apart : mark ≠ symbol := by
            rintro rfl
            simp at other
          exact List.not_mem_cons_of_ne_of_not_mem apart free
        · exact ih (by simp [pieces, further])

namespace Path

/-- A part that leads down, whatever is around it. -/
structure IsPlain (part : Text) : Prop where
  filled : part ≠ []
  moving : part ≠ "."
  onward : part ≠ ".."
  free : slash ∉ part

/-- The parts between the slashes behind the root. The root itself has none. -/
def partsBehindRoot (text : Text) : List Text :=
  let behind := text.dropWhile (· = slash)
  if behind = [] then [] else behind.splitOn slash

/-- One or exactly two slashes in front, and no empty part, `.` or `..` behind them. -/
structure IsNormal (text : Text) : Prop where
  slashes : (text.takeWhile (· = slash)).length = 1 ∨ (text.takeWhile (· = slash)).length = 2
  parts : ∀ part ∈ partsBehindRoot text, part ≠ [] ∧ part ≠ "." ∧ part ≠ ".."

/-! The steps of a path. -/

theorem steps_append_slash (first rest : Text) :
    steps (first ++ slash :: rest) = steps first ++ steps rest := by
  rw [steps, List.splitOn_append_cons_self, List.filter_append]
  rfl

@[simp] theorem steps_nil : steps [] = [] := by decide

@[simp] theorem steps_slash_cons (rest : Text) : steps (slash :: rest) = steps rest := by
  have whole := steps_append_slash [] rest
  simpa using whole

theorem mem_steps {path part : Text} (member : part ∈ steps path) :
    part ≠ [] ∧ part ≠ "." ∧ slash ∉ part := by
  obtain ⟨piece, kept⟩ := List.mem_filter.mp member
  obtain ⟨filled, moving⟩ := of_decide_eq_true kept
  exact ⟨filled, moving, Text.not_mem_of_mem_splitOn piece⟩

theorem leads_of_plain {parts : List Text} (plain : ∀ part ∈ parts, IsPlain part) :
    ∀ part ∈ parts, part ≠ [] ∧ part ≠ "." ∧ slash ∉ part :=
  fun part member => ⟨(plain part member).filled, (plain part member).moving,
    (plain part member).free⟩

theorem steps_joined {parts : List Text}
    (leads : ∀ part ∈ parts, part ≠ [] ∧ part ≠ "." ∧ slash ∉ part) :
    steps (Text.joined [slash] parts) = parts := by
  cases parts with
  | nil => rfl
  | cons first rest =>
    rw [steps, List.splitOn_intercalate slash (fun part member => (leads part member).2.2)
      (List.cons_ne_nil first rest), List.filter_eq_self]
    intro part member
    obtain ⟨filled, moving, -⟩ := leads part member
    exact decide_eq_true ⟨filled, moving⟩

/-! Following the parts. -/

theorem walk_plain {taken : List Text} {part : Text} (plain : ∀ last ∈ taken, IsPlain last)
    (step : part ≠ [] ∧ part ≠ "." ∧ slash ∉ part) :
    ∀ last ∈ walk true taken part, IsPlain last := by
  unfold walk
  split
  · split
    · simp
    · next last earlier =>
      have onward := (plain last (List.mem_cons_self ..)).onward
      rw [if_neg onward]
      exact fun other member => plain other (List.mem_cons_of_mem _ member)
  · next onward =>
    exact List.forall_mem_cons.mpr ⟨⟨step.1, step.2.1, onward, step.2.2⟩, plain⟩

theorem foldl_walk_plain {parts taken : List Text} (plain : ∀ last ∈ taken, IsPlain last)
    (steps : ∀ part ∈ parts, part ≠ [] ∧ part ≠ "." ∧ slash ∉ part) :
    ∀ last ∈ parts.foldl (walk true) taken, IsPlain last := by
  induction parts generalizing taken with
  | nil => exact plain
  | cons part rest ih =>
    obtain ⟨here, further⟩ := List.forall_mem_cons.mp steps
    exact ih (walk_plain plain here) further

/-- From a root, only plain parts are left. -/
theorem follow_plain (path : Text) : ∀ part ∈ follow true (steps path), IsPlain part := by
  intro part member
  have plain : ∀ last ∈ (steps path).foldl (walk true) [], IsPlain last :=
    foldl_walk_plain (by simp) fun part => mem_steps
  exact plain part (List.mem_reverse.mp member)

theorem foldl_walk_of_onward {rooted : Bool} {parts : List Text} (taken : List Text)
    (onward : ∀ part ∈ parts, part ≠ "..") :
    parts.foldl (walk rooted) taken = parts.reverse ++ taken := by
  induction parts generalizing taken with
  | nil => rfl
  | cons part rest ih =>
    obtain ⟨here, further⟩ := List.forall_mem_cons.mp onward
    have kept : walk rooted taken part = part :: taken := if_neg here
    rw [List.foldl_cons, kept, ih _ further, List.reverse_cons, List.append_assoc]
    rfl

theorem follow_of_onward {rooted : Bool} {parts : List Text}
    (onward : ∀ part ∈ parts, part ≠ "..") : follow rooted parts = parts := by
  rw [follow, foldl_walk_of_onward [] onward, List.append_nil, List.reverse_reverse]

/-! Roots. -/

theorem isAbsolute_iff {path : Text} : isAbsolute path = true ↔ ∃ rest, path = slash :: rest := by
  cases path with
  | nil => simp [isAbsolute]
  | cons symbol rest => simp [isAbsolute]

theorem filled_of_absolute {path : Text} (absolute : isAbsolute path = true) : path ≠ [] := by
  rintro rfl
  simp [isAbsolute] at absolute

theorem isRoot_anchorOf (path : Text) : (anchorOf path).isRoot = isAbsolute path := by
  cases path with
  | nil => rfl
  | cons symbol rest =>
    by_cases first : symbol = slash
    · subst first
      rw [isAbsolute_iff.mpr ⟨rest, rfl⟩, anchorOf, List.takeWhile_cons_of_pos (by simp),
        List.length_cons]
      split
      · next none => omega
      · rfl
      · rfl
    · simp [anchorOf, isAbsolute, first, Anchor.isRoot]

/-- The leading slashes of a text that goes on without one. -/
theorem span_anchor_text {anchor : Anchor} (rooted : anchor.isRoot = true) {behind : Text}
    (open_ : behind.head? ≠ some slash) :
    (anchor.text ++ behind).takeWhile (· = slash) = anchor.text ∧
      (anchor.text ++ behind).dropWhile (· = slash) = behind := by
  have all : ∀ symbol ∈ anchor.text, decide (symbol = slash) = true := by
    cases anchor with
    | here => simp [Anchor.isRoot] at rooted
    | root => decide
    | twinRoot => decide
  have none : behind.takeWhile (· = slash) = [] ∧ behind.dropWhile (· = slash) = behind := by
    cases behind with
    | nil => exact ⟨rfl, rfl⟩
    | cons symbol rest =>
      have other : symbol ≠ slash := by simpa using open_
      simp [other]
  rw [List.takeWhile_append_of_pos all, List.dropWhile_append_of_pos all, none.1, none.2,
    List.append_nil]
  exact ⟨rfl, rfl⟩

theorem head?_joined {parts : List Text}
    (leads : ∀ part ∈ parts, part ≠ [] ∧ part ≠ "." ∧ slash ∉ part) :
    (Text.joined [slash] parts).head? ≠ some slash := by
  cases parts with
  | nil => simp
  | cons first rest =>
    obtain ⟨filled, -, free⟩ := leads first (List.mem_cons_self ..)
    obtain ⟨symbol, others, rfl⟩ := List.exists_cons_of_ne_nil filled
    have other : symbol ≠ slash := by
      rintro rfl
      exact free (List.mem_cons_self ..)
    cases rest with
    | nil => simpa using other
    | cons second later => simpa [List.intercalate_cons_cons] using other

theorem joined_eq_nil_iff {parts : List Text}
    (leads : ∀ part ∈ parts, part ≠ [] ∧ part ≠ "." ∧ slash ∉ part) :
    Text.joined [slash] parts = [] ↔ parts = [] := by
  refine ⟨fun empty => ?_, fun none => by rw [none]; rfl⟩
  rw [← steps_joined leads, empty, steps_nil]

/-! Clean paths from a root. -/

section Rooted

variable {path : Path} (rooted : path.anchor.isRoot = true)
  (plain : ∀ part ∈ path.parts, IsPlain part)
include rooted

theorem text_of_root : path.text = path.anchor.text ++ Text.joined [slash] path.parts := by
  rw [text, if_neg]
  rintro ⟨here, -⟩
  simp [here, Anchor.isRoot] at rooted

include plain

theorem partsBehindRoot_text : partsBehindRoot path.text = path.parts := by
  obtain ⟨-, behind⟩ := span_anchor_text rooted (head?_joined (leads_of_plain plain))
  rw [partsBehindRoot, text_of_root rooted, behind]
  split
  · next empty => exact ((joined_eq_nil_iff (leads_of_plain plain)).mp empty).symm
  · next filled =>
    have some : path.parts ≠ [] := mt (joined_eq_nil_iff (leads_of_plain plain)).mpr filled
    exact List.splitOn_intercalate slash (fun part member => (plain part member).free) some

theorem isNormal_text : IsNormal path.text := by
  obtain ⟨front, -⟩ := span_anchor_text rooted (head?_joined (leads_of_plain plain))
  refine ⟨?_, ?_⟩
  · rw [text_of_root rooted, front]
    cases anchor : path.anchor with
    | here => simp [anchor, Anchor.isRoot] at rooted
    | root => exact Or.inl rfl
    | twinRoot => exact Or.inr rfl
  · rw [partsBehindRoot_text rooted plain]
    exact fun part member => ⟨(plain part member).filled, (plain part member).moving,
      (plain part member).onward⟩

/-- The text of a clean path stands for that path and no other. -/
theorem ofText_text : ofText path.text = path := by
  obtain ⟨front, -⟩ := span_anchor_text rooted (head?_joined (leads_of_plain plain))
  have anchor : anchorOf path.text = path.anchor := by
    rw [anchorOf, text_of_root rooted, front]
    cases anchor : path.anchor with
    | here => simp [anchor, Anchor.isRoot] at rooted
    | root => rfl
    | twinRoot => rfl
  have parts : steps path.text = path.parts := by
    rw [text_of_root rooted]
    cases anchor : path.anchor with
    | here => simp [anchor, Anchor.isRoot] at rooted
    | root => exact (steps_slash_cons _).trans (steps_joined (leads_of_plain plain))
    | twinRoot =>
      exact (steps_slash_cons _).trans
        ((steps_slash_cons _).trans (steps_joined (leads_of_plain plain)))
  rw [ofText, anchor, parts, follow_of_onward fun part member => (plain part member).onward]

end Rooted

theorem joined_partsBehindRoot (text : Text) :
    Text.joined [slash] (partsBehindRoot text) = text.dropWhile (· = slash) := by
  rw [partsBehindRoot]
  split
  · next empty => rw [empty]; rfl
  · exact List.intercalate_splitOn slash

theorem not_mem_of_mem_partsBehindRoot {text part : Text} (member : part ∈ partsBehindRoot text) :
    slash ∉ part := by
  rw [partsBehindRoot] at member
  split at member
  · simp at member
  · exact Text.not_mem_of_mem_splitOn member

theorem takeWhile_slash (text : Text) :
    text.takeWhile (· = slash) = List.replicate (text.takeWhile (· = slash)).length slash := by
  rw [List.eq_replicate_iff]
  refine ⟨rfl, ?_⟩
  intro symbol member
  have same := List.mem_takeWhile_imp member
  exact of_decide_eq_true same

section Clean

variable {path : Text} (absolute : isAbsolute path = true)
include absolute

theorem rooted_ofText : (ofText path).anchor.isRoot = true :=
  (isRoot_anchorOf path).trans absolute

theorem parts_ofText : (ofText path).parts = follow true (steps path) := by
  change follow (anchorOf path).isRoot (steps path) = _
  rw [isRoot_anchorOf, absolute]

theorem plain_ofText : ∀ part ∈ (ofText path).parts, IsPlain part := by
  rw [parts_ofText absolute]
  exact follow_plain path

/-- Cleaning an absolute path gives its normal form. -/
theorem isNormal_clean : IsNormal (clean path) :=
  isNormal_text (rooted_ofText absolute) (plain_ofText absolute)

/-- What is clean stands for the same path as before. -/
theorem ofText_clean : ofText (clean path) = ofText path :=
  ofText_text (rooted_ofText absolute) (plain_ofText absolute)

theorem clean_of_absolute :
    clean path = (anchorOf path).text ++ Text.joined [slash] (follow true (steps path)) := by
  rw [clean, text_of_root (rooted_ofText absolute), parts_ofText absolute]
  rfl

end Clean

/-! Resolving. -/

/-- An absolute path does not ask where the session is. -/
theorem resolve_of_absolute {path : Text} (absolute : isAbsolute path = true)
    (directory : Option Text) : resolve directory path = some (clean path) := by
  cases directory with
  | none => exact if_pos absolute
  | some base => simp only [resolve, if_neg (filled_of_absolute absolute), if_pos absolute]

theorem resolve_none {path : Text} (relative : isAbsolute path = false) :
    resolve none path = none := by
  rw [resolve, if_neg (by simp [relative])]

theorem isAbsolute_join {base : Text} (absolute : isAbsolute base = true) (path : Text) :
    isAbsolute (join base path) = true := by
  obtain ⟨rest, rfl⟩ := isAbsolute_iff.mp absolute
  unfold join
  split
  · assumption
  · split <;> exact isAbsolute_iff.mpr ⟨_, rfl⟩

namespace IsNormal

variable {text : Text} (normal : IsNormal text)
include normal

theorem eq_text : ∃ path : Path, path.anchor.isRoot = true ∧
    (∀ part ∈ path.parts, IsPlain part) ∧ path.text = text := by
  have plain : ∀ part ∈ partsBehindRoot text, IsPlain part := by
    intro part member
    obtain ⟨filled, moving, onward⟩ := normal.parts part member
    exact ⟨filled, moving, onward, not_mem_of_mem_partsBehindRoot member⟩
  have whole : List.replicate (text.takeWhile (· = slash)).length slash ++
      Text.joined [slash] (partsBehindRoot text) = text := by
    rw [joined_partsBehindRoot, ← takeWhile_slash, List.takeWhile_append_dropWhile]
  rcases normal.slashes with one | two
  · refine ⟨⟨.root, partsBehindRoot text⟩, rfl, plain, ?_⟩
    rw [one] at whole
    exact (text_of_root rfl).trans whole
  · refine ⟨⟨.twinRoot, partsBehindRoot text⟩, rfl, plain, ?_⟩
    rw [two] at whole
    exact (text_of_root rfl).trans whole

theorem clean_eq : clean text = text := by
  obtain ⟨path, rooted, plain, rfl⟩ := normal.eq_text
  rw [clean, ofText_text rooted plain]

theorem absolute : isAbsolute text = true := by
  rw [← isRoot_anchorOf, anchorOf]
  rcases normal.slashes with one | two
  · rw [one]
    rfl
  · rw [two]
    rfl

/-- A normal form means itself, whatever the working directory is. -/
theorem resolve_eq (directory : Option Text) : resolve directory text = some text := by
  rw [resolve_of_absolute normal.absolute, normal.clean_eq]

/-- Only the root itself ends in a slash. -/
theorem eq_root_of_getLast? (last : text.getLast? = some slash) : text = "/" ∨ text = "//" := by
  have whole : text.takeWhile (· = slash) ++ text.dropWhile (· = slash) = text :=
    List.takeWhile_append_dropWhile
  by_cases bare : text.dropWhile (· = slash) = []
  · rw [bare, List.append_nil, takeWhile_slash] at whole
    rcases normal.slashes with one | two
    · rw [one] at whole
      exact Or.inl whole.symm
    · rw [two] at whole
      exact Or.inr whole.symm
  · -- A slash at the end has an empty part behind it.
    rw [← whole, List.getLast?_append_of_ne_nil _ bare] at last
    obtain ⟨before, ended⟩ := List.getLast?_eq_some_iff.mp last
    have empty : [] ∈ partsBehindRoot text := by
      rw [partsBehindRoot, if_neg bare, ended, List.splitOn_append_cons_self]
      simp
    exact absurd rfl (normal.parts [] empty).1

end IsNormal

/-- What a path resolves to is a normal form, provided the working directory, if known, is absolute.
-/
theorem isNormal_of_resolve {directory : Option Text}
    (placed : ∀ base ∈ directory, isAbsolute base = true) {path target : Text}
    (resolved : resolve directory path = some target) : IsNormal target := by
  cases directory with
  | none =>
    rw [resolve] at resolved
    split at resolved
    · next absolute =>
      rw [← Option.some.inj resolved]
      exact isNormal_clean absolute
    · simp at resolved
  | some base =>
    have absolute : isAbsolute base = true := placed base rfl
    simp only [resolve] at resolved
    obtain rfl := Option.some.inj resolved
    generalize (if path = [] then base else path) = aim
    split
    · next rooted => exact isNormal_clean rooted
    · exact isNormal_clean (isAbsolute_join absolute aim)

end Path

end PlainShell
