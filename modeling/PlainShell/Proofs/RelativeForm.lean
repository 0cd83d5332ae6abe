import Mathlib.Data.List.TakeWhile
import PlainShell.Proofs.NormalForm

/-!
The clean form of a relative path, and what it becomes behind an absolute one. `..` at the beginning
of a relative path stays, since what it takes back is not known yet. Behind a root it takes back
just that. So a relative path may be cleaned before it is joined or after.
-/

namespace PlainShell

namespace Path

/-! Following a relative way and then going on. -/

/-- One more step on a way that is settled later is that step taken after settling. -/
theorem foldl_walk_walk (way taken : List Text) (part : Text) :
    (walk false way part).reverse.foldl (walk true) taken =
      walk true (way.reverse.foldl (walk true) taken) part := by
  by_cases back : part = ".."
  · subst back
    cases way with
    | nil => rfl
    | cons last earlier =>
      by_cases up : last = ".."
      · have kept : walk false (last :: earlier) ".." = (".." : Text) :: last :: earlier := by
          simp [walk, up]
        rw [kept, List.reverse_cons, List.foldl_append]
        rfl
      · -- The step takes back `last`, which is the last one taken after settling as well.
        have taken_back : walk false (last :: earlier) ".." = earlier := by simp [walk, up]
        have pushed : walk true (earlier.reverse.foldl (walk true) taken) last =
            last :: earlier.reverse.foldl (walk true) taken := if_neg up
        rw [taken_back, List.reverse_cons, List.foldl_append]
        change _ = walk true (walk true (earlier.reverse.foldl (walk true) taken) last) ".."
        rw [pushed]
        simp [walk, up]
  · have kept : walk false way part = part :: way := if_neg back
    rw [kept, List.reverse_cons, List.foldl_append]
    rfl

theorem foldl_walk_foldl (parts way taken : List Text) :
    (parts.foldl (walk false) way).reverse.foldl (walk true) taken =
      parts.foldl (walk true) (way.reverse.foldl (walk true) taken) := by
  induction parts generalizing way with
  | nil => rfl
  | cons part rest ih =>
    rw [List.foldl_cons, ih, foldl_walk_walk]
    rfl

/-- From a root, the relative way behind may be cleaned first. -/
theorem follow_append_follow (before after : List Text) :
    follow true (before ++ follow false after) = follow true (before ++ after) := by
  simp only [follow, List.foldl_append]
  rw [foldl_walk_foldl]
  rfl

theorem mem_walk {rooted : Bool} {taken : List Text} {part last : Text}
    (member : last ∈ walk rooted taken part) : last = part ∨ last ∈ taken := by
  unfold walk at member
  split at member
  · cases taken with
    | nil => cases rooted <;> simp_all
    | cons first earlier =>
      dsimp only at member
      split at member
      · simpa using member
      · exact Or.inr (List.mem_cons_of_mem _ member)
  · simpa using member

theorem mem_foldl_walk {rooted : Bool} {parts taken : List Text} {last : Text}
    (member : last ∈ parts.foldl (walk rooted) taken) : last ∈ parts ∨ last ∈ taken := by
  induction parts generalizing taken with
  | nil => exact Or.inr member
  | cons part rest ih =>
    rcases ih member with later | earlier
    · exact Or.inl (List.mem_cons_of_mem _ later)
    · rcases mem_walk earlier with rfl | before
      · exact Or.inl (List.mem_cons_self ..)
      · exact Or.inr before

theorem mem_follow {rooted : Bool} {parts : List Text} {part : Text}
    (member : part ∈ follow rooted parts) : part ∈ parts := by
  rcases mem_foldl_walk (List.mem_reverse.mp member) with there | nowhere
  · exact there
  · simp at nowhere

/-! Anchors of longer texts. -/

theorem anchorOf_of_relative {path : Text} (relative : isAbsolute path = false) :
    anchorOf path = .here := by
  have unrooted := (isRoot_anchorOf path).trans relative
  cases anchor : anchorOf path <;> simp_all [Anchor.isRoot]

/-- What comes behind a text does not change its anchor, unless slashes meet there. -/
theorem anchorOf_append {front tail : Text}
    (apart : tail.head? ≠ some slash ∨ ∃ symbol ∈ front, symbol ≠ slash) :
    anchorOf (front ++ tail) = anchorOf front := by
  have same : (front ++ tail).takeWhile (· = slash) = front.takeWhile (· = slash) := by
    rw [List.takeWhile_append]
    split
    · next all =>
      have whole : front.takeWhile (· = slash) = front :=
        (List.takeWhile_prefix _).eq_of_length all
      rcases apart with open_ | ⟨symbol, member, other⟩
      · cases tail with
        | nil => rw [List.takeWhile_nil, List.append_nil, whole]
        | cons symbol rest =>
          have other : symbol ≠ slash := by simpa using open_
          rw [List.takeWhile_cons_of_neg (by simpa using other), List.append_nil, whole]
      · rw [← whole] at member
        have same := List.mem_takeWhile_imp member
        exact absurd (of_decide_eq_true same) other
    · rfl
  rw [anchorOf, same, anchorOf]

theorem clean_of_relative {path : Text} (relative : isAbsolute path = false) :
    clean path = text ⟨.here, follow false (steps path)⟩ := by
  rw [clean, ofText, anchorOf_of_relative relative]
  rfl

theorem clean_of_root {path : Text} (rooted : anchorOf path = .root) :
    clean path = text ⟨.root, follow true (steps path)⟩ := by
  rw [clean, ofText, rooted]
  rfl

/-- A clean relative path is relative, and its steps are those left over. -/
theorem steps_clean {path : Text} (relative : isAbsolute path = false) :
    isAbsolute (clean path) = false ∧ steps (clean path) = follow false (steps path) := by
  have leads : ∀ part ∈ follow false (steps path), part ≠ [] ∧ part ≠ "." ∧ slash ∉ part :=
    fun part member => mem_steps (mem_follow member)
  rw [clean_of_relative relative, text]
  split
  · next nowhere =>
    have empty : follow false (steps path) = [] := nowhere.2
    rw [empty]
    decide
  · change isAbsolute (Text.joined [slash] (follow false (steps path))) = false ∧
      steps (Text.joined [slash] (follow false (steps path))) = _
    exact ⟨decide_eq_false (head?_joined leads), steps_joined leads⟩

/-! Joining behind a root. -/

theorem steps_append_slashes (path : Text) (count : Nat) :
    steps (path ++ List.replicate count slash) = steps path := by
  have none : steps (List.replicate count slash) = [] := by
    induction count with
    | zero => rfl
    | succ count ih => rw [List.replicate_succ, steps_slash_cons, ih]
  cases count with
  | zero => rw [List.replicate_zero, List.append_nil]
  | succ count =>
    rw [List.replicate_succ, steps_slash_cons] at none
    rw [List.replicate_succ, steps_append_slash, none, List.append_nil]

theorem steps_dropWhile (path : Text) : steps (path.dropWhile (· = slash)) = steps path := by
  induction path with
  | nil => rfl
  | cons symbol rest ih =>
    by_cases first : symbol = slash
    · rw [List.dropWhile_cons_of_pos (by simpa using first), ih, first, steps_slash_cons]
    · rw [List.dropWhile_cons_of_neg (by simpa using first)]

/-- Without the slashes in front a path is relative. -/
theorem isAbsolute_dropWhile (path : Text) :
    isAbsolute (path.dropWhile (· = slash)) = false := by
  rw [isAbsolute, decide_eq_false_iff_not]
  intro first
  have refused := List.head?_dropWhile_not (fun symbol => decide (symbol = slash)) path
  rw [first] at refused
  simp at refused

section Join

variable {base path : Text} (relative : isAbsolute path = false)
include relative

theorem steps_join : steps (join base path) = steps base ++ steps path := by
  rw [join, if_neg (by simp [relative])]
  split
  · next close =>
    rcases close with rfl | ended
    · rfl
    · obtain ⟨front, rfl⟩ := List.getLast?_eq_some_iff.mp ended
      rw [List.append_assoc, List.singleton_append, steps_append_slash, steps_append_slash,
        steps_nil, List.append_nil]
  · rw [List.append_assoc, List.singleton_append, steps_append_slash]

/-- A relative path does not touch the anchor of what it is joined to. -/
theorem anchorOf_join_of_filled (filled : base ≠ []) :
    anchorOf (join base path) = anchorOf base := by
  have open_ : path.head? ≠ some slash := of_decide_eq_false relative
  rw [join, if_neg (by simp [relative])]
  split
  · exact anchorOf_append (Or.inl open_)
  · next far =>
    obtain ⟨-, unended⟩ := not_or.mp far
    -- A base that does not end in a slash holds another symbol.
    have other : ∃ symbol ∈ base, symbol ≠ slash := by
      refine ⟨base.getLast filled, List.getLast_mem filled, ?_⟩
      intro same
      exact unended ((List.getLast?_eq_some_getLast filled).trans (congrArg some same))
    rw [List.append_assoc, anchorOf_append (Or.inr other)]

theorem anchorOf_join (rooted : anchorOf base = .root) : anchorOf (join base path) = .root := by
  have filled : base ≠ [] := by
    rintro rfl
    simp [anchorOf] at rooted
  rw [anchorOf_join_of_filled relative filled, rooted]

end Join

theorem join_of_absolute {path : Text} (absolute : isAbsolute path = true) (base : Text) :
    join base path = path := if_pos absolute

end Path

end PlainShell
