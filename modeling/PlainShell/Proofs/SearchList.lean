import Mathlib.Data.List.DropRight
import PlainShell.SearchPath
import PlainShell.Proofs.RelativeForm
import PlainShell.Proofs.Routing

/-!
Search lists with relative entries. Where such an entry has a name is found in two rounds: entry and
name are cleaned by themselves, and what comes out is cleaned again behind the working directory.
That is where the entry, put behind the working directory first, has the name. The empty entry is
the one exception. It leaves a name that begins with a slash alone, and such a name is then looked
up from the root, outside every directory of the list.
-/

namespace PlainShell

namespace SearchPath

/-! Where an entry has a name. -/

/-- The entry and the name with one slash between them. -/
def underneath (entry name : Text) : Text :=
  Text.dropEndWhile (· = Path.slash) entry ++ [Path.slash] ++ name.dropWhile (· = Path.slash)

theorem place_of_filled {entry : Text} (filled : entry ≠ []) (name : Text) :
    place entry name = Path.clean (underneath entry name) := if_neg filled

/-- An entry is itself without the slashes at its end, and those. -/
theorem dropEndWhile_append_slashes (entry : Text) :
    ∃ count, entry = Text.dropEndWhile (· = Path.slash) entry ++
      List.replicate count Path.slash := by
  have whole := List.rdropWhile_append_rtakeWhile (p := fun symbol => decide (symbol = Path.slash))
    (l := entry)
  refine ⟨(entry.rtakeWhile fun symbol => decide (symbol = Path.slash)).length, ?_⟩
  have all : entry.rtakeWhile (fun symbol => decide (symbol = Path.slash)) =
      List.replicate (entry.rtakeWhile fun symbol => decide (symbol = Path.slash)).length
        Path.slash := by
    rw [List.eq_replicate_iff]
    refine ⟨rfl, fun symbol member => ?_⟩
    have same := List.mem_rtakeWhile_imp member
    exact of_decide_eq_true same
  rw [← all]
  exact whole.symm

theorem steps_underneath (entry name : Text) :
    Path.steps (underneath entry name) = Path.steps entry ++ Path.steps name := by
  obtain ⟨count, whole⟩ := dropEndWhile_append_slashes entry
  have trimmed : Path.steps (Text.dropEndWhile (· = Path.slash) entry) = Path.steps entry := by
    conv_rhs => rw [whole]
    exact (Path.steps_append_slashes _ count).symm
  rw [underneath, List.append_assoc, List.singleton_append, Path.steps_append_slash, trimmed,
    Path.steps_dropWhile]

theorem exists_ne_slash {entry : Text}
    (left : Text.dropEndWhile (· = Path.slash) entry ≠ []) :
    ∃ symbol ∈ Text.dropEndWhile (· = Path.slash) entry, symbol ≠ Path.slash := by
  have last := List.rdropWhile_last_not (fun symbol => decide (symbol = Path.slash)) entry left
  exact ⟨_, List.getLast_mem left, fun same => last (decide_eq_true same)⟩

/-- Only slashes go, so the anchor stays, if anything is left. -/
theorem anchorOf_underneath {entry : Text} (name : Text)
    (left : Text.dropEndWhile (· = Path.slash) entry ≠ []) :
    Path.anchorOf (underneath entry name) = Path.anchorOf entry := by
  obtain ⟨count, whole⟩ := dropEndWhile_append_slashes entry
  have other := exists_ne_slash left
  conv_rhs => rw [whole]
  rw [underneath, List.append_assoc, Path.anchorOf_append (Or.inr other),
    Path.anchorOf_append (Or.inr other)]

/-- Under an entry of slashes the name begins at the root. -/
theorem anchorOf_underneath_slashes {entry : Text} (name : Text)
    (bare : Text.dropEndWhile (· = Path.slash) entry = []) :
    Path.anchorOf (underneath entry name) = .root := by
  have open_ : (name.dropWhile (· = Path.slash)).head? ≠ some Path.slash :=
    of_decide_eq_false (Path.isAbsolute_dropWhile name)
  rw [underneath, bare, List.nil_append, Path.anchorOf_append (Or.inl open_)]
  rfl

/-- Under an absolute entry: the steps of both, followed from the root. -/
theorem place_of_absolute {entry : Text} (absolute : Path.isAbsolute entry = true) (name : Text) :
    ∃ anchor : Anchor, anchor.isRoot = true ∧ (Path.anchorOf entry = .root → anchor = .root) ∧
      place entry name =
        Path.text ⟨anchor, Path.follow true (Path.steps entry ++ Path.steps name)⟩ := by
  have filled : entry ≠ [] := Path.filled_of_absolute absolute
  have anchored : (Path.anchorOf (underneath entry name)).isRoot = true ∧
      (Path.anchorOf entry = .root → Path.anchorOf (underneath entry name) = .root) := by
    by_cases left : Text.dropEndWhile (· = Path.slash) entry = []
    · rw [anchorOf_underneath_slashes name left]
      exact ⟨rfl, fun _ => rfl⟩
    · rw [anchorOf_underneath name left]
      exact ⟨(Path.isRoot_anchorOf entry).trans absolute, id⟩
  refine ⟨Path.anchorOf (underneath entry name), anchored.1, anchored.2, ?_⟩
  rw [place_of_filled filled, Path.clean, Path.ofText, anchored.1, steps_underneath]

theorem ofText_place {entry : Text} (absolute : Path.isAbsolute entry = true) (name : Text) :
    (Path.ofText (place entry name)).anchor.isRoot = true ∧
      (Path.ofText (place entry name)).parts =
        Path.follow true (Path.steps entry ++ Path.steps name) := by
  obtain ⟨anchor, rooted, -, placed⟩ := place_of_absolute absolute name
  have plain := Path.follow_plain (underneath entry name)
  rw [steps_underneath] at plain
  rw [placed, Path.ofText_text rooted plain]
  exact ⟨rooted, rfl⟩

theorem isAbsolute_place {entry : Text} (absolute : Path.isAbsolute entry = true) (name : Text) :
    Path.isAbsolute (place entry name) = true := by
  rw [← Path.isRoot_anchorOf]
  exact (ofText_place absolute name).1

theorem place_of_root {entry : Text} (rooted : Path.anchorOf entry = .root) (name : Text) :
    place entry name =
      Path.text ⟨.root, Path.follow true (Path.steps entry ++ Path.steps name)⟩ := by
  have absolute : Path.isAbsolute entry = true := by
    rw [← Path.isRoot_anchorOf, rooted]
    rfl
  obtain ⟨anchor, -, root, placed⟩ := place_of_absolute absolute name
  rw [placed, root rooted]

/-- A relative entry leaves a relative path, unless it is empty and the name is absolute. -/
theorem steps_place {entry name : Text} (relative : Path.isAbsolute entry = false)
    (bare : entry = [] → Path.isAbsolute name = false) :
    Path.isAbsolute (place entry name) = false ∧
      Path.steps (place entry name) =
        Path.follow false (Path.steps entry ++ Path.steps name) := by
  by_cases empty : entry = []
  · rw [place, if_pos empty, empty]
    exact Path.steps_clean (bare empty)
  · have left : Text.dropEndWhile (· = Path.slash) entry ≠ [] := by
      intro gone
      obtain ⟨count, slashes⟩ := dropEndWhile_append_slashes entry
      rw [gone, List.nil_append] at slashes
      cases count with
      | zero => exact empty slashes
      | succ count => simp [slashes, Path.isAbsolute, List.replicate_succ] at relative
    have open_ : Path.isAbsolute (underneath entry name) = false := by
      rw [← Path.isRoot_anchorOf, anchorOf_underneath name left, Path.isRoot_anchorOf, relative]
    rw [place_of_filled empty, ← steps_underneath]
    exact Path.steps_clean open_

/-- The way to the path leads through the directory. -/
def IsBelow (directory path : Text) : Prop :=
  (Path.ofText directory).parts <+: (Path.ofText path).parts

/-- A name without `..` stays below its entry, whatever else it is. -/
theorem isBelow_place {entry : Text} (absolute : Path.isAbsolute entry = true) {name : Text}
    (onward : (".." : Text) ∉ Path.steps name) : IsBelow entry (place entry name) := by
  have rooted : (Path.anchorOf entry).isRoot = true := (Path.isRoot_anchorOf entry).trans absolute
  have steady : ∀ part ∈ Path.steps name, part ≠ ".." := fun part member back =>
    onward (back ▸ member)
  have longer : Path.follow true (Path.steps entry ++ Path.steps name) =
      Path.follow true (Path.steps entry) ++ Path.steps name := by
    rw [Path.follow, List.foldl_append, Path.foldl_walk_of_onward _ steady, List.reverse_append,
      List.reverse_reverse]
    rfl
  rw [IsBelow, (ofText_place absolute name).2, longer]
  change Path.follow (Path.anchorOf entry).isRoot (Path.steps entry) <+: _
  rw [rooted]
  exact List.prefix_append _ _

section Working

variable {base : Text} (rooted : Path.anchorOf base = .root)

theorem candidate_of_absolute {entry : Text} (absolute : Path.isAbsolute entry = true)
    (base name : Text) : candidate (some base) name entry = place entry name := by
  simp only [candidate, isAbsolute_place absolute name, if_true]

/-- An empty entry has an absolute name where it is without any directory. -/
theorem candidate_nil {name : Text} (absolute : Path.isAbsolute name = true) (base : Text) :
    candidate (some base) name [] = Path.clean name := by
  have placed : place [] name = Path.clean name := if_pos rfl
  simp only [candidate, placed, (Path.isNormal_clean absolute).absolute, if_true]

include rooted

theorem isAbsolute_join_entry (entry : Text) : Path.isAbsolute (Path.join base entry) = true := by
  apply Path.isAbsolute_join
  rw [← Path.isRoot_anchorOf, rooted]
  rfl

/-- An entry means the directory behind the working one. -/
theorem candidate_join {entry name : Text} (bare : entry = [] → Path.isAbsolute name = false) :
    candidate (some base) name (Path.join base entry) = candidate (some base) name entry := by
  cases absolute : Path.isAbsolute entry with
  | true => rw [Path.join_of_absolute absolute]
  | false =>
    obtain ⟨open_, left⟩ := steps_place absolute bare
    have whole : candidate (some base) name entry =
        Path.clean (Path.join base (place entry name)) := by
      simp only [candidate, open_, Bool.false_eq_true, if_false]
    calc candidate (some base) name (Path.join base entry)
        = place (Path.join base entry) name :=
          candidate_of_absolute (isAbsolute_join_entry rooted entry) base name
      _ = Path.text ⟨.root, Path.follow true
            (Path.steps base ++ (Path.steps entry ++ Path.steps name))⟩ := by
          rw [place_of_root (Path.anchorOf_join absolute rooted), Path.steps_join absolute,
            List.append_assoc]
      _ = Path.text ⟨.root, Path.follow true (Path.steps (Path.join base (place entry name)))⟩ := by
          rw [Path.steps_join open_, left, Path.follow_append_follow]
      _ = candidate (some base) name entry := by
          rw [whole, Path.clean_of_root (Path.anchorOf_join open_ rooted)]

example : candidate (some "/srv") "/bin/p" "." = "/srv/bin/p" := by decide

/-- The empty entry is the working directory once that is put in front. -/
theorem candidate_join_nil (name : Text) :
    candidate (some base) name (Path.join base []) = place base name := by
  have here : Path.isAbsolute [] = false := rfl
  rw [candidate_of_absolute (isAbsolute_join_entry rooted []),
    place_of_root (Path.anchorOf_join here rooted), place_of_root rooted, Path.steps_join here,
    Path.steps_nil, List.append_nil]

end Working

/-! The search along the list. -/

theorem search_append (host : Host) (working : Option Text) (before later : List Text)
    (name : Text) :
    search host working (before ++ later) name =
      (search host working before name).or (search host working later name) := by
  rw [search, List.map_append, List.find?_append]
  rfl

/-- Once one of the empty entries is tried, the others make no difference. -/
theorem guard_or_find? (host : Host) (spot : Text → Text) (entries : List Text) :
    (Option.guard host.has (spot [])).or ((entries.map spot).find? host.has) =
      (Option.guard host.has (spot [])).or
        (((entries.filter (· ≠ [])).map spot).find? host.has) := by
  cases present : host.has (spot []) with
  | true => simp [Option.guard, present]
  | false =>
    have skipped : (entries.map spot).find? host.has =
        ((entries.filter (· ≠ [])).map spot).find? host.has := by
      induction entries with
      | nil => rfl
      | cons entry rest ih =>
        by_cases empty : entry = []
        · simp [empty, present, ih]
        · simp [empty, List.find?_cons, ih]
    rw [skipped]

theorem find?_cons_eq_guard_or (host : Host) (path : Text) (paths : List Text) :
    (path :: paths).find? host.has = (Option.guard host.has path).or (paths.find? host.has) := by
  cases present : host.has path <;> simp [Option.guard, present]

/-- The list with its relative entries put behind the working directory. -/
def anchored (base : Text) (entries : List Text) : List Text := entries.map (Path.join base)

/-- The name begins with a slash, the search comes to an empty entry, and it matters there whether
the name is looked up from the root or behind the working directory. -/
structure Strays (host : Host) (base : Text) (entries : List Text) (name : Text) : Prop where
  absolute : Path.isAbsolute name = true
  apart : ∃ before later, entries = before ++ [] :: later ∧ [] ∉ before ∧
    search host (some base) before name = none ∧
    (Option.guard host.has (Path.clean name)).or
        (search host (some base) (later.filter (· ≠ [])) name) ≠
      (Option.guard host.has (place base name)).or
        (search host (some base) (later.filter (· ≠ [])) name)

section Anchored

variable (host : Host) {base : Text} (rooted : Path.anchorOf base = .root) {name : Text}
include rooted

theorem search_anchored {entries : List Text}
    (bare : [] ∈ entries → Path.isAbsolute name = false) :
    search host (some base) (anchored base entries) name =
      search host (some base) entries name := by
  have same : (anchored base entries).map (candidate (some base) name) =
      entries.map (candidate (some base) name) := by
    rw [anchored, List.map_map]
    apply List.map_congr_left
    intro entry member
    apply candidate_join rooted
    intro empty
    exact bare (empty ▸ member)
  rw [search, same, search]

variable {before : List Text} (later : List Text)

omit rooted in
theorem search_of_empty (absolute : Path.isAbsolute name = true) :
    search host (some base) (before ++ [] :: later) name =
      (search host (some base) before name).or
        ((Option.guard host.has (Path.clean name)).or
          (search host (some base) (later.filter (· ≠ [])) name)) := by
  have behind := guard_or_find? host (candidate (some base) name) later
  rw [candidate_nil absolute] at behind
  rw [search_append]
  congr 1
  rw [search, List.map_cons, find?_cons_eq_guard_or, candidate_nil absolute, behind]
  rfl

theorem search_anchored_of_empty (filled : [] ∉ before) :
    search host (some base) (anchored base (before ++ [] :: later)) name =
      (search host (some base) before name).or
        ((Option.guard host.has (place base name)).or
          (search host (some base) (later.filter (· ≠ [])) name)) := by
  have behind := guard_or_find? host
    (fun entry => candidate (some base) name (Path.join base entry)) later
  rw [candidate_join_nil rooted] at behind
  have front : search host (some base) (anchored base before) name =
      search host (some base) before name :=
    search_anchored host rooted fun empty => absurd empty filled
  have back : search host (some base) (anchored base (later.filter (· ≠ []))) name =
      search host (some base) (later.filter (· ≠ [])) name :=
    search_anchored host rooted (by simp)
  rw [← front, ← back, anchored, List.map_append, search_append, List.map_cons]
  congr 1
  rw [search, List.map_cons, find?_cons_eq_guard_or, candidate_join_nil rooted]
  simp only [search, anchored, List.map_map]
  exact behind

end Anchored

/-- The path is the name's place behind one of the directories, and below that directory unless the
name leads up. -/
def IsPlaced (base : Text) (entries : List Text) (name path : Text) : Prop :=
  ∃ entry ∈ entries, path = place (Path.join base entry) name ∧
    ((".." : Text) ∉ Path.steps name → IsBelow (Path.join base entry) path)

section Placed

variable {host : Host} {base : Text} (rooted : Path.anchorOf base = .root) {entries : List Text}
  {name path : Text}
include rooted

theorem isPlaced_of_mem {entry : Text} (member : entry ∈ entries) :
    IsPlaced base entries name (candidate (some base) name (Path.join base entry)) := by
  have absolute := isAbsolute_join_entry rooted entry
  rw [candidate_of_absolute absolute]
  exact ⟨entry, member, rfl, isBelow_place absolute⟩

theorem isPlaced_of_anchored
    (found : search host (some base) (anchored base entries) name = some path) :
    IsPlaced base entries name path := by
  obtain ⟨directory, listed, rfl⟩ := List.mem_map.mp (List.mem_of_find?_eq_some found)
  obtain ⟨entry, member, rfl⟩ := List.mem_map.mp listed
  exact isPlaced_of_mem rooted member

theorem isPlaced_or_stray (found : search host (some base) entries name = some path) :
    IsPlaced base entries name path ∨
      Path.isAbsolute name = true ∧ [] ∈ entries ∧ path = Path.clean name := by
  obtain ⟨entry, member, rfl⟩ := List.mem_map.mp (List.mem_of_find?_eq_some found)
  by_cases stray : entry = [] ∧ Path.isAbsolute name = true
  · obtain ⟨rfl, absolute⟩ := stray
    exact Or.inr ⟨absolute, member, candidate_nil absolute base⟩
  · have bare : entry = [] → Path.isAbsolute name = false := fun empty =>
      Bool.eq_false_iff.mpr fun absolute => stray ⟨empty, absolute⟩
    rw [← candidate_join rooted bare]
    exact Or.inl (isPlaced_of_mem rooted member)

end Placed

/-- Relative entries mean directories behind the working one, except where the search strays. What
it finds lies in the directories, or is the absolute name itself by an empty entry. -/
theorem search_anchored_iff (host : Host) {base : Text} (rooted : Path.anchorOf base = .root)
    (entries : List Text) (name : Text) :
    (search host (some base) entries name = search host (some base) (anchored base entries) name ↔
      ¬Strays host base entries name) ∧
    (∀ path, search host (some base) (anchored base entries) name = some path →
      IsPlaced base entries name path) ∧
    (∀ path, search host (some base) entries name = some path →
      IsPlaced base entries name path ∨
        Path.isAbsolute name = true ∧ [] ∈ entries ∧ path = Path.clean name) := by
  refine ⟨⟨fun same => ?_, fun straight => ?_⟩, fun path => isPlaced_of_anchored rooted,
    fun path => isPlaced_or_stray rooted⟩
  · rintro ⟨absolute, before, later, rfl, filled, missing, differ⟩
    rw [search_of_empty host later absolute, search_anchored_of_empty host rooted later filled,
      missing, Option.none_or, Option.none_or] at same
    exact differ same
  · by_cases stray : [] ∈ entries ∧ Path.isAbsolute name = true
    · obtain ⟨empty, absolute⟩ := stray
      obtain ⟨before, later, rfl, filled⟩ := List.eq_append_cons_of_mem empty
      rw [search_of_empty host later absolute, search_anchored_of_empty host rooted later filled]
      cases missing : search host (some base) before name with
      | some path => rfl
      | none =>
        by_contra differ
        rw [Option.none_or, Option.none_or] at differ
        exact straight ⟨absolute, before, later, rfl, filled, missing, differ⟩
    · refine (search_anchored host rooted fun empty => ?_).symm
      exact Bool.eq_false_iff.mpr fun absolute => stray ⟨empty, absolute⟩

/-- A program that lies at `/bin/p` only, searched for from another directory. -/
theorem search_anchored_at_srv :
    let host := Host.lone (.ends [] 0)
    Path.anchorOf "/srv" = .root ∧
      search host (some "/srv") ["../bin", ""] "p" =
        search host (some "/srv") (anchored "/srv" ["../bin", ""]) "p" ∧
      IsPlaced "/srv" ["../bin", ""] "p" "/bin/p" := by
  intro host
  have rooted : Path.anchorOf "/srv" = .root := by decide
  obtain ⟨same, placed, -⟩ := search_anchored_iff host rooted ["../bin", ""] "p"
  have relative : Path.isAbsolute "p" ≠ true := by decide
  have straight : ¬Strays host "/srv" ["../bin", ""] "p" := fun stray => relative stray.absolute
  exact ⟨rooted, same.mpr straight, placed "/bin/p" (by decide)⟩

/-- The empty entry finds the absolute name outside the directory it stands for. -/
theorem empty_entry_finds_outside :
    let host := Host.lone (.ends [] 0)
    Path.anchorOf "/srv" = .root ∧
      search host (some "/srv") [""] "/bin/p" = some "/bin/p" ∧
      search host (some "/srv") (anchored "/srv" [""]) "/bin/p" = none ∧
      ¬IsBelow "/srv" "/bin/p" := by
  refine ⟨by decide, by decide, by decide, ?_⟩
  rw [IsBelow]
  decide

end SearchPath

end PlainShell
