import PlainShell.Proofs.Cleaning

/-!
A name under a directory. The slashes between the two do not matter, and the name never replaces the
directory. The parts of the directory and then those of the name are scanned as one way. At a root
nothing lies above the beginning. A relative way may lead above it, and then it is remembered how
often. So a search has a name where the directory, taken as the working one, has it, with the twin
root itself as the only exception.
-/

namespace PlainShell

namespace Path

/-! Ways that lead above their beginning. -/

/-- How many of the parts lead above the beginning: each `..` that finds nothing kept to take away.
-/
def rises (kept : List Text) : List Text → Nat
  | [] => 0
  | part :: rest => (if part = ".." ∧ kept = [] then 1 else 0) + rises (keep kept part) rest

theorem keep_of_onward {part : Text} (leads : part ≠ [] ∧ part ≠ ".") (onward : part ≠ "..")
    (kept : List Text) : keep kept part = kept ++ [part] := by
  rw [keep, if_neg (not_or.mpr leads), if_neg onward]

theorem keep_back (kept : List Text) : keep kept ".." = kept.dropLast := by
  rw [keep, if_neg (by decide), if_pos rfl]

/-- Nothing that leads back is ever kept. -/
theorem back_not_mem_keep {kept : List Text} (onward : (".." : Text) ∉ kept) (part : Text) :
    (".." : Text) ∉ keep kept part := by
  rw [keep]
  split
  · exact onward
  · split
    · exact fun member => onward ((List.dropLast_sublist kept).mem member)
    · next other =>
      rw [List.mem_append, List.mem_singleton, not_or]
      exact ⟨onward, fun same => other same.symm⟩

/-- The way so far, innermost first as a walk has it: what is kept lies on what leads above. -/
def wayBack (kept : List Text) (above : Nat) : List Text :=
  kept.reverse ++ List.replicate above (".." : Text)

theorem walk_wayBack {kept : List Text} (onward : (".." : Text) ∉ kept) {part : Text}
    (leads : part ≠ [] ∧ part ≠ ".") (above : Nat) :
    walk false (wayBack kept above) part =
      wayBack (keep kept part) ((if part = ".." ∧ kept = [] then 1 else 0) + above) := by
  by_cases back : part = ".."
  · subst back
    rw [keep_back]
    rcases List.eq_nil_or_concat kept with rfl | ⟨earlier, last, rfl⟩
    · -- Nothing is kept, so the step goes above, on top of those that went there before.
      have higher : walk false (List.replicate above (".." : Text)) ".." =
          List.replicate (above + 1) (".." : Text) := by
        cases above <;> simp [walk, List.replicate_succ]
      rw [if_pos ⟨rfl, rfl⟩, Nat.add_comm]
      exact higher
    · have plain : last ≠ ".." := by
        rintro rfl
        exact onward (by simp)
      have filled : earlier.concat last ≠ [] := by simp
      rw [if_neg fun both => filled both.2, Nat.zero_add, List.concat_eq_append,
        List.dropLast_concat, wayBack, List.reverse_append, List.reverse_singleton,
        List.singleton_append, List.cons_append]
      simp [walk, plain, wayBack]
  · have longer : walk false (wayBack kept above) part = part :: wayBack kept above := if_neg back
    rw [longer, keep_of_onward leads back, if_neg fun both => back both.1, Nat.zero_add, wayBack,
      wayBack, List.reverse_append]
    rfl

theorem foldl_walk_wayBack (parts : List Text) {kept : List Text} (onward : (".." : Text) ∉ kept)
    (above : Nat) :
    (parts.filter fun part => part ≠ [] ∧ part ≠ ".").foldl (walk false) (wayBack kept above) =
      wayBack (parts.foldl keep kept) (rises kept parts + above) := by
  induction parts generalizing kept above with
  | nil =>
    rw [rises, Nat.zero_add]
    rfl
  | cons part rest ih =>
    rw [List.foldl_cons, rises]
    by_cases leads : part ≠ [] ∧ part ≠ "."
    · rw [List.filter_cons_of_pos (by simpa using leads), List.foldl_cons,
        walk_wayBack onward leads, ih (back_not_mem_keep onward part)]
      congr 1
      omega
    · have still : ¬(part = ".." ∧ kept = []) := by
        rintro ⟨rfl, -⟩
        exact leads (by decide)
      rw [List.filter_cons_of_neg (by simpa using leads), keep_of_idle leads, if_neg still,
        Nat.zero_add]
      exact ih onward above

/-- From a relative beginning a walk leaves what leads above, and behind it what is kept. -/
theorem follow_relative (parts : List Text) :
    follow false (parts.filter fun part => part ≠ [] ∧ part ≠ ".") =
      List.replicate (rises [] parts) (".." : Text) ++ parts.foldl keep [] := by
  have whole := foldl_walk_wayBack parts (List.not_mem_nil (a := (".." : Text))) 0
  rw [follow]
  change ((parts.filter _).foldl (walk false) (wayBack [] 0)).reverse = _
  rw [whole, wayBack, List.reverse_append, List.reverse_reverse, List.reverse_replicate,
    Nat.add_zero]

example : follow false (steps "a/../../b/./c//../d") = ["..", "b", "d"] := by decide

end Path

namespace SearchPath

/-! Slashes between the directory and the name. -/

theorem dropEndWhile_slashes (directory : Text) (count : Nat) :
    Text.dropEndWhile (· = Path.slash) (directory ++ List.replicate count Path.slash) =
      Text.dropEndWhile (· = Path.slash) directory := by
  rw [Text.dropEndWhile, List.reverse_append, List.reverse_replicate,
    List.dropWhile_append_of_pos fun symbol member => by simp [List.eq_of_mem_replicate member],
    Text.dropEndWhile]

theorem place_append_slashes {directory : Text} (filled : directory ≠ []) (name : Text)
    (count : Nat) :
    place (directory ++ List.replicate count Path.slash) name = place directory name := by
  have longer : directory ++ List.replicate count Path.slash ≠ [] :=
    List.append_ne_nil_of_left_ne_nil filled _
  rw [place_of_filled longer, place_of_filled filled, underneath, dropEndWhile_slashes, underneath]

theorem place_slashes_append {directory : Text} (filled : directory ≠ []) (name : Text)
    (count : Nat) :
    place directory (List.replicate count Path.slash ++ name) = place directory name := by
  rw [place_of_filled filled, place_of_filled filled, underneath,
    List.dropWhile_append_of_pos fun symbol member => by simp [List.eq_of_mem_replicate member],
    underneath]

/-! The root and the parts of what is placed. -/

/-- The root of what lies under an absolute directory. Under the twin root itself it is the ordinary
one. -/
def rootUnder (directory : Text) : Text :=
  if directory = "//" then "/" else Path.rootOf directory

/-- The parts that are scanned. -/
def partsUnder (directory name : Text) : List Text :=
  directory.splitOn Path.slash ++ name.splitOn Path.slash

theorem filter_partsUnder (directory name : Text) :
    (partsUnder directory name).filter (fun part => part ≠ [] ∧ part ≠ ".") =
      Path.steps directory ++ Path.steps name := List.filter_append ..

/-- A text of slashes is the ordinary root, unless there are just two of them. -/
theorem anchorOf_slashes {directory : Text} (filled : directory ≠ []) (single : directory ≠ "//")
    (bare : Text.dropEndWhile (· = Path.slash) directory = []) :
    Path.anchorOf directory = .root := by
  obtain ⟨count, whole⟩ := dropEndWhile_append_slashes directory
  rw [bare, List.nil_append] at whole
  have span : directory.takeWhile (· = Path.slash) = directory := by
    rw [whole, List.takeWhile_replicate, if_pos (by simp)]
  have length : directory.length = count := by
    rw [whole, List.length_replicate]
  have some : count ≠ 0 := by
    rintro rfl
    exact filled whole
  have other : count ≠ 2 := by
    rintro rfl
    exact single whole
  rw [Path.anchorOf, span, length]
  split
  · exact absurd rfl some
  · exact absurd rfl other
  · rfl

theorem text_anchorOf_underneath {directory : Text} (absolute : Path.isAbsolute directory = true)
    (name : Text) :
    (Path.anchorOf (underneath directory name)).text = rootUnder directory := by
  rw [rootUnder]
  by_cases left : Text.dropEndWhile (· = Path.slash) directory = []
  · rw [anchorOf_underneath_slashes name left]
    split
    · rfl
    · next single =>
      rw [Path.rootOf_eq absolute,
        anchorOf_slashes (Path.filled_of_absolute absolute) single left]
  · have single : directory ≠ "//" := by
      rintro rfl
      exact left (by decide)
    rw [anchorOf_underneath name left, if_neg single, Path.rootOf_eq absolute]

theorem isAbsolute_underneath {directory : Text} (filled : directory ≠ []) (name : Text) :
    Path.isAbsolute (underneath directory name) = Path.isAbsolute directory := by
  rw [← Path.isRoot_anchorOf, ← Path.isRoot_anchorOf]
  by_cases left : Text.dropEndWhile (· = Path.slash) directory = []
  · obtain ⟨count, whole⟩ := dropEndWhile_append_slashes directory
    rw [left, List.nil_append] at whole
    have absolute : Path.isAbsolute directory = true := by
      cases count with
      | zero => exact absurd whole filled
      | succ count =>
        rw [whole]
        rfl
    rw [anchorOf_underneath_slashes name left, Path.isRoot_anchorOf, absolute]
    rfl
  · rw [anchorOf_underneath name left]

/-- The parts that are kept of the directory and the name. -/
def keptUnder (directory name : Text) : List Text := (partsUnder directory name).foldl Path.keep []

/-- The same behind a relative beginning, with a `..` in front for each part that leads above it. -/
def leftUnder (directory name : Text) : List Text :=
  List.replicate (Path.rises [] (partsUnder directory name)) (".." : Text) ++
    keptUnder directory name

theorem follow_rooted (directory name : Text) :
    Path.follow true (Path.steps directory ++ Path.steps name) = keptUnder directory name := by
  have none : ∀ last ∈ ([] : List Text), Path.IsPlain last := by simp
  have free : ∀ part ∈ partsUnder directory name, Path.slash ∉ part := by
    rw [partsUnder, List.forall_mem_append]
    exact ⟨fun part => Text.not_mem_of_mem_splitOn, fun part => Text.not_mem_of_mem_splitOn⟩
  rw [← filter_partsUnder]
  exact (Path.foldl_keep none free).symm

theorem place_of_rooted {directory : Text} (absolute : Path.isAbsolute directory = true)
    (name : Text) :
    place directory name =
      rootUnder directory ++ Text.joined [Path.slash] (keptUnder directory name) := by
  have filled := Path.filled_of_absolute absolute
  have rooted : Path.isAbsolute (underneath directory name) = true :=
    (isAbsolute_underneath filled name).trans absolute
  rw [place_of_filled filled, Path.clean_of_absolute rooted,
    text_anchorOf_underneath absolute, steps_underneath, follow_rooted]

theorem place_of_relative {directory : Text} (filled : directory ≠ [])
    (relative : Path.isAbsolute directory = false) (name : Text) :
    place directory name =
      if leftUnder directory name = [] then ("." : Text)
      else Text.joined [Path.slash] (leftUnder directory name) := by
  have unrooted : Path.isAbsolute (underneath directory name) = false :=
    (isAbsolute_underneath filled name).trans relative
  have left : Path.follow false (Path.steps directory ++ Path.steps name) =
      leftUnder directory name := by
    rw [← filter_partsUnder, Path.follow_relative]
    rfl
  rw [place_of_filled filled, Path.clean_of_relative unrooted, steps_underneath, left, Path.text]
  by_cases nowhere : leftUnder directory name = []
  · rw [if_pos ⟨rfl, nowhere⟩, if_pos nowhere]
  · rw [if_neg fun both => nowhere both.2, if_neg nowhere]
    rfl

/-- What the name without its leading slashes means in the directory. -/
theorem resolve_stripped {directory : Text} (absolute : Path.isAbsolute directory = true)
    (name : Text) :
    Path.resolve (some directory) (name.dropWhile (· = Path.slash)) =
      some (Path.rootOf directory ++ Text.joined [Path.slash] (keptUnder directory name)) := by
  rw [Path.resolve_eq_clean_join absolute,
    Path.clean_join absolute (Path.isAbsolute_dropWhile name), Path.steps_dropWhile, follow_rooted,
    Path.rootOf_eq absolute]

/-- The search and the session agree, but for the twin root, which the search takes for the ordinary
one. -/
theorem resolve_stripped_iff {directory : Text} (absolute : Path.isAbsolute directory = true)
    (name : Text) :
    Path.resolve (some directory) (name.dropWhile (· = Path.slash)) =
        some (place directory name) ↔
      directory ≠ "//" := by
  rw [resolve_stripped absolute, place_of_rooted absolute, Option.some.injEq,
    List.append_cancel_right_eq, rootUnder]
  by_cases twin : directory = "//"
  · subst twin
    exact iff_of_false (by decide) (by simp)
  · rw [if_neg twin]
    exact iff_of_true rfl twin

/-- A name goes under its directory, whatever slashes stand between them and however the name
begins. The result is absolute just when the directory is. Its parts are those kept of a scan of the
directory and then the name. Behind a root that is all; otherwise each `..` that leads above the
beginning stays in front, and `.` is where nothing is left. In an absolute directory the session
gives the same meaning to the name without its leading slashes, unless the directory is the twin
root itself. -/
theorem name_goes_under_directory {directory : Text} (filled : directory ≠ []) (name : Text) :
    let placed := place directory name
    let parts := directory.splitOn Path.slash ++ name.splitOn Path.slash
    let kept := parts.foldl Path.keep []
    let left := List.replicate (Path.rises [] parts) (".." : Text) ++ kept
    (∀ count, place (directory ++ List.replicate count Path.slash) name = placed ∧
      place directory (List.replicate count Path.slash ++ name) = placed) ∧
    Path.isAbsolute placed = Path.isAbsolute directory ∧
    placed =
      (if Path.isAbsolute directory then
        rootUnder directory ++ Text.joined [Path.slash] kept
      else if left = [] then ("." : Text)
      else Text.joined [Path.slash] left) ∧
    (Path.isAbsolute directory = true → ∀ session : Session,
      ((session.moveTo directory).resolve (name.dropWhile (· = Path.slash)) = .ok placed ↔
        directory ≠ "//")) := by
  intro placed parts kept left
  refine ⟨fun count => ⟨place_append_slashes filled name count,
    place_slashes_append filled name count⟩, ?_, ?_, fun absolute session => ?_⟩
  · change Path.isAbsolute (place directory name) = _
    rw [place_of_filled filled, Path.isAbsolute_clean, isAbsolute_underneath filled]
  · cases absolute : Path.isAbsolute directory with
    | true => exact place_of_rooted absolute name
    | false => exact place_of_relative filled absolute name
  · rw [Session.resolve_eq_ok_iff]
    exact resolve_stripped_iff absolute name

/-- Under a root of three slashes a name that leads up past it, and under a relative directory one
that leads out of it. -/
theorem name_goes_under_directory_at_opt :
    let session : Session := ⟨none, [], Registry.stock⟩
    ("///opt//" : Text) ≠ [] ∧ ("opt" : Text) ≠ [] ∧
      place "///opt//" "//../../x/./y" = "/x/y" ∧
      place "///opt" "../../x/./y" = place "///opt//" "../../x/./y" ∧
      (session.moveTo "///opt//").resolve "../../x/./y" = .ok "/x/y" ∧
      place "opt" "/../../x/.." = ".." := by
  intro session
  have first : ("///opt//" : Text) ≠ [] := by decide
  have second : ("opt" : Text) ≠ [] := by decide
  obtain ⟨-, -, rooted, resolved⟩ := name_goes_under_directory first "//../../x/./y"
  obtain ⟨apart, -, -, -⟩ :=
    name_goes_under_directory (by decide : ("///opt" : Text) ≠ []) "../../x/./y"
  obtain ⟨-, -, unrooted, -⟩ := name_goes_under_directory second "/../../x/.."
  have above : place "///opt//" "//../../x/./y" = "/x/y" := rooted.trans (by decide)
  have same := (resolved (by decide) session).mpr (by decide)
  rw [above] at same
  exact ⟨first, second, above, (apart 2).1.symm, same, unrooted.trans (by decide)⟩

end SearchPath

end PlainShell
