import Mathlib.Data.List.Find
import PlainShell.Proofs.Arrival
import PlainShell.Proofs.Isolation
import PlainShell.Proofs.Scanning
import PlainShell.Proofs.SearchList

/-!
Cleaning a path does not change what it leads to. Where there are no links a path leads to the place
of the parts that are kept when it is scanned, and cleaning keeps just these, be it once, or twice
with the working directory put in front in between. So a search may test the clean path of an entry
and a name in place of the path as it is written, and a change of directory the clean target.
-/

namespace PlainShell

theorem Text.mem_joined {glue : Text} {texts : List Text} {symbol : Symbol}
    (member : symbol ∈ joined glue texts) : symbol ∈ glue ∨ ∃ text ∈ texts, symbol ∈ text := by
  induction texts with
  | nil => simp at member
  | cons first rest ih =>
    cases rest with
    | nil => exact Or.inr ⟨first, List.mem_singleton_self first, by simpa using member⟩
    | cons second later =>
      rw [joined, List.intercalate_cons_cons, List.append_assoc, List.mem_append,
        List.mem_append] at member
      rcases member with here | glued | further
      · exact Or.inr ⟨first, List.mem_cons_self .., here⟩
      · exact Or.inl glued
      · rcases ih further with glued | ⟨text, listed, inside⟩
        · exact Or.inl glued
        · exact Or.inr ⟨text, List.mem_cons_of_mem _ listed, inside⟩

theorem Text.mem_of_mem_splitOn {mark symbol : Symbol} {text piece : Text}
    (member : piece ∈ text.splitOn mark) (inside : symbol ∈ piece) : symbol ∈ text := by
  induction text generalizing piece with
  | nil => simp_all
  | cons first rest ih =>
    rw [List.splitOn_cons_eq_if_modifyHead] at member
    split at member
    · rcases List.mem_cons.mp member with rfl | further
      · simp at inside
      · exact List.mem_cons_of_mem _ (ih further inside)
    · cases pieces : rest.splitOn mark with
      | nil => exact absurd pieces (List.splitOn_ne_nil mark rest)
      | cons head later =>
        rw [pieces, List.modifyHead_cons] at member
        rcases List.mem_cons.mp member with rfl | further
        · rcases List.mem_cons.mp inside with rfl | behind
          · exact List.mem_cons_self ..
          · exact List.mem_cons_of_mem _ (ih (by simp [pieces]) behind)
        · exact List.mem_cons_of_mem _ (ih (by simp [pieces, further]) inside)

namespace Path

/-! What cleaning keeps. -/

/-- Cleaning brings in no symbols but slashes and dots. -/
theorem mem_clean {path : Text} {symbol : Symbol} (member : symbol ∈ clean path) :
    symbol ∈ path ∨ symbol ∈ ("/." : Text) := by
  rw [clean, text] at member
  split at member
  · exact Or.inr (List.mem_of_mem_tail member)
  · rcases List.mem_append.mp member with rooted | behind
    · cases anchor : (ofText path).anchor <;> simp_all [Anchor.text, Text.ofString]
    · rcases Text.mem_joined behind with glued | ⟨part, kept, inside⟩
      · obtain rfl := List.mem_singleton.mp glued
        exact Or.inr (by decide)
      · have step : part ∈ steps path := mem_follow kept
        have piece : part ∈ path.splitOn slash := (List.mem_filter.mp step).1
        exact Or.inl (Text.mem_of_mem_splitOn piece inside)

theorem nul_not_mem_clean {path : Text} (clear : Text.nul ∉ path) : Text.nul ∉ clean path := by
  intro member
  rcases mem_clean member with inside | added
  · exact clear inside
  · exact absurd added (by decide)

theorem isAbsolute_clean (path : Text) : isAbsolute (clean path) = isAbsolute path := by
  cases rooted : isAbsolute path with
  | true => exact (isNormal_clean rooted).absolute
  | false => exact (steps_clean rooted).1

theorem scan_clean {path : Text} (absolute : isAbsolute path = true) :
    scan (clean path) = scan path := by
  have rooted : isAbsolute (clean path) = true := (isAbsolute_clean path).trans absolute
  rw [scan_eq_follow, scan_eq_follow, ← parts_ofText rooted, ofText_clean absolute,
    parts_ofText absolute]

/-- Behind a base a relative path may be cleaned by itself first. -/
theorem scan_join_clean {path : Text} (relative : isAbsolute path = false) (base : Text) :
    scan (join base (clean path)) = scan (base ++ [slash] ++ path) := by
  obtain ⟨still, left⟩ := steps_clean relative
  rw [scan_eq_follow, scan_eq_follow, steps_join still, left, follow_append_follow,
    List.append_assoc, List.singleton_append, steps_append_slash]

theorem nul_not_mem_join {base path : Text} (clear : Text.nul ∉ base) (free : Text.nul ∉ path) :
    Text.nul ∉ join base path := by
  have other : Text.nul ≠ slash := by decide
  rw [join]
  split
  · exact free
  · split <;> simp [clear, free, other]

end Path

/-! What a path leads to. -/

namespace Host

variable (host : Host) {path : Text} (absolute : Path.isAbsolute path = true)
  (clear : Text.nul ∉ path)
include absolute clear

/-- An absolute path leads to the place of the parts that a scan of it keeps. -/
theorem find?_of_absolute : host.find? path = host.nodeAt (Path.scan path) := by
  have named : ¬(path = [] ∨ Text.nul ∈ path) :=
    not_or.mpr ⟨Path.filled_of_absolute absolute, clear⟩
  rw [find?, locate, if_neg named, fromRoot, if_pos absolute, ← Path.scan_eq_follow,
    Option.bind_some]

theorem find?_clean : host.find? (Path.clean path) = host.find? path := by
  have rooted : Path.isAbsolute (Path.clean path) = true :=
    (Path.isAbsolute_clean path).trans absolute
  rw [host.find?_of_absolute rooted (Path.nul_not_mem_clean clear), Path.scan_clean absolute,
    host.find?_of_absolute absolute clear]

end Host

/-! Where a search looks. -/

namespace SearchPath

/-- The name under the entry as it is written, the empty entry being no directory at all. -/
def spot (entry name : Text) : Text := if entry = [] then name else underneath entry name

/-- The spot as it is seen from the working directory. -/
def uncleaned (base entry name : Text) : Text :=
  if Path.isAbsolute (spot entry name) then spot entry name
  else base ++ [Path.slash] ++ spot entry name

theorem place_eq_clean (entry name : Text) : place entry name = Path.clean (spot entry name) := by
  by_cases empty : entry = []
  · rw [place, spot, if_pos empty, if_pos empty]
  · rw [place_of_filled empty, spot, if_neg empty]

theorem nul_not_mem_spot {entry name : Text} (clear : Text.nul ∉ entry) (free : Text.nul ∉ name) :
    Text.nul ∉ spot entry name := by
  have other : Text.nul ≠ Path.slash := by decide
  have front : Text.nul ∉ Text.dropEndWhile (· = Path.slash) entry := fun inside =>
    clear ((Text.dropEndWhile_prefix _ entry).subset inside)
  have back : Text.nul ∉ name.dropWhile (· = Path.slash) := fun inside =>
    free ((List.dropWhile_suffix _).subset inside)
  rw [spot]
  split
  · exact free
  · simp [underneath, front, back, other]

section Base

variable {base : Text} (absolute : Path.isAbsolute base = true)
include absolute

theorem isAbsolute_uncleaned (entry name : Text) :
    Path.isAbsolute (uncleaned base entry name) = true := by
  rw [uncleaned]
  split
  · assumption
  · obtain ⟨rest, rfl⟩ := Path.isAbsolute_iff.mp absolute
    exact Path.isAbsolute_iff.mpr ⟨_, rfl⟩

theorem scan_candidate (entry name : Text) :
    Path.scan (candidate (some base) name entry) = Path.scan (uncleaned base entry name) := by
  simp only [candidate, uncleaned, place_eq_clean, Path.isAbsolute_clean]
  cases rooted : Path.isAbsolute (spot entry name) with
  | true => exact Path.scan_clean rooted
  | false =>
    have joined := Path.isAbsolute_join absolute (Path.clean (spot entry name))
    exact (Path.scan_clean joined).trans (Path.scan_join_clean rooted base)

variable (clear : Text.nul ∉ base) (host : Host) {entry name : Text} (plain : Text.nul ∉ entry)
  (free : Text.nul ∉ name)
include clear plain free

/-- What a search tests leads to just what the path leads to as it is written. -/
theorem find?_candidate :
    host.find? (candidate (some base) name entry) = host.find? (uncleaned base entry name) := by
  have whole := nul_not_mem_spot plain free
  have other : Text.nul ≠ Path.slash := by decide
  have tested : Text.nul ∉ candidate (some base) name entry := by
    simp only [candidate, place_eq_clean]
    split
    · exact Path.nul_not_mem_clean whole
    · exact Path.nul_not_mem_clean (Path.nul_not_mem_join clear (Path.nul_not_mem_clean whole))
  have written : Text.nul ∉ uncleaned base entry name := by
    rw [uncleaned]
    split
    · exact whole
    · simp [clear, whole, other]
  rw [host.find?_of_absolute (isAbsolute_candidate absolute name entry) tested,
    host.find?_of_absolute (isAbsolute_uncleaned absolute entry name) written,
    scan_candidate absolute]

theorem has_candidate :
    host.has (candidate (some base) name entry) = host.has (uncleaned base entry name) := by
  rw [Host.has, find?_candidate absolute clear host plain free, Host.has]

end Base

/-- A search may as well test the paths as they are written, and clean the one it has found. -/
theorem search_uncleaned (host : Host) {base : Text} (absolute : Path.isAbsolute base = true)
    (clear : Text.nul ∉ base) {entries : List Text} {name : Text}
    (plain : ∀ entry ∈ entries, Text.nul ∉ entry) (free : Text.nul ∉ name) :
    search host (some base) entries name =
      (entries.find? fun entry => host.has (uncleaned base entry name)).map
        (candidate (some base) name) := by
  rw [search, List.find?_map]
  congr 1
  exact List.find?_congr fun entry member =>
    has_candidate absolute clear host (plain entry member) free

end SearchPath

/-! Where a change of directory leads. -/

namespace Session

variable {host : Host} {session : Session} {base path : Text}
  (known : session.directory = some base) (absolute : Path.isAbsolute base = true)
  (clear : Text.nul ∉ base) (free : Text.nul ∉ path)
include known absolute clear free

theorem destination_iff_join :
    (∃ directory, session.destination host path = .ok directory) ↔
      host.find? (Path.join base path) = some (.directory true) := by
  have resolved := Path.resolve_eq_clean_join absolute path
  have same : host.find? (Path.clean (Path.join base path)) = host.find? (Path.join base path) :=
    host.find?_clean (Path.isAbsolute_join absolute path) (Path.nul_not_mem_join clear free)
  simp only [destination_eq_ok_iff, known, resolved, Option.some.injEq, exists_eq_left', ← same,
    Host.isEnterable_iff]

theorem cd_iff_join {name argument : Text} {further : List Text}
    (stands : StandsFor host session argument path) :
    ((⟨name, argument :: further⟩ : Invocation).perform host (some .cd) session).outcome = .ok 0 ↔
      host.find? (Path.join base path) = some (.directory true) := by
  rw [← destination_iff_join known absolute clear free]
  have wanted : session.wanted host argument >>= session.destination host =
      session.destination host path := by
    rw [wanted_of_standsFor stands]
    rfl
  constructor
  · intro success
    by_contra missing
    have closed : ¬∃ directory, Opens host session path directory :=
      fun ⟨directory, opens⟩ => missing ⟨directory, destination_of_opens opens⟩
    have usual : (ShellError.directoryNotFound path).code = 1 := rfl
    have failed := wanted.trans (destination_of_closed closed)
    simpa using success.symm.trans (Invocation.refuses_of_error usual failed).status
  · rintro ⟨directory, reached⟩
    exact (Invocation.arrives_of_ok (wanted.trans reached)).status

end Session

/-- Cleaning keeps what a path leads to, which is the place that a scan of its parts finds. So it is
with the path that a search tests and the entry and name it comes from, with what a path resolves to
and the path joined to the directory, and with `cd`, which succeeds when that is a directory one may
work in. -/
theorem cleaning_keeps_meaning (host : Host) {base : Text} (absolute : Path.isAbsolute base = true)
    (clear : Text.nul ∉ base) :
    (∀ path, Path.isAbsolute path = true → Text.nul ∉ path →
      host.find? path = host.nodeAt (Path.scan path)) ∧
    (∀ entry name, Text.nul ∉ entry → Text.nul ∉ name →
      let tested := SearchPath.candidate (some base) name entry
      let written := SearchPath.uncleaned base entry name
      host.find? tested = host.find? written ∧ host.has tested = host.has written) ∧
    (∀ entries name, (∀ entry ∈ entries, Text.nul ∉ entry) → Text.nul ∉ name →
      SearchPath.search host (some base) entries name =
        (entries.find? fun entry => host.has (SearchPath.uncleaned base entry name)).map
          (SearchPath.candidate (some base) name)) ∧
    ∀ (session : Session) (path : Text), session.directory = some base → Text.nul ∉ path →
      let joined := Path.join base path
      (∃ target, session.resolve path = .ok target ∧ host.find? target = host.find? joined) ∧
      ((∃ directory, session.destination host path = .ok directory) ↔
        host.find? joined = some (.directory true)) ∧
      ∀ name argument further, Session.StandsFor host session argument path →
        (((⟨name, argument :: further⟩ : Invocation).perform host (some .cd) session).outcome =
            .ok 0 ↔
          host.find? joined = some (.directory true)) := by
  refine ⟨fun path => host.find?_of_absolute, ?_, ?_, ?_⟩
  · intro entry name plain free
    exact ⟨SearchPath.find?_candidate absolute clear host plain free,
      SearchPath.has_candidate absolute clear host plain free⟩
  · intro entries name plain free
    exact SearchPath.search_uncleaned host absolute clear plain free
  · intro session path known free joined
    have rooted : Path.isAbsolute joined = true := Path.isAbsolute_join absolute path
    have resolved : session.resolve path = .ok (Path.clean joined) := by
      rw [Session.resolve_eq_ok_iff, known]
      exact Path.resolve_eq_clean_join absolute path
    have same := host.find?_clean rooted (Path.nul_not_mem_join clear free)
    refine ⟨⟨_, resolved, same⟩, Session.destination_iff_join known absolute clear free, ?_⟩
    intro name argument further stands
    exact Session.cd_iff_join known absolute clear free stands

/-- From a directory that is not clean: a name that leads up and down again out of a relative entry,
and a change of directory by way of one that is not there. -/
theorem cleaning_keeps_meaning_at_srv :
    let host := (Host.empty none).add "/srv/bin/p" (.file .denied)
    let session : Session := ⟨some ("/srv//x/.." : Text), [], Registry.stock⟩
    Path.isAbsolute "/srv//x/.." = true ∧ Text.nul ∉ ("/srv//x/.." : Text) ∧
      SearchPath.candidate (some "/srv//x/..") "/../bin/./p" "sbin//" = "/srv/bin/p" ∧
      SearchPath.uncleaned "/srv//x/.." "sbin//" "/../bin/./p" = "/srv//x/../sbin/../bin/./p" ∧
      host.has "/srv/bin/p" = host.has "/srv//x/../sbin/../bin/./p" ∧
      session.resolve "y/../bin/" = .ok "/srv/bin" ∧
      host.find? "/srv/bin" = host.find? "/srv//x/../y/../bin/" ∧
      ((⟨"cd", ["y/../bin/"]⟩ : Invocation).perform host (some .cd) session).outcome = .ok 0 := by
  intro host session
  have absolute : Path.isAbsolute "/srv//x/.." = true := by decide
  have clear : Text.nul ∉ ("/srv//x/.." : Text) := by decide
  obtain ⟨-, tests, -, moves⟩ := cleaning_keeps_meaning host absolute clear
  have tested : SearchPath.candidate (some "/srv//x/..") "/../bin/./p" "sbin//" = "/srv/bin/p" := by
    decide
  have written : SearchPath.uncleaned "/srv//x/.." "sbin//" "/../bin/./p" =
      "/srv//x/../sbin/../bin/./p" := by decide
  have joined : Path.join "/srv//x/.." "y/../bin/" = "/srv//x/../y/../bin/" := by decide
  have present := (tests "sbin//" "/../bin/./p" (by decide) (by decide)).2
  obtain ⟨⟨target, reached, same⟩, -, success⟩ := moves session "y/../bin/" rfl (by decide)
  have resolved : session.resolve "y/../bin/" = .ok "/srv/bin" := by rfl
  obtain rfl : "/srv/bin" = target := Except.ok.inj (resolved.symm.trans reached)
  rw [tested, written] at present
  rw [joined] at same success
  refine ⟨absolute, clear, tested, written, present, resolved, same, ?_⟩
  exact (success "cd" "y/../bin/" [] (.itself (by decide))).mpr (by rfl)

end PlainShell
