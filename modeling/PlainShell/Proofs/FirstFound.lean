import PlainShell.Proofs.SearchList
import PlainShell.Proofs.Tables

/-!
The search as an ordered choice. Each directory of the list is tried for the name in turn, and the
first path that exists is the answer. The list is the value of `PATH` cut at its colons, with
nothing lost, so a value behind another one is searched only when the first finds nothing.
-/

namespace PlainShell

/-- The session with another value of `PATH`. -/
def Session.searching (session : Session) (value : Text) : Session :=
  { session with environment := session.environment.insert SearchPath.variableName value }

namespace SearchPath

/-! Trying one entry. -/

/-- The path that an entry is tried with. When entry and name make a relative path, that counts from
the working directory, if it is known, and is cleaned once more. -/
inductive Tried (name entry : Text) : Option Text → Text → Prop where
  | astray : Tried name entry none (place entry name)
  | absolute {base : Text} (rooted : Path.isAbsolute (place entry name) = true) :
    Tried name entry (some base) (place entry name)
  | relative {base : Text} (open_ : Path.isAbsolute (place entry name) = false) :
    Tried name entry (some base) (Path.clean (Path.join base (place entry name)))

/-- The entry is tried in vain. -/
def Misses (host : Host) (working : Option Text) (name entry : Text) : Prop :=
  ∃ path, Tried name entry working path ∧ host.has path = false

variable {host : Host} {working : Option Text} {name : Text}

theorem tried_iff {entry path : Text} :
    Tried name entry working path ↔ candidate working name entry = path := by
  constructor
  · intro tried
    cases tried with
    | astray => rfl
    | absolute rooted => simp only [candidate, rooted, if_true]
    | relative open_ => simp only [candidate, open_, Bool.false_eq_true, if_false]
  · rintro rfl
    cases working with
    | none => exact .astray
    | some base =>
      cases rooted : Path.isAbsolute (place entry name) with
      | true =>
        simp only [candidate, rooted, if_true]
        exact .absolute rooted
      | false =>
        simp only [candidate, rooted, Bool.false_eq_true, if_false]
        exact .relative rooted

theorem misses_iff {entry : Text} :
    Misses host working name entry ↔ host.has (candidate working name entry) = false := by
  simp [Misses, tried_iff]

/-! Trying the entries in order. -/

theorem search_eq_some_iff {entries : List Text} {path : Text} :
    search host working entries name = some path ↔
      ∃ before entry later, entries = before ++ entry :: later ∧
        (∀ earlier ∈ before, Misses host working name earlier) ∧
        Tried name entry working path ∧ host.has path = true := by
  simp only [misses_iff, tried_iff]
  rw [search, List.find?_eq_some_iff_append]
  constructor
  · rintro ⟨present, front, back, split, absent⟩
    obtain ⟨before, rest, rfl, rfl, further⟩ := List.map_eq_append_iff.mp split
    obtain ⟨entry, later, rfl, tried, -⟩ := List.map_eq_cons_iff.mp further
    exact ⟨before, entry, later, rfl, by simpa using absent, tried, present⟩
  · rintro ⟨before, entry, later, rfl, absent, rfl, present⟩
    exact ⟨present, before.map (candidate working name), later.map (candidate working name),
      by rw [List.map_append, List.map_cons], by simpa using absent⟩

theorem search_eq_none_iff {entries : List Text} :
    search host working entries name = none ↔
      ∀ entry ∈ entries, Misses host working name entry := by
  simp only [misses_iff]
  rw [search, List.find?_eq_none]
  simp

/-! The entries of a value. -/

section Environment

variable {environment : Environment}

theorem directories_of_filled {value : Text} (set : environment.get? variableName = some value)
    (filled : value ≠ []) : directories environment = value.splitOn separator := by
  have found : environment.filled? variableName = some value :=
    Option.filter_eq_some_iff.mpr ⟨set, by simpa using filled⟩
  rw [directories, found]

theorem directories_eq_nil_iff :
    directories environment = [] ↔
      environment.get? variableName = none ∨ environment.get? variableName = some [] := by
  cases set : environment.get? variableName with
  | none => simp [directories, Environment.filled?, set]
  | some value =>
    by_cases empty : value = []
    · subst empty
      have missing : environment.filled? variableName = none := by
        rw [Environment.filled?, set]
        rfl
      simp [directories, missing]
    · rw [directories_of_filled set empty]
      simp [empty, List.splitOn_ne_nil]

end Environment

/-- What two values list, the one behind the other lists. -/
theorem directories_searching_append (session : Session) {first second : Text} (here : first ≠ [])
    (there : second ≠ []) :
    (session.searching (first ++ ":" ++ second)).searchDirectories =
      (session.searching first).searchDirectories ++
        (session.searching second).searchDirectories := by
  have lists {value : Text} (filled : value ≠ []) :
      (session.searching value).searchDirectories = value.splitOn separator :=
    directories_of_filled (Table.get?_insert session.environment variableName value) filled
  have colon : (first ++ ":" ++ second : Text) = first ++ separator :: second := by
    simp [Text.ofString, separator]
  rw [lists here, lists there, lists (by simp [here]), colon, List.splitOn_append_cons_self]

/-- The search is an ordered choice: the first entry where something exists decides. The entries are
the value of `PATH` between its colons. So one value behind another is searched when the first finds
nothing, and only then. -/
theorem search_chooses_in_order (host : Host) (name : Text) :
    (∀ working entries,
      (∀ path, search host working entries name = some path ↔
        ∃ before entry later, entries = before ++ entry :: later ∧
          (∀ earlier ∈ before, Misses host working name earlier) ∧
          Tried name entry working path ∧ host.has path = true) ∧
      (search host working entries name = none ↔
        ∀ entry ∈ entries, Misses host working name entry) ∧
      ∀ later, search host working (entries ++ later) name =
        (search host working entries name).or (search host working later name)) ∧
    (∀ environment : Environment,
      (directories environment = [] ↔
        environment.get? "PATH" = none ∨ environment.get? "PATH" = some []) ∧
      ∀ value, environment.get? "PATH" = some value → value ≠ [] →
        (∀ entry ∈ directories environment, separator ∉ entry) ∧
          Text.joined ":" (directories environment) = value) ∧
    ∀ (session : Session) (first second : Text), first ≠ [] → second ≠ [] →
      (session.searching (first ++ ":" ++ second)).findProgram host name =
        ((session.searching first).findProgram host name).or
          ((session.searching second).findProgram host name) := by
  refine ⟨fun working entries => ⟨fun path => search_eq_some_iff, search_eq_none_iff,
    fun later => search_append host working entries later name⟩,
    fun environment => ⟨directories_eq_nil_iff, ?_⟩, ?_⟩
  · intro value set filled
    rw [directories_of_filled set filled]
    exact ⟨fun entry => Text.not_mem_of_mem_splitOn, List.intercalate_splitOn separator⟩
  · intro session first second here there
    rw [Session.findProgram, directories_searching_append session here there, search_append]
    rfl

/-- A program that only the second value finds, by an entry that leads up from the working
directory. -/
theorem search_chooses_in_order_at_srv :
    let host := Host.lone (.ends [] 0)
    let session : Session := ⟨some ("/srv" : Text), [], Registry.stock⟩
    let environment : Environment := [("PATH", "sbin::../bin")]
    ("sbin:" : Text) ≠ [] ∧ ("../bin" : Text) ≠ [] ∧
      (session.searching ("sbin:" ++ ":" ++ "../bin")).findProgram host "p" =
        some ("/bin/p" : Text) ∧
      environment.get? "PATH" = some ("sbin::../bin" : Text) ∧
      Text.joined ":" (directories environment) = "sbin::../bin" := by
  intro host session environment
  have early : (session.searching "sbin:").findProgram host "p" = none := by decide
  have late : (session.searching "../bin").findProgram host "p" = some ("/bin/p" : Text) := by
    decide
  have set : environment.get? "PATH" = some ("sbin::../bin" : Text) := by rfl
  obtain ⟨-, listed, chained⟩ := search_chooses_in_order host "p"
  have found := chained session "sbin:" "../bin" (by decide) (by decide)
  rw [early, late, Option.none_or] at found
  exact ⟨by decide, by decide, found, set, ((listed environment).2 _ set (by decide)).2⟩

end SearchPath

end PlainShell
