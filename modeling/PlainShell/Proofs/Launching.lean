import PlainShell.Launch

/-!
What a start can come to. Apart from a directory that may not be worked in, it comes to what one of
the attempts at its program comes to, and it fails only when all of them do.
-/

namespace PlainShell

/-! Several launches, of which the first that does not fail counts. -/

namespace Launch

/-- A choice between two launches takes one of them as it is. -/
theorem orElse_eq_or (first second : Launch) :
    first.orElse second = first ∨ first.orElse second = second := by
  cases first with
  | failed error =>
    cases second with
    | failed later =>
      by_cases absent : error.IsAbsence
      · exact Or.inr (congrArg Launch.failed (if_pos absent))
      · exact Or.inl (congrArg Launch.failed (if_neg absent))
    | interrupted | ended output status => exact Or.inr rfl
  | interrupted | ended output status => exact Or.inl rfl

theorem failed_of_orElse {first second : Launch} {error : SystemError}
    (failed : first.orElse second = .failed error) :
    (∃ failure, first = .failed failure) ∧ ∃ failure, second = .failed failure := by
  cases first with
  | failed earlier =>
    cases second with
    | failed later => exact ⟨⟨earlier, rfl⟩, later, rfl⟩
    | interrupted | ended output status => simp [orElse] at failed
  | interrupted | ended output status => simp [orElse] at failed

theorem foldl_orElse_mem (first : Launch) (launches : List Launch) :
    launches.foldl orElse first ∈ first :: launches := by
  induction launches generalizing first with
  | nil => exact List.mem_singleton_self first
  | cons second rest ih =>
    rcases List.mem_cons.mp (ih (first.orElse second)) with chosen | further
    · rw [List.foldl_cons, chosen]
      rcases first.orElse_eq_or second with same | same <;> simp [same]
    · exact List.mem_cons_of_mem _ (List.mem_cons_of_mem _ further)

theorem failed_of_foldl_orElse {first : Launch} {launches : List Launch} {error : SystemError}
    (failed : launches.foldl orElse first = .failed error) :
    ∀ launch ∈ first :: launches, ∃ failure, launch = .failed failure := by
  induction launches generalizing first with
  | nil => simpa using ⟨error, failed⟩
  | cons second rest ih =>
    obtain ⟨⟨combined, both⟩, further⟩ := List.forall_mem_cons.mp (ih failed)
    obtain ⟨here, there⟩ := failed_of_orElse both
    exact List.forall_mem_cons.mpr ⟨here, List.forall_mem_cons.mpr ⟨there, further⟩⟩

end Launch

namespace Host

variable {host : Host} {directory : Option Text} {environment : Environment} {program : Text}

/-- The directory is unknown, or it is one that may be worked in. -/
def Admits (host : Host) (directory : Option Text) : Prop :=
  ∀ known ∈ directory, host.isEnterable known = true

/-- Entering a directory and starting a program in it ask for the same. -/
theorem directoryFault_eq_none_iff {directory : Text} :
    host.directoryFault directory = none ↔ host.isEnterable directory = true := by
  unfold directoryFault isEnterable
  cases host.find? directory with
  | none => simp
  | some node =>
    cases node with
    | file content => simp
    | directory searchable => cases searchable <;> simp

theorem Admits.fault_eq_none (admits : host.Admits directory) :
    directory.bind host.directoryFault = none := by
  cases directory with
  | none => rfl
  | some known => exact directoryFault_eq_none_iff.mpr (admits known rfl)

/-! The attempts of one start. -/

/-- A start that has entered its directory meets the same files. -/
theorem nodeAt_entered (host : Host) (directory : Option Text) (place : Place) :
    (host.entered directory).nodeAt place = host.nodeAt place := by
  unfold entered
  split <;> rfl

/-- A path with a slash is tried as it is. -/
theorem attempts_of_slash (host : Host) (environment : Environment)
    (slashed : Path.slash ∈ program) : host.attempts environment program = [program] := by
  unfold attempts
  cases host.programLookup with
  | direct => rfl
  | posix => exact if_pos slashed

theorem attempts_ne_nil (host : Host) (environment : Environment) (program : Text) :
    host.attempts environment program ≠ [] := by
  by_cases slashed : Path.slash ∈ program
  · simp [host.attempts_of_slash environment slashed]
  · unfold attempts
    cases host.programLookup with
    | direct => simp
    | posix =>
      simp only [if_neg slashed]
      exact mt List.map_eq_nil_iff.mp (List.splitOn_ne_nil _ _)

/-- Absence, with which the attempts begin, is replaced by every launch. -/
theorem absent_orElse (program : Text) (launch : Launch) :
    (Launch.failed (noSuchFile program)).orElse launch = launch := by
  cases launch with
  | failed error => exact congrArg Launch.failed (if_pos (Or.inl rfl))
  | interrupted | ended output status => rfl

/-- Once the directory is no hindrance, a start comes to what one of its attempts comes to. -/
theorem launch_eq_attempt (environment : Environment) (program : Text)
    (free : directory.bind host.directoryFault = none) :
    ∃ attempt ∈ host.attempts environment program,
      host.launch directory environment program =
        (host.entered directory).launchFile program attempt := by
  have tried := host.attempts_ne_nil environment program
  rw [launch, free]
  cases attempts : host.attempts environment program with
  | nil => exact absurd attempts tried
  | cons attempt rest =>
    have chosen := Launch.foldl_orElse_mem ((host.entered directory).launchFile program attempt)
      (rest.map ((host.entered directory).launchFile program))
    obtain ⟨taken, member, same⟩ := List.mem_map.mp (List.map_cons ▸ chosen)
    rw [List.map_cons, List.foldl_cons, absent_orElse]
    exact ⟨taken, member, same.symm⟩

/-- A start that fails although the directory is no hindrance has failed in each attempt. -/
theorem attempts_fail {error : SystemError} (free : directory.bind host.directoryFault = none)
    (failed : host.launch directory environment program = .failed error) :
    ∀ attempt ∈ host.attempts environment program, ∃ failure,
      (host.entered directory).launchFile program attempt = .failed failure := by
  intro attempt member
  rw [launch, free] at failed
  exact Launch.failed_of_foldl_orElse failed _
    (List.mem_cons_of_mem _ (List.mem_map_of_mem member))

/-- An interrupt comes from a program that one of the attempts has met. -/
theorem met_of_interrupted
    (interrupted : host.launch directory environment program = .interrupted) :
    ∃ attempt ∈ host.attempts environment program,
      (host.entered directory).find? attempt = some (.file .interrupted) := by
  cases fault : directory.bind host.directoryFault with
  | some error => simp [launch, fault] at interrupted
  | none =>
    obtain ⟨attempt, member, same⟩ := launch_eq_attempt environment program fault
    refine ⟨attempt, member, ?_⟩
    rw [interrupted] at same
    unfold launchFile at same
    split at same <;> simp_all

/-- Why what stands at a path is not started. The error tells the name of the program. -/
inductive FileFault (host : Host) (program path : Text) : SystemError → Prop where
  | missing (absent : host.find? path = none) : FileFault host program path (noSuchFile program)
  | directory (searchable : Bool) (found : host.find? path = some (.directory searchable)) :
    FileFault host program path (permissionDenied program)
  | denied (found : host.find? path = some (.file .denied)) :
    FileFault host program path (permissionDenied program)
  | own (number : Int) (reason : Text)
    (found : host.find? path = some (.file (.fails number reason))) :
    FileFault host program path ⟨number, reason, program⟩

theorem fileFault_of_launchFile {path : Text} {error : SystemError}
    (failed : host.launchFile program path = .failed error) :
    host.FileFault program path error := by
  unfold launchFile at failed
  split at failed
  · next absent =>
    obtain rfl := Launch.failed.inj failed
    exact .missing absent
  · next searchable found =>
    obtain rfl := Launch.failed.inj failed
    exact .directory searchable found
  · next found =>
    obtain rfl := Launch.failed.inj failed
    exact .denied found
  · next number reason found =>
    obtain rfl := Launch.failed.inj failed
    exact .own number reason found
  · simp at failed
  · simp at failed

/-- The program is why a start fails in a directory that is no hindrance: each attempt has a fault
at the place where the start looks, and the error that is told is one of them. -/
structure ProgramFault (host : Host) (directory : Option Text) (environment : Environment)
    (program : Text) (error : SystemError) : Prop where
  everywhere : ∀ attempt ∈ host.attempts environment program, ∃ failure,
    (host.entered directory).FileFault program attempt failure
  told : ∃ attempt ∈ host.attempts environment program,
    (host.entered directory).FileFault program attempt error

theorem programFault_of_launch {error : SystemError}
    (free : directory.bind host.directoryFault = none)
    (failed : host.launch directory environment program = .failed error) :
    host.ProgramFault directory environment program error where
  everywhere := by
    intro attempt member
    obtain ⟨failure, here⟩ := attempts_fail free failed attempt member
    exact ⟨failure, fileFault_of_launchFile here⟩
  told := by
    obtain ⟨attempt, member, same⟩ := launch_eq_attempt environment program free
    exact ⟨attempt, member, fileFault_of_launchFile (same.symm.trans failed)⟩

/-- A relative path counts from the directory of the start. A mere name is looked for below it along
the search list. -/
example :
    let host := (Host.empty (some "/w")).add "sub/bin/p" (.file (.ends [] 0))
    let environment : Environment := Table.ofList [("PATH", "bin")]
    host.launch (some "sub") environment "sub/bin/p" = .failed (noSuchFile "sub/bin/p") ∧
      host.launch (some "sub") environment "p" = .ended [] 0 :=
  ⟨rfl, rfl⟩

end Host

end PlainShell
