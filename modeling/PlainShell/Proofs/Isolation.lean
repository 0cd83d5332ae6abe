import PlainShell.Proofs.DirectoryHistory
import PlainShell.Proofs.Launching
import PlainShell.Proofs.Command
import PlainShell.Proofs.Turns

/-!
The directory that the interpreter itself is in has no say in a session that was given an absolute
directory of its own. Every path that is looked at on the way, to enter, to search or to start, has
been made absolute before, and an absolute path is looked up from the root.
-/

namespace PlainShell

namespace Host

variable (host : Host) (directory : Option Text)

/-- The same machine with the interpreter in another directory, or in none. -/
def elsewhere : Host := { host with directory }

section Absolute

variable {path : Text} (absolute : Path.isAbsolute path = true)
include absolute

theorem locate_elsewhere : (host.elsewhere directory).locate path = host.locate path := by
  simp only [locate, fromRoot, if_pos absolute]

theorem find?_elsewhere : (host.elsewhere directory).find? path = host.find? path := by
  rw [find?, host.locate_elsewhere directory absolute]
  rfl

theorem has_elsewhere : (host.elsewhere directory).has path = host.has path := by
  rw [has, host.find?_elsewhere directory absolute, has]

theorem isEnterable_elsewhere :
    (host.elsewhere directory).isEnterable path = host.isEnterable path := by
  rw [isEnterable, host.find?_elsewhere directory absolute, isEnterable]

theorem directoryFault_elsewhere :
    (host.elsewhere directory).directoryFault path = host.directoryFault path := by
  rw [directoryFault, host.find?_elsewhere directory absolute, directoryFault]

theorem launchFile_elsewhere (program : Text) :
    (host.elsewhere directory).launchFile program path = host.launchFile program path := by
  rw [launchFile, host.find?_elsewhere directory absolute, launchFile]

theorem add_elsewhere (node : Node) :
    (host.elsewhere directory).add path node = (host.add path node).elsewhere directory := by
  rw [add, host.locate_elsewhere directory absolute, add]
  cases host.locate path <;> rfl

end Absolute

theorem launchFile_entered {path : Text} (absolute : Path.isAbsolute path = true)
    (program : Text) :
    (host.entered directory).launchFile program path = host.launchFile program path := by
  unfold entered
  cases host.programLookup with
  | direct => rfl
  | posix =>
    cases directory with
    | none => rfl
    | some known =>
      exact host.launchFile_elsewhere (some (host.fromRoot known)) absolute program

/-- An absolute path is started as it is, wherever it is started from. -/
theorem launch_of_absolute (working : Option Text) (environment : Environment) {path : Text}
    (absolute : Path.isAbsolute path = true) :
    host.launch working environment path =
      match working.bind host.directoryFault with
      | some error => .failed error
      | none => host.launchFile path path := by
  have slashed : Path.slash ∈ path := List.mem_of_head? (by simpa [Path.isAbsolute] using absolute)
  rw [launch]
  cases working.bind host.directoryFault with
  | some error => rfl
  | none =>
    simp only [host.attempts_of_slash environment slashed, List.map_cons, List.map_nil,
      host.launchFile_entered working absolute]
    exact absent_orElse path _

theorem launch_elsewhere {base path : Text} (placed : Path.isAbsolute base = true)
    (environment : Environment) (absolute : Path.isAbsolute path = true) :
    (host.elsewhere directory).launch (some base) environment path =
      host.launch (some base) environment path := by
  rw [launch_of_absolute _ _ environment absolute, launch_of_absolute _ _ environment absolute]
  simp only [Option.bind_some, host.directoryFault_elsewhere directory placed,
    host.launchFile_elsewhere directory absolute]

/-- The machine with more files, the last of several at one place being the one that counts. -/
def furnish (entries : List (Text × Node)) : Host :=
  entries.foldl (fun furnished entry => furnished.add entry.1 entry.2) host

/-- Files at absolute paths are where they are, wherever the interpreter is. -/
theorem furnish_elsewhere {entries : List (Text × Node)}
    (placed : ∀ entry ∈ entries, Path.isAbsolute entry.1 = true) :
    (host.elsewhere directory).furnish entries = (host.furnish entries).elsewhere directory := by
  induction entries generalizing host with
  | nil => rfl
  | cons entry rest ih =>
    obtain ⟨here, further⟩ := List.forall_mem_cons.mp placed
    have onward := ih (host.add entry.1 entry.2) further
    rw [← host.add_elsewhere directory here] at onward
    exact onward

end Host

namespace SearchPath

variable {base : Text} (placed : Path.isAbsolute base = true)
include placed

theorem isAbsolute_candidate (name directory : Text) :
    Path.isAbsolute (candidate (some base) name directory) = true := by
  simp only [candidate]
  split
  · assumption
  · exact (Path.isNormal_clean (Path.isAbsolute_join placed _)).absolute

theorem search_elsewhere (host : Host) (directory : Option Text) (directories : List Text)
    (name : Text) :
    search (host.elsewhere directory) (some base) directories name =
      search host (some base) directories name := by
  induction directories with
  | nil => rfl
  | cons first rest ih =>
    have here := host.has_elsewhere directory (isAbsolute_candidate placed name first)
    simp only [search, List.map_cons, List.find?_cons, here] at ih ⊢
    rw [ih]

theorem isAbsolute_of_search {host : Host} {directories : List Text} {name path : Text}
    (found : search host (some base) directories name = some path) :
    Path.isAbsolute path = true := by
  obtain ⟨directory, -, rfl⟩ := List.mem_map.mp (List.mem_of_find?_eq_some found)
  exact isAbsolute_candidate placed name directory

end SearchPath

/-! In a session with an absolute directory, every operation is the same wherever the interpreter
is. -/

/-- The directory is known and absolute. -/
def KnownAbsolute (directory : Option Text) : Prop :=
  ∃ base ∈ directory, Path.isAbsolute base = true

theorem KnownAbsolute.absoluteIfKnown {directory : Option Text} (rooted : KnownAbsolute directory) :
    AbsoluteIfKnown directory := by
  obtain ⟨base, known, absolute⟩ := rooted
  intro other same
  rw [Option.mem_unique same known]
  exact absolute

theorem KnownNormal.knownAbsolute {directory : Option Text} (knownNormal : KnownNormal directory) :
    KnownAbsolute directory := by
  obtain ⟨current, known, normal⟩ := knownNormal
  exact ⟨current, known, normal.absolute⟩

theorem DirectoryEffect.knownAbsolute {host : Host} {session : Session} {left : Option Text}
    {moves : List Text} (effect : DirectoryEffect host session left moves)
    (rooted : KnownAbsolute session.directory) : KnownAbsolute left := by
  rcases effect.kept_or_knownNormal rooted.absoluteIfKnown with kept | knownNormal
  · rw [kept]
    exact rooted
  · exact knownNormal.knownAbsolute

section Elsewhere

variable (host : Host) (directory : Option Text) {session : Session}
  (rooted : KnownAbsolute session.directory)
include rooted

namespace Session

theorem findProgram_elsewhere (name : Text) :
    session.findProgram (host.elsewhere directory) name = session.findProgram host name := by
  obtain ⟨base, known, absolute⟩ := rooted
  rw [findProgram, findProgram, known]
  exact SearchPath.search_elsewhere absolute host directory _ name

theorem isAbsolute_of_findProgram {name path : Text}
    (found : session.findProgram host name = some path) : Path.isAbsolute path = true := by
  obtain ⟨base, known, absolute⟩ := rooted
  rw [findProgram, known] at found
  exact SearchPath.isAbsolute_of_search absolute found

theorem searchNote_elsewhere (name : Text) :
    session.searchNote (host.elsewhere directory) name = session.searchNote host name := by
  rw [searchNote, session.findProgram_elsewhere host directory rooted name, searchNote]

theorem destination_elsewhere (path : Text) :
    session.destination (host.elsewhere directory) path = session.destination host path := by
  unfold destination
  cases resolved : Path.resolve session.directory path with
  | none => rfl
  | some target =>
    have normal := Path.isNormal_of_resolve rooted.absoluteIfKnown resolved
    simp only [host.isEnterable_elsewhere directory normal.absolute]

end Session

theorem Handler.run_elsewhere (handler : Handler) (arguments : List Text) :
    handler.run (host.elsewhere directory) session arguments =
      handler.run host session arguments := by
  cases handler with
  | echo => rfl
  | exit => rfl
  | pwd => rfl
  | script lines ending => rfl
  | type =>
    simp only [run, Session.describe, Session.searchNote_elsewhere host directory rooted,
      Session.findProgram_elsewhere host directory rooted]
  | cd =>
    have arrive : session.destination (host.elsewhere directory) = session.destination host :=
      funext (Session.destination_elsewhere host directory rooted)
    simp only [run, Session.enter, arrive]
    rfl

namespace Invocation

variable (invocation : Invocation)

theorem perform_elsewhere (handler : Option Handler) :
    invocation.perform (host.elsewhere directory) handler session =
      invocation.perform host handler session := by
  have attempted : invocation.attempt (host.elsewhere directory) handler session =
      invocation.attempt host handler session := by
    cases handler with
    | none => rfl
    | some handler => exact handler.run_elsewhere host directory rooted invocation.arguments
  rw [perform, attempted, perform]

theorem launch_elsewhere {path : Text} (absolute : Path.isAbsolute path = true) :
    invocation.launch (host.elsewhere directory) session path =
      invocation.launch host session path := by
  obtain ⟨base, known, placed⟩ := rooted
  have known : session.directory = some base := known
  simp only [launch, known, host.launch_elsewhere directory placed session.environment absolute]

theorem external_elsewhere :
    invocation.external (host.elsewhere directory) session = invocation.external host session := by
  rw [external, Session.searchNote_elsewhere host directory rooted,
    Session.findProgram_elsewhere host directory rooted, external]
  cases found : session.findProgram host invocation.name with
  | none => rfl
  | some path =>
    have absolute := Session.isAbsolute_of_findProgram host rooted found
    simp only [invocation.launch_elsewhere host directory rooted absolute]

end Invocation

namespace Session

theorem dispatch_elsewhere (tokens : List Text) (line : Text) :
    session.dispatch (host.elsewhere directory) tokens line =
      session.dispatch host tokens line := by
  cases tokens with
  | nil => rfl
  | cons name arguments =>
    simp only [dispatch, Invocation.perform_elsewhere host directory rooted,
      Invocation.external_elsewhere host directory rooted]

theorem execute_elsewhere (line : Text) :
    session.execute (host.elsewhere directory) line = session.execute host line := by
  rw [execute, session.dispatch_elsewhere host directory rooted, execute]

/-- The loop over lines that lie ready: each line leaves an absolute directory to the next. -/
theorem consume_elsewhere (prompt : Text) (ending : Ending) (lines : List Text) :
    session.consume (host.elsewhere directory) prompt ending lines =
      session.consume host prompt ending lines := by
  induction lines generalizing session with
  | nil => rfl
  | cons line rest ih =>
    have here := session.execute_elsewhere host directory rooted line
    have left := (session.execute_directoryEffect host line).knownAbsolute rooted
    cases ended : (session.execute host line).outcome with
    | error cause =>
      have elsewhere : (session.execute (host.elsewhere directory) line).outcome =
          .error cause := by
        rw [here, ended]
      rw [consume_of_error _ _ _ _ rest ended, consume_of_error _ _ _ _ rest elsewhere, here]
    | ok status =>
      have elsewhere : (session.execute (host.elsewhere directory) line).outcome = .ok status := by
        rw [here, ended]
      rw [consume_of_ok _ _ _ _ rest ended, consume_of_ok _ _ _ _ rest elsewhere, here, ih left]

end Session

end Elsewhere

/-- Two runs of the loop that differ only in the directory of the interpreter are the same run:
everything that is written, waited for, started and noted, the session that is left and the way it
is left. The session has an absolute directory of its own, and the files stand at absolute paths. -/
theorem loop_ignores_host_directory (host : Host) (entries : List (Text × Node))
    (placed : ∀ entry ∈ entries, Path.isAbsolute entry.1 = true) (environment : Environment)
    (directory : Text) (absolute : Path.isAbsolute directory = true) (prompt : Text) (input : Input)
    (first second : Option Text) :
    let world := fun own => (host.elsewhere own).furnish entries
    let run := fun own =>
      (Session.start (world own) environment (some directory)).loop (world own) prompt input
    run first = run second := by
  intro world run
  have rooted : KnownAbsolute (Session.stocked (some directory) environment).directory :=
    ⟨directory, rfl, absolute⟩
  have same (own : Option Text) :
      run own = (Session.stocked (some directory) environment).consume (host.furnish entries) prompt
        input.ending input.lines := by
    change Session.loop _ ((host.elsewhere own).furnish entries) prompt input = _
    rw [Session.loop_eq_consume, host.furnish_elsewhere own placed]
    exact Session.consume_elsewhere (host.furnish entries) own rooted prompt _ _
  rw [same first, same second]

/-- A relative search list and a relative home, with the interpreter nowhere and somewhere. -/
theorem loop_ignores_host_directory_of_relative :
    let entries : List (Text × Node) :=
      [("/bin/p", .file (.ends [] 0)), ("/srv/a", .directory true)]
    let environment : Environment := Table.ofList [("HOME", "a"), ("PATH", "../bin:../../bin")]
    let input := Input.ofBytes (Utf8.encode "p x\ncd ~\np\n") .exhausted
    let world := fun own => ((Host.empty none).elsewhere own).furnish entries
    let run := fun own =>
      (Session.start (world own) environment (some "/srv")).loop (world own) "$ " input
    (∀ entry ∈ entries, Path.isAbsolute entry.1 = true) ∧ Path.isAbsolute "/srv" = true ∧
      run none = run (some "/bin") ∧
      (run none).starts =
        [⟨["/bin/p", "x"], some "/srv", environment⟩,
          ⟨["/bin/p"], some "/srv/a", environment⟩] := by
  intro entries environment input world run
  have placed : ∀ entry ∈ entries, Path.isAbsolute entry.1 = true := by decide
  have absolute : Path.isAbsolute "/srv" = true := by decide
  refine ⟨placed, absolute, ?_, ?_⟩
  · exact loop_ignores_host_directory (Host.empty none) entries placed environment "/srv" absolute
      "$ " input none (some "/bin")
  · change (Session.loop _ _ "$ " input).starts = _
    rw [Session.loop_eq_consume]
    decide

end PlainShell
