import PlainShell.Proofs.Entrance
import PlainShell.Proofs.ExecutedCommands
import PlainShell.Proofs.Typed

/-!
What is typed comes through octet by octet. Octets that spell no character are carried as stray
bytes, and the text of every token encodes to the octets it was typed with. So `echo` gives back its
arguments, a program is started with them, and a line that names nothing is answered with itself.
-/

namespace PlainShell

theorem Utf8.encode_joined (glue : Text) (texts : List Text) :
    Utf8.encode (Text.joined glue texts) =
      List.intercalate (Utf8.encode glue) (texts.map Utf8.encode) := by
  induction texts with
  | nil => rfl
  | cons text rest ih =>
    cases rest with
    | nil => simp
    | cons next later =>
      rw [Text.joined, List.intercalate_cons_cons, encode_append, encode_append, ih]
      simp only [List.map_cons, List.intercalate_cons_cons]

theorem Utf8.map_encode_decode (tokens : List Bytes) :
    (tokens.map Utf8.decode).map Utf8.encode = tokens := by
  rw [List.map_map]
  exact List.map_id'' Utf8.encode_decode tokens

theorem Event.octets_line_flush (value : Text) :
    [Event.line value, .flush].flatMap Event.octets = Utf8.encode value ++ [0x0A] := by
  have feed : Utf8.encode "\n" = [0x0A] := by decide
  simp [Event.line, Event.octets, Utf8.encode_append, feed]

/-! The line as it is executed. -/

namespace Command

variable {command : Command} {arguments : List Bytes}

/-- `echo` puts its arguments together again. -/
theorem execute_echo
    (tokens : Tokens.ofLine command.line = ("echo" : Text) :: arguments.map Utf8.decode)
    (host : Host) (environment : Environment) :
    ∃ events, (command.session environment).execute host command.line =
        Run.value (command.session environment) events 0 ∧
      events.flatMap Event.octets = List.intercalate [0x20] arguments ++ [0x0A] := by
  have found : (command.session environment).builtins.get? "echo" = some .echo := by rfl
  have space : Utf8.encode " " = [0x20] := by decide
  refine ⟨[.note (.routedToBuiltin "echo"),
    .line (Text.joined " " (arguments.map Utf8.decode)), .flush], ?_, ?_⟩
  · rw [execute_of_ne tokens host environment (by decide), Session.dispatch_builtin found]
    rfl
  · rw [Event.octets_note_cons, Event.octets_line_flush, Utf8.encode_joined,
      Utf8.map_encode_decode, space]

/-- A line that names nothing is put out again, with what is wrong with it. -/
theorem execute_unknown {name : Text} {texts : List Text} {line : Bytes}
    (tokens : Tokens.ofLine command.line = name :: texts) (typed : command.line = Utf8.decode line)
    (host : Host) (environment : Environment) (absent : name ∉ Registry.stock.names)
    (missing : (command.session environment).findProgram host name = none) :
    ∃ events, (command.session environment).execute host command.line =
        Run.value (command.session environment) events 127 ∧
      events.flatMap Event.octets = line ++ Utf8.encode ": command not found" ++ [0x0A] := by
  refine ⟨_, execute_of_missing host environment tokens absent missing, ?_⟩
  rw [Event.octets_note_cons, Event.octets_note_cons, Event.octets_line_flush, ShellError.message,
    Utf8.encode_append, typed, Utf8.encode_decode]

/-- Octets without a zero come to a program as they are. -/
theorem starts_of_octets {name : Text}
    (tokens : Tokens.ofLine command.line = name :: arguments.map Utf8.decode) (host : Host)
    (environment : Environment) (absent : name ∉ Registry.stock.names)
    (clean : ∀ argument ∈ arguments, 0x00 ∉ argument) {path : Text}
    (found : (command.session environment).findProgram host name = some path) :
    ∃ texts, texts.map Utf8.encode = arguments ∧
      ((command.session environment).execute host command.line).starts =
        [⟨path :: texts, command.directory, environment⟩] := by
  have unspoiled : ¬HoldNul (arguments.map Utf8.decode) := by
    rw [not_holdNul_iff, List.forall_mem_map]
    exact fun argument member => Utf8.not_mem_decode (by decide) (clean argument member)
  exact ⟨arguments.map Utf8.decode, Utf8.map_encode_decode arguments,
    starts_of_found host environment tokens absent found unspoiled⟩

end Command

/-! The line among others. -/

namespace Session

variable (session : Session) (host : Host) (prompt : Text) {input : Input} {before rest : List Text}
  {line : Text} (split : input.lines = before ++ line :: rest)
  (returned : ∀ turn ∈ session.turns host before, turn.Returns) {found : Session}
  (left : session.afterLines host before = found)
include split returned left

/-- A line that stays shows what it shows between the output before it and the output after it. -/
theorem written_of_stay {events : List Event} {status : Int}
    (stays : found.execute host line = Run.value found events status) :
    (session.loop host prompt input).written =
      session.prompted host prompt before ++ Utf8.encode prompt ++ events.flatMap Event.octets ++
        (found.consume host prompt input.ending rest).written := by
  have ended : (found.execute host line).outcome = .ok status := by
    rw [stays]
    rfl
  have own := consume_of_ok found host prompt input.ending rest ended
  rw [stays] at own
  calc
    _ = session.prompted host prompt before ++
        (found.consume host prompt input.ending (line :: rest)).written := by
      rw [loop_eq_consume, split, consume_append _ _ _ _ _ _ returned, Run.written_after,
        octets_passage, left]
    _ = session.prompted host prompt before ++ (Utf8.encode prompt ++
        events.flatMap Event.octets ++
          (found.consume host prompt input.ending rest).written) := by
      rw [own, Run.written_after, List.flatMap_append, List.flatMap_append, octets_promptEvents]
      simp [Event.octets, Run.value]
    _ = _ := by simp only [List.append_assoc]

/-- What a line starts stands behind the starts of the lines before it. -/
theorem starts_of_line :
    ∃ more, (session.loop host prompt input).starts =
      (session.turns host before).flatMap Run.starts ++
        ((found.execute host line).starts ++ more) := by
  subst left
  obtain ⟨later, whole, -⟩ := session.loop_at_line host prompt split returned
  have silent : (promptEvents prompt).filterMap Event.start? = [] := rfl
  refine ⟨later.filterMap Event.start?, ?_⟩
  rw [Run.starts, whole, List.filterMap_append, starts_passage, List.filterMap_append,
    List.filterMap_append, List.filterMap_append, silent, starts_finishedNote, List.nil_append,
    List.append_nil]
  rfl

end Session

/-- Tokens that are typed as one line come through as they are, wherever the line stands in the
input and whatever octets they are made of: `echo` puts out its arguments with one space between
neighbours, a program is started with the arguments, and a line that names nothing is repeated with
its own spacing. An output over bytes takes the same octets as memory, and so does the first channel
of the program. -/
theorem typed_octets_come_through (host : Host) (environment : Environment)
    (directory : Option Text) (prompt : Text) (ending : Ending) {name : Bytes}
    {arguments : List Bytes} {earlier line : Bytes} (later : Bytes)
    (spaced : Spaced (name :: arguments) line) (trimmed : (Utf8.decode line).IsTrimmed)
    (ended : Input.EndsLine earlier)
    (returned : ∀ turn ∈ (Session.start host environment directory).turns host
      (Input.ofBytes earlier ending).lines, turn.Returns) :
    let start := Session.start host environment directory
    let before := (Input.ofBytes earlier ending).lines
    let found := start.afterLines host before
    let input := Input.ofBytes (earlier ++ (line ++ 0x0A :: later)) ending
    let run := start.loop host prompt input
    let shown := start.prompted host prompt before ++ Utf8.encode prompt
    let onward := found.loop host prompt (Input.ofBytes later ending)
    (name = Utf8.encode "echo" →
      run.written = shown ++ (List.intercalate [0x20] arguments ++ [0x0A]) ++ onward.written) ∧
    (Utf8.decode name ∉ Registry.stock.names → (∀ argument ∈ arguments, 0x00 ∉ argument) →
      ∀ path, found.findProgram host (Utf8.decode name) = some path →
        ∃ texts more, texts.map Utf8.encode = arguments ∧
          run.starts = (start.turns host before).flatMap Run.starts ++
            ⟨path :: texts, found.directory, environment⟩ :: more) ∧
    (Utf8.decode name ∉ Registry.stock.names →
      found.findProgram host (Utf8.decode name) = none →
        run.written =
          shown ++ (line ++ Utf8.encode ": command not found" ++ [0x0A]) ++ onward.written) ∧
    (∀ spill, ((Output.overBytes spill).deliver run.events).flush.content = run.written) ∧
    ∀ options threshold, directory = none →
      Program.entry? environment options = some (prompt, threshold) →
        (Program.run host environment options input).stdout =
            run.written ++ Program.lastOctets run.cause ∧
          (Program.run host environment options input).starts = run.starts := by
  intro start before found input run shown onward
  obtain ⟨reached, left⟩ := afterLines_stocked host environment (directory.or host.directory) before
  let command : Command := ⟨reached, Utf8.decode line⟩
  have left : found = command.session environment := left
  have tokens : Tokens.ofLine command.line = Utf8.decode name :: arguments.map Utf8.decode :=
    spaced.ofLine_decode
  have split : input.lines = before ++ command.line :: (Input.ofBytes later ending).lines :=
    Input.lines_ofBytes_spaced spaced trimmed ended later ending
  have answer {events : List Event} {status : Int}
      (answered : (command.session environment).execute host command.line =
        Run.value (command.session environment) events status) :
      run.written = shown ++ events.flatMap Event.octets ++ onward.written := by
    have follows : onward = _ := Session.loop_eq_consume ..
    rw [follows, left]
    exact start.written_of_stay host prompt split returned left answered
  refine ⟨?_, ?_, ?_, ?_, ?_⟩
  · rintro rfl
    have word : Utf8.decode (Utf8.encode "echo") = "echo" := by decide
    obtain ⟨events, answered, put⟩ := command.execute_echo (word ▸ tokens) host environment
    rw [answer answered, put]
  · intro absent clean path search
    obtain ⟨texts, same, started⟩ :=
      command.starts_of_octets tokens host environment absent clean (left ▸ search)
    obtain ⟨more, whole⟩ := start.starts_of_line host prompt split returned left
    refine ⟨texts, more, same, whole.trans ?_⟩
    rw [started, left]
    rfl
  · intro absent missing
    obtain ⟨events, answered, put⟩ :=
      command.execute_unknown tokens rfl host environment absent (left ▸ missing)
    rw [answer answered, put]
  · intro spill
    rw [Output.content_flush_deliver, Run.written_eq_octets]
  · rintro options threshold rfl entered
    exact ⟨Program.stdout_of_entry entered host input, Program.starts_of_entry entered host input⟩

/-- A byte that begins no character, a character of three octets, and a sequence that is broken off
by a space. -/
theorem typed_octets_come_through_of_broken :
    let host := Host.lone (.ends [] 0)
    let environment : Environment := [("PATH", "/bin")]
    let run (octets : Bytes) :=
      (Session.start host environment none).loop host "$ " (Input.ofBytes octets .exhausted)
    (∃ more,
      (run [0x65, 0x63, 0x68, 0x6F, 0x20, 0x20, 0xE9, 0x20, 0xE2, 0x82, 0xAC, 0x0A]).written =
        Utf8.encode "$ " ++ [0xE9, 0x20, 0xE2, 0x82, 0xAC, 0x0A] ++ more) ∧
    (∃ texts more, texts.map Utf8.encode = [[0xE2, 0x82]] ∧
      (run [0x70, 0x20, 0xE2, 0x82, 0x0A]).starts =
        ⟨"/bin/p" :: texts, some "/", environment⟩ :: more) ∧
    (∃ more, (run [0xE2, 0x82, 0x20, 0x20, 0xE9, 0x0A]).written =
      Utf8.encode "$ " ++ ([0xE2, 0x82, 0x20, 0x20, 0xE9] ++ Utf8.encode ": command not found" ++
        [0x0A]) ++ more) ∧
    (Program.run host environment ["--prompt=$ "]
        (Input.ofBytes [0x70, 0x20, 0xE2, 0x82, 0x0A] .exhausted)).stdout =
      (run [0x70, 0x20, 0xE2, 0x82, 0x0A]).written ++
        Program.lastOctets (run [0x70, 0x20, 0xE2, 0x82, 0x0A]).cause := by
  intro host environment run
  have alone : ∀ turn ∈ (Session.start host environment none).turns host
      (Input.ofBytes [] .exhausted).lines, turn.Returns := by
    have none : (Input.ofBytes [] .exhausted).lines = [] := rfl
    simp [none, Session.turns]
  have stray : IsToken [0xE9] := ⟨by decide, by decide, by decide, by decide⟩
  have piece : IsToken [0xE2, 0x82] := ⟨by decide, by decide, by decide, by decide⟩
  have word : IsToken [0x70] := ⟨by decide, by decide, by decide, by decide⟩
  obtain ⟨-, started, -, -, entered⟩ := typed_octets_come_through host environment none "$ "
    .exhausted [] (.cons word 0 (.last piece)) (by decide) (Or.inl rfl) alone
  refine ⟨?_, started (by decide) (by decide) "/bin/p" (by decide), ?_, ?_⟩
  · have euro : IsToken [0xE2, 0x82, 0xAC] := ⟨by decide, by decide, by decide, by decide⟩
    have echo : IsToken [0x65, 0x63, 0x68, 0x6F] := ⟨by decide, by decide, by decide, by decide⟩
    obtain ⟨echoed, -, -, -, -⟩ := typed_octets_come_through host environment none "$ "
      .exhausted [] (.cons echo 1 (.cons stray 0 (.last euro))) (by decide) (Or.inl rfl) alone
    exact ⟨_, echoed (by decide)⟩
  · obtain ⟨-, -, refused, -, -⟩ := typed_octets_come_through host environment none "$ "
      .exhausted [] (.cons piece 1 (.last stray)) (by decide) (Or.inl rfl) alone
    exact ⟨_, refused (by decide) (by decide)⟩
  · exact (entered [("--prompt=$ " : Text)] 30 rfl (by decide)).1

end PlainShell
