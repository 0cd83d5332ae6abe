import PlainShell.Loop
import PlainShell.Proofs.Lines
import PlainShell.Proofs.Routing

/-!
The loop as a fold over the lines of its input. One line after another is executed in the session
that the lines before have left. The first execution that departs ends the loop the same way. When
none does, the ending of the input decides after one more prompt.
-/

namespace PlainShell

/-- Why the loop is left at this ending. -/
def Ending.departure : Ending → Departure
  | .exhausted | .failed _ => .exit 1
  | .interrupted => .interrupt

/-- What is put out at this ending, behind the last prompt. -/
def Ending.lastWords : Ending → Text
  | .exhausted => "Error reading command: EOF\n"
  | .failed details => "Error reading command: " ++ details ++ "\n"
  | .interrupted => ""

/-- What a run of the loop comes to: why it was left, with which session, and what it showed. -/
@[ext]
structure Account where
  cause : Departure
  session : Session
  output : Bytes
  starts : List Start
  waits : Nat

namespace Run

/-- The loop has no value, so it always has a cause to end. -/
def cause (run : Run Empty) : Departure :=
  match run.outcome with
  | .error cause => cause
  | .ok never => nomatch never

def account (run : Run Empty) : Account :=
  ⟨run.cause, run.session, run.written, run.starts, run.waits⟩

theorem outcome_eq_cause (run : Run Empty) : run.outcome = .error run.cause := by
  unfold cause
  cases run.outcome with
  | error cause => rfl
  | ok never => exact nomatch never

theorem output_account (run : Run Empty) : run.account.output = run.written := rfl

theorem account_after (run : Run Empty) (events : List Event) :
    (run.after events).account =
      ⟨run.cause, run.session, events.flatMap Event.octets ++ run.written,
        events.filterMap Event.start? ++ run.starts, events.count .read + run.waits⟩ := by
  rw [account, written_after, starts_after, waits_after]
  rfl

end Run

namespace Session

variable (session : Session) (host : Host) (prompt : Text) (ending : Ending)

/-- The session that the lines leave. -/
def afterLines (lines : List Text) : Session :=
  lines.foldl (fun reached line => (reached.execute host line).session) session

/-- The executions of the lines, each in the session that the lines before have left. -/
def turns (session : Session) (host : Host) : List Text → List (Run Int)
  | [] => []
  | line :: rest =>
    let turn := session.execute host line
    turn :: turn.session.turns host rest

theorem afterLines_append (before later : List Text) :
    session.afterLines host (before ++ later) =
      (session.afterLines host before).afterLines host later := by
  simp only [afterLines, List.foldl_append]

theorem turns_append (before later : List Text) :
    session.turns host (before ++ later) =
      session.turns host before ++ (session.afterLines host before).turns host later := by
  induction before generalizing session with
  | nil => rfl
  | cons line rest ih =>
    simp only [List.cons_append, turns, ih]
    rfl

/-- Either all lines return, or there is a first one that departs. -/
theorem returns_or_departs (lines : List Text) :
    (∀ turn ∈ session.turns host lines, turn.Returns) ∨
      ∃ before line later cause, lines = before ++ line :: later ∧
        (∀ turn ∈ session.turns host before, turn.Returns) ∧
        ((session.afterLines host before).execute host line).outcome = .error cause := by
  induction lines generalizing session with
  | nil => exact Or.inl (by simp [turns])
  | cons line rest ih =>
    cases ended : (session.execute host line).outcome with
    | error cause => exact Or.inr ⟨[], line, rest, cause, rfl, by simp [turns], ended⟩
    | ok status =>
      have here : (session.execute host line).Returns := ⟨status, ended⟩
      rcases ih (session.execute host line).session with
        all | ⟨before, first, later, cause, rfl, returned, departed⟩
      · exact Or.inl (List.forall_mem_cons.mpr ⟨here, all⟩)
      · exact Or.inr ⟨line :: before, first, later, cause, rfl,
          List.forall_mem_cons.mpr ⟨here, returned⟩, departed⟩

/-! The loop goes by the lines alone. -/

/-- The end of the loop in a session that has no more lines. -/
def farewell : Run Empty :=
  match ending.failure? with
  | some details =>
    Run.departure session (promptEvents prompt ++ inputFailure details)
      (.exit (ShellError.inputRead details).code)
  | none => Run.departure session (promptEvents prompt) .interrupt

/-- The loop over lines that lie ready. -/
def consume (session : Session) (host : Host) (prompt : Text) (ending : Ending) :
    List Text → Run Empty
  | [] => session.farewell prompt ending
  | line :: rest =>
    ((session.execute host line).bind fun status later =>
      (later.consume host prompt ending rest).after [.note (.finished line status)]).after
        (promptEvents prompt)

theorem loop_eq_consume (input : Input) :
    session.loop host prompt input = session.consume host prompt input.ending input.lines := by
  generalize size : input.pending.length = length
  -- Each read takes from what is pending, which carries the induction as it does the loop.
  induction length using Nat.strong_induction_on generalizing session input with
  | _ length ih =>
    rw [loop]
    split
    · next details read =>
      obtain ⟨none, told⟩ := Input.lines_of_next_failed read
      simp only [none, consume, farewell, told]
    · next read =>
      obtain ⟨none, ended⟩ := Input.lines_of_next_interrupted read
      simp only [none, consume, farewell, ended, Ending.failure?]
    · next line rest read =>
      obtain ⟨lines, same⟩ := Input.lines_of_next_line read
      rw [lines, consume]
      congr 2
      funext status later
      rw [ih _ (size ▸ Input.length_lt_of_next read) later rest rfl, same]

theorem consume_of_ok {line : Text} {status : Int} (rest : List Text)
    (returned : (session.execute host line).outcome = .ok status) :
    session.consume host prompt ending (line :: rest) =
      ((session.execute host line).session.consume host prompt ending rest).after
        (promptEvents prompt ++ (session.execute host line).events ++
          [.note (.finished line status)]) := by
  rw [consume, Run.bind_of_ok _ returned]
  simp only [Run.after, List.append_assoc]

theorem consume_of_error {line : Text} {cause : Departure} (rest : List Text)
    (departed : (session.execute host line).outcome = .error cause) :
    session.consume host prompt ending (line :: rest) =
      ⟨promptEvents prompt ++ (session.execute host line).events,
        (session.execute host line).session, .error cause⟩ := by
  rw [consume, Run.bind_of_error _ departed, Run.after]

/-! What the loop does over lines that return. -/

/-- The note after a line that has returned. -/
def finishedNote (line : Text) (turn : Run Int) : List Event :=
  match turn.outcome with
  | .ok status => [.note (.finished line status)]
  | .error _ => []

/-- All that happens in the loop from the prompt for the first of the lines to the end of the last.
-/
def passage (session : Session) (host : Host) (prompt : Text) : List Text → List Event
  | [] => []
  | line :: rest =>
    let turn := session.execute host line
    promptEvents prompt ++ turn.events ++ finishedNote line turn ++
      turn.session.passage host prompt rest

/-- The output of the lines, each behind its prompt. -/
def prompted (lines : List Text) : Bytes :=
  (session.turns host lines).flatMap fun turn => Utf8.encode prompt ++ turn.written

theorem consume_append (before later : List Text)
    (returned : ∀ turn ∈ session.turns host before, turn.Returns) :
    session.consume host prompt ending (before ++ later) =
      ((session.afterLines host before).consume host prompt ending later).after
        (session.passage host prompt before) := by
  induction before generalizing session with
  | nil => rfl
  | cons line rest ih =>
    obtain ⟨status, ended⟩ := returned _ (List.mem_cons_self ..)
    have onward := ih (session.execute host line).session
      fun turn member => returned turn (List.mem_cons_of_mem _ member)
    rw [List.cons_append, consume_of_ok session host prompt ending _ ended, onward]
    simp only [Run.after, passage, finishedNote, ended, afterLines, List.foldl_cons,
      List.append_assoc]

/-- A line in its place in the loop: what happens in it stands behind what happens in the lines
before it, and if it departs nothing follows and the loop is left in the same way. -/
theorem loop_at_line {input : Input} {earlier later : List Text} {line : Text}
    (split : input.lines = earlier ++ line :: later)
    (returned : ∀ turn ∈ session.turns host earlier, turn.Returns) :
    let turn := (session.afterLines host earlier).execute host line
    ∃ rest, (session.loop host prompt input).events =
        session.passage host prompt earlier ++
          (promptEvents prompt ++ turn.events ++ finishedNote line turn ++ rest) ∧
      ∀ cause, turn.outcome = .error cause →
        rest = [] ∧ (session.loop host prompt input).outcome = .error cause := by
  intro turn
  have whole : session.loop host prompt input =
      ((session.afterLines host earlier).consume host prompt input.ending (line :: later)).after
        (session.passage host prompt earlier) := by
    rw [loop_eq_consume, split, consume_append _ _ _ _ _ _ returned]
  cases ended : turn.outcome with
  | error cause =>
    refine ⟨[], ?_, ?_⟩
    · rw [whole, consume_of_error _ host prompt input.ending later ended]
      simp [finishedNote, ended, turn]
    · intro other same
      rw [whole, consume_of_error _ host prompt input.ending later ended]
      exact ⟨rfl, congrArg Except.error (Except.error.inj same)⟩
  | ok status =>
    refine ⟨(turn.session.consume host prompt input.ending later).events, ?_, ?_⟩
    · rw [whole, consume_of_ok _ host prompt input.ending later ended]
      simp [finishedNote, ended, turn]
    · intro cause departed
      simp at departed

theorem octets_promptEvents : (promptEvents prompt).flatMap Event.octets = Utf8.encode prompt := by
  simp [promptEvents, Event.octets]

/-- Every prompt stands for one wait. -/
theorem reads_promptEvents : (promptEvents prompt).count .read = 1 := by
  simp [promptEvents]

theorem octets_passage (lines : List Text) :
    (session.passage host prompt lines).flatMap Event.octets =
      session.prompted host prompt lines := by
  induction lines generalizing session with
  | nil => rfl
  | cons line rest ih =>
    have noted : (finishedNote line (session.execute host line)).flatMap Event.octets = [] := by
      unfold finishedNote
      split <;> rfl
    simp only [passage, prompted, turns, List.flatMap_append, List.flatMap_cons,
      octets_promptEvents, noted, ih, Run.written_eq_octets, List.append_nil]

theorem starts_finishedNote (line : Text) (turn : Run Int) :
    (finishedNote line turn).filterMap Event.start? = [] := by
  unfold finishedNote
  split <;> rfl

theorem starts_passage (lines : List Text) :
    (session.passage host prompt lines).filterMap Event.start? =
      (session.turns host lines).flatMap Run.starts := by
  induction lines generalizing session with
  | nil => rfl
  | cons line rest ih =>
    simp only [passage, turns, List.filterMap_append, List.flatMap_cons, starts_finishedNote, ih,
      List.append_nil]
    rfl

theorem waits_passage (lines : List Text) :
    (session.passage host prompt lines).count .read = lines.length := by
  induction lines generalizing session with
  | nil => rfl
  | cons line rest ih =>
    have noted : (finishedNote line (session.execute host line)).count .read = 0 := by
      unfold finishedNote
      split <;> simp
    simp only [passage, List.count_append, reads_promptEvents, reads_execute, noted, ih,
      List.length_cons]
    omega

theorem octets_inputFailure (details : Text) :
    (inputFailure details).flatMap Event.octets =
      Utf8.encode ("Error reading command: " ++ details ++ "\n") := by
  rw [inputFailure, Event.octets_note_cons]
  simp [Event.line, Event.octets, ShellError.message]

/-- Input that fails is told of in one line behind the last prompt. -/
theorem account_failure (details : Text) :
    (Run.departure session (promptEvents prompt ++ inputFailure details) (.exit 1)).account =
      ⟨.exit 1, session,
        Utf8.encode prompt ++ Utf8.encode ("Error reading command: " ++ details ++ "\n"),
        [], 1⟩ := by
  apply Account.ext
  · rfl
  · rfl
  · calc
      _ = (promptEvents prompt ++ inputFailure details).flatMap Event.octets := by
        rw [Run.output_account, Run.written_eq_octets]
        rfl
      _ = Utf8.encode prompt ++ (inputFailure details).flatMap Event.octets := by
        rw [List.flatMap_append, octets_promptEvents]
      _ = _ := by rw [octets_inputFailure]
  · rfl
  · change (promptEvents prompt ++ inputFailure details).count .read = 1
    simp [reads_promptEvents, inputFailure, Event.line]

theorem account_farewell :
    (session.farewell prompt ending).account =
      ⟨ending.departure, session, Utf8.encode prompt ++ Utf8.encode ending.lastWords, [], 1⟩ := by
  cases ending with
  | exhausted => exact account_failure session prompt "EOF"
  | failed details => exact account_failure session prompt details
  | interrupted =>
    apply Account.ext
    · rfl
    · rfl
    · calc
        _ = (promptEvents prompt).flatMap Event.octets := by
          rw [Run.output_account, Run.written_eq_octets]
          rfl
        _ = Utf8.encode prompt := octets_promptEvents prompt
        _ = Utf8.encode prompt ++ Utf8.encode "" := (List.append_nil _).symm
    · rfl
    · exact reads_promptEvents prompt

theorem account_append (before later : List Text)
    (returned : ∀ turn ∈ session.turns host before, turn.Returns) :
    (session.consume host prompt ending (before ++ later)).account =
      let rest := ((session.afterLines host before).consume host prompt ending later).account
      ⟨rest.cause, rest.session, session.prompted host prompt before ++ rest.output,
        (session.turns host before).flatMap Run.starts ++ rest.starts,
        before.length + rest.waits⟩ := by
  rw [consume_append session host prompt ending before later returned, Run.account_after,
    octets_passage, starts_passage, waits_passage]
  rfl

theorem account_departs (line : Text) (later : List Text) {cause : Departure}
    (departed : (session.execute host line).outcome = .error cause) :
    (session.consume host prompt ending (line :: later)).account =
      ⟨cause, session.afterLines host [line], session.prompted host prompt [line],
        (session.turns host [line]).flatMap Run.starts, 1⟩ := by
  rw [consume_of_error session host prompt ending later departed]
  apply Account.ext
  · rfl
  · rfl
  · calc
      _ = (promptEvents prompt ++ (session.execute host line).events).flatMap Event.octets := by
        rw [Run.output_account, Run.written_eq_octets]
      _ = Utf8.encode prompt ++ (session.execute host line).written := by
        rw [List.flatMap_append, octets_promptEvents, Run.written_eq_octets]
      _ = session.prompted host prompt [line] := by simp [prompted, turns]
  · change (promptEvents prompt ++ (session.execute host line).events).filterMap Event.start? = _
    simp only [turns, List.flatMap_cons, List.flatMap_nil, List.append_nil]
    rfl
  · change (promptEvents prompt ++ (session.execute host line).events).count .read = 1
    rw [List.count_append, reads_promptEvents, reads_execute]

theorem account_of_departure (input : Input) {before later : List Text} {line : Text}
    {cause : Departure} (split : input.lines = before ++ line :: later)
    (returned : ∀ turn ∈ session.turns host before, turn.Returns)
    (departed : ((session.afterLines host before).execute host line).outcome = .error cause) :
    (session.loop host prompt input).account =
      ⟨cause, session.afterLines host (before ++ [line]),
        session.prompted host prompt (before ++ [line]),
        (session.turns host (before ++ [line])).flatMap Run.starts, before.length + 1⟩ := by
  rw [loop_eq_consume, split, account_append session host prompt _ before _ returned,
    account_departs _ host prompt _ line later departed]
  simp only [afterLines_append, prompted, turns_append, List.flatMap_append]

theorem account_of_returns (input : Input)
    (returned : ∀ turn ∈ session.turns host input.lines, turn.Returns) :
    (session.loop host prompt input).account =
      ⟨input.ending.departure, session.afterLines host input.lines,
        session.prompted host prompt input.lines ++ Utf8.encode prompt ++
          Utf8.encode input.ending.lastWords,
        (session.turns host input.lines).flatMap Run.starts, input.lines.length + 1⟩ := by
  have whole := account_append session host prompt input.ending input.lines [] returned
  rw [List.append_nil, consume, account_farewell] at whole
  rw [loop_eq_consume, whole]
  simp only [List.append_nil, List.append_assoc]

/-- The loop is the fold of `execute` over the lines. The first line that departs ends it in the
same way, and nothing of a later line shows. If none departs, one more prompt is put out and the
ending of the input decides. -/
theorem loop_folds_execute (session : Session) (host : Host) (prompt : Text) (input : Input) :
    let run := session.loop host prompt input
    (∀ before line later cause, input.lines = before ++ line :: later →
      (∀ turn ∈ session.turns host before, turn.Returns) →
      ((session.afterLines host before).execute host line).outcome = .error cause →
      run.account =
        ⟨cause, session.afterLines host (before ++ [line]),
          session.prompted host prompt (before ++ [line]),
          (session.turns host (before ++ [line])).flatMap Run.starts, before.length + 1⟩) ∧
    ((∀ turn ∈ session.turns host input.lines, turn.Returns) →
      run.account =
        ⟨input.ending.departure, session.afterLines host input.lines,
          session.prompted host prompt input.lines ++ Utf8.encode prompt ++
            Utf8.encode input.ending.lastWords,
          (session.turns host input.lines).flatMap Run.starts, input.lines.length + 1⟩) ∧
    (∀ (state : Session) (line : Text), Tokens.firstWord line = exitWord →
      (state.execute host line).outcome = .error (.exit 0)) ∧
    run.outcome = .error run.cause ∧ run.waits ≤ input.lines.length + 1 := by
  intro run
  refine ⟨?_, account_of_returns session host prompt input, ?_, run.outcome_eq_cause, ?_⟩
  · intro before line later cause split returned departed
    exact account_of_departure session host prompt input split returned departed
  · intro state line first
    rw [execute, if_pos first]
    rfl
  · change run.account.waits ≤ _
    rcases returns_or_departs session host input.lines with
      all | ⟨before, line, later, cause, split, returned, departed⟩
    · rw [account_of_returns session host prompt input all]
    · rw [account_of_departure session host prompt input split returned departed, split]
      simp

end Session

end PlainShell
