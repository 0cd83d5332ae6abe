import Mathlib.Tactic.TFAE
import PlainShell.Proofs.Command
import PlainShell.Proofs.Tables

/-!
The builtins after any number of registrations. All who ask about a name read the one table, so they
agree: the last registration with the name decides, and the stock builtins where there is none. The
names come out in strictly ascending order.
-/

namespace PlainShell

/-- One registration: a handler, and the names that it is to be found under. -/
structure Registration where
  names : List Text
  handler : Handler

/-- The five builtins that are there from the start. -/
inductive IsStock : Text → Handler → Prop where
  | cd : IsStock "cd" .cd
  | echo : IsStock "echo" .echo
  | exit : IsStock "exit" .exit
  | pwd : IsStock "pwd" .pwd
  | type : IsStock "type" .type

/-- The handler that a name has after the registrations. -/
inductive InForce : List Registration → Text → Handler → Prop where
  | stock {registrations : List Registration} {name : Text} {handler : Handler}
    (untouched : ∀ registration ∈ registrations, name ∉ registration.names)
    (own : IsStock name handler) : InForce registrations name handler
  | registered {before later : List Registration} {last : Registration} {name : Text}
    (named : name ∈ last.names) (untouched : ∀ registration ∈ later, name ∉ registration.names) :
    InForce (before ++ last :: later) name last.handler

namespace Registry

variable {registry : Registry} {name : Text} {handler : Handler}

/-- The table after the registrations, made one after another. -/
def after (registry : Registry) (registrations : List Registration) : Registry :=
  registrations.foldl
    (fun reached registration => reached.register registration.names registration.handler) registry

/-! One registration. -/

theorem get?_register (registry : Registry) (names : List Text) (handler : Handler) (name : Text) :
    (registry.register names handler).get? name =
      if name ∈ names then some handler else registry.get? name := by
  induction names generalizing registry with
  | nil => rfl
  | cons first rest ih =>
    have step : registry.register (first :: rest) handler =
        Registry.register (Table.insert first handler registry) rest handler := rfl
    rw [step, ih]
    by_cases further : name ∈ rest
    · rw [if_pos further, if_pos (List.mem_cons_of_mem _ further)]
    · rw [if_neg further]
      by_cases same : name = first
      · rw [same, Table.get?_insert, if_pos (List.mem_cons_self ..)]
      · rw [Table.get?_insert_of_ne registry same, if_neg (by simp [same, further])]

theorem ascending_register (ascending : registry.Ascending) (names : List Text)
    (handler : Handler) : (registry.register names handler).Ascending := by
  induction names generalizing registry with
  | nil => exact ascending
  | cons first rest ih => exact ih (ascending.insert first handler)

/-! One after another. -/

theorem after_append (before later : List Registration) :
    registry.after (before ++ later) = (registry.after before).after later := List.foldl_append

theorem get?_after_of_untouched {registrations : List Registration}
    (untouched : ∀ registration ∈ registrations, name ∉ registration.names) :
    (registry.after registrations).get? name = registry.get? name := by
  induction registrations generalizing registry with
  | nil => rfl
  | cons first rest ih =>
    obtain ⟨here, further⟩ := List.forall_mem_cons.mp untouched
    have step : registry.after (first :: rest) =
        (registry.register first.names first.handler).after rest := rfl
    rw [step, ih further, get?_register, if_neg here]

/-- A registration holds until another one with the same name. -/
theorem get?_after_of_named {before later : List Registration} {last : Registration}
    (named : name ∈ last.names)
    (untouched : ∀ registration ∈ later, name ∉ registration.names) :
    (registry.after (before ++ last :: later)).get? name = some last.handler := by
  have step : (registry.after before).after (last :: later) =
      ((registry.after before).register last.names last.handler).after later := rfl
  rw [after_append, step, get?_after_of_untouched untouched, get?_register, if_pos named]

theorem ascending_after (ascending : registry.Ascending) (registrations : List Registration) :
    (registry.after registrations).Ascending := by
  induction registrations generalizing registry with
  | nil => exact ascending
  | cons first rest ih => exact ih (ascending_register ascending first.names first.handler)

theorem ascending_stock : stock.Ascending := by
  have names : stock.names = [("cd" : Text), "echo", "exit", "pwd", "type"] := rfl
  rw [Table.Ascending, names]
  decide

theorem get?_stock_iff : stock.get? name = some handler ↔ IsStock name handler := by
  constructor
  · intro found
    rcases stock_cases name with ⟨rfl, own⟩ | ⟨rfl, own⟩ | ⟨rfl, own⟩ | ⟨rfl, own⟩ | ⟨rfl, own⟩ |
      ⟨-, none⟩
    · exact Option.some.inj (own.symm.trans found) ▸ .cd
    · exact Option.some.inj (own.symm.trans found) ▸ .echo
    · exact Option.some.inj (own.symm.trans found) ▸ .exit
    · exact Option.some.inj (own.symm.trans found) ▸ .pwd
    · exact Option.some.inj (own.symm.trans found) ▸ .type
    · simp [none] at found
  · intro own
    cases own <;> rfl

/-- Either no registration has the name, or there is a last one that does. -/
theorem untouched_or_last (name : Text) (registrations : List Registration) :
    (∀ registration ∈ registrations, name ∉ registration.names) ∨
      ∃ before last later, registrations = before ++ last :: later ∧ name ∈ last.names ∧
        ∀ registration ∈ later, name ∉ registration.names := by
  induction registrations with
  | nil => exact Or.inl (by simp)
  | cons first rest ih =>
    rcases ih with untouched | ⟨before, last, later, rfl, named, untouched⟩
    · by_cases named : name ∈ first.names
      · exact Or.inr ⟨[], first, rest, rfl, named, untouched⟩
      · exact Or.inl (List.forall_mem_cons.mpr ⟨named, untouched⟩)
    · exact Or.inr ⟨first :: before, last, later, rfl, named, untouched⟩

/-- A name in the table stays there, whatever handler it is given. -/
theorem names_subset_after (registry : Registry) (registrations : List Registration) :
    registry.names ⊆ (registry.after registrations).names := by
  intro name member
  by_contra absent
  rw [← Table.get?_eq_none_iff] at absent
  rcases untouched_or_last name registrations with
    untouched | ⟨before, last, later, rfl, named, untouched⟩
  · rw [get?_after_of_untouched untouched, Table.get?_eq_none_iff] at absent
    exact absent member
  · simp [get?_after_of_named named untouched] at absent

theorem get?_after_iff {registrations : List Registration} :
    (stock.after registrations).get? name = some handler ↔
      InForce registrations name handler := by
  constructor
  · intro found
    rcases untouched_or_last name registrations with
      untouched | ⟨before, last, later, rfl, named, untouched⟩
    · rw [get?_after_of_untouched untouched] at found
      exact .stock untouched (get?_stock_iff.mp found)
    · rw [get?_after_of_named named untouched] at found
      exact Option.some.inj found ▸ .registered named untouched
  · intro inForce
    cases inForce with
    | stock untouched own =>
      rw [get?_after_of_untouched untouched]
      exact get?_stock_iff.mpr own
    | registered named untouched => exact get?_after_of_named named untouched

end Registry

/-! Those who ask. -/

namespace Session

variable {session : Session} {host : Host} {name : Text}

/-- `type` says of the name that it is a builtin, and has not searched for it. -/
def CallsBuiltin (session : Session) (host : Host) (name : Text) (further : List Text) : Prop :=
  Handler.type.run host session (name :: further) =
    Run.value session [.line (name ++ " is a shell builtin")] 0

/-- The command is given to the handler, and its name is not searched for. -/
def RoutesTo (session : Session) (host : Host) (handler : Handler) (name : Text)
    (arguments : List Text) (line : Text) : Prop :=
  session.dispatch host (name :: arguments) line =
    ((⟨name, arguments⟩ : Invocation).perform host (some handler) session).after
      [.note (.routedToBuiltin name)]

theorem callsBuiltin_iff (further : List Text) :
    session.CallsBuiltin host name further ↔ session.isBuiltin name = true := by
  -- Only the first argument is looked at.
  change session.describe host [name] = _ ↔ _
  rw [isBuiltin]
  cases table : session.builtins.get? name with
  | some handler => exact iff_of_true (describe_builtin table) rfl
  | none =>
    cases search : session.findProgram host name with
    | some path =>
      rw [describe_program table search]
      simp [Run.value]
    | none =>
      rw [describe_nothing table search]
      simp [Run.value]

/-- What `type` writes tells as much, unless it has found a path that reads like the answer. -/
theorem writes_type_iff (further : List Text)
    (apart : session.findProgram host name ≠ some "a shell builtin") :
    (Handler.type.run host session (name :: further)).writes =
        [.line (name ++ " is a shell builtin")] ↔
      session.isBuiltin name = true := by
  have answer : (" is a shell builtin" : Text) = " is " ++ "a shell builtin" := rfl
  change (session.describe host [name]).writes = _ ↔ _
  rw [isBuiltin]
  cases table : session.builtins.get? name with
  | some handler =>
    rw [describe_builtin table]
    exact iff_of_true rfl rfl
  | none =>
    refine iff_of_false (fun same => ?_) Bool.false_ne_true
    cases search : session.findProgram host name with
    | some path =>
      rw [describe_program table search] at same
      have line : name ++ " is " ++ path ++ "\n" = name ++ " is a shell builtin" ++ "\n" :=
        Event.text.inj (List.cons.inj same).1
      rw [answer, ← List.append_assoc, List.append_left_inj, List.append_right_inj] at line
      exact apart (search.trans (congrArg some line))
    | none =>
      rw [describe_nothing table search] at same
      have line : name ++ ": not found" ++ "\n" = name ++ " is a shell builtin" ++ "\n" :=
        Event.text.inj (List.cons.inj same).1
      rw [List.append_left_inj, List.append_right_inj] at line
      exact absurd line (by decide)

theorem routesTo_of_found {handler : Handler} (found : session.builtins.get? name = some handler)
    (arguments : List Text) (line : Text) :
    session.RoutesTo host handler name arguments line :=
  dispatch_builtin found arguments line

/-- A name that is not in the table is searched for before anything else happens. -/
theorem isBuiltin_of_routesTo {handler : Handler} {arguments : List Text} {line : Text}
    (routes : session.RoutesTo host handler name arguments line) :
    session.isBuiltin name = true := by
  rw [isBuiltin]
  cases table : session.builtins.get? name with
  | some other => rfl
  | none =>
    have first := congrArg (·.events.head?) (Eq.symm routes)
    cases search : session.findProgram host name with
    | some path => simp [dispatch_program table search] at first
    | none => simp [dispatch_nothing table search, Run.value] at first

end Session

/-- After any registrations there is one answer to the question what is a builtin: whether the table
is asked, or the listing, or `type`, or a command with the name is run. The handler is the one of
the last registration with the name, or the stock one. The stock names stay, and the listing goes up
strictly by code points. -/
theorem registry_has_one_view (registrations : List Registration) (host : Host)
    (directory : Option Text) (environment : Environment) :
    let registry := Registry.stock.after registrations
    let session : Session := ⟨directory, environment, registry⟩
    (∀ name further arguments line,
      [session.isBuiltin name = true, registry.get? name ≠ none, name ∈ registry.names,
        session.CallsBuiltin host name further,
        ∃ handler, session.RoutesTo host handler name arguments line].TFAE) ∧
    (∀ name further, session.findProgram host name ≠ some "a shell builtin" →
      ((Handler.type.run host session (name :: further)).writes =
          [.line (name ++ " is a shell builtin")] ↔ name ∈ registry.names)) ∧
    (∀ name handler, registry.get? name = some handler ↔ InForce registrations name handler) ∧
    (∀ name handler, InForce registrations name handler → ∀ arguments line,
      session.RoutesTo host handler name arguments line) ∧
    [("cd" : Text), "echo", "exit", "pwd", "type"] ⊆ registry.names ∧
    (registry.names.map Text.codes).Pairwise (· < ·) ∧ registry.names.Nodup := by
  intro registry session
  have ascending : registry.Ascending :=
    Registry.ascending_after Registry.ascending_stock registrations
  refine ⟨fun name further arguments line => ?_, fun name further apart => ?_,
    fun _ _ => Registry.get?_after_iff, fun name handler inForce arguments line => ?_, ?_, ?_, ?_⟩
  · tfae_have 1 ↔ 2 := Option.isSome_iff_ne_none
    tfae_have 1 ↔ 3 := Session.isBuiltin_iff
    tfae_have 4 ↔ 1 := Session.callsBuiltin_iff further
    tfae_have 5 → 1
    | ⟨_, routes⟩ => Session.isBuiltin_of_routesTo routes
    tfae_have 2 → 5 := by
      intro known
      obtain ⟨handler, found⟩ := Option.ne_none_iff_exists'.mp known
      exact ⟨handler, Session.routesTo_of_found found arguments line⟩
    tfae_finish
  · exact (Session.writes_type_iff further apart).trans Session.isBuiltin_iff
  · exact Session.routesTo_of_found (Registry.get?_after_iff.mpr inForce) arguments line
  · exact Registry.names_subset_after Registry.stock registrations
  · exact List.pairwise_map.mpr (ascending.imp Text.codes_lt)
  · refine ascending.imp fun {name other} less => ?_
    rintro rfl
    exact List.lt_irrefl name less

/-- A stray byte comes before the characters whose codes are greater, though its octet is not less
than theirs. -/
example : (Registry.stock.register ["\uFFFD", [.stray 127], "echo"] .type).names =
    [("cd" : Text), "echo", "exit", "pwd", "type", [.stray 127], "\uFFFD"] := by decide

end PlainShell
