import PlainShell.Proofs.DirectoryHistory
import PlainShell.Proofs.RelativeForm

/-!
Directory steps in a row. Joining paths is associative, and cleaning the first of them makes no
difference to the clean form of the whole. So one path taken after another leads where the two lead
when they are joined, and changes of directory that succeed one after another make one change that
succeeds.
-/

namespace PlainShell

namespace Path

/-! Joining. -/

/-- What a relative path is put behind: the base, with a slash at its end unless it is empty. -/
def lead (base : Text) : Text :=
  if base = [] ∨ base.getLast? = some slash then base else base ++ [slash]

theorem join_of_relative {path : Text} (relative : isAbsolute path = false) (base : Text) :
    join base path = lead base ++ path := by
  rw [join, if_neg (by simp [relative]), lead]
  split <;> rfl

theorem lead_lead (base : Text) : lead (lead base) = lead base := by
  by_cases ready : base = [] ∨ base.getLast? = some slash
  · have same : lead base = base := if_pos ready
    rw [same, same]
  · have longer : lead base = base ++ [slash] := if_neg ready
    rw [longer]
    exact if_pos (Or.inr List.getLast?_concat)

/-- The end alone tells whether a slash is put there. -/
theorem lead_append (front : Text) {path : Text} (filled : path ≠ []) :
    lead (front ++ path) = front ++ lead path := by
  have last : (front ++ path).getLast? = path.getLast? := List.getLast?_append_of_ne_nil _ filled
  simp only [lead, last, filled, List.append_eq_nil_iff, and_false, false_or]
  split
  · rfl
  · exact List.append_assoc ..

theorem isAbsolute_lead_append {first second : Text} (here : isAbsolute first = false)
    (there : isAbsolute second = false) : isAbsolute (lead first ++ second) = false := by
  cases first with
  | nil => exact there
  | cons symbol rest =>
    rw [lead]
    split <;> exact here

theorem join_assoc (base first second : Text) :
    join (join base first) second = join base (join first second) := by
  cases later : isAbsolute second with
  | true => rw [join_of_absolute later, join_of_absolute later, join_of_absolute later]
  | false =>
    cases early : isAbsolute first with
    | true => rw [join_of_absolute early, join_of_absolute (isAbsolute_join early second)]
    | false =>
      rw [join_of_relative early, join_of_relative later, join_of_relative later,
        join_of_relative (isAbsolute_lead_append early later), ← List.append_assoc]
      congr 1
      cases first with
      | nil => rw [List.append_nil, lead_lead]; exact (List.append_nil _).symm
      | cons symbol rest => exact lead_append _ (List.cons_ne_nil symbol rest)

/-! Cleaning in between. -/

theorem follow_append_congr {rooted : Bool} {first second : List Text}
    (same : follow rooted first = follow rooted second) (later : List Text) :
    follow rooted (first ++ later) = follow rooted (second ++ later) := by
  have reached : first.foldl (walk rooted) [] = second.foldl (walk rooted) [] :=
    List.reverse_injective same
  simp only [follow, List.foldl_append, reached]

section Base

variable {base : Text} (absolute : isAbsolute base = true)
include absolute

theorem clean_join {path : Text} (relative : isAbsolute path = false) :
    clean (join base path) =
      (anchorOf base).text ++ Text.joined [slash] (follow true (steps base ++ steps path)) := by
  rw [clean_of_absolute (isAbsolute_join absolute path), steps_join relative,
    anchorOf_join_of_filled relative (filled_of_absolute absolute)]

/-- A path may be joined to the clean form of a base. -/
theorem clean_join_clean (path : Text) :
    clean (join (clean base) path) = clean (join base path) := by
  cases relative : isAbsolute path with
  | true => rw [join_of_absolute relative, join_of_absolute relative]
  | false =>
    have rooted : isAbsolute (clean base) = true := (isNormal_clean absolute).absolute
    have same : ofText (clean base) = ofText base := ofText_clean absolute
    have anchor : anchorOf (clean base) = anchorOf base := congrArg Path.anchor same
    have way : follow true (steps (clean base)) = follow true (steps base) := by
      rw [← parts_ofText rooted, same, parts_ofText absolute]
    calc clean (join (clean base) path)
        = (anchorOf (clean base)).text ++
            Text.joined [slash] (follow true (steps (clean base) ++ steps path)) :=
          clean_join rooted relative
      _ = (anchorOf base).text ++ Text.joined [slash] (follow true (steps base ++ steps path)) := by
          rw [anchor, follow_append_congr way]
      _ = clean (join base path) := (clean_join absolute relative).symm

/-- In an absolute directory every path means the clean form of the two joined. -/
theorem resolve_eq_clean_join (path : Text) :
    resolve (some base) path = some (clean (join base path)) := by
  by_cases empty : path = []
  · subst empty
    have here : isAbsolute [] = false := rfl
    simp only [resolve, if_pos, absolute]
    rw [clean_join absolute here, steps_nil, List.append_nil, ← clean_of_absolute absolute]
  · simp only [resolve, if_neg empty]
    cases rooted : isAbsolute path with
    | true => rw [join_of_absolute rooted]; rfl
    | false => rfl

end Base

/-- A path after another one means what the two mean when they are joined. -/
theorem resolve_join {directory : Option Text} (placed : AbsoluteIfKnown directory)
    {first middle : Text}
    (reached : resolve directory first = some middle) (second : Text) :
    resolve directory (join first second) = resolve (some middle) second := by
  cases directory with
  | some base =>
    have absolute : isAbsolute base = true := placed base rfl
    have joined : isAbsolute (join base first) = true := isAbsolute_join absolute first
    have clear : isAbsolute (clean (join base first)) = true := (isNormal_clean joined).absolute
    rw [resolve_eq_clean_join absolute] at reached
    obtain rfl := Option.some.inj reached
    calc resolve (some base) (join first second)
        = some (clean (join base (join first second))) := resolve_eq_clean_join absolute _
      _ = some (clean (join (join base first) second)) := by rw [join_assoc]
      _ = some (clean (join (clean (join base first)) second)) := by rw [clean_join_clean joined]
      _ = resolve (some (clean (join base first))) second := (resolve_eq_clean_join clear _).symm
  | none =>
    -- Nothing but an absolute path can be reached from nowhere.
    cases absolute : isAbsolute first with
    | false => rw [resolve_none absolute] at reached; simp at reached
    | true =>
      have clear : isAbsolute (clean first) = true := (isNormal_clean absolute).absolute
      rw [resolve_of_absolute absolute] at reached
      obtain rfl := Option.some.inj reached
      calc resolve none (join first second)
          = some (clean (join first second)) :=
            resolve_of_absolute (isAbsolute_join absolute second) none
        _ = some (clean (join (clean first) second)) := by rw [clean_join_clean absolute]
        _ = resolve (some (clean first)) second := (resolve_eq_clean_join clear _).symm

end Path

namespace Session

variable {host : Host}

/-- Two changes that succeed, one after the other, are one. -/
theorem destination_join {session : Session} (placed : AbsoluteIfKnown session.directory)
    {first second middle last : Text} (there : session.destination host first = .ok middle)
    (further : (session.moveTo middle).destination host second = .ok last) :
    session.destination host (Path.join first second) = .ok last := by
  obtain ⟨reached, -⟩ := destination_eq_ok_iff.mp there
  obtain ⟨onward, enterable⟩ := destination_eq_ok_iff.mp further
  rw [destination_eq_ok_iff, Path.resolve_join placed reached]
  exact ⟨onward, enterable⟩

/-- The paths lead from one session to another, each by a change of directory that succeeds. -/
inductive Leads (host : Host) : Session → List Text → Session → Prop where
  | stay (session : Session) : Leads host session [] session
  | step {session last : Session} {path directory : Text} {paths : List Text}
    (entered : session.destination host path = .ok directory)
    (onward : Leads host (session.moveTo directory) paths last) :
    Leads host session (path :: paths) last

/-- However many changes succeed in a row, the paths joined make one change that does the same. -/
theorem Leads.at_once {session last : Session} (placed : AbsoluteIfKnown session.directory)
    {path : Text}
    {paths : List Text} (leads : Leads host session (path :: paths) last) :
    ∃ directory, session.destination host (paths.foldl Path.join path) = .ok directory ∧
      last = session.moveTo directory := by
  induction paths generalizing path with
  | nil =>
    cases leads with
    | step entered onward =>
      cases onward with
      | stay => exact ⟨_, entered, rfl⟩
  | cons next later ih =>
    cases leads with
    | step entered onward =>
      cases onward with
      | step further rest =>
        -- The first two steps as one, which leaves the session that the second one left.
        exact ih (.step (destination_join placed entered further) rest)

end Session

theorem Operation.left_of_ok {host : Host} {session : Session} {path directory : Text}
    (reached : session.destination host path = .ok directory) :
    (Operation.changeDirectory path).left host session = session.moveTo directory := by
  simp only [left, reached]

/-- Directory steps compose. In an absolute directory two paths, one after the other, mean what they
mean as one path. If two changes of directory succeed, from such a directory or from an unknown one,
then the one change succeeds too, and leaves the same session. -/
theorem directory_steps_compose {base : Text} (absolute : Path.isAbsolute base = true)
    (first second : Text) :
    (∃ middle last, Path.resolve (some base) first = some middle ∧
      Path.resolve (some middle) second = some last ∧
      Path.resolve (some base) (Path.join first second) = some last) ∧
    ∀ (host : Host) (session : Session) (middle last : Text),
      session.directory = some base ∨ session.directory = none →
      session.destination host first = .ok middle →
      (session.moveTo middle).destination host second = .ok last →
        session.destination host (Path.join first second) = .ok last ∧
        (Operation.changeDirectory (Path.join first second)).left host session =
          (Operation.changeDirectory second).left host
            ((Operation.changeDirectory first).left host session) := by
  have placed : AbsoluteIfKnown (some base) := by
    rintro known ⟨⟩
    exact absolute
  refine ⟨?_, ?_⟩
  · have reached := Path.resolve_eq_clean_join absolute first
    have middle := (Path.isNormal_clean (Path.isAbsolute_join absolute first)).absolute
    have onward := Path.resolve_eq_clean_join middle second
    exact ⟨_, _, reached, onward, (Path.resolve_join placed reached second).trans onward⟩
  · intro host session middle last command there further
    have here : AbsoluteIfKnown session.directory := by
      rcases command with known | unknown
      · rw [known]
        exact placed
      · rw [unknown]
        simp [AbsoluteIfKnown]
    have whole := Session.destination_join here there further
    rw [Operation.left_of_ok whole, Operation.left_of_ok there, Operation.left_of_ok further]
    exact ⟨whole, rfl⟩

/-- From a directory that is not clean, up and down again across the seam. -/
theorem directory_steps_compose_at_srv :
    let host := ((Host.empty none).add "/srv/a" (.directory true)).add "/srv/b"
      (.directory true)
    let session : Session := ⟨some ("//srv/./x/.." : Text), [], Registry.stock⟩
    Path.isAbsolute "//srv/./x/.." = true ∧
      Path.resolve session.directory "a/../a//../b" = some ("//srv/b" : Text) ∧
      session.destination host "a/../a//" = .ok "//srv/a" ∧
      (session.moveTo "//srv/a").destination host "../b" = .ok "//srv/b" ∧
      session.destination host "a/../a//../b" = .ok "//srv/b" := by
  intro host session
  have absolute : Path.isAbsolute "//srv/./x/.." = true := by decide
  have there : session.destination host "a/../a//" = .ok "//srv/a" := by rfl
  have further : (session.moveTo "//srv/a").destination host "../b" = .ok "//srv/b" := by rfl
  have joined : Path.join "a/../a//" "../b" = "a/../a//../b" := by decide
  obtain ⟨⟨middle, last, reached, onward, whole⟩, moves⟩ :=
    directory_steps_compose absolute "a/../a//" "../b"
  rw [joined] at whole moves
  obtain rfl : middle = "//srv/a" :=
    Option.some.inj (reached.symm.trans (Session.destination_eq_ok_iff.mp there).1)
  obtain rfl : last = "//srv/b" :=
    Option.some.inj (onward.symm.trans (Session.destination_eq_ok_iff.mp further).1)
  exact ⟨absolute, whole, there, further, (moves host session _ _ (Or.inl rfl) there further).1⟩

end PlainShell
