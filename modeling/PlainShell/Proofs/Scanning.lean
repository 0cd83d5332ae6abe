import PlainShell.Proofs.Composition

/-!
What a path resolves to, told part by part. The parts between the slashes are scanned from the left:
an empty part and `.` are passed over, `..` takes away the last part that was kept, any other part
is kept. The root, and behind it what is kept in the end, are the result, so that two paths mean the
same exactly when these agree.
-/

namespace PlainShell

namespace Path

/-- The root that a text begins with. Exactly two slashes are a root of their own. -/
def rootOf (text : Text) : Text :=
  if ("//" : Text) <+: text ∧ ¬("///" : Text) <+: text then "//" else "/"

/-- The parts that are kept once one more part has been scanned. At the root there is nothing for
`..` to take away. -/
def keep (kept : List Text) (part : Text) : List Text :=
  if part = [] ∨ part = "." then kept
  else if part = ".." then kept.dropLast
  else kept ++ [part]

/-- The parts of a text that are kept in the end. -/
def scan (text : Text) : List Text := (text.splitOn slash).foldl keep []

/-- The text that is scanned: the path as seen from the base, or the base itself for the empty path.
-/
def aim (base path : Text) : Text := if path = [] then base else join base path

/-- The normal form of a text that begins at a root. -/
def normalForm (text : Text) : Text := rootOf text ++ Text.joined [slash] (scan text)

/-! Scanning keeps what walking leaves. -/

theorem keep_of_idle {part : Text} (idle : ¬(part ≠ [] ∧ part ≠ ".")) (kept : List Text) :
    keep kept part = kept := by
  rw [keep, if_pos]
  by_cases empty : part = []
  · exact Or.inl empty
  · exact Or.inr (by_contra fun moving => idle ⟨empty, moving⟩)

/-- A step of the scan is a step of the walk, whose parts stand the other way round. -/
theorem keep_reverse {taken : List Text} (plain : ∀ last ∈ taken, IsPlain last) {part : Text}
    (leads : part ≠ [] ∧ part ≠ ".") :
    keep taken.reverse part = (walk true taken part).reverse := by
  have moves : ¬(part = [] ∨ part = ".") := not_or.mpr leads
  rw [keep, if_neg moves]
  by_cases back : part = ".."
  · rw [if_pos back, back]
    cases taken with
    | nil => rfl
    | cons last earlier =>
      have onward : last ≠ ".." := (plain last (List.mem_cons_self ..)).onward
      have shorter : walk true (last :: earlier) ".." = earlier := by simp [walk, onward]
      rw [shorter, List.reverse_cons, List.dropLast_concat]
  · have longer : walk true taken part = part :: taken := if_neg back
    rw [if_neg back, longer, List.reverse_cons]

theorem foldl_keep {parts taken : List Text} (plain : ∀ last ∈ taken, IsPlain last)
    (free : ∀ part ∈ parts, slash ∉ part) :
    parts.foldl keep taken.reverse =
      ((parts.filter fun part => part ≠ [] ∧ part ≠ ".").foldl (walk true) taken).reverse := by
  induction parts generalizing taken with
  | nil => rfl
  | cons part rest ih =>
    obtain ⟨here, further⟩ := List.forall_mem_cons.mp free
    rw [List.foldl_cons]
    by_cases leads : part ≠ [] ∧ part ≠ "."
    · rw [keep_reverse plain leads, List.filter_cons_of_pos (by simpa using leads)]
      exact ih (walk_plain plain ⟨leads.1, leads.2, here⟩) further
    · rw [keep_of_idle leads, List.filter_cons_of_neg (by simpa using leads)]
      exact ih plain further

theorem scan_eq_follow (text : Text) : scan text = follow true (steps text) := by
  have none : ∀ last ∈ ([] : List Text), IsPlain last := by simp
  exact foldl_keep none fun part => Text.not_mem_of_mem_splitOn

example : scan "/srv/./a//../../b/" = ["b"] := by decide

/-! Roots. -/

theorem rootOf_eq {text : Text} (absolute : isAbsolute text = true) :
    rootOf text = (anchorOf text).text := by
  have two : ("//" : Text) = [slash, slash] := rfl
  have three : ("///" : Text) = [slash, slash, slash] := rfl
  obtain ⟨rest, rfl⟩ := isAbsolute_iff.mp absolute
  rw [rootOf, two, three]
  cases rest with
  | nil => rfl
  | cons second more =>
    by_cases twin : second = slash
    · subst twin
      cases more with
      | nil => rfl
      | cons third later =>
        by_cases triple : third = slash
        · simp [anchorOf, triple, Anchor.text]
        · simp [anchorOf, triple, Anchor.text, two, eq_comm]
    · simp [anchorOf, twin, Anchor.text, eq_comm]

section Absolute

variable {text : Text} (absolute : isAbsolute text = true)
include absolute

theorem clean_eq_normalForm : clean text = normalForm text := by
  rw [clean_of_absolute absolute, normalForm, rootOf_eq absolute, scan_eq_follow]

/-- A normal form tells its root and its parts. -/
theorem normalForm_eq_iff {other : Text} (rooted : isAbsolute other = true) :
    normalForm other = normalForm text ↔ rootOf other = rootOf text ∧ scan other = scan text := by
  constructor
  · intro same
    have path : ofText other = ofText text := by
      rw [← ofText_clean rooted, ← ofText_clean absolute, clean_eq_normalForm rooted,
        clean_eq_normalForm absolute, same]
    refine ⟨?_, ?_⟩
    · rw [rootOf_eq rooted, rootOf_eq absolute]
      exact congrArg (fun clean : Path => clean.anchor.text) path
    · rw [scan_eq_follow, scan_eq_follow, ← parts_ofText rooted, ← parts_ofText absolute, path]
  · rintro ⟨root, parts⟩
    rw [normalForm, root, parts, normalForm]

end Absolute

section Aim

variable {base : Text} (absolute : isAbsolute base = true) (path : Text)
include absolute

theorem isAbsolute_aim : isAbsolute (aim base path) = true := by
  rw [aim]
  split
  · exact absolute
  · exact isAbsolute_join absolute path

theorem resolve_eq_normalForm : resolve (some base) path = some (normalForm (aim base path)) := by
  rw [← clean_eq_normalForm (isAbsolute_aim absolute path), aim, resolve]
  by_cases empty : path = []
  · simp only [if_pos empty, absolute, if_true]
  · simp only [if_neg empty]
    cases rooted : isAbsolute path with
    | true => rw [join_of_absolute rooted]; rfl
    | false => rfl

end Aim

end Path

namespace Session

theorem resolve_eq_ok_iff {session : Session} {path target : Text} :
    session.resolve path = .ok target ↔ Path.resolve session.directory path = some target := by
  rw [resolve]
  cases Path.resolve session.directory path <;> simp

/-- A path resolves to the normal form of what it is seen as from the directory. That form stands
for itself everywhere, and tells apart the paths whose roots or parts differ. Without a known
directory an absolute path resolves as it does in any, and no other path resolves. -/
theorem resolve_computes_normal_form (session : Session) {base : Text}
    (absolute : Path.isAbsolute base = true) (path : Text) :
    let aim := Path.aim base path
    let target := Path.rootOf aim ++ Text.joined [Path.slash] (Path.scan aim)
    let lost : Session := { session with directory := none }
    (session.moveTo base).resolve path = .ok target ∧
    (Path.isAbsolute target = true ∧ Path.IsNormal target ∧
      (target.getLast? = some Path.slash → target = "/" ∨ target = "//") ∧
      ∀ other : Session, other.resolve target = .ok target) ∧
    (∀ other further, Path.isAbsolute other = true →
      ((session.moveTo other).resolve further = (session.moveTo base).resolve path ↔
        Path.rootOf (Path.aim other further) = Path.rootOf aim ∧
          Path.scan (Path.aim other further) = Path.scan aim)) ∧
    (Path.isAbsolute path = true → ∀ known : Text,
      lost.resolve path = (session.moveTo known).resolve path) ∧
    (Path.isAbsolute path = false → lost.resolve path = .error (.directoryUnknown none)) := by
  intro aim target lost
  have resolves {here : Text} (rooted : Path.isAbsolute here = true) (further : Text) :
      (session.moveTo here).resolve further = .ok (Path.normalForm (Path.aim here further)) :=
    resolve_eq_ok_iff.mpr (Path.resolve_eq_normalForm rooted further)
  have rooted : Path.isAbsolute aim = true := Path.isAbsolute_aim absolute path
  have normal : Path.IsNormal target := by
    have clean := Path.isNormal_clean rooted
    rwa [Path.clean_eq_normalForm rooted] at clean
  refine ⟨resolves absolute path, ⟨normal.absolute, normal, normal.eq_root_of_getLast?, ?_⟩, ?_, ?_,
    ?_⟩
  · intro other
    exact resolve_eq_ok_iff.mpr (normal.resolve_eq other.directory)
  · intro other further elsewhere
    rw [resolves elsewhere, resolves absolute, Except.ok.injEq]
    exact Path.normalForm_eq_iff rooted (Path.isAbsolute_aim elsewhere further)
  · intro there known
    have whole (session : Session) : session.resolve path = .ok (Path.clean path) :=
      resolve_eq_ok_iff.mpr (Path.resolve_of_absolute there session.directory)
    rw [whole, whole]
  · intro relative
    have nowhere : Path.resolve lost.directory path = none := Path.resolve_none relative
    rw [resolve, nowhere]

/-- From a directory with three slashes in front, up past the root and to a place that another path
means as well. -/
theorem resolve_computes_normal_form_at_srv :
    let session : Session := ⟨none, [], Registry.stock⟩
    let resolved := (session.moveTo "///srv/x/").resolve "../../../a/./b//.."
    Path.isAbsolute "///srv/x/" = true ∧ Path.isAbsolute "/srv" = true ∧
      resolved = .ok "/a" ∧ session.resolve "/a" = .ok "/a" ∧
      (session.moveTo "/srv").resolve "./../a/" = resolved ∧
      session.resolve "/a/" = (session.moveTo "x").resolve "/a/" ∧
      session.resolve "a" = .error (.directoryUnknown none) := by
  intro session resolved
  have absolute : Path.isAbsolute "///srv/x/" = true := by decide
  have other : Path.isAbsolute "/srv" = true := by decide
  have value : Path.rootOf (Path.aim "///srv/x/" "../../../a/./b//..") ++ Text.joined [Path.slash]
      (Path.scan (Path.aim "///srv/x/" "../../../a/./b//..")) = "/a" := by decide
  obtain ⟨reached, ⟨-, -, -, fixed⟩, same, -, -⟩ :=
    resolve_computes_normal_form session absolute "../../../a/./b//.."
  obtain ⟨-, -, -, anywhere, -⟩ := resolve_computes_normal_form session absolute "/a/"
  obtain ⟨-, -, -, -, nowhere⟩ := resolve_computes_normal_form session absolute "a"
  rw [value] at reached fixed
  exact ⟨absolute, other, reached, fixed session,
    (same "/srv" "./../a/" other).mpr ⟨by decide, by decide⟩, anywhere (by decide) "x",
    nowhere (by decide)⟩

end Session

end PlainShell
