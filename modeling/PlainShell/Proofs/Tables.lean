import PlainShell.Table

/-!
Tables as functions of their names. An insertion changes the value of one name and of no other, and
it keeps the names in strictly ascending order. The order is that of the code points, in which stray
bytes have places of their own, so that two different names are never left without an order.
-/

namespace PlainShell

/-! The order of the code points. -/

namespace Symbol

/-- No character has the code of a stray byte. -/
theorem code_char_ne_stray (value : Char) (low : Fin 128) :
    (Symbol.char value).code ≠ (Symbol.stray low).code := by
  intro same
  have bound := low.isLt
  have code : value.toNat = 0xDC80 + low.val := same
  rcases value.valid with below | ⟨above, -⟩
  · have small : value.toNat < 0xD800 := below
    omega
  · have large : 0xDFFF < value.toNat := above
    omega

theorem code_injective {first second : Symbol} (same : first.code = second.code) :
    first = second := by
  cases first with
  | char value =>
    cases second with
    | char other => exact congrArg char (Char.toNat_inj.mp same)
    | stray low => exact absurd same (code_char_ne_stray value low)
  | stray low =>
    cases second with
    | char value => exact absurd same.symm (code_char_ne_stray value low)
    | stray other =>
      have shifted : 0xDC80 + low.val = 0xDC80 + other.val := same
      exact congrArg stray (Fin.ext (by omega))

instance : Std.Asymm (α := Symbol) (· < ·) := ⟨fun _ _ => Nat.lt_asymm⟩

instance : Trans (α := Symbol) (· < ·) (· < ·) (· < ·) := ⟨Nat.lt_trans⟩

instance : Std.Trichotomous (α := Symbol) (· < ·) where
  trichotomous _ _ notBefore notAfter :=
    code_injective (Nat.le_antisymm (Nat.not_lt.mp notAfter) (Nat.not_lt.mp notBefore))

end Symbol

namespace Text

/-- The code points of the text. -/
def codes (text : Text) : List Nat := text.map Symbol.code

theorem codes_lt {first second : Text} (less : first < second) : first.codes < second.codes :=
  List.map_lt (fun _ _ => id) less

theorem lt_of_not_lt {first second : Text} (differ : first ≠ second) (other : ¬first < second) :
    second < first := by
  by_cases behind : second < first
  · exact behind
  · exact absurd (List.le_antisymm (List.not_lt.mp behind) (List.not_lt.mp other)) differ

end Text

namespace Table

variable {α : Type}

/-! Values. -/

theorem get?_cons (entry : Text × α) (rest : Table α) (name : Text) :
    get? (entry :: rest) name = if name = entry.1 then some entry.2 else rest.get? name := by
  rw [get?, List.lookup_cons]
  by_cases same : name = entry.1
  · simp [same]
  · have past : (name == entry.1) = false := by simpa using same
    simp [past, same, get?]

theorem get?_insert (table : Table α) (name : Text) (value : α) :
    (table.insert name value).get? name = some value := by
  induction table with
  | nil => rw [insert, get?_cons, if_pos rfl]
  | cons entry rest ih =>
    rw [insert]
    split
    · rw [get?_cons, if_pos rfl]
    · next differ =>
      split
      · rw [get?_cons, if_pos rfl]
      · rw [get?_cons, if_neg differ, ih]

theorem get?_insert_of_ne (table : Table α) {name other : Text} (differ : other ≠ name)
    (value : α) : (table.insert name value).get? other = table.get? other := by
  induction table with
  | nil => rw [insert, get?_cons, if_neg differ]
  | cons entry rest ih =>
    rw [insert]
    split
    · next same => rw [get?_cons, get?_cons, ← same, if_neg differ, if_neg differ]
    · split
      · rw [get?_cons, if_neg differ]
      · rw [get?_cons, get?_cons, ih]

theorem get?_eq_none_iff {table : Table α} {name : Text} :
    table.get? name = none ↔ name ∉ table.names := by
  simp only [get?, names, List.lookup_eq_none_iff, List.mem_map, not_exists, not_and]
  constructor
  · intro absent entry member same
    simpa [same] using absent entry member
  · intro absent entry member
    simpa using fun same => absent entry member (Eq.symm same)

/-! Names. -/

/-- The names go up strictly. -/
def Ascending (table : Table α) : Prop := table.names.Pairwise (· < ·)

theorem mem_names_insert {table : Table α} {name other : Text} {value : α}
    (member : other ∈ (table.insert name value).names) : other = name ∨ other ∈ table.names := by
  by_cases same : other = name
  · exact Or.inl same
  · refine Or.inr (Decidable.byContradiction fun absent => ?_)
    rw [← get?_eq_none_iff, ← get?_insert_of_ne table same value, get?_eq_none_iff] at absent
    exact absent member

theorem Ascending.insert {table : Table α} (ascending : table.Ascending) (name : Text)
    (value : α) : (table.insert name value).Ascending := by
  induction table with
  | nil => exact List.pairwise_singleton _ _
  | cons entry rest ih =>
    obtain ⟨first, later⟩ := List.pairwise_cons.mp ascending
    rw [Table.insert]
    split
    · next same => exact List.pairwise_cons.mpr ⟨same ▸ first, later⟩
    · next differ =>
      split
      · next before =>
        refine List.pairwise_cons.mpr ⟨List.forall_mem_cons.mpr ⟨before, ?_⟩, ascending⟩
        exact fun other member => List.lt_trans before (first other member)
      · next notBefore =>
        refine List.pairwise_cons.mpr ⟨fun other member => ?_, ih later⟩
        rcases mem_names_insert member with rfl | earlier
        · exact Text.lt_of_not_lt differ notBefore
        · exact first other earlier

end Table

end PlainShell
