import Mathlib.Data.List.Basic
import PlainShell.Proofs.Octets
import PlainShell.Text.Uppercase

/-!
Capitals of capitals. The letters of the table and their capitals are apart: a run of capitals
either lies beside a run of letters or takes turns with it. So every capital is its own capital, and
a text that is put in capitals twice is the same as one put in capitals once.
-/

namespace PlainShell

namespace CapitalRun

def lastCapital (run : CapitalRun) : Nat := run.capital + (run.last - run.first)

/-- No capital of the run is a letter of the other one. Either they lie side by side, or both go by
twos and take turns; a single letter takes any step. -/
def misses (run other : CapitalRun) : Bool :=
  run.lastCapital.blt other.first || other.last.blt run.capital ||
    (other.step == 2 && (run.step == 2 || run.first == run.last) &&
      (run.capital + other.first) % 2 == 1)

variable {run : CapitalRun} {code : Nat} (held : run.holds code = true)
include held

theorem bounds_of_holds :
    run.first ≤ code ∧ code ≤ run.last ∧ (code - run.first) % run.step = 0 := by
  simpa [holds, and_assoc] using held

theorem capital_le_lastCapital : run.capital + (code - run.first) ≤ run.lastCapital := by
  obtain ⟨least, most, -⟩ := bounds_of_holds held
  unfold lastCapital
  omega

theorem not_holds_of_misses {other : CapitalRun} (apart : run.misses other = true) :
    other.holds (run.capital + (code - run.first)) = false := by
  obtain ⟨least, most, steps⟩ := bounds_of_holds held
  have most' := capital_le_lastCapital held
  rw [← Bool.not_eq_true]
  intro taken
  obtain ⟨above, below, turns⟩ := bounds_of_holds taken
  simp only [misses, Bool.or_eq_true, Bool.and_eq_true, Nat.blt_eq, beq_iff_eq] at apart
  rcases apart with (before | behind) | ⟨⟨even, own⟩, odd⟩
  · omega
  · omega
  · rw [even] at turns
    have offset : (code - run.first) % 2 = 0 := by
      rcases own with twos | single
      · rwa [twos] at steps
      · omega
    omega

end CapitalRun

theorem capitalRuns_miss : (capitalRuns.all fun run => capitalRuns.all run.misses) = true := by
  decide +kernel

theorem capitalRuns_beside_longCapitals :
    (capitalRuns.all fun run => longCapitals.all fun entry =>
      run.lastCapital.blt entry.1 || entry.1.blt run.capital) = true := by
  decide +kernel

/-- No surrogate is a capital. -/
theorem capitalRuns_valid : ∀ run ∈ capitalRuns, run.lastCapital < 0xD800 ∨
    0xDFFF < run.capital ∧ run.lastCapital < 0x110000 := by
  decide +kernel

theorem longCapitals_settled : ∀ entry ∈ longCapitals, ∀ capital ∈ entry.2,
    capitalCodes capital = [capital] ∧ capital.isValidChar := by
  decide +kernel

theorem capitalCodes_of_run {run : CapitalRun} {code : Nat} (listed : run ∈ capitalRuns)
    (held : run.holds code = true) :
    capitalCodes (run.capital + (code - run.first)) = [run.capital + (code - run.first)] := by
  have most := CapitalRun.capital_le_lastCapital held
  have short : longCapitals.lookup (run.capital + (code - run.first)) = none := by
    rw [List.lookup_eq_none_iff]
    intro entry member
    have beside := List.all_eq_true.mp
      (List.all_eq_true.mp capitalRuns_beside_longCapitals run listed) entry member
    simp only [Bool.or_eq_true, Nat.blt_eq] at beside
    rw [bne_iff_ne]
    omega
  have free : capitalRuns.find? (·.holds (run.capital + (code - run.first))) = none := by
    rw [List.find?_eq_none]
    intro other member
    have apart := List.all_eq_true.mp (List.all_eq_true.mp capitalRuns_miss run listed) other member
    rw [CapitalRun.not_holds_of_misses held apart]
    exact Bool.false_ne_true
  simp only [capitalCodes, short, free]

/-- A capital is its own capital, and a character if the letter is one. -/
theorem capitalCodes_settled {code capital : Nat} (valid : code.isValidChar)
    (member : capital ∈ capitalCodes code) :
    capitalCodes capital = [capital] ∧ capital.isValidChar := by
  cases long : longCapitals.lookup code with
  | some codes =>
    obtain ⟨before, later, split, -⟩ := List.lookup_eq_some_iff.mp long
    have listed : (code, codes) ∈ longCapitals := by
      rw [split]
      exact List.mem_append_cons_self
    simp only [capitalCodes, long] at member
    exact longCapitals_settled _ listed capital member
  | none =>
    cases found : capitalRuns.find? (·.holds code) with
    | some run =>
      have listed := List.mem_of_find?_eq_some found
      have held : run.holds code = true := by simpa using List.find?_some found
      simp only [capitalCodes, long, found, List.mem_singleton] at member
      have within := CapitalRun.capital_le_lastCapital held
      have range := capitalRuns_valid run listed
      rw [member]
      refine ⟨capitalCodes_of_run listed held, ?_⟩
      unfold Nat.isValidChar
      omega
    | none =>
      have own : capitalCodes code = [code] := by simp only [capitalCodes, long, found]
      rw [own, List.mem_singleton] at member
      rw [member]
      exact ⟨own, valid⟩

theorem Symbol.upper_upper (symbol : Symbol) : Text.upper symbol.upper = symbol.upper := by
  cases symbol with
  | stray low => rfl
  | char value =>
    have settled (capital : Nat) (member : capital ∈ capitalCodes value.toNat) :
        Symbol.upper (.char (Char.ofNat capital)) = [.char (Char.ofNat capital)] := by
      obtain ⟨own, valid⟩ := capitalCodes_settled value.valid member
      rw [Symbol.upper, Utf8.toNat_charOfNat valid, own]
      rfl
    calc
      _ = (capitalCodes value.toNat).flatMap fun capital =>
          Symbol.upper (.char (Char.ofNat capital)) := List.flatMap_map ..
      _ = (capitalCodes value.toNat).flatMap fun capital => [.char (Char.ofNat capital)] :=
        List.flatMap_congr settled
      _ = _ := List.map_eq_flatMap.symm

theorem Text.upper_upper (text : Text) : text.upper.upper = text.upper := by
  rw [Text.upper, Text.upper, List.flatMap_assoc]
  exact List.flatMap_congr fun symbol _ => symbol.upper_upper

end PlainShell
