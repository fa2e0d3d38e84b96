import Narrative.Proofs.Script.Parsing
import Narrative.Proofs.Script.Rebinding
import Narrative.Proofs.Script.Spelling
import Narrative.Proofs.Values

/-!
# What a script does not name

The identifiers of a script are the names among its tokens, those in inserted values as well. Main fact:
a variable whose name is borne by no other and is no identifier of the script comes out as it went in,
whatever becomes of the others; and when a script fails, everything does.
-/

namespace Narrative

set_option autoImplicit false

namespace Store

theorem find_of_only {name : String} {store : Store} {known : Variable} (member : known ∈ store)
    (named : known.name = name) (only : ∀ other ∈ store, other.name = name → other = known) :
    find? name store = some known := by
  induction store with
  | nil => cases member
  | cons first rest induction =>
      rw [find?]
      split
      · rename_i here
        rw [only first List.mem_cons_self here]
      · rename_i elsewhere
        rcases List.mem_cons.mp member with rfl | later
        · exact absurd named elsewhere
        · exact induction later fun other among => only other (List.mem_cons_of_mem first among)

end Store

namespace Script

/-- The identifiers of a script; a text without tokens has none. -/
def identifiers (limits : Limits) (code : List Char) : List String :=
  ((tokens? limits.bytes (normalize code)).getD []).filterMap Token.name?

theorem identifiers_stand_in {limits : Limits} {code : List Char} {name : String}
    (member : name ∈ identifiers limits code) : name.toList <:+: code := by
  unfold identifiers at member
  cases read : tokens? limits.bytes (normalize code) with
  | none => simp [read] at member
  | some tokens =>
      rw [read, Option.getD_some] at member
      obtain ⟨token, among, named⟩ := List.mem_filterMap.mp member
      cases token <;> cases named
      exact names_stand_in read among

/-- Signals with which a script is over. -/
def Signal.ends : Signal → Bool
  | .giving _ => true
  | .finishing => true
  | _ => false

/-- How the statements of a script come to an end on a store. -/
def outcome (limits : Limits) (program : Program) (store : Store) : Outcome Datum :=
  executeAll (depthFor limits) ⟨limits, program.functions, 0, (scopeOf store).length⟩ program.body
    ⟨scopeOf store, 0⟩

/-- A script fails before it runs, or it stops where it is not over: something was thrown, a bound was
exceeded, or a loop was left where there is none. -/
inductive Fails (limits : Limits) (code : List Char) (store : Store) : Prop where
  | unreadable (failed : tokens? limits.bytes (normalize code) = none)
  | malformed {tokens : List Token} (read : tokens? limits.bytes (normalize code) = some tokens)
      (failed : program? tokens = none)
  | unknown {tokens : List Token} {program : Program}
      (read : tokens? limits.bytes (normalize code) = some tokens)
      (formed : program? tokens = some program)
      (failed : program.isKnown (store.map Variable.name) = false)
  | stopped {program : Program} {signal : Signal} {machine : Machine}
      (compiled : compile? limits store code = some program)
      (failed : outcome limits program store = .stopped signal machine) (early : signal.ends = false)

/-- A script ran to its end and left variables behind. -/
def Leaves (limits : Limits) (code : List Char) (store : Store) (scope : Scope) : Prop :=
  ∃ program, compile? limits store code = some program ∧
    execution? limits program (scopeOf store) = some scope

theorem compile_of_failure {limits : Limits} {code : List Char} {store : Store}
    (failed : compile? limits store code = none) : Fails limits code store := by
  unfold compile? at failed
  cases read : tokens? limits.bytes (normalize code) with
  | none => exact .unreadable read
  | some tokens =>
      cases formed : program? tokens with
      | none => exact .malformed read formed
      | some program =>
          apply Fails.unknown read formed
          simpa [read, formed] using failed

theorem fails_of_stopped {limits : Limits} {code : List Char} {store : Store} {program : Program}
    (compiled : compile? limits store code = some program)
    (failed : execution? limits program (scopeOf store) = none) : Fails limits code store := by
  unfold execution? at failed
  dsimp only at failed
  cases ended : outcome limits program store with
  | done value machine =>
      rw [outcome] at ended
      rw [ended] at failed
      cases failed
  | stopped signal machine =>
      apply Fails.stopped compiled ended
      rw [outcome] at ended
      rw [ended] at failed
      cases signal <;> first | rfl | cases failed

theorem fails_of_no_end {limits : Limits} {code : List Char} {store : Store}
    (failed : ((compile? limits store code).bind fun program =>
      execution? limits program (scopeOf store)).isNone = true) : Fails limits code store := by
  cases compiled : compile? limits store code with
  | none => exact compile_of_failure compiled
  | some program =>
      rw [compiled] at failed
      exact fails_of_stopped compiled (Option.isNone_iff_eq_none.mp failed)

theorem fails_or_leaves (limits : Limits) (code : List Char) (store : Store) :
    Fails limits code store ∨ ∃ scope, Leaves limits code store scope := by
  cases ended : (compile? limits store code).bind fun program =>
      execution? limits program (scopeOf store) with
  | none => exact .inl (fails_of_no_end (by rw [ended]; rfl))
  | some scope =>
      obtain ⟨program, compiled, left⟩ := Option.bind_eq_some_iff.mp ended
      exact .inr ⟨scope, program, compiled, left⟩

theorem not_leaves_of_fails {limits : Limits} {code : List Char} {store : Store} {scope : Scope}
    (fails : Fails limits code store) : ¬Leaves limits code store scope := by
  rintro ⟨program, compiled, ended⟩
  cases fails with
  | unreadable failed => simp [compile?, failed] at compiled
  | malformed read failed => simp [compile?, read, failed] at compiled
  | unknown read formed failed => simp [compile?, read, formed, failed] at compiled
  | stopped again failed early =>
      obtain rfl := Option.some.inj (again.symm.trans compiled)
      rw [outcome] at failed
      simp only [execution?, failed] at ended
      split at ended <;> simp_all [Signal.ends]

/-- A script that fails changes nothing, however far it came. -/
theorem unchanged_of_fails {limits : Limits} {code : List Char} {store : Store}
    (fails : Fails limits code store) :
    changes limits code store = store.map (fun _ => none) ∧ run limits code store = store := by
  rcases changes_end limits code store with unchanged | ⟨program, scope, compiled, ended, -⟩
  · exact ⟨unchanged, (run_of_changes unchanged).trans (List.map_id store)⟩
  · exact absurd ⟨program, compiled, ended⟩ (not_leaves_of_fails fails)

theorem silent_of_unnamed {limits : Limits} {code : List Char} {store : Store} {name : String}
    {program : Program} (unnamed : name ∉ identifiers limits code)
    (compiled : compile? limits store code = some program) : program.writes name = false := by
  unfold compile? at compiled
  cases read : tokens? limits.bytes (normalize code) with
  | none => simp [read] at compiled
  | some tokens =>
      cases formed : program? tokens with
      | none => simp [read, formed] at compiled
      | some whole =>
          have foreign : name ∉ tokens.filterMap Token.name? := by
            simpa [identifiers, read] using unnamed
          have reduced : whole.reduced = program := by
            simp [read, formed] at compiled
            exact compiled.2
          rw [← reduced]
          exact Program.reduced_silent (program_avoids_foreign formed foreign)

/-- The only variable with a name that a script leaves alone takes nothing. -/
theorem taken_of_spared {store : Store} {known : Variable} {scope : Scope} (member : known ∈ store)
    (only : ∀ other ∈ store, other.name = known.name → other = known)
    (spared : Scope.Spared known.name (scopeOf store) scope) : taken? scope known = none := by
  have latest : store.last? known.name = some known := by
    apply Store.find_of_only (List.mem_reverse.mpr member) rfl
    exact fun other among => only other (List.mem_reverse.mp among)
  have seen : scope.find? known.name = some (bindingOf known) := by
    rw [spared.find_eq, scope_of_find, latest]
    rfl
  exact taken_of_same seen (Value.same_self known.value.toValue)

/-- Scripts change what they name. A variable that alone bears its name keeps its value and is reported
as unchanged by every script without that identifier; a script that fails changes nothing; and one that
does not fail runs to its end. Identifiers stand in the script as it is written. -/
theorem scripts_change_what_they_name (limits : Limits) (code : List Char) (store : Store) :
    (∀ (index : Nat) (known : Variable), store[index]? = some known →
      (∀ (other : Nat) (twin : Variable), store[other]? = some twin → twin.name = known.name →
        other = index) →
      known.name ∉ identifiers limits code →
      (changes limits code store)[index]? = some none ∧
        (run limits code store)[index]? = some known) ∧
    (Fails limits code store →
      changes limits code store = store.map (fun _ => none) ∧ run limits code store = store) ∧
    (Fails limits code store ∨ ∃ scope, Leaves limits code store scope) ∧
    ∀ name ∈ identifiers limits code, name.toList <:+: code := by
  refine ⟨?unnamed, unchanged_of_fails, fails_or_leaves limits code store, fun _ => identifiers_stand_in⟩
  intro index known here alone unnamed
  have only : ∀ other ∈ store, other.name = known.name → other = known := by
    intro other member named
    obtain ⟨place, there⟩ := List.mem_iff_getElem?.mp member
    rw [alone place other there named, here] at there
    exact (Option.some.inj there).symm
  -- Whether nothing is taken over or what the script left behind, it is nothing for this variable.
  obtain ⟨taken, changed, nothing⟩ : ∃ taken : Variable → Option Stored,
      changes limits code store = store.map taken ∧ taken known = none := by
    rcases changes_end limits code store with unchanged | ⟨program, scope, compiled, ended, changed⟩
    · exact ⟨fun _ => none, unchanged, rfl⟩
    · have spared := execution_spares (silent_of_unnamed unnamed compiled) ended
      exact ⟨taken? scope, changed, taken_of_spared (List.mem_of_getElem? here) only spared⟩
  constructor
  · rw [changed, List.getElem?_map, here, Option.map_some, nothing]
  · rw [run_of_changes changed, List.getElem?_map, here, Option.map_some, nothing]
    rfl

/-- A score, a bag, and a mood that is not a number. -/
def moods : Store :=
  [⟨"a", "score", .number (Number.ofWhole 0)⟩, ⟨"b", "bag", .list .text [.text "rope"]⟩,
    ⟨"c", "mood", .number Number.quietNan⟩]

/-- Loops, a block with variables of its own and a caught failure; in the end the bag is a range, which no
variable can hold. -/
def moodless : List Char :=
  "for item in bag { let mode = item; score += 1 }\ntry { throw bag } catch (found) { score += 1 }\nbag = 0..3".toList

/-- Two assignments before a failure. -/
def torn : List Char :=
  "score = 5\nbag.push(\x22lamp\x22)\nthrow score".toList

theorem moods_stay :
    moods[2]? = some ⟨"c", "mood", .number Number.quietNan⟩ ∧ "mood" ∉ identifiers Limits.standard moodless ∧
      (changes Limits.standard moodless moods)[2]? = some none ∧
      (run Limits.standard moodless moods)[2]? = some ⟨"c", "mood", .number Number.quietNan⟩ ∧
      (run Limits.standard moodless moods).map Variable.display = ["2", "[\x22rope\x22]", "NaN"] ∧
      Fails Limits.standard torn moods ∧ run Limits.standard torn moods = moods := by
  have here : moods[2]? = some ⟨"c", "mood", .number Number.quietNan⟩ := rfl
  have alone : ∀ (other : Nat) (twin : Variable), moods[other]? = some twin → twin.name = "mood" →
      other = 2 := by
    intro other twin there named
    match other with
    | 0 =>
        cases there
        exact absurd named (by decide)
    | 1 =>
        cases there
        exact absurd named (by decide)
    | 2 => rfl
    | _ + 3 => cases there
  have unnamed : "mood" ∉ identifiers Limits.standard moodless := by decide +kernel
  obtain ⟨unchanged, kept⟩ :=
    (scripts_change_what_they_name Limits.standard moodless moods).1 2 _ here alone unnamed
  have fails : Fails Limits.standard torn moods := fails_of_no_end (by decide +kernel)
  have whole := (scripts_change_what_they_name Limits.standard torn moods).2.1 fails
  exact ⟨here, unnamed, unchanged, kept, by decide +kernel, fails, whole.2⟩

end Script

end Narrative
