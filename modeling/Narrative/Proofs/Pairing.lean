import Mathlib
import Narrative.Keyed

/-!
# Entries paired by their names

Two maps match if they have the same number of entries and every entry of the one finds an entry of its name
in the other that is alike. Although only one side is looked through, no name of the other is left over, and
the order of the entries does not matter; where the names are in order, matching goes place by place.
-/

namespace Narrative.Keyed

set_option autoImplicit false

section Names

variable {α : Type} {entries others : Keyed α}

/-- No name comes twice. -/
def Distinct (entries : Keyed α) : Prop :=
  (entries.map Prod.fst).Nodup

theorem Ordered.distinct (ordered : Ordered entries) : Distinct entries := by
  apply List.pairwise_map.mpr
  apply List.Pairwise.imp _ ordered
  intro first second before same
  rw [same, name_before_irrefl] at before
  cases before

theorem mem_of_found {name : String} {value : α} (found : find? name entries = some value) :
    (name, value) ∈ entries := by
  induction entries with
  | nil => cases found
  | cons entry rest induction =>
      rw [find?] at found
      split at found
      · rename_i named
        obtain rfl := Option.some.inj found
        rw [← named]
        exact List.mem_cons_self
      · exact List.mem_cons_of_mem entry (induction found)

theorem found_of_mem (distinct : Distinct entries) {entry : String × α} (member : entry ∈ entries) :
    find? entry.1 entries = some entry.2 := by
  induction entries with
  | nil => cases member
  | cons first rest induction =>
      obtain ⟨fresh, later⟩ := List.nodup_cons.mp distinct
      rcases List.mem_cons.mp member with rfl | behind
      · rw [find?, if_pos rfl]
      · have apart : first.1 ≠ entry.1 := by
          intro same
          rw [same] at fresh
          exact fresh (List.mem_map_of_mem behind)
        rw [find?, if_neg apart, induction later behind]

theorem found_iff (distinct : Distinct entries) {name : String} {value : α} :
    find? name entries = some value ↔ (name, value) ∈ entries :=
  ⟨mem_of_found, fun member => found_of_mem distinct member⟩

theorem Distinct.of_perm (distinct : Distinct entries) (shuffled : entries.Perm others) :
    Distinct others :=
  (shuffled.map Prod.fst).nodup_iff.mp distinct

/-- What a name has does not depend on the order of the entries. -/
theorem find_of_perm (distinct : Distinct entries) (shuffled : entries.Perm others) (name : String) :
    find? name entries = find? name others := by
  apply Option.ext
  intro value
  rw [found_iff distinct, found_iff (distinct.of_perm shuffled), shuffled.mem_iff]

theorem perm_of_insert {name : String} (value : α) (fresh : name ∉ entries.map Prod.fst) :
    (insert name value entries).Perm ((name, value) :: entries) := by
  induction entries with
  | nil => exact List.Perm.refl _
  | cons entry rest induction =>
      rw [List.map_cons, List.mem_cons, not_or] at fresh
      rw [insert, if_neg (Ne.symm fresh.1)]
      split
      · exact List.Perm.refl _
      · exact ((induction fresh.2).cons entry).trans (List.Perm.swap _ _ _)

/-- Where no name comes twice, all entries are kept. -/
theorem perm_of_pairs {pairs : List (String × α)} (distinct : Distinct pairs) :
    (ofPairs pairs).Perm pairs := by
  have grown : ∀ entries : Keyed α, Distinct (pairs ++ entries) →
      (pairs.foldl (fun entries pair => insert pair.1 pair.2 entries) entries).Perm (pairs ++ entries) := by
    clear distinct
    induction pairs with
    | nil => exact fun entries _ => List.Perm.refl entries
    | cons pair rest induction =>
        intro entries distinct
        obtain ⟨fresh, -⟩ := List.nodup_cons.mp distinct
        have absent : pair.1 ∉ entries.map Prod.fst := by
          intro member
          exact fresh (List.mem_map.mpr (by
            obtain ⟨entry, here, named⟩ := List.mem_map.mp member
            exact ⟨entry, List.mem_append_right rest here, named⟩))
        have inserted := (perm_of_insert pair.2 absent).append_left rest
        have moved := inserted.trans List.perm_middle
        exact (induction _ (distinct.of_perm moved.symm)).trans moved
  have all := grown [] (by rwa [List.append_nil])
  rwa [List.append_nil] at all

/-- In order, there is one list with the names. -/
theorem names_of_perm {β : Type} {entries : Keyed α} {others : Keyed β} (ordered : Ordered entries)
    (inOrder : Ordered others) (shuffled : (entries.map Prod.fst).Perm (others.map Prod.fst)) :
    entries.map Prod.fst = others.map Prod.fst := by
  have names : (entries.map Prod.fst).Pairwise fun first second => nameBefore first second = true :=
    List.pairwise_map.mpr ordered
  have others' : (others.map Prod.fst).Pairwise fun first second => nameBefore first second = true :=
    List.pairwise_map.mpr inOrder
  refine shuffled.eq_of_pairwise ?_ names others'
  intro first second _ _ before after
  rw [name_before_asymm before] at after
  cases after

/-- Where no name comes twice, the entries do not show in which order the pairs came. -/
theorem of_pairs_of_perm {pairs shuffled : List (String × α)} (distinct : Distinct pairs)
    (moved : pairs.Perm shuffled) : ofPairs pairs = ofPairs shuffled := by
  have kept := (perm_of_pairs distinct).trans moved
  refine (kept.trans (perm_of_pairs (distinct.of_perm moved)).symm).eq_of_pairwise ?_
    (ordered_of_pairs pairs) (ordered_of_pairs shuffled)
  intro first second _ _ before after
  rw [name_before_asymm before] at after
  cases after

end Names

section Paired

variable {α β : Type}

/-- Whether there are as many entries as others, and each has one of its name among these that is alike. -/
def paired (alike : α → β → Bool) (entries : Keyed α) (others : Keyed β) : Bool :=
  entries.length == others.length &&
    entries.all fun entry => (find? entry.1 others).any (alike entry.2)

variable {alike : α → β → Bool} {entries : Keyed α} {others : Keyed β}

/-- The order of the entries does not matter on either side. -/
theorem paired_of_perm {shuffled : Keyed α} {mixed : Keyed β} (distinct : Distinct others)
    (entriesMoved : entries.Perm shuffled) (othersMoved : others.Perm mixed) :
    paired alike entries others = paired alike shuffled mixed := by
  have found : (fun entry : String × α => (find? entry.1 others).any (alike entry.2)) =
      fun entry => (find? entry.1 mixed).any (alike entry.2) := by
    funext entry
    rw [find_of_perm distinct othersMoved]
  rw [paired, paired, entriesMoved.length_eq, othersMoved.length_eq, found, entriesMoved.all_eq]

theorem paired_map {γ δ : Type} {close : γ → δ → Bool} (left : α → γ) (right : β → δ)
    (agrees : ∀ entry ∈ entries, ∀ other ∈ others,
      alike entry.2 other.2 = close (left entry.2) (right other.2)) :
    paired alike entries others =
      paired close (entries.map fun entry => (entry.1, left entry.2))
        (others.map fun other => (other.1, right other.2)) := by
  have found : ∀ name, find? name (others.map fun other => (other.1, right other.2)) =
      (find? name others).map right := by
    intro name
    induction others with
    | nil => rfl
    | cons other rest induction =>
        rw [List.map_cons, find?, find?]
        split
        · rfl
        · exact induction fun entry member other' behind =>
            agrees entry member other' (List.mem_cons_of_mem other behind)
  have each : ∀ entry ∈ entries, (find? entry.1 others).any (alike entry.2) =
      (find? entry.1 (others.map fun other => (other.1, right other.2))).any (close (left entry.2)) := by
    intro entry member
    rw [found]
    cases held : find? entry.1 others with
    | none => rfl
    | some value => exact agrees entry member (entry.1, value) (mem_of_found held)
  rw [paired, paired, List.length_map, List.length_map, List.all_map]
  congr 1
  rw [Bool.eq_iff_iff, List.all_eq_true, List.all_eq_true]
  exact forall₂_congr fun entry member => by rw [each entry member]; rfl

end Paired

section InStep

variable {α β : Type}

/-- The same names in the same order, with values that are related. -/
def InStep (related : α → β → Prop) (entries : Keyed α) (others : Keyed β) : Prop :=
  List.Forall₂ (fun entry other => entry.1 = other.1 ∧ related entry.2 other.2) entries others

variable {related : α → β → Prop} {entries : Keyed α} {others : Keyed β}

theorem InStep.names (steps : InStep related entries others) :
    entries.map Prod.fst = others.map Prod.fst := by
  induction steps with
  | nil => rfl
  | cons first _ induction => rw [List.map_cons, List.map_cons, first.1, induction]

theorem InStep.insert (steps : InStep related entries others) (name : String) {value : α} {other : β}
    (here : related value other) :
    InStep related (Keyed.insert name value entries) (Keyed.insert name other others) := by
  induction steps with
  | nil => exact List.Forall₂.cons ⟨rfl, here⟩ List.Forall₂.nil
  | @cons entry found rest later first behind induction =>
      rw [Keyed.insert, Keyed.insert, first.1]
      split
      · exact List.Forall₂.cons ⟨rfl, here⟩ behind
      · split
        · exact List.Forall₂.cons ⟨rfl, here⟩ (List.Forall₂.cons first behind)
        · exact List.Forall₂.cons first induction

theorem InStep.of_pairs (steps : InStep related entries others) :
    InStep related (ofPairs entries) (ofPairs others) := by
  have grown : ∀ (done : Keyed α) (made : Keyed β), InStep related done made →
      InStep related (entries.foldl (fun all pair => Keyed.insert pair.1 pair.2 all) done)
        (others.foldl (fun all pair => Keyed.insert pair.1 pair.2 all) made) := by
    induction steps with
    | nil => exact fun _ _ same => same
    | @cons entry found rest later first _ induction =>
        intro done made same
        rw [List.foldl_cons, List.foldl_cons, ← first.1]
        exact induction _ _ (same.insert entry.1 first.2)
  exact grown [] [] List.Forall₂.nil

theorem InStep.map {γ δ : Type} {close : γ → δ → Prop} (steps : InStep related entries others)
    (left : α → γ) (right : β → δ)
    (keeps : ∀ value other, related value other → close (left value) (right other)) :
    InStep close (entries.map fun entry => (entry.1, left entry.2))
      (others.map fun other => (other.1, right other.2)) := by
  induction steps with
  | nil => exact List.Forall₂.nil
  | cons first _ induction =>
      exact List.Forall₂.cons ⟨first.1, keeps _ _ first.2⟩ induction

/-- An entry in front does not matter for names that come behind it. -/
theorem find_behind {entry : String × β} {rest : Keyed β} (distinct : Distinct (entry :: rest))
    {name : String} (member : name ∈ rest.map Prod.fst) :
    find? name (entry :: rest) = find? name rest := by
  have apart : entry.1 ≠ name := by
    rintro rfl
    exact (List.nodup_cons.mp distinct).1 member
  rw [find?, if_neg apart]

/-- Every entry finds its own place where the names are the same in order. -/
theorem in_step_iff_found {alike : α → β → Bool} (names : entries.map Prod.fst = others.map Prod.fst)
    (distinct : Distinct others) :
    InStep (fun value other => alike value other = true) entries others ↔
      ∀ entry ∈ entries, (find? entry.1 others).any (alike entry.2) = true := by
  induction entries generalizing others with
  | nil =>
      obtain rfl := List.map_eq_nil_iff.mp names.symm
      exact ⟨fun _ _ member => absurd member List.not_mem_nil, fun _ => List.Forall₂.nil⟩
  | cons entry rest induction =>
      cases others with
      | nil => cases names
      | cons found later =>
          obtain ⟨here, behind⟩ := List.cons.inj names
          have first : find? entry.1 (found :: later) = some found.2 := by
            rw [find?, if_pos here.symm]
          have onward : ∀ next ∈ rest, find? next.1 (found :: later) = find? next.1 later := by
            intro next member
            exact find_behind distinct (behind ▸ List.mem_map_of_mem member)
          rw [List.forall_mem_cons, first, Option.any_some]
          refine List.forall₂_cons.trans (and_congr (and_iff_right here) ?_)
          refine (induction behind (List.nodup_cons.mp distinct).2).trans ?_
          exact forall₂_congr fun next member => by rw [onward next member]

/-- One side is looked through, and yet no name of the other is left over: there are as many of them, and none
comes twice. -/
theorem names_of_paired {alike : α → β → Bool} (distinct : Distinct entries)
    (matched : paired alike entries others = true) :
    (entries.map Prod.fst).Perm (others.map Prod.fst) := by
  obtain ⟨size, each⟩ := Bool.and_eq_true_iff.mp matched
  have among : entries.map Prod.fst ⊆ others.map Prod.fst := by
    intro name member
    obtain ⟨entry, here, rfl⟩ := List.mem_map.mp member
    obtain ⟨value, found, -⟩ := (Option.any_eq_true _ _).mp (List.all_eq_true.mp each entry here)
    exact List.mem_map_of_mem (mem_of_found found)
  apply (List.subperm_of_subset distinct among).perm_of_length_le
  rw [List.length_map, List.length_map, eq_of_beq size]

/-- In order, maps match that go in step. -/
theorem paired_iff_in_step {alike : α → β → Bool} (ordered : Ordered entries) (inOrder : Ordered others) :
    paired alike entries others = true ↔
      InStep (fun value other => alike value other = true) entries others := by
  constructor
  · intro matched
    have names := names_of_perm ordered inOrder (names_of_paired ordered.distinct matched)
    exact (in_step_iff_found names inOrder.distinct).mpr
      (List.all_eq_true.mp (Bool.and_eq_true_iff.mp matched).2)
  · intro steps
    have each := (in_step_iff_found steps.names inOrder.distinct).mp steps
    rw [paired, Bool.and_eq_true, beq_iff_eq]
    exact ⟨List.Forall₂.length_eq steps, List.all_eq_true.mpr each⟩

end InStep

end Narrative.Keyed
