import Narrative.Json.Reader
import Narrative.Proofs.Number.Definite
import Narrative.Proofs.Pairing

/-!
# Members in the order of their names

Two documents that differ only in the order in which members stand have one arrangement. Every document that a
text says is arranged, names no member of an object twice, and holds no number that is none.
-/

namespace Narrative

set_option autoImplicit false

namespace Json

mutual

/-- A document whose numbers are numbers, and where no object has two members of one name. -/
def Proper : Json → Prop
  | .real number => number.isNaN = false
  | .list items => ProperItems items
  | .object members => Keyed.Distinct members ∧ ProperMembers members
  | _ => True

def ProperItems : List Json → Prop
  | [] => True
  | item :: rest => Proper item ∧ ProperItems rest

def ProperMembers : List (String × Json) → Prop
  | [] => True
  | (_, member) :: rest => Proper member ∧ ProperMembers rest

end

theorem proper_items_iff {items : List Json} : ProperItems items ↔ ∀ item ∈ items, Proper item := by
  induction items with
  | nil => simp [ProperItems]
  | cons item rest induction => simp [ProperItems, induction]

theorem proper_members_iff {members : List (String × Json)} :
    ProperMembers members ↔ ∀ member ∈ members, Proper member.2 := by
  induction members with
  | nil => simp [ProperMembers]
  | cons member rest induction => simp [ProperMembers, induction]

mutual

/-- A document with the members of every object in the order of their names. -/
def arranged : Json → Json
  | .list items => .list (arrangedItems items)
  | .object members => .object (Keyed.ofPairs (arrangedMembers members))
  | document => document

def arrangedItems : List Json → List Json
  | [] => []
  | item :: rest => arranged item :: arrangedItems rest

def arrangedMembers : List (String × Json) → List (String × Json)
  | [] => []
  | (name, member) :: rest => (name, arranged member) :: arrangedMembers rest

end

theorem arranged_items_map (items : List Json) : arrangedItems items = items.map arranged := by
  induction items with
  | nil => rfl
  | cons item rest induction => rw [arrangedItems, List.map_cons, induction]

theorem arranged_members_map (members : List (String × Json)) :
    arrangedMembers members = members.map fun member => (member.1, arranged member.2) := by
  induction members with
  | nil => rfl
  | cons member rest induction => rw [arrangedMembers, List.map_cons, induction]

/-- The order in which the members of an object stand is not seen in its arrangement. -/
theorem arranged_of_perm {members shuffled : List (String × Json)} (distinct : Keyed.Distinct members)
    (moved : members.Perm shuffled) : (object members).arranged = (object shuffled).arranged := by
  rw [arranged, arranged, arranged_members_map, arranged_members_map]
  have names : Keyed.Distinct (members.map fun member => (member.1, arranged member.2)) := by
    rwa [Keyed.Distinct, List.map_map]
  exact congrArg object (Keyed.of_pairs_of_perm names (moved.map _))

/-- What holds of a document that a text says. -/
structure Sound (document : Json) : Prop where
  proper : document.Proper
  arranged : document.arranged = document

end Json

open Json

namespace Raw

/-- Whatever document a raw value says is sound. -/
def SaysSound (value : Raw) : Prop :=
  ∀ room document, value.json? room = some document → document.Sound

theorem number_says_sound {value : Option (Int ⊕ Float)}
    (definite : ∀ real, value = some (.inr real) → real.isNaN = false) : SaysSound (.number value) := by
  intro room document said
  obtain ⟨number, rfl, rfl⟩ := Option.map_eq_some_iff.mp said
  cases number with
  | inl whole => exact ⟨trivial, rfl⟩
  | inr real => exact ⟨definite real rfl, rfl⟩

theorem items_sound {room : Nat} {items : List Raw} {documents : List Json}
    (each : ∀ item ∈ items, item.SaysSound) (said : jsonItems? room items = some documents) :
    ∀ document ∈ documents, document.Sound := by
  induction items generalizing documents with
  | nil =>
      obtain rfl := Option.some.inj said
      exact fun _ member => absurd member List.not_mem_nil
  | cons item rest induction =>
      rw [List.forall_mem_cons] at each
      simp only [jsonItems?, Option.bind_eq_bind, Option.bind_eq_some_iff, Option.pure_def,
        Option.some.injEq] at said
      obtain ⟨first, here, others, behind, rfl⟩ := said
      exact List.forall_mem_cons.mpr ⟨each.1 room first here, induction each.2 behind⟩

theorem members_sound {room : Nat} {members : List (Option String × Raw)}
    {documents : List (String × Json)} (each : ∀ member ∈ members, member.2.SaysSound)
    (said : jsonMembers? room members = some documents) :
    ∀ document ∈ documents, document.2.Sound := by
  induction members generalizing documents with
  | nil =>
      obtain rfl := Option.some.inj said
      exact fun _ member => absurd member List.not_mem_nil
  | cons member rest induction =>
      rw [List.forall_mem_cons] at each
      simp only [jsonMembers?, Option.bind_eq_bind, Option.bind_eq_some_iff, Option.pure_def,
        Option.some.injEq] at said
      obtain ⟨name, -, first, here, others, behind, rfl⟩ := said
      exact List.forall_mem_cons.mpr ⟨each.1 room first here, induction each.2 behind⟩

theorem list_says_sound {items : List Raw} (each : ∀ item ∈ items, item.SaysSound) :
    SaysSound (.list items) := by
  intro room document said
  rw [json?] at said
  split at said
  · cases said
  · obtain ⟨documents, within, rfl⟩ := Option.map_eq_some_iff.mp said
    have sound := items_sound each within
    refine ⟨proper_items_iff.mpr fun item member => (sound item member).proper, ?_⟩
    have same : documents.map arranged = documents :=
      (List.map_congr_left fun item member => (sound item member).arranged).trans (List.map_id documents)
    rw [arranged, arranged_items_map, same]

theorem object_says_sound {members : List (Option String × Raw)}
    (each : ∀ member ∈ members, member.2.SaysSound) : SaysSound (.object members) := by
  intro room document said
  rw [json?] at said
  split at said
  · cases said
  · obtain ⟨pairs, within, rfl⟩ := Option.map_eq_some_iff.mp said
    have ordered := Keyed.ordered_of_pairs pairs
    have sound : ∀ member ∈ Keyed.ofPairs pairs, member.2.Sound :=
      fun member here => members_sound each within member (Keyed.mem_of_pairs here)
    refine ⟨⟨ordered.distinct, proper_members_iff.mpr fun member here => (sound member here).proper⟩, ?_⟩
    have same : (Keyed.ofPairs pairs).map (fun member => (member.1, arranged member.2)) =
        Keyed.ofPairs pairs :=
      (List.map_congr_left fun member here =>
        show (member.1, arranged member.2) = id member from
          Prod.ext rfl (sound member here).arranged).trans (List.map_id _)
    rw [arranged, arranged_members_map, same, Keyed.of_pairs_of_ordered ordered]

end Raw

namespace Json

section Reading

/-- A number among tokens is a number. -/
def Token.Definite (token : Token) : Prop :=
  ∀ real, token = .number (some (.inr real)) → real.isNaN = false

theorem figure_token_definite {letters : List Char} {token : Token}
    (read : Scan.figureToken? letters = some token) : token.Definite := by
  obtain ⟨spelling, -, rfl⟩ := Option.map_eq_some_iff.mp read
  exact fun real same => Figure.Spelling.value_definite (Token.number.inj same)

/-- The tokens found so far, and the one that a bare word will be. -/
def Scan.Definite (scan : Scan) : Prop :=
  (∀ token ∈ scan.found, token.Definite) ∧
    ∀ expected token, scan.mode = .word expected token → token.Definite

theorem mark_definite {letter : Char} {token : Token} (mark : mark? letter = some token) :
    token.Definite := by
  rintro real rfl
  unfold mark? at mark
  repeat
    split at mark
    · cases mark
  cases mark

theorem fresh_definite {found : List Token} {letter : Char} {next : Scan}
    (definite : ∀ token ∈ found, token.Definite) (took : Scan.fresh? found letter = some next) :
    next.Definite := by
  unfold Scan.fresh? at took
  split at took
  · obtain rfl := Option.some.inj took
    exact ⟨definite, nofun⟩
  · split at took
    · rename_i token mark
      obtain rfl := Option.some.inj took
      exact ⟨List.forall_mem_cons.mpr ⟨mark_definite mark, definite⟩, nofun⟩
    · split at took
      · obtain rfl := Option.some.inj took
        exact ⟨definite, nofun⟩
      · split at took
        · obtain rfl := Option.some.inj took
          exact ⟨definite, fun _ _ same => (Mode.word.inj same).2 ▸ nofun⟩
        · split at took
          · obtain rfl := Option.some.inj took
            exact ⟨definite, fun _ _ same => (Mode.word.inj same).2 ▸ nofun⟩
          · split at took
            · obtain rfl := Option.some.inj took
              exact ⟨definite, fun _ _ same => (Mode.word.inj same).2 ▸ nofun⟩
            · split at took
              · obtain rfl := Option.some.inj took
                exact ⟨definite, nofun⟩
              · cases took

theorem step_definite {scan next : Scan} {letter : Char} (definite : scan.Definite)
    (took : scan.step? letter = some next) : next.Definite := by
  obtain ⟨mode, found⟩ := scan
  obtain ⟨all, coming⟩ := definite
  dsimp only at all coming
  unfold Scan.step? at took
  cases mode with
  | between => exact fresh_definite all took
  | word expected token =>
      have own := coming expected token rfl
      dsimp only at took
      split at took
      · cases took
      · split at took
        · obtain rfl := Option.some.inj took
          exact ⟨List.forall_mem_cons.mpr ⟨own, all⟩, nofun⟩
        · cases took
      · split at took
        · obtain rfl := Option.some.inj took
          exact ⟨all, fun _ _ same => (Mode.word.inj same).2 ▸ own⟩
        · cases took
  | figure letters =>
      dsimp only at took
      split at took
      · obtain rfl := Option.some.inj took
        exact ⟨all, nofun⟩
      · obtain ⟨token, read, fresh⟩ := Option.bind_eq_some_iff.mp took
        exact fresh_definite (List.forall_mem_cons.mpr ⟨figure_token_definite read, all⟩) fresh
  | quoted inside =>
      dsimp only at took
      split at took
      · obtain rfl := Option.some.inj took
        exact ⟨List.forall_mem_cons.mpr ⟨nofun, all⟩, nofun⟩
      · split at took
        · obtain rfl := Option.some.inj took
          exact ⟨all, nofun⟩
        · split at took
          · cases took
          · obtain rfl := Option.some.inj took
            exact ⟨all, nofun⟩
  | escape inside =>
      dsimp only at took
      split at took
      · obtain rfl := Option.some.inj took
        exact ⟨all, nofun⟩
      · obtain ⟨meant, -, rfl⟩ := Option.map_eq_some_iff.mp took
        exact ⟨all, nofun⟩
  | code inside missing value =>
      obtain ⟨digit, -, rfl⟩ := Option.map_eq_some_iff.mp took
      dsimp only
      split
      · exact ⟨all, nofun⟩
      · exact ⟨all, nofun⟩

theorem run_definite {letters : List Char} {scan last : Scan} (definite : scan.Definite)
    (ran : scan.run? letters = some last) : last.Definite := by
  induction letters generalizing scan with
  | nil => rwa [← Option.some.inj ran]
  | cons letter rest induction =>
      rw [Scan.run?] at ran
      split at ran
      · cases ran
      · rename_i next took
        exact induction (step_definite definite took) ran

theorem tokens_definite {text : List Char} {tokens : List Token} (read : tokens? text = some tokens) :
    ∀ token ∈ tokens, token.Definite := by
  obtain ⟨last, ran, finished⟩ := Option.bind_eq_some_iff.mp read
  have start : Scan.Definite ⟨.between, []⟩ := ⟨fun _ member => absurd member List.not_mem_nil, nofun⟩
  obtain ⟨all, -⟩ := run_definite start ran
  intro token member
  unfold Scan.finish? at finished
  split at finished
  · rw [← Option.some.inj finished, List.mem_reverse] at member
    exact all token member
  · obtain ⟨own, figure, rfl⟩ := Option.map_eq_some_iff.mp finished
    rw [List.mem_reverse] at member
    exact List.forall_mem_cons.mpr ⟨figure_token_definite figure, all⟩ token member
  · cases finished

/-- What an open list or object holds so far. -/
def Frame.Sound : Frame → Prop
  | .list items => ∀ item ∈ items, item.SaysSound
  | .object members _ => ∀ member ∈ members, member.2.SaysSound

def Build.Sound : Build → Prop
  | .open frames _ => ∀ frame ∈ frames, frame.Sound
  | .complete value => value.SaysSound

theorem put_sound {frames : List Frame} {value : Raw} (all : ∀ frame ∈ frames, frame.Sound)
    (sound : value.SaysSound) : (Build.put frames value).Sound := by
  cases frames with
  | nil => exact sound
  | cons frame outer =>
      rw [List.forall_mem_cons] at all
      cases frame with
      | list items => exact List.forall_mem_cons.mpr ⟨List.forall_mem_cons.mpr ⟨sound, all.1⟩, all.2⟩
      | object members name =>
          exact List.forall_mem_cons.mpr ⟨List.forall_mem_cons.mpr ⟨sound, all.1⟩, all.2⟩

theorem leaf_says_sound {value : Raw} {document : Json} (always : ∀ room, value.json? room = some document)
    (sound : document.Sound) : value.SaysSound := by
  intro room said found
  rw [always room] at found
  rwa [← Option.some.inj found]

theorem begin_sound {frames : List Frame} {token : Token} {next : Build}
    (all : ∀ frame ∈ frames, frame.Sound) (definite : token.Definite)
    (took : Build.begin? frames token = some next) : next.Sound := by
  cases token with
  | null =>
      obtain rfl := Option.some.inj took
      exact put_sound all (leaf_says_sound (fun _ => rfl) ⟨trivial, rfl⟩)
  | boolean flag =>
      obtain rfl := Option.some.inj took
      exact put_sound all (leaf_says_sound (fun _ => rfl) ⟨trivial, rfl⟩)
  | number value =>
      obtain rfl := Option.some.inj took
      exact put_sound all (Raw.number_says_sound fun real same => definite real (congrArg Token.number same))
  | text letters =>
      obtain rfl := Option.some.inj took
      refine put_sound all fun room document said => ?_
      obtain ⟨known, -, rfl⟩ := Option.map_eq_some_iff.mp said
      exact ⟨trivial, rfl⟩
  | listOpen =>
      obtain rfl := Option.some.inj took
      exact List.forall_mem_cons.mpr ⟨fun _ member => absurd member List.not_mem_nil, all⟩
  | objectOpen =>
      obtain rfl := Option.some.inj took
      exact List.forall_mem_cons.mpr ⟨fun _ member => absurd member List.not_mem_nil, all⟩
  | _ => cases took

theorem close_list_sound {frames : List Frame} {next : Build} (all : ∀ frame ∈ frames, frame.Sound)
    (took : Build.closeList? frames = some next) : next.Sound := by
  unfold Build.closeList? at took
  split at took
  · obtain rfl := Option.some.inj took
    rw [List.forall_mem_cons] at all
    exact put_sound all.2 (Raw.list_says_sound fun item member => all.1 item (List.mem_reverse.mp member))
  · cases took

theorem close_object_sound {frames : List Frame} {next : Build} (all : ∀ frame ∈ frames, frame.Sound)
    (took : Build.closeObject? frames = some next) : next.Sound := by
  unfold Build.closeObject? at took
  split at took
  · obtain rfl := Option.some.inj took
    rw [List.forall_mem_cons] at all
    exact put_sound all.2 (Raw.object_says_sound fun item member => all.1 item (List.mem_reverse.mp member))
  · cases took

theorem named_sound {frames : List Frame} {letters : Option String} {next : Build}
    (all : ∀ frame ∈ frames, frame.Sound) (took : Build.named? letters frames = some next) : next.Sound := by
  unfold Build.named? at took
  split at took
  · obtain rfl := Option.some.inj took
    rw [List.forall_mem_cons] at all
    exact List.forall_mem_cons.mpr all
  · cases took

theorem next_sound {frames : List Frame} {next : Build} (all : ∀ frame ∈ frames, frame.Sound)
    (took : Build.next? frames = some next) : next.Sound := by
  unfold Build.next? at took
  split at took
  · obtain rfl := Option.some.inj took
    exact all
  · obtain rfl := Option.some.inj took
    exact all
  · cases took

theorem build_step_sound {build next : Build} {token : Token} (sound : build.Sound)
    (definite : token.Definite) (took : build.step? token = some next) : next.Sound := by
  unfold Build.step? at took
  split at took
  · cases took
  · exact begin_sound sound definite took
  · exact close_list_sound sound took
  · exact begin_sound sound definite took
  · exact named_sound sound took
  · exact named_sound sound took
  · exact close_object_sound sound took
  · obtain rfl := Option.some.inj took
    exact sound
  · exact next_sound sound took
  · exact close_list_sound sound took
  · exact close_object_sound sound took
  · cases took

theorem build_run_sound {tokens : List Token} {build last : Build} (sound : build.Sound)
    (definite : ∀ token ∈ tokens, token.Definite) (ran : build.run? tokens = some last) : last.Sound := by
  induction tokens generalizing build with
  | nil => rwa [← Option.some.inj ran]
  | cons token rest induction =>
      rw [List.forall_mem_cons] at definite
      rw [Build.run?] at ran
      split at ran
      · cases ran
      · rename_i next took
        exact induction (build_step_sound sound definite.1 took) definite.2 ran

/-- Every document that a text says is sound. -/
theorem sound_of_read {text : List Char} {document : Json} (read : read? text = some document) :
    document.Sound := by
  obtain ⟨value, raw, said⟩ := Option.bind_eq_some_iff.mp read
  simp only [raw?, Option.bind_eq_bind, Option.bind_eq_some_iff] at raw
  obtain ⟨tokens, scanned, last, built, ended⟩ := raw
  have start : Build.Sound (.open [] .value) := fun _ member => absurd member List.not_mem_nil
  have sound := build_run_sound start (tokens_definite scanned) built
  split at ended
  · obtain rfl := Option.some.inj ended
    exact sound _ document said
  · cases ended

end Reading

end Json

end Narrative
