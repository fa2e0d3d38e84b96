import Mathlib.Data.List.Forall2
import Narrative.Proofs.AgentRuns

/-!
# Games

A game follows the lines that are typed: the session and the disk that it leaves are what the orders of
the lines make of those at its beginning, one after the other. It ends where it is told to quit, where
the input ends, and at a run that cannot be saved or taken up.
-/

namespace Narrative

set_option autoImplicit false

namespace Text

theorem lines_from_single {line : List Char} (free : '\n' ∉ line) (current : List Char) :
    linesFrom current line =
      if (current.reverse ++ line).isEmpty then [] else [current.reverse ++ line] := by
  induction line generalizing current with
  | nil => simp [linesFrom]
  | cons letter line induction =>
      simp only [List.mem_cons, not_or] at free
      rw [lines_from_other (Ne.symm free.1), induction free.2]
      simp

end Text

namespace Player

theorem line_feed_byte {letter : Char} : 10 ∈ String.utf8EncodeChar letter ↔ letter = '\n' := by
  have byte : ∀ amount : Nat, 10 = UInt8.ofNat amount ↔ amount % 256 = 10 := by
    intro amount
    rw [eq_comm, ← UInt8.toNat_inj, UInt8.toNat_ofNat']
    rfl
  have code : letter = '\n' ↔ letter.val.toNat = 10 := by
    rw [Char.ext_iff, ← UInt32.toNat_inj]
    rfl
  rw [code]
  simp only [String.utf8EncodeChar]
  split
  · simp only [List.mem_singleton, byte]
    omega
  -- Each byte of a longer letter is at least 128.
  · refine iff_of_false ?_ (by omega)
    split
    · simp only [List.mem_cons, List.not_mem_nil, or_false, byte]
      omega
    · split <;> simp only [List.mem_cons, List.not_mem_nil, or_false, byte] <;> omega

/-- The bytes of letters. -/
def typed (letters : List Char) : List UInt8 :=
  letters.flatMap String.utf8EncodeChar

theorem typed_append (first second : List Char) : typed (first ++ second) = typed first ++ typed second :=
  List.flatMap_append

theorem typed_line_feed (rest : List Char) : typed ('\n' :: rest) = 10 :: typed rest := rfl

theorem typed_bytes (letters : List Char) :
    (String.ofList letters).toUTF8 = ⟨(typed letters).toArray⟩ := by
  rw [String.toUTF8_eq_toByteArray, String.toByteArray_ofList]
  apply ByteArray.ext
  apply Array.ext'
  simp [List.utf8Encode, typed]

theorem typed_text (text : String) : text.toUTF8.data.toList = typed text.toList := by
  conv_lhs => rw [← String.ofList_toList (s := text), typed_bytes]

theorem line_text_typed (letters : List Char) :
    lineText? (typed letters) = some (String.ofList letters) := by
  rw [lineText?, ← typed_bytes, Plan.from_bytes_of_text]

theorem line_feed_typed {letters : List Char} : 10 ∈ typed letters ↔ '\n' ∈ letters := by
  simp [typed, line_feed_byte]

theorem byte_lines_append {line : List UInt8} (free : 10 ∉ line) (rest : List UInt8) :
    byteLines (line ++ 10 :: rest) = (line ++ [10]) :: byteLines rest := by
  induction line with
  | nil => rfl
  | cons byte line induction =>
      simp only [List.mem_cons, not_or] at free
      rw [List.cons_append, byteLines, if_neg (Ne.symm free.1), induction free.2]
      rfl

theorem byte_lines_single {line : List UInt8} (free : 10 ∉ line) (filled : line ≠ []) :
    byteLines line = [line] := by
  induction line with
  | nil => exact absurd rfl filled
  | cons byte line induction =>
      simp only [List.mem_cons, not_or] at free
      rw [byteLines, if_neg (Ne.symm free.1)]
      cases line with
      | nil => rfl
      | cons next others => rw [induction free.2 (List.cons_ne_nil next others)]

/-- The bytes are those of the line, blanks around it aside. -/
def Reads (bytes : List UInt8) (line : List Char) : Prop :=
  ∃ letters, lineText? bytes = some (String.ofList letters) ∧ Text.trim letters = Text.trim line

/-- What is typed for a text is read line by line. -/
theorem lines_read (letters : List Char) :
    List.Forall₂ Reads (byteLines (typed letters)) (Text.lines letters) := by
  cases cut : Text.cutAt? '\n' letters with
  | none =>
      have free := Text.cut_at_none_iff.mp cut
      rw [Text.lines, Text.lines_from_single free]
      cases letters with
      | nil => exact .nil
      | cons letter rest =>
          have bytes : 10 ∉ typed (letter :: rest) := fun member => free (line_feed_typed.mp member)
          have filled : typed (letter :: rest) ≠ [] := by
            simp [typed, String.utf8EncodeChar_ne_nil]
          rw [byte_lines_single bytes filled]
          exact .cons ⟨_, line_text_typed _, rfl⟩ .nil
  | some parts =>
      obtain ⟨line, rest⟩ := parts
      obtain ⟨free, text⟩ := Text.cut_at_some_iff.mp cut
      have bytes : 10 ∉ typed line := fun member => free (line_feed_typed.mp member)
      obtain ⟨ended, lines, stripped⟩ := Text.exists_lines_append free [] rest
      have trimmed : Text.trim ended = Text.trim line := by
        rcases stripped with same | returned
        · exact congrArg Text.trim same.symm
        · have whole : line = ended ++ ['\r'] := returned
          rw [whole, Text.trim_append_blanks ended (by simp [Text.isBlank])]
      have spelled : typed letters = typed line ++ 10 :: typed rest := by
        rw [text, typed_append, typed_line_feed]
      have first : typed line ++ [10] = typed (line ++ ['\n']) := by
        rw [typed_append]
        rfl
      have shorter : rest.length < letters.length := by
        rw [text, List.length_append, List.length_cons]
        omega
      rw [spelled, byte_lines_append bytes, first, Text.lines, text, lines]
      refine .cons ⟨_, line_text_typed _, ?_⟩ (lines_read rest)
      rw [trimmed, Text.trim_append_blanks line (by simp [Text.isBlank])]
termination_by letters.length

end Player

namespace Play

/-- What a line asks for. -/
inductive Order where
  | back
  | restart
  | choose (index : Nat)
  | load
  | save
  | quit
  | other
  deriving DecidableEq, Repr

/-- The order that a line gives, blanks around it aside. -/
def orderIn (line : List Char) : Order :=
  match String.ofList (Text.trim line) with
  | ":back" => .back
  | ":restart" => .restart
  | ":load" => .load
  | ":save" => .save
  | ":quit" => .quit
  | _ =>
    match Number.count? (Text.trim line) with
    | some index => .choose index
    | none => .other

/-- Where a game stands. -/
structure Table where
  session : Session
  disk : Disk

/-- The session of a valid save of the project, if the state file holds one. -/
def loaded? (setting : Setting) (disk : Disk) : Option Session := do
  let bytes ← (disk.read (Path.ofText setting.save)).toOption
  let text ← String.fromUTF8? bytes
  let save ← (Save.parse setting.save text).toOption
  if save.project = setting.loaded.path then
    (Session.resume Story.Options.standard save.state setting.loaded.project).toOption
  else none

/-- Saves the session of a table. -/
def saving (setting : Setting) (table : Table) : Except PlayerError Unit × Disk :=
  (Save.writeTo setting.save setting.loaded.path table.session.state).run.on table.disk

namespace Order

/-- What an order makes of a table. -/
def after (setting : Setting) (table : Table) : Order → Table
  | .back =>
    { table with session := if table.session.canGoBack then table.session.goBack else table.session }
  | .restart => { table with session := table.session.restart }
  | .choose index =>
    { table with session := (table.session.chooseIndex index).toOption.getD table.session }
  | .load => { table with session := (loaded? setting table.disk).getD table.session }
  | .save => { table with disk := (saving setting table).2 }
  | .quit => table
  | .other => table

/-- An order to save that did not, or to load where no valid save of the project is. -/
def Fails (setting : Setting) (table : Table) : Order → Prop
  | .load => loaded? setting table.disk = none
  | .save => (saving setting table).1 ≠ .ok ()
  | _ => False

/-- How a game goes on after an order. -/
inductive Turns (setting : Setting) (table : Table) (order : Order) : Player.Turn → Prop where
  | ready (asked : order ≠ .quit) (succeeds : ¬order.Fails setting table) :
      Turns setting table order (.ready (order.after setting table).session)
  | quit (quits : order = .quit) : Turns setting table order .over
  | stopped (fails : order.Fails setting table) (error : PlayerError) :
      Turns setting table order (.stopped error)

end Order

theorem loaded_on (setting : Setting) (disk : Disk) : ∃ result,
    (Save.loadFor setting.save setting.loaded).run.on disk = (result, disk) ∧
      result.toOption = loaded? setting disk := by
  refine ⟨_, Save.on_load_for setting.save setting.loaded disk, ?_⟩
  rw [to_option_bind, Save.to_option_held, Option.bind_assoc]
  unfold loaded?
  refine Option.bind_congr fun bytes _ => ?_
  rw [Option.bind_assoc]
  refine Option.bind_congr fun text _ => Option.bind_congr fun save _ => ?_
  split
  · exact to_option_map_error _ _
  · rfl

theorem Order.turns_of_reply {setting : Setting} {table : Table} {order : Order} {reply : Reply}
    (asked : order ≠ .quit) (succeeds : ¬order.Fails setting table)
    (next : Player.turnOf table.session reply = .ready (order.after setting table).session) :
    order.Turns setting table (Player.turnOf table.session reply) := by
  rw [next]
  exact .ready asked succeeds

theorem back_turns (setting : Setting) (table : Table) :
    Order.back.Turns setting table (Player.turnOf table.session (back table.session)) := by
  refine Order.turns_of_reply (by simp) id ?_
  unfold back
  split
  · rename_i able
    simp [Player.turnOf, Order.after, able]
  · rename_i unable
    simp [Player.turnOf, remark, Order.after, unable]

theorem choose_turns (setting : Setting) (table : Table) (typed : List Char) :
    (match Number.count? typed with
      | some index => Order.choose index
      | none => Order.other).Turns setting table
        (Player.turnOf table.session (choose table.session typed)) := by
  unfold choose
  cases Number.count? typed with
  | none => exact .ready (by simp) id
  | some index =>
      refine Order.turns_of_reply (by simp) id ?_
      simp only [Order.after]
      cases table.session.chooseIndex index <;> rfl

theorem save_turns (setting : Setting) (table : Table) : ∃ reply,
    (save setting table.session).on table.disk = (reply, (saving setting table).2) ∧
      Order.save.Turns setting table (Player.turnOf table.session reply) := by
  have done : (Save.writeTo setting.save setting.loaded.path table.session.state).run.on table.disk =
      saving setting table := rfl
  unfold save
  rw [Plan.on_bind, done]
  cases saved : (saving setting table).1 with
  | ok => exact ⟨_, rfl, .ready (by simp) (fun fails => fails saved)⟩
  | error error => exact ⟨_, rfl, .stopped (by simp [Order.Fails, saved]) error⟩

theorem load_turns (setting : Setting) (table : Table) : ∃ reply,
    (load setting).on table.disk = (reply, table.disk) ∧
      Order.load.Turns setting table (Player.turnOf table.session reply) := by
  obtain ⟨result, done, session⟩ := loaded_on setting table.disk
  unfold load
  rw [Plan.on_bind, done]
  cases result with
  | ok found =>
      have held : loaded? setting table.disk = some found := session.symm
      refine ⟨_, rfl, Order.turns_of_reply (by simp) (by simp [Order.Fails, held]) ?_⟩
      simp [Order.after, held, Player.turnOf]
  | error error =>
      have fails : Order.load.Fails setting table := session.symm
      exact ⟨_, rfl, .stopped fails error⟩

/-- The reply to a line does what the line asks for. -/
theorem reply_on (setting : Setting) (table : Table) (line : List Char) : ∃ reply,
    (replyTo setting table.session (Text.trim line)).on table.disk =
      (reply, ((orderIn line).after setting table).disk) ∧
    (orderIn line).Turns setting table (Player.turnOf table.session reply) := by
  unfold orderIn replyTo
  generalize Text.trim line = typed
  have spelled : ∀ {word : String}, String.ofList typed = word → typed = word.toList := by
    rintro word rfl
    exact String.toList_ofList.symm
  split
  case h_9 =>
    split
    all_goals first | contradiction | skip
    refine ⟨_, ?_, choose_turns setting table typed⟩
    cases Number.count? typed <;> rfl
  all_goals
    rename_i word
    obtain rfl := spelled word
  -- One case for each word, in the order of the replies: nothing, help, back, restart, variables, save,
  -- load, quit.
  · exact ⟨_, rfl, .ready (by decide) id⟩
  · exact ⟨_, rfl, .ready (by decide) id⟩
  · exact ⟨_, rfl, back_turns setting table⟩
  · exact ⟨_, rfl, .ready (by decide) id⟩
  · exact ⟨_, rfl, .ready (by decide) id⟩
  · exact save_turns setting table
  · exact load_turns setting table
  · exact ⟨_, rfl, .quit rfl⟩

/-- What lines make of a table, one after the other. -/
def tableAfter (setting : Setting) (start : Table) (lines : List (List Char)) : Table :=
  lines.foldl (fun table line => (orderIn line).after setting table) start

/-- A game over lines: those that it reads, where they leave it, and the error that ends it. -/
inductive Played (setting : Setting) : Table → List (List Char) → List (List Char) → Table →
    Option PlayerError → Prop where
  | ended {table : Table} : Played setting table [] [] table none
  | quit {table : Table} {line : List Char} {rest : List (List Char)} (quits : orderIn line = .quit) :
      Played setting table [line] rest table none
  | failed {table : Table} {line : List Char} {rest : List (List Char)}
      (fails : (orderIn line).Fails setting table) (error : PlayerError) :
      Played setting table [line] rest ((orderIn line).after setting table) (some error)
  | next {table left : Table} {line : List Char} {consumed rest : List (List Char)}
      {error : Option PlayerError} (asked : orderIn line ≠ .quit)
      (succeeds : ¬(orderIn line).Fails setting table)
      (others : Played setting ((orderIn line).after setting table) consumed rest left error) :
      Played setting table (line :: consumed) rest left error

theorem Order.session_of_fails {setting : Setting} {table : Table} {order : Order}
    (fails : order.Fails setting table) : (order.after setting table).session = table.session := by
  cases order with
  | load =>
      have missing : loaded? setting table.disk = none := fails
      simp [after, missing]
  | save => rfl
  | _ => cases fails

theorem line_played {bytes : List UInt8} {line : List Char} (reads : Player.Reads bytes line)
    (setting : Setting) (table : Table) : ∃ printed turn,
    (Player.playLine setting table.session bytes).on table.disk =
      ((printed, turn), ((orderIn line).after setting table).disk) ∧
    (orderIn line).Turns setting table turn := by
  obtain ⟨letters, told, trimmed⟩ := reads
  obtain ⟨reply, done, turns⟩ := reply_on setting table line
  refine ⟨reply.text, _, ?_, turns⟩
  unfold Player.playLine
  rw [told]
  dsimp only
  rw [Plan.on_bind, Play.reply, String.toList_ofList, trimmed, done]
  rfl

theorem lines_played {bytes : List (List UInt8)} {lines : List (List Char)}
    (reads : List.Forall₂ Player.Reads bytes lines) (setting : Setting) (table : Table) :
    ∃ consumed rest game left, lines = consumed ++ rest ∧
      (Player.playLines setting table.session bytes).on table.disk = (game, left.disk) ∧
      game.left = left.session ∧ Played setting table consumed rest left game.error := by
  induction reads generalizing table with
  | nil => exact ⟨[], [], _, table, rfl, rfl, rfl, .ended⟩
  | @cons typed line bytes lines first others induction =>
      obtain ⟨printed, turn, done, turns⟩ := line_played first setting table
      rw [Player.playLines, Plan.on_bind, done]
      cases turns with
      | quit quits =>
          refine ⟨[line], lines, ⟨[prompt, printed], table.session, none⟩, table, rfl, ?_, rfl,
            .quit quits⟩
          rw [quits]
          rfl
      | stopped fails error =>
          refine ⟨[line], lines, ⟨[prompt, printed], table.session, some error⟩,
            (orderIn line).after setting table, rfl, rfl, ?_, .failed fails error⟩
          exact (Order.session_of_fails fails).symm
      | ready asked succeeds =>
          obtain ⟨consumed, rest, game, left, text, played, stands, run⟩ :=
            induction ((orderIn line).after setting table)
          refine ⟨line :: consumed, rest, { game with printed := prompt :: printed :: game.printed }, left,
            by rw [text, List.cons_append], ?_, stands, .next asked succeeds run⟩
          dsimp only
          rw [Plan.on_bind, played]
          rfl

/-- The last of the lines asks to quit. -/
def EndsWithQuit (lines : List (List Char)) : Prop :=
  ∃ earlier line, lines = earlier ++ [line] ∧ orderIn line = .quit

/-- The last of the lines asks to save, which does not succeed, or to load where no valid save is. -/
def EndsWithFailure (setting : Setting) (start : Table) (lines : List (List Char)) : Prop :=
  ∃ earlier line, lines = earlier ++ [line] ∧
    (orderIn line).Fails setting (tableAfter setting start earlier)

theorem ends_with_quit_cons {line : List Char} {lines : List (List Char)}
    (ends : EndsWithQuit lines) : EndsWithQuit (line :: lines) := by
  obtain ⟨earlier, last, rfl, quits⟩ := ends
  exact ⟨line :: earlier, last, rfl, quits⟩

theorem ends_with_failure_cons_iff {setting : Setting} {start : Table} {line : List Char}
    {lines : List (List Char)} : EndsWithFailure setting start (line :: lines) ↔
      lines = [] ∧ (orderIn line).Fails setting start ∨
        EndsWithFailure setting ((orderIn line).after setting start) lines := by
  constructor
  · rintro ⟨earlier, last, same, fails⟩
    cases earlier with
    | nil =>
        obtain ⟨rfl, rfl⟩ := List.cons.inj same
        exact .inl ⟨rfl, fails⟩
    | cons first earlier =>
        obtain ⟨rfl, rfl⟩ := List.cons.inj same
        exact .inr ⟨earlier, last, rfl, fails⟩
  · rintro (⟨rfl, fails⟩ | ⟨earlier, last, rfl, fails⟩)
    · exact ⟨[], line, rfl, fails⟩
    · exact ⟨line :: earlier, last, rfl, fails⟩

namespace Played

variable {setting : Setting} {start left : Table} {consumed rest : List (List Char)}
  {error : Option PlayerError}

theorem followed (played : Played setting start consumed rest left error) :
    left = tableAfter setting start consumed := by
  induction played with
  | ended => rfl
  | @quit table line _ quits =>
      change table = (orderIn line).after setting table
      rw [quits]
      rfl
  | failed => rfl
  | next _ _ _ induction => exact induction

/-- Before its last line a game is not told to quit, and nothing fails. -/
theorem onward (played : Played setting start consumed rest left error) {earlier later : List (List Char)}
    {line : List Char} (inside : consumed = earlier ++ line :: later) (more : later ≠ []) :
    orderIn line ≠ .quit ∧ ¬(orderIn line).Fails setting (tableAfter setting start earlier) := by
  induction played generalizing earlier with
  | ended => simp at inside
  | quit => exact absurd (last_alone inside) more
  | failed => exact absurd (last_alone inside) more
  | next asked succeeds others induction =>
      cases earlier with
      | nil =>
          obtain ⟨rfl, rfl⟩ := List.cons.inj inside
          exact ⟨asked, succeeds⟩
      | cons first earlier =>
          obtain ⟨rfl, same⟩ := List.cons.inj inside
          exact induction same

/-- A game ends with an error where its last line fails, and else at the end of the input or where it is
told to quit. -/
theorem ending (played : Played setting start consumed rest left error) :
    match error with
    | none => ¬EndsWithFailure setting start consumed ∧ (rest = [] ∨ EndsWithQuit consumed)
    | some _ => EndsWithFailure setting start consumed := by
  induction played with
  | ended =>
      refine ⟨?_, .inl rfl⟩
      rintro ⟨earlier, line, same, -⟩
      simp at same
  | @quit table line rest quits =>
      refine ⟨fun ends => ?_, .inr ⟨[], line, rfl, quits⟩⟩
      rcases ends_with_failure_cons_iff.mp ends with ⟨-, fails⟩ | ⟨earlier, last, same, -⟩
      · rw [quits] at fails
        exact fails
      · simp at same
  | @failed table line rest fails => exact ⟨[], line, rfl, fails⟩
  | @next table left line consumed rest error asked succeeds others induction =>
      have cons : EndsWithFailure setting table (line :: consumed) ↔
          EndsWithFailure setting ((orderIn line).after setting table) consumed := by
        rw [ends_with_failure_cons_iff]
        simp [succeeds]
      rw [cons]
      cases error with
      | none => exact ⟨induction.1, induction.2.imp_right ends_with_quit_cons⟩
      | some cause => exact induction

end Played

end Play

namespace Player

open Play

/-- What is typed in a game is followed line by line, up to a line that quits or fails or up to the end of
the input. The game succeeds unless a line fails. -/
theorem games_follow_lines (setting : Setting) (session : Session) (disk : Disk) (text : String) :
    ∃ consumed rest game after, Text.lines text.toList = consumed ++ rest ∧
      (playLines setting session (byteLines text.toUTF8.data.toList)).on disk = (game, after) ∧
      (⟨game.left, after⟩ : Table) = tableAfter setting ⟨session, disk⟩ consumed ∧
      (∀ earlier line later, consumed = earlier ++ line :: later → later ≠ [] →
        orderIn line ≠ .quit ∧ ¬(orderIn line).Fails setting (tableAfter setting ⟨session, disk⟩ earlier)) ∧
      ((played session game).code = 0 ∧ ¬EndsWithFailure setting ⟨session, disk⟩ consumed ∧
          (rest = [] ∨ EndsWithQuit consumed) ∨
        (played session game).code = 1 ∧ EndsWithFailure setting ⟨session, disk⟩ consumed) := by
  obtain ⟨consumed, rest, game, left, lines, done, stands, run⟩ :=
    lines_played (lines_read text.toList) setting ⟨session, disk⟩
  refine ⟨consumed, rest, game, left.disk, lines, ?_, ?_, ?_, ?_⟩
  · rw [typed_text]
    exact done
  · rw [stands, ← run.followed]
  · exact fun earlier line later inside more => run.onward inside more
  · cases error : game.error with
    | none =>
        rw [error] at run
        have code : (played session game).code = 0 := by rw [played, error]
        exact .inl ⟨code, run.ending⟩
    | some cause =>
        rw [error] at run
        have code : (played session game).code = 1 := by
          rw [played, error]
          rfl
        exact .inr ⟨code, run.ending⟩

/-- Where the state file is missing, a line that asks to load ends the game with an error. -/
theorem load_without_save_ends_game :
    Text.lines ":load\n:quit\n".toList = [":load".toList, ":quit".toList] ∧
    ∃ game after,
      (playLines ⟨Deed.hall, usualSave⟩ Deed.hallSession
        (byteLines ":load\n:quit\n".toUTF8.data.toList)).on Deed.hallDisk = (game, after) ∧
      game.printed = [prompt, ""] ∧ game.error = some (.saveMissing usualSave) ∧
      (played Deed.hallSession game).code = 1 := by
  refine ⟨by decide, _, _, rfl, rfl, rfl, rfl⟩

end Player

end Narrative
