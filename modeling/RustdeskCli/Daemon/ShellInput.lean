import RustdeskCli.Daemon.TerminalCleanup
import RustdeskCli.Foundation.ByteOffsets
set_option autoImplicit false

/-!
# Daemon: what a shell types (`src/daemon.rs`)

The reader task of `shell_session` reads the client's bytes line by line into strings and
hands them to the loop through a channel, which keeps their order; the channel's end is
the client's end.  `read_line` fails on a line that is not UTF-8, and the task takes that
for the end too: the line and everything after it are not typed.

The loop itself stops early when its wait for the terminal ends in an error, and an idle
terminal ends that wait after 15 seconds.
-/

namespace RustdeskCli.Daemon

open RustdeskCli.Foundation
open RustdeskCli.Session
open RustdeskCli.Terminal
open RustdeskCli.Exec

/-! ## The reader task -/

/-- Bytes before the first of some lines. -/
def glue (bytes : Bytes) : List Bytes → List Bytes
  | [] => [bytes]
  | line :: lines => (bytes ++ line) :: lines

/-- The lines `read_line` reads one after the other, each with its line feed. -/
def byteLines : Bytes → List Bytes
  | [] => []
  | b :: bytes => if b = 0x0A then [b] :: byteLines bytes else glue [b] (byteLines bytes)

/-- The loop of the reader task on the lines, up to the end of the channel. -/
def readerLoop : List Bytes → List (Option Text)
  | [] => [none]
  | line :: lines =>
      match fromUtf8 line with
      | some text => some text :: readerLoop lines
      -- `Err(_) => break`
      | none => [none]

/-- What the reader task hands to the loop of the shell. -/
def readerTask (input : Bytes) : List (Option Text) := readerLoop (byteLines input)

/-- The bytes of the lines before the end of the channel. -/
def typedLines : List (Option Text) → List Bytes
  | some text :: lines => textBytes text :: typedLines lines
  | _ => []

theorem glue_append (xs ys : Bytes) (lines : List Bytes) :
    glue (xs ++ ys) lines = glue xs (glue ys lines) := by
  cases lines <;> simp [glue]

theorem glue_flatten (bytes : Bytes) (lines : List Bytes) :
    (glue bytes lines).flatten = bytes ++ lines.flatten := by
  cases lines <;> simp [glue]

theorem byteLines_flatten (bytes : Bytes) : (byteLines bytes).flatten = bytes := by
  induction bytes with
  | nil => rfl
  | cons b bytes ih =>
      rw [byteLines]
      split
      · rw [List.flatten_cons, ih]
        rfl
      · rw [glue_flatten, ih]
        rfl

theorem glue_ne_nil {bytes : Bytes} (hbytes : bytes ≠ []) {lines : List Bytes}
    (hlines : ∀ line ∈ lines, line ≠ []) : ∀ line ∈ glue bytes lines, line ≠ [] := by
  cases lines with
  | nil => simpa [glue] using hbytes
  | cons line lines =>
      intro other hother
      rcases List.mem_cons.mp hother with rfl | hother
      · simp [hbytes]
      · exact hlines other (List.mem_cons_of_mem _ hother)

theorem byteLines_ne_nil (bytes : Bytes) : ∀ line ∈ byteLines bytes, line ≠ [] := by
  induction bytes with
  | nil => simp [byteLines]
  | cons b bytes ih =>
      rw [byteLines]
      split
      · intro line hline
        rcases List.mem_cons.mp hline with rfl | hline
        · simp
        · exact ih line hline
      · exact glue_ne_nil (by simp) ih

/-- Bytes without a line feed stay in one line. -/
theorem byteLines_append {xs : Bytes} (hne : xs ≠ []) (hlf : 0x0A ∉ xs) (ys : Bytes) :
    byteLines (xs ++ ys) = glue xs (byteLines ys) := by
  induction xs with
  | nil => exact absurd rfl hne
  | cons b xs ih =>
      have hb : b ≠ 0x0A := fun h => hlf (by rw [h]; exact List.mem_cons_self)
      rw [List.cons_append, byteLines, if_neg hb]
      cases xs with
      | nil => rfl
      | cons c xs =>
          rw [ih (by simp) fun h => hlf (List.mem_cons_of_mem _ h), ← glue_append]
          rfl

/-! ## Which input is typed -/

/-- The byte of a line feed is in the encoding of no other character. -/
theorem eq_lf_of_mem_encodeChar {c : Char} (h : 0x0A ∈ String.utf8EncodeChar c) : c = '\n' :=
  Text.eq_of_mem_encodeChar (by decide) h

/-- The lines of a text are texts. -/
theorem byteLines_textBytes (text : Text) :
    ∀ line ∈ byteLines (textBytes text), ∃ lineText, textBytes lineText = line := by
  induction text with
  | nil => simp [textBytes_eq, byteLines]
  | cons c text ih =>
      rw [textBytes_cons]
      by_cases hc : c = '\n'
      · intro line hline
        rw [hc] at hline
        rcases List.mem_cons.mp (show line ∈ [0x0A] :: byteLines (textBytes text) from hline) with
          rfl | hline
        · exact ⟨['\n'], by rw [textBytes_eq]; rfl⟩
        · exact ih line hline
      · rw [byteLines_append String.utf8EncodeChar_ne_nil fun h => hc (eq_lf_of_mem_encodeChar h)]
        cases hlines : byteLines (textBytes text) with
        | nil => simpa [glue] using ⟨[c], by simp [textBytes_eq]⟩
        | cons first lines =>
            rw [hlines] at ih
            intro line hline
            rcases List.mem_cons.mp hline with rfl | hline
            · obtain ⟨lineText, rfl⟩ := ih first List.mem_cons_self
              exact ⟨c :: lineText, textBytes_cons c lineText⟩
            · exact ih line (List.mem_cons_of_mem _ hline)

/-- Texts make a text. -/
theorem exists_text_flatten {lines : List Bytes}
    (h : ∀ line ∈ lines, ∃ text, textBytes text = line) :
    ∃ text, textBytes text = lines.flatten := by
  induction lines with
  | nil => exact ⟨[], by simp [textBytes_eq]⟩
  | cons line lines ih =>
      obtain ⟨text, htext⟩ := h line List.mem_cons_self
      obtain ⟨rest, hrest⟩ := ih fun other hother => h other (List.mem_cons_of_mem _ hother)
      exact ⟨text ++ rest, by rw [textBytes_append, htext, hrest, List.flatten_cons]⟩

theorem fromUtf8_eq_some {line : Bytes} {text : Text} :
    fromUtf8 line = some text ↔ textBytes text = line := by
  rw [fromUtf8_eq_some_iff, textBytes_eq]

/-- The reader task hands over all of the lines exactly when all of them are texts. -/
theorem typedLines_readerLoop_iff {lines : List Bytes} (hne : ∀ line ∈ lines, line ≠ []) :
    (typedLines (readerLoop lines)).flatten = lines.flatten ↔
      ∀ line ∈ lines, ∃ text, textBytes text = line := by
  induction lines with
  | nil => simp [readerLoop, typedLines]
  | cons line lines ih =>
      rw [List.forall_mem_cons, readerLoop]
      cases htext : fromUtf8 line with
      | some text =>
          have hline := fromUtf8_eq_some.mp htext
          simp only [typedLines, List.flatten_cons, hline, List.append_right_inj]
          rw [ih fun other hother => hne other (List.mem_cons_of_mem _ hother)]
          exact (and_iff_right ⟨text, hline⟩).symm
      | none =>
          refine iff_of_false ?_ ?_
          · simp [typedLines, hne line List.mem_cons_self]
          · rintro ⟨⟨text, hline⟩, _⟩
            rw [fromUtf8_eq_some.mpr hline] at htext
            cases htext

/-- What the reader task hands over is the input exactly when the input is UTF-8. -/
theorem typedLines_readerTask_iff (input : Bytes) :
    (typedLines (readerTask input)).flatten = input ↔ ∃ text, textBytes text = input := by
  have hlines := typedLines_readerLoop_iff (byteLines_ne_nil input)
  rw [byteLines_flatten, ← readerTask] at hlines
  rw [hlines]
  constructor
  · intro h
    have hwhole := exists_text_flatten h
    rwa [byteLines_flatten] at hwhole
  · rintro ⟨text, rfl⟩
    exact byteLines_textBytes text

theorem none_mem_readerLoop (lines : List Bytes) : none ∈ readerLoop lines := by
  induction lines with
  | nil => exact List.mem_singleton_self _
  | cons line lines ih =>
      rw [readerLoop]
      split
      · exact List.mem_cons_of_mem _ ih
      · exact List.mem_singleton_self _

/-! ## What the loop types -/

/-- The line of the client, if the event is one. -/
def Event.clientLine : Event → Option (Option Text)
  | .line text => some text
  | _ => none

/-- What the channel delivers among the events. -/
def clientLines (events : List Event) : List (Option Text) := events.filterMap Event.clientLine

/-- The loop sees the client's lines as they are, and nothing else as the client's. -/
theorem shell_cases (zstd : Zstd) (event : Event) :
    (∃ text, event = .line (some text)) ∨ event = .line none ∨
      event.clientLine = none ∧ (∀ data, event.shell zstd ≠ .typed data) ∧
        event.shell zstd ≠ .ended := by
  have harrived (hline : ∀ text, event ≠ .line text) :
      (∀ data, event.shell zstd ≠ .typed data) ∧ event.shell zstd ≠ .ended := by
    rw [Event.shell]
    · cases event.peerEvent.arrival with
      | none => simp
      | some arrival =>
          simp only
          rcases recvTerminalDataWithTimeout zstd "15".toList arrival with
            e | data | exitCode | message <;> simp
    · exact fun text => hline (some text)
    · exact hline none
  cases event with
  | frame frame => exact .inr (.inr ⟨rfl, harrived (by simp)⟩)
  | elapsed timer => exact .inr (.inr ⟨rfl, harrived (by simp)⟩)
  | line text =>
      cases text with
      | none => exact .inr (.inl rfl)
      | some text => exact .inl ⟨text, rfl⟩

theorem shell_eq_ended_iff {zstd : Zstd} {event : Event} :
    event.shell zstd = .ended ↔ event = .line none := by
  constructor
  · intro hended
    rcases shell_cases zstd event with ⟨text, rfl⟩ | hline | ⟨-, -, hother⟩
    · cases hended
    · exact hline
    · exact absurd hended hother
  · rintro rfl
    rfl

/-- Before the client's end, the lines that are typed are those the loop sees, one by one. -/
theorem clientLines_cons {zstd : Zstd} {event : Event} (hended : event.shell zstd ≠ .ended)
    (events : List Event) :
    typedLines (clientLines (event :: events)) =
        (event.shell zstd).typedData ++ typedLines (clientLines events) ∧
      (none ∈ clientLines (event :: events) ↔ none ∈ clientLines events) := by
  rcases shell_cases zstd event with ⟨text, rfl⟩ | rfl | ⟨hline, htyped, -⟩
  · have hlines : clientLines (.line (some text) :: events) = some text :: clientLines events := rfl
    rw [hlines]
    exact ⟨rfl, by simp⟩
  · exact absurd rfl hended
  · have hlines : clientLines (event :: events) = clientLines events := by
      simp [clientLines, hline]
    have hdata : (event.shell zstd).typedData = [] := by
      cases hshell : event.shell zstd with
      | typed data => exact absurd hshell (htyped data)
      | ended => rfl
      | skipped => rfl
      | printed data => rfl
      | closed => rfl
      | broken => rfl
    rw [hlines, hdata]
    exact ⟨rfl, Iff.rfl⟩

/-- What the loop of a shell sends: the client's lines as long as it goes on, each as one
message, and `CloseTerminal` when it gets to the client's end. -/
theorem shellLoop_types (zstd : Zstd) (tid : Int) (lost : Option Error) :
    ∀ (events : List Event) (st : ShellState), (∀ e, some e ∉ st.peer.sends) →
      none ∈ clientLines events →
      ∃ datas : List TerminalData, (∀ td ∈ datas, td.terminalId = tid) ∧
        (LoopRuns zstd (· = some (.line none)) st.uds.writes events ∧
            (shellLoop zstd tid lost events st).2.1.peer.sent =
              st.peer.sent ++ (datas.map .data ++ [.closeTerminal tid]) ∧
            List.Forall₂ (Carries zstd) datas (typedLines (clientLines events)) ∨
          ¬ LoopRuns zstd (· = some (.line none)) st.uds.writes events ∧
            (shellLoop zstd tid lost events st).2.1.peer.sent =
              st.peer.sent ++ datas.map .data) := by
  intro events
  induction events with
  | nil => intro st _ hend; cases hend
  | cons event events ih =>
      intro st hsends hend
      rw [shellLoop_cons]
      rcases shellStep_cases zstd tid event hsends with
        ⟨datas, next, hstep, hround⟩ | ⟨result, next, hstep, hround⟩ | ⟨hpass, hended | hclosed⟩
      · obtain ⟨hlines, hnone⟩ := clientLines_cons hround.not_ended events
        obtain ⟨rest, htids, hruns⟩ := ih next hround.sends (hnone.mp hend)
        rw [hstep, Sum.elim_inr, hround.runs, hlines]
        refine ⟨datas ++ rest, List.forall_mem_append.mpr ⟨hround.tids, htids⟩, ?_⟩
        rcases hruns with ⟨hruns, hsent, hcarry⟩ | ⟨hruns, hsent⟩
        · refine .inl ⟨hruns, ?_, List.rel_append hround.carries hcarry⟩
          rw [hsent, hround.sent, List.map_append, List.append_assoc, List.append_assoc]
        · refine .inr ⟨hruns, ?_⟩
          rw [hsent, hround.sent, List.map_append, List.append_assoc]
      · rw [hstep, Sum.elim_inl]
        refine ⟨[], by simp, .inr ⟨?_, by rw [hround.sent]; simp⟩⟩
        intro hruns
        exact hround.not_ended (shell_eq_ended_iff.mpr (Option.some.inj (hround.runs _ _ hruns)))
      · obtain rfl := shell_eq_ended_iff.mp hended
        refine ⟨[], by simp, .inl ⟨(loopRuns_stop hpass).mpr rfl, closeTerminal_sent _ _, ?_⟩⟩
        exact .nil
      · rw [hclosed]
        refine ⟨[], by simp, .inr ⟨?_, by simp [shellStep]⟩⟩
        intro hruns
        have hfirst := (loopRuns_stop hpass).mp hruns
        obtain rfl := Option.some.inj hfirst
        cases hclosed

/-! ## What a shell types -/

/-- The bytes a message types. -/
def decompressed (zstd : Zstd) (td : TerminalData) : Option Bytes :=
  if td.compressed then (zstd.decodeAll td.data).toOption else some td.data

/-- After its terminal is open, the shell types the input into it, in any number of
messages, and closes it. -/
def ShellTypes (zstd : Zstd) (s : Stream) (uds : Uds) (serviceId : Option Text)
    (info : TerminalInfo) (peer : Peer) (input : Bytes) : Prop :=
  ∃ datas : List TerminalData,
    (shellSession zstd s uds serviceId).2.1.sent = (s.after peer).sent ++
      (datas.map TerminalAction.data ++ [TerminalAction.closeTerminal info.terminalId]).map
        Outgoing.terminal ∧
    (∀ td ∈ datas, td.terminalId = info.terminalId) ∧
    (datas.mapM (decompressed zstd)).map List.flatten = some input

/-- The shell gets to the client's end: the client takes the acknowledgement and all that
is printed, every line can be sent, and nothing but the client's end ends the loop. -/
def ReachesEnd (zstd : Zstd) (writes : List (Option Error)) (events : List Event) : Prop :=
  (∀ e, some e ∉ writes.take 1) ∧ LoopRuns zstd (· = some (.line none)) writes.tail events

/-- What the messages carry is what they type. -/
theorem mapM_decompressed {zstd : Zstd}
    (hzstd : ∀ data payload, zstd.encodeAll data = .ok payload → zstd.decodeAll payload = .ok data)
    {datas : List TerminalData} {lines : List Bytes}
    (h : List.Forall₂ (Carries zstd) datas lines) :
    datas.mapM (decompressed zstd) = some lines := by
  induction h with
  | nil => rfl
  | @cons td line datas lines hcarries _ ih =>
      have hline : decompressed zstd td = some line := by
        rw [Carries] at hcarries
        rw [decompressed]
        split
        · rename_i hcompressed
          rw [if_pos hcompressed] at hcarries
          rw [hzstd line td.data hcarries]
          rfl
        · rename_i hplain
          rw [if_neg hplain] at hcarries
          rw [hcarries]
      rw [List.mapM_cons, hline, ih]
      rfl

/-- A shell types its client's bytes as they are exactly when they are UTF-8 and it gets to
the client's end.  The lines come from the reader task, in any order with what the terminal
does. -/
theorem shellTypes_iff (zstd : Zstd) {s : Stream} (uds : Uds) (serviceId : Option Text)
    {info : TerminalInfo} {peer : Peer} {input : Bytes}
    (hopen : openTerminal s.peer 24 80 = (some (.ok info), peer))
    (hsends : ∀ e, some e ∉ peer.sends)
    (hzstd : ∀ data payload, zstd.encodeAll data = .ok payload → zstd.decodeAll payload = .ok data)
    (hlines : clientLines (s.after peer).inbox = readerTask input) :
    ShellTypes zstd s uds serviceId info peer input ↔
      (∃ text, textBytes text = input) ∧ ReachesEnd zstd uds.writes (s.after peer).inbox := by
  have hinj : Function.Injective Outgoing.terminal := fun _ _ h => Outgoing.terminal.inj h
  have hinj' : Function.Injective TerminalAction.data := fun _ _ h => TerminalAction.data.inj h
  unfold ShellTypes shellSession
  simp only [hopen, Uds.sendResponse]
  rcases write_cases uds (.line (shellAck info.terminalId)) with
    ⟨e, writes, uds', hwrites, hwrite⟩ | ⟨hfirst, uds', hwrite, hwrites⟩
  · simp only [hwrite]
    refine iff_of_false ?_ ?_
    · rintro ⟨datas, hsent, _⟩
      simp at hsent
    · exact fun h => h.2.1 e (by rw [hwrites]; simp)
  · simp only [hwrite]
    obtain ⟨datas, htids, hruns⟩ := shellLoop_types zstd info.terminalId (s.after peer).lost
      (s.after peer).inbox ⟨⟨[], (s.after peer).sends, []⟩, uds', some info.serviceId⟩ hsends
      (by rw [hlines]; exact none_mem_readerLoop _)
    rcases hruns with ⟨hruns, hsent, hcarries⟩ | ⟨hruns, hsent⟩
    · have htyped := mapM_decompressed hzstd hcarries
      rw [hlines] at htyped
      rw [ReachesEnd, ← hwrites, and_iff_left ⟨hfirst, hruns⟩, ← typedLines_readerTask_iff]
      simp only [hsent]
      constructor
      · rintro ⟨other, hother, _, hinput⟩
        rw [List.nil_append, List.append_right_inj, hinj.list_map.eq_iff, List.append_left_inj,
          hinj'.list_map.eq_iff] at hother
        rw [← hother, htyped] at hinput
        exact Option.some.inj hinput
      · intro hinput
        exact ⟨datas, rfl, htids, by rw [htyped, Option.map_some, hinput]⟩
    · rw [ReachesEnd, ← hwrites]
      refine iff_of_false ?_ (fun h => hruns h.2.2)
      simp only [hsent]
      rintro ⟨other, hother, _, _⟩
      rw [List.nil_append, List.append_right_inj, hinj.list_map.eq_iff] at hother
      have hclose : TerminalAction.closeTerminal info.terminalId ∈
          datas.map TerminalAction.data := by
        rw [hother]
        simp
      simp at hclose

/-- A line that is a text is handed over. -/
theorem readerTask_line {line : Bytes} {text : Text} (hline : byteLines line = [line])
    (htext : textBytes text = line) : readerTask line = [some text, none] := by
  rw [readerTask, hline, readerLoop, fromUtf8_eq_some.mpr htext]
  rfl

/-- `ls` and a line feed, while another message arrives. -/
theorem shellTypes_ls :
    ShellTypes ⟨.ok, .ok⟩
      (openedStream [.line (some ['l', 's', '\n']), .frame .heartbeat, .line none]) ⟨[], []⟩ none
      ⟨7, 1, ['s']⟩ ⟨[], [], [.openTerminal 0 24 80]⟩ [0x6C, 0x73, 0x0A] := by
  have htext : textBytes ['l', 's', '\n'] = [0x6C, 0x73, 0x0A] := by
    rw [textBytes_eq]
    rfl
  refine (shellTypes_iff ⟨.ok, .ok⟩ ⟨[], []⟩ none rfl (by simp) (by simp) ?_).mpr ⟨⟨_, htext⟩, ?_⟩
  · exact (readerTask_line rfl htext).symm
  · refine ⟨by simp, by simp, ?_⟩
    decide +kernel

/-- A byte that is not UTF-8 is not typed; and after 15 seconds without output of the
terminal, the shell is over before the line that comes then. -/
theorem shellTypes_lost_input :
    (clientLines [.line none] = readerTask [0xFF] ∧
      ¬ ShellTypes ⟨.ok, .ok⟩ (openedStream [.line none]) ⟨[], []⟩ none ⟨7, 1, ['s']⟩
        ⟨[], [], [.openTerminal 0 24 80]⟩ [0xFF]) ∧
      clientLines [.elapsed .response, .line (some ['l', 's', '\n']), .line none] =
        readerTask [0x6C, 0x73, 0x0A] ∧
      ¬ ShellTypes ⟨.ok, .ok⟩
        (openedStream [.elapsed .response, .line (some ['l', 's', '\n']), .line none]) ⟨[], []⟩ none
        ⟨7, 1, ['s']⟩ ⟨[.elapsed .response], [], [.openTerminal 0 24 80]⟩ [0x6C, 0x73, 0x0A] := by
  refine ⟨⟨?_, ?_⟩, ?_, ?_⟩
  · have hinvalid : fromUtf8 [0xFF] = none := by
      cases htext : fromUtf8 [0xFF] with
      | none => rfl
      | some text =>
          have hencode := fromUtf8_eq_some_iff.mp htext
          have hback := fromUtf8Lossy_encode text
          rw [hencode] at hback
          rw [← hback] at hencode
          exact absurd hencode (by decide)
    have hlines : byteLines [0xFF] = [[0xFF]] := rfl
    rw [readerTask, hlines, readerLoop, hinvalid]
    rfl
  · rintro ⟨datas, hsent, _, hinput⟩
    have hall : [Outgoing.terminal (.openTerminal 0 24 80), .terminal (.closeTerminal 7)] =
        [Outgoing.terminal (.openTerminal 0 24 80)] ++
          (datas.map TerminalAction.data ++ [TerminalAction.closeTerminal 7]).map
            Outgoing.terminal := hsent
    cases datas with
    | nil => cases hinput
    | cons td datas => simp at hall
  · exact (readerTask_line rfl (by rw [textBytes_eq]; rfl)).symm
  · rintro ⟨datas, hsent, _, _⟩
    have hall : [Outgoing.terminal (.openTerminal 0 24 80)] =
        [Outgoing.terminal (.openTerminal 0 24 80)] ++
          (datas.map TerminalAction.data ++ [TerminalAction.closeTerminal 7]).map
            Outgoing.terminal := hsent
    simp at hall

end RustdeskCli.Daemon
