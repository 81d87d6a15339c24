import RustdeskCli.Daemon.TerminalCleanup
import RustdeskCli.Terminal.Session
set_option autoImplicit false

/-!
# Daemon: how an interactive session ends (`src/daemon.rs`, `src/terminal.rs`)

`shell_session` and `run_terminal_session` have the same loop over two kinds of output.
It should be left when somebody ends the session: the input is at its end, the terminal
closes or reports an error, the stream fails, or the output does.  But every wait for the
terminal is `recv_terminal_data`, whose timer ends it after fifteen seconds with an error,
and neither loop asks `is_terminal_response_timeout` as the loops of `exec` do: for both
this error is one like any other.  So a session in which nothing is typed and nothing is
printed for that long is over, and every other end is one of the proper ones.
-/

namespace RustdeskCli.Daemon

open RustdeskCli.Foundation
open RustdeskCli.Session
open RustdeskCli.Terminal
open RustdeskCli.Exec

/-! ## What a session is made of -/

/-- The terminal keeps to its protocol, and what is typed can be sent at all.  Everything
else, messages for somebody else, failures of the stream and the timers among them, may
happen at any time. -/
def Event.OfSession (zstd : Zstd) : Event → Prop
  | .line (some text) => packs zstd (textBytes text) = true
  | .frame (.undecodable _) => False
  | .frame (.message (.terminalResponse none)) => False
  | .frame (.message (.terminalResponse (some (.opened _)))) => False
  | .frame (.message (.terminalResponse (some (.data td)))) =>
      td.compressed = true → ∃ data, zstd.decodeAll td.data = .ok data
  | _ => True

/-- The same for a session without the daemon. -/
def OfDirectSession (zstd : Zstd) : DirectEvent → Prop
  | .stdin (some data) => packs zstd data = true
  | .stdin none => True
  | .stream event => event.OfSession zstd

/-- The timer of a wait for the terminal ends it. -/
def Event.IsExpiry (event : Event) : Prop := ∃ timer, event = .elapsed timer

/-- The same for a session without the daemon. -/
def IsDirectExpiry (event : DirectEvent) : Prop := ∃ timer, event = .stream (.elapsed timer)

/-! ## How it may end -/

/-- The stream fails, the terminal closes or reports an error, or its output cannot be
written. -/
def EndsTerminal (outputFails : Prop) : Event → Prop
  | .frame (.failed _) => True
  | .frame (.message (.terminalResponse (some (.closed _)))) => True
  | .frame (.message (.terminalResponse (some (.error _)))) => True
  | .frame (.message (.terminalResponse (some (.data _)))) => outputFails
  | _ => False

/-- An event that may end a shell: the client's end, a line that the stream does not take, or
the end of the terminal. -/
def EndsShell (st : ShellState) : Event → Prop
  | .line none => True
  | .line (some _) => nextOutcome st.peer.sends ≠ none
  | event => EndsTerminal (nextOutcome st.uds.writes ≠ none) event

/-- The same for a session without the daemon, which writes and then flushes. -/
def EndsDirect (st : DirectState) : DirectEvent → Prop
  | .stdin none => True
  | .stdin (some _) => nextOutcome st.peer.sends ≠ none
  | .stream event =>
      EndsTerminal (nextOutcome st.stdout.calls ≠ none ∨ nextOutcome st.stdout.calls.tail ≠ none)
        event

/-! ## One round -/

theorem sendTerminalData_fails {zstd : Zstd} {peer peer' : Peer} {tid : Int} {data : Bytes}
    {e : Error} (hpacks : packs zstd data = true)
    (h : sendTerminalData zstd peer tid data = (.error e, peer')) :
    nextOutcome peer.sends ≠ none := by
  intro hnext
  obtain ⟨td, -, -, hsend⟩ := sendTerminalData_of_packs peer hnext hpacks tid
  rw [h] at hsend
  cases hsend

theorem write_fails {uds uds' : Uds} {output : Output} {e : Error}
    (h : uds.write output = (.error e, uds')) : nextOutcome uds.writes ≠ none := by
  rcases write_cases uds output with ⟨e, writes, _, hwrites, -⟩ | ⟨-, _, hwrite, -⟩
  · rw [hwrites]
    intro hnone
    cases hnone
  · rw [h] at hwrite
    cases hwrite

theorem print_fails {stdout stdout' : Stdout} {data : Bytes} {e : Error}
    (h : stdout.print data = (.error e, stdout')) :
    nextOutcome stdout.calls ≠ none ∨ nextOutcome stdout.calls.tail ≠ none := by
  unfold Stdout.print at h
  dsimp only at h
  split at h
  · rename_i hcalls
    refine .inl ?_
    rw [hcalls]
    intro hnone
    cases hnone
  · split at h
    · rename_i hcalls
      refine .inr ?_
      rw [hcalls]
      intro hnone
      cases hnone
    · cases h

/-- What a wait for the terminal comes to: output, or the end of the terminal or of the
wait. -/
theorem received_cases {zstd : Zstd} {event : Event} (h : event.OfSession zstd)
    {arrival : Arrival} (harrival : event.peerEvent.arrival = some arrival) :
    (∃ data, recvTerminalDataWithTimeout zstd "15".toList arrival = .ok (.data data) ∧
      ∀ fails : Prop, fails → EndsTerminal fails event) ∨
    (∀ data, recvTerminalDataWithTimeout zstd "15".toList arrival ≠ .ok (.data data)) ∧
      ((∀ fails, EndsTerminal fails event) ∨ event.IsExpiry) := by
  rcases event with (_ | m | e | e) | timer | line
  case frame.message =>
    cases m with
    | terminalResponse union =>
        rcases union with _ | (opened | td | closed | error)
        · exact absurd h id
        · exact absurd h id
        · cases harrival
          refine .inl ?_
          unfold recvTerminalDataWithTimeout recvTerminalResponse
          dsimp only
          by_cases hcompressed : td.compressed = true
          · obtain ⟨data, hdata⟩ := h hcompressed
            refine ⟨data, ?_, fun _ hfails => hfails⟩
            rw [if_pos hcompressed, hdata]
          · exact ⟨td.data, if_neg hcompressed, fun _ hfails => hfails⟩
        · cases harrival
          exact .inr ⟨(by intro _ hdata; cases hdata), .inl fun _ => trivial⟩
        · cases harrival
          exact .inr ⟨(by intro _ hdata; cases hdata), .inl fun _ => trivial⟩
    | _ => cases harrival
  case frame.undecodable => exact absurd h id
  case frame.failed =>
    cases harrival
    exact .inr ⟨(by intro _ hdata; cases hdata), .inl fun _ => trivial⟩
  case elapsed =>
    cases harrival
    exact .inr ⟨(by intro _ hdata; cases hdata), .inr ⟨timer, rfl⟩⟩
  all_goals cases harrival

/-- A round of the loop of a shell ends it by one of the proper ends or by an expiry. -/
theorem shellStep_ends {zstd : Zstd} {tid : Int} {st : ShellState} {event : Event}
    {ended : Except Error Unit × ShellState} (hevent : event.OfSession zstd)
    (h : shellStep zstd tid st (event.shell zstd) = .inl ended) :
    EndsShell st event ∨ event.IsExpiry := by
  -- what the stream delivers
  have harrived (hline : ∀ text, event ≠ .line text)
      (hends : EndsTerminal (nextOutcome st.uds.writes ≠ none) event → EndsShell st event) :
      EndsShell st event ∨ event.IsExpiry := by
    rw [Event.shell] at h
    · rcases harrival : event.peerEvent.arrival with _ | arrival
      · rw [harrival] at h
        cases h
      · rw [harrival] at h
        dsimp only at h
        rcases received_cases hevent harrival with ⟨data, hdata, houtput⟩ | ⟨-, hend | hexpiry⟩
        · rw [hdata] at h
          unfold shellStep at h
          dsimp only at h
          split at h
          · rename_i hwrite
            exact .inl (hends (houtput _ (write_fails hwrite)))
          · cases h
        · exact .inl (hends (hend _))
        · exact .inr hexpiry
    · exact fun text => hline (some text)
    · exact hline none
  cases event with
  | frame frame => exact harrived (by intro _ hline; cases hline) id
  | elapsed timer => exact .inr ⟨timer, rfl⟩
  | line text =>
      rcases text with _ | text
      · exact .inl trivial
      · refine .inl ?_
        unfold Event.shell shellStep at h
        dsimp only at h
        split at h
        · rename_i hsend
          exact sendTerminalData_fails hevent hsend
        · cases h

/-- The same for a round without the daemon. -/
theorem directRound_ends {zstd : Zstd} {tid : Int} {st : DirectState} {event : DirectEvent}
    {ended : Except Error Unit × DirectState} (hevent : OfDirectSession zstd event)
    (h : directRound zstd tid st event = .inl ended) :
    EndsDirect st event ∨ IsDirectExpiry event := by
  rcases event with (_ | data) | event
  · exact .inl trivial
  · refine .inl ?_
    unfold directRound at h
    dsimp only at h
    split at h
    · rename_i hsend
      exact sendTerminalData_fails hevent hsend
    · cases h
  · unfold directRound at h
    dsimp only at h
    rcases harrival : event.peerEvent.arrival with _ | arrival
    · rw [harrival] at h
      cases h
    · rw [harrival] at h
      dsimp only at h
      rcases received_cases hevent harrival with
        ⟨data, hdata, houtput⟩ | ⟨-, hend | ⟨timer, rfl⟩⟩
      · rw [hdata] at h
        dsimp only at h
        split at h
        · rename_i hprint
          exact .inl (houtput _ (print_fails hprint))
        · cases h
      · exact .inl (hend _)
      · exact .inr ⟨timer, rfl⟩

/-! ## Whole sessions -/

/-- Whenever the loop of `shell_session` or of `run_terminal_session` is left, somebody has
ended the session, exactly if no wait for the terminal has expired. -/
theorem session_ended_by_someone_iff (zstd : Zstd) (tid : Int) (lost : Option Error) :
    (∀ st read ended, (∀ event ∈ read, event.OfSession zstd) →
      LeavesAfter (shellLoop zstd tid lost) shellLeaving read st ended →
      (EndsBy (shellLoop zstd tid lost) EndsShell read st ↔ ∀ event ∈ read, ¬ event.IsExpiry)) ∧
    (∀ st read ended, (∀ event ∈ read, OfDirectSession zstd event) →
      LeavesAfter (terminalLoop zstd tid lost) directLeaving read st ended →
      (EndsBy (terminalLoop zstd tid lost) EndsDirect read st ↔
        ∀ event ∈ read, ¬ IsDirectExpiry event)) := by
  constructor
  · intro st read ended hread hleaves
    refine (shellLoop_rounds zstd tid lost).endsBy_iff
      (fun _ _ _ => shellStep_ends) ?_ ?_ hread hleaves
    · rintro st st' _ ⟨timer, rfl⟩ h
      cases h
    · rintro st _ ⟨timer, rfl⟩ h
      exact h
  · intro st read ended hread hleaves
    refine (terminalLoop_rounds zstd tid lost).endsBy_iff
      (fun _ _ _ => directRound_ends) ?_ ?_ hread hleaves
    · rintro st st' _ ⟨timer, rfl⟩ h
      cases h
    · rintro st _ ⟨timer, rfl⟩ h
      exact h

/-- The output of the sample terminal. -/
def sampleOutput : Event := .frame (.message (.terminalResponse (some (.data ⟨7, [0x24], false⟩))))

/-- A shell, and a session without the daemon, in which a line is typed, a prompt is printed
and the input ends. -/
theorem session_ended_by_someone_typed :
    EndsBy (shellLoop ⟨.ok, .ok⟩ 7 none) EndsShell
        [.line (some "ls\n".toList), sampleOutput, .line none] ⟨⟨[], [], []⟩, ⟨[], []⟩, none⟩ ∧
      EndsBy (terminalLoop ⟨.ok, .ok⟩ 7 none) EndsDirect
        [.stdin (some [0x6c]), .stream sampleOutput, .stdin none] ⟨⟨[], [], []⟩, ⟨[], []⟩⟩ := by
  obtain ⟨hshell, hdirect⟩ := session_ended_by_someone_iff ⟨.ok, .ok⟩ 7 none
  have hline : textBytes "ls\n".toList = [0x6c, 0x73, 0x0a] := by
    rw [textBytes_eq]
    rfl
  have htyped : LeavesAfter (shellLoop ⟨.ok, .ok⟩ 7 none) shellLeaving
      [.line (some "ls\n".toList), sampleOutput, .line none] ⟨⟨[], [], []⟩, ⟨[], []⟩, none⟩
      (.ok (), ⟨⟨[], [], [.data ⟨7, [0x6c, 0x73, 0x0a], false⟩, .closeTerminal 7]⟩,
        ⟨[], [.raw [0x24]]⟩, none⟩) := by
    intro rest
    rw [List.cons_append, shellLoop, hline]
    rfl
  have hchunk : LeavesAfter (terminalLoop ⟨.ok, .ok⟩ 7 none) directLeaving
      [.stdin (some [0x6c]), .stream sampleOutput, .stdin none] ⟨⟨[], [], []⟩, ⟨[], []⟩⟩
      (.ok (), ⟨⟨[], [], [.data ⟨7, [0x6c], false⟩, .closeTerminal 7]⟩, ⟨[], [[0x24]]⟩⟩) :=
    fun _ => rfl
  refine ⟨(hshell _ _ _ ?_ htyped).mpr ?_, (hdirect _ _ _ ?_ hchunk).mpr ?_⟩
  · refine List.forall_mem_cons.mpr ⟨?_, by simp [Event.OfSession, sampleOutput]⟩
    rw [Event.OfSession, hline]
    rfl
  · simp [Event.IsExpiry, sampleOutput]
  · simp [OfDirectSession, Event.OfSession, sampleOutput, packs, compressThreshold]
  · simp [IsDirectExpiry, sampleOutput]

/-- Nothing but silence for fifteen seconds: the shell is left with a success and forgets its
terminal before the line that the client types next, and the session without the daemon
fails. -/
theorem silence_ends_session :
    (∃ ended, LeavesAfter (shellLoop ⟨.ok, .ok⟩ 7 none) shellLeaving [.elapsed .response]
        ⟨⟨[], [], []⟩, ⟨[], []⟩, none⟩ ended) ∧
      ¬ EndsBy (shellLoop ⟨.ok, .ok⟩ 7 none) EndsShell [.elapsed .response]
        ⟨⟨[], [], []⟩, ⟨[], []⟩, none⟩ ∧
      (∃ ended, LeavesAfter (terminalLoop ⟨.ok, .ok⟩ 7 none) directLeaving
        [.stream (.elapsed .response)] ⟨⟨[], [], []⟩, ⟨[], []⟩⟩ ended) ∧
      ¬ EndsBy (terminalLoop ⟨.ok, .ok⟩ 7 none) EndsDirect [.stream (.elapsed .response)]
        ⟨⟨[], [], []⟩, ⟨[], []⟩⟩ ∧
      (shellSession ⟨.ok, .ok⟩ (openedStream [.elapsed .response, .line (some ['l', '\n'])])
        ⟨[], []⟩ none).1 = .ok () ∧
      (shellSession ⟨.ok, .ok⟩ (openedStream [.elapsed .response, .line (some ['l', '\n'])])
        ⟨[], []⟩ none).2.1.sent = [.terminal (.openTerminal 0 24 80)] ∧
      (runTerminalSession ⟨.ok, .ok⟩ none none (openedStream [.elapsed .response])
        [.stream, .stdin (some [0x6c])] ⟨[], []⟩).1 =
        .error (((terminalResponseTimeoutError "15".toList).context
          "receiving terminal data".toList).context "receiving terminal output".toList) := by
  refine ⟨⟨(.ok (), ⟨⟨[], [], []⟩, ⟨[], []⟩, none⟩), fun _ => rfl⟩, ?_,
    ⟨(.error _, ⟨⟨[], [], []⟩, ⟨[], []⟩⟩), fun _ => rfl⟩, ?_, rfl, rfl, rfl⟩
  · exact not_endsBy_singleton fun _ h => h
  · exact not_endsBy_singleton fun _ h => h

end RustdeskCli.Daemon
