import RustdeskCli.Foundation.Utf8
import RustdeskCli.Exec.Output
import RustdeskCli.Terminal.Protocol
set_option autoImplicit false

/-!
# Exec: one command on an ephemeral terminal (`src/daemon.rs`, `src/main.rs`)

`exec_command_inner` opens a terminal, drains the prompt, types the command and the
sentinel `echo`, and collects output until the sentinel comes back or the time is
up.  `direct_exec` runs the same two loops on a connection of its own, without a
client to stream to.

The loops are recursions on the arrivals: when nothing more arrives, the timer of
the wait ends them.
-/

namespace RustdeskCli.Exec

open RustdeskCli.Foundation
open RustdeskCli.Session
open RustdeskCli.Terminal

/-! ## The prompt drain -/

/-- How the prompt drain ends. -/
inductive Drained where
  | idle
  | closed (exitCode : Int)
  | terminalError (message : Text)
  | failed (e : Error)
  deriving DecidableEq, Repr

/-- The prompt drain, with an idle timeout that prints as `secs`. -/
def drainPrompt (zstd : Zstd) (secs : Text) : List Arrival → Drained × List Arrival
  | [] => (.idle, [])
  | arrival :: rest =>
      match recvTerminalDataWithTimeout zstd secs arrival with
      | .ok (.data _) => drainPrompt zstd secs rest
      | .ok (.closed exitCode) => (.closed exitCode, rest)
      | .ok (.error message) => (.terminalError message, rest)
      | .error e => if isTerminalResponseTimeout e then (.idle, rest) else (.failed e, rest)

/-! ## The collection loop -/

/-- `exec_output_chunk_response`. -/
def execOutputChunkResponse (data : Bytes) : SessionResponse :=
  .okWithData "exec output chunk".toList
    (.obj [("kind", .str "chunk".toList), ("chunk", .str (fromUtf8Lossy data))])

/-- The client of a streaming `exec`, if there is one: which of the coming writes
fail, and what has been written. -/
structure Client where
  streaming : Bool
  writes : List (Option Error)
  written : List SessionResponse
  deriving Repr

/-- `send_response` to the client. -/
def Client.sendResponse (client : Client) (response : SessionResponse) :
    Except Error Unit × Client :=
  let client' :=
    { client with writes := client.writes.tail, written := client.written ++ [response] }
  match client.writes with
  | some e :: _ => (.error e, client')
  | _ => (.ok (), client')

/-- `if let Some(writer) = stream_writer …`. -/
def Client.sendChunk (client : Client) (data : Bytes) : Except Error Unit × Client :=
  if client.streaming then client.sendResponse (execOutputChunkResponse data)
  else (.ok (), client)

/-- How the collection loop ends. -/
inductive Collected where
  | complete (bytes : Bytes) (timedOut : Bool)
  | closed (exitCode : Int) (bytes : Bytes)
  | terminalError (message : Text)
  | failed (e : Error)
  | writeFailed (e : Error)
  deriving DecidableEq, Repr

/-- The collection loop.  `remaining` is what is left of the deadline, as it prints in
the one timeout that can end the loop; a deadline that has passed before the wait
ends the loop the same way. -/
def collect (zstd : Zstd) (remaining sentinel : Text) :
    Bytes → Client → List Arrival → Collected × Client × List Arrival
  | collected, client, [] => (.complete collected true, client, [])
  | collected, client, arrival :: rest =>
      match recvTerminalDataWithTimeout zstd remaining arrival with
      | .ok (.data data) =>
          match client.sendChunk data with
          | (.error e, client) => (.writeFailed e, client, rest)
          | (.ok (), client) =>
              let collected := collected ++ data
              if (findSentinelOutput (fromUtf8Lossy collected) sentinel).isSome then
                (.complete collected false, client, rest)
              else collect zstd remaining sentinel collected client rest
      | .ok (.closed exitCode) => (.closed exitCode collected, client, rest)
      | .ok (.error message) => (.terminalError message, client, rest)
      | .error e =>
          if isTerminalResponseTimeout e then (.complete collected true, client, rest)
          else (.failed e, client, rest)

/-! ## The daemon's exec -/

/-- The bytes of a text, `str::as_bytes`. -/
def textBytes (text : Text) : Bytes := (String.ofList text).toUTF8.toList

theorem textBytes_eq (text : Text) : textBytes text = text.flatMap String.utf8EncodeChar := by
  rw [textBytes, ByteArray.toList, toList_loop]
  simp [List.utf8Encode]

theorem textBytes_append (xs ys : Text) : textBytes (xs ++ ys) = textBytes xs ++ textBytes ys := by
  simp [textBytes_eq]

theorem textBytes_cons (c : Char) (text : Text) :
    textBytes (c :: text) = String.utf8EncodeChar c ++ textBytes text := by
  simp [textBytes_eq]

/-- What `exec` types: the command, and the sentinel `echo` on a line of its own. -/
def wrapped (command sentinel : Text) : Text :=
  command ++ "\necho '".toList ++ sentinel ++ "'$?\n".toList

/-- The data of a finished `exec`. -/
def execData (command stdout : Text) (exitCode : Int) (timedOut : Bool) : Json :=
  .obj [("command", .str command), ("stdout", .str stdout), ("stderr", .str []),
    ("exit_code", .int exitCode), ("timed_out", .bool timedOut)]

/-- What an `exec` needs from outside: the compression library, the time of day in
nanoseconds, and the remaining time its timeout prints. -/
structure ExecEnv where
  zstd : Zstd
  sentinelId : BitVec 128
  remaining : Text

/-- The parties of a running `exec`. -/
structure ExecState where
  peer : Peer
  client : Client
  activeServiceId : Option Text
  deriving Repr

/-- `format!("Executed `{command}`")`. -/
def executedText (command : Text) : Text := "Executed `".toList ++ command ++ "`".toList

/-- Steps 4 to 6 of `exec_command_inner`, after the command has been sent. -/
def finishExec (env : ExecEnv) (command : Text) (tid : Int) (st : ExecState) :
    Except Error SessionResponse × ExecState :=
  let sentinel := sentinelOf env.sentinelId
  match collect env.zstd env.remaining sentinel [] st.client st.peer.inbox with
  | (ended, client, inbox) =>
      let peer := { st.peer with inbox := inbox }
      let closed : ExecState := ⟨closeTerminal peer tid, client, none⟩
      match ended with
      | .complete bytes timedOut =>
          let (stdout, exitCode) := parseExecOutput (fromUtf8Lossy bytes) sentinel
          (.ok (.okWithData (executedText command) (execData command stdout exitCode timedOut)),
            closed)
      | .closed exitCode bytes =>
          (.ok (.okWithData (executedText command)
            (execData command (Text.trim (fromUtf8Lossy bytes)) exitCode false)), closed)
      | .terminalError message =>
          (.error (.msg ("terminal error during exec: ".toList ++ message)), closed)
      | .failed e =>
          (.error (.msg ("recv error during exec: ".toList ++ e.alternate)), closed)
      -- the `?` on the write returns at once: the terminal stays open
      | .writeFailed e => (.error e, ⟨peer, client, st.activeServiceId⟩)

/-- `exec_command_inner`. -/
def execCommandInner (env : ExecEnv) (command : Text) (st : ExecState) :
    Except Error SessionResponse × ExecState :=
  match openTerminal st.peer 24 80 with
  | (none, peer) => (.error (.msg "terminal open timed out".toList), { st with peer := peer })
  | (some (.error e), peer) => (.error e, { st with peer := peer })
  | (some (.ok info), peer) =>
      let tid := info.terminalId
      match drainPrompt env.zstd "2".toList peer.inbox with
      | (ended, inbox) =>
          let peer := { peer with inbox := inbox }
          match ended with
          | .closed exitCode =>
              (.ok (.okWithData "Terminal closed before exec".toList
                (execData command [] exitCode false)), ⟨peer, st.client, none⟩)
          | .terminalError message =>
              (.error (.msg ("terminal error during prompt drain: ".toList ++ message)),
                ⟨closeTerminal peer tid, st.client, none⟩)
          | .failed e =>
              (.error (.msg ("recv error during prompt drain: ".toList ++ e.alternate)),
                ⟨closeTerminal peer tid, st.client, some info.serviceId⟩)
          | .idle =>
              let typed := textBytes (wrapped command (sentinelOf env.sentinelId))
              match sendTerminalData env.zstd peer tid typed with
              | (.error e, peer) => (.error e, ⟨peer, st.client, some info.serviceId⟩)
              | (.ok (), peer) =>
                  finishExec env command tid ⟨peer, st.client, some info.serviceId⟩

/-! ## The direct exec -/

/-- `direct_exec` after its connection is up: stdout, exit code and whether the time
was up. -/
def directExec (env : ExecEnv) (command : Text) (peer : Peer) :
    Except Error (Text × Int × Bool) × Peer :=
  let sentinel := sentinelOf env.sentinelId
  match openTerminal peer 24 80 with
  | (none, peer) => (.error (.msg "terminal open timed out".toList), peer)
  | (some (.error e), peer) => (.error e, peer)
  | (some (.ok info), peer) =>
      let tid := info.terminalId
      match drainPrompt env.zstd "0.5".toList peer.inbox with
      | (ended, inbox) =>
          let peer := { peer with inbox := inbox }
          match ended with
          | .closed exitCode => (.ok ([], exitCode, false), peer)
          | .terminalError message =>
              (.error (.msg ("terminal error during prompt drain: ".toList ++ message)),
                closeTerminal peer tid)
          | .failed e =>
              (.error (.msg ("recv error during prompt drain: ".toList ++ e.alternate)),
                closeTerminal peer tid)
          | .idle =>
              match sendTerminalData env.zstd peer tid (textBytes (wrapped command sentinel)) with
              | (.error e, peer) => (.error e, peer)
              | (.ok (), peer) =>
                  match collect env.zstd env.remaining sentinel [] ⟨false, [], []⟩ peer.inbox with
                  | (ended, _, inbox) =>
                      let peer := closeTerminal { peer with inbox := inbox } tid
                      match ended with
                      | .complete bytes timedOut =>
                          let (stdout, exitCode) :=
                            parseDirectExecOutput (fromUtf8Lossy bytes) sentinel
                          (.ok (stdout, exitCode, timedOut), peer)
                      | .closed exitCode bytes =>
                          (.ok (Text.trim (fromUtf8Lossy bytes), exitCode, false), peer)
                      | .terminalError message =>
                          (.error (.msg ("terminal error during exec: ".toList ++ message)), peer)
                      | .failed e =>
                          (.error (.msg ("recv error during exec: ".toList ++ e.alternate)), peer)
                      | .writeFailed e => (.error e, peer)

/-! ## What an exec sends -/

/-- The action types something into a terminal. -/
def isData : TerminalAction → Bool
  | .data _ => true
  | _ => false

theorem openTerminal_sent (peer : Peer) (rows cols : Nat) :
    (openTerminal peer rows cols).2.sent = peer.sent ++ [.openTerminal 0 rows cols] := by
  have hsent := peer.sendAction_sent (.openTerminal 0 rows cols)
  rw [openTerminal]
  rcases hsend : peer.sendAction (.openTerminal 0 rows cols) with ⟨e | _, peer'⟩
  · rw [hsend] at hsent
    exact hsent
  · rw [hsend] at hsent
    have hawait : (peer'.await .caller).2.sent = peer'.sent := by
      rw [Peer.await]
      split <;> rfl
    simp only
    split <;> rename_i hnext <;> rw [hnext] at hawait
    · exact hawait.trans hsent
    · exact hawait.trans hsent
    · split <;> exact hawait.trans hsent

/-- Typing sends at most one action. -/
theorem sendTerminalData_sent (zstd : Zstd) (peer : Peer) (tid : Int) (data : Bytes) :
    ∃ extra, (sendTerminalData zstd peer tid data).2.sent = peer.sent ++ extra ∧
      extra.length ≤ 1 := by
  rw [sendTerminalData]
  split
  · exact ⟨[], by simp, by simp⟩
  · rename_i payload compressed _
    have hsent := peer.sendAction_sent (.data ⟨tid, payload, compressed⟩)
    rcases hsend : peer.sendAction (.data ⟨tid, payload, compressed⟩) with ⟨e | _, peer'⟩ <;>
      rw [hsend] at hsent <;> exact ⟨_, hsent, by simp⟩

/-- Typing leaves what is to arrive as it is. -/
theorem sendTerminalData_inbox {zstd : Zstd} {peer peer' : Peer} {tid : Int} {data : Bytes}
    (h : sendTerminalData zstd peer tid data = (.ok (), peer')) : peer.inbox = peer'.inbox := by
  unfold sendTerminalData at h
  simp only at h
  split at h
  · cases h
  · rename_i payload compressed _
    have hinbox := peer.sendAction_inbox (.data ⟨tid, payload, compressed⟩)
    rcases hsend : peer.sendAction (.data ⟨tid, payload, compressed⟩) with ⟨e | _, next⟩
    · rw [hsend] at h
      cases h
    · rw [hsend] at h hinbox
      rw [← (Prod.mk.inj h).2]
      exact hinbox.symm

theorem closeTerminal_sent (peer : Peer) (tid : Int) :
    (closeTerminal peer tid).sent = peer.sent ++ [.closeTerminal tid] :=
  peer.sendAction_sent _

/-- After the command has been typed, nothing more is typed. -/
theorem finishExec_sent (env : ExecEnv) (command : Text) (tid : Int) (st : ExecState) :
    ∃ extra, (finishExec env command tid st).2.peer.sent = st.peer.sent ++ extra ∧
      extra.countP isData = 0 := by
  rw [finishExec]
  rcases collect env.zstd env.remaining (sentinelOf env.sentinelId) [] st.client st.peer.inbox with
    ⟨ended, client, inbox⟩
  cases ended with
  | writeFailed e => exact ⟨[], by simp, rfl⟩
  | complete bytes timedOut => exact ⟨_, closeTerminal_sent _ tid, rfl⟩
  | closed exitCode bytes => exact ⟨_, closeTerminal_sent _ tid, rfl⟩
  | terminalError message => exact ⟨_, closeTerminal_sent _ tid, rfl⟩
  | failed e => exact ⟨_, closeTerminal_sent _ tid, rfl⟩

/-- One `exec` types at most once. -/
theorem execCommandInner_sent (env : ExecEnv) (command : Text) (st : ExecState) :
    ∃ extra, (execCommandInner env command st).2.peer.sent = st.peer.sent ++ extra ∧
      extra.countP isData ≤ 1 := by
  have hopened := openTerminal_sent st.peer 24 80
  rw [execCommandInner]
  rcases hopen : openTerminal st.peer 24 80 with ⟨_ | e | info, peer⟩ <;> rw [hopen] at hopened
  · exact ⟨_, hopened, by decide⟩
  · exact ⟨_, hopened, by decide⟩
  · simp only at hopened ⊢
    rcases drainPrompt env.zstd "2".toList peer.inbox with ⟨ended, inbox⟩
    cases ended with
    | closed exitCode => exact ⟨_, hopened, by decide⟩
    | terminalError message =>
        exact ⟨_, by rw [closeTerminal_sent, hopened, List.append_assoc], by simp [isData]⟩
    | failed e =>
        exact ⟨_, by rw [closeTerminal_sent, hopened, List.append_assoc], by simp [isData]⟩
    | idle =>
        obtain ⟨typed, htyped, hlen⟩ := sendTerminalData_sent env.zstd
          { peer with inbox := inbox } info.terminalId
          (textBytes (wrapped command (sentinelOf env.sentinelId)))
        have hcount := (List.countP_le_length (p := isData) (l := typed)).trans hlen
        rcases hsend : sendTerminalData env.zstd { peer with inbox := inbox } info.terminalId
            (textBytes (wrapped command (sentinelOf env.sentinelId))) with ⟨e | _, peer'⟩ <;>
          rw [hsend] at htyped <;> simp only at htyped ⊢
        · refine ⟨[.openTerminal 0 24 80] ++ typed, ?_, ?_⟩
          · rw [htyped, hopened, List.append_assoc]
          · rw [List.countP_append]
            simpa [isData] using hcount
        · obtain ⟨extra, hextra, hzero⟩ := finishExec_sent env command info.terminalId
            ⟨peer', st.client, some info.serviceId⟩
          refine ⟨[.openTerminal 0 24 80] ++ typed ++ extra, ?_, ?_⟩
          · rw [hextra, htyped, hopened]
            simp
          · rw [List.countP_append, List.countP_append, hzero]
            simpa [isData] using hcount

end RustdeskCli.Exec
