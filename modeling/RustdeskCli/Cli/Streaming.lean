import RustdeskCli.Exec.Command
set_option autoImplicit false

/-!
# Cli: commands that stream responses from the daemon (`src/main.rs`)

`exec` and `push` read response lines from the daemon until the socket is closed:
any number of intermediate lines, a chunk of output or a progress report, and then
the final one.  `send_to_daemon_streaming` returns the last line it has seen,
whatever it is, and an intermediate line says `success` too.

What a callback prints as progress of a `push` is left out: it goes to stderr and
changes nothing else.
-/

namespace RustdeskCli.Cli

open RustdeskCli.Foundation
open RustdeskCli.Session
open RustdeskCli.Exec

/-- `EXIT_SUCCESS`. -/
def exitSuccess : Int := 0

/-- `EXIT_CONNECTION`. -/
def exitConnection : Int := 1

/-- `Response`: what a command prints and exits with. -/
structure Response where
  text : Text
  json : Json
  exitCode : Int

/-- What `read_line` and `serde_json::from_str` make of one line. -/
inductive UdsLine where
  | blank
  | response (response : SessionResponse)
  /-- a line that is no response -/
  | malformed (e : Error)
  /-- reading failed -/
  | failed (e : Error)

section Reader

variable {σ : Type} (onResponse : σ → SessionResponse → σ)

/-- The loop of `send_to_daemon_streaming`; `σ` is what the callback changes. -/
def readResponses : σ → Option SessionResponse → List UdsLine → Except Error SessionResponse × σ
  | seen, lastResponse, [] =>
      match lastResponse with
      | some response => (.ok response, seen)
      | none => (.error (.msg "daemon closed without sending a response".toList), seen)
  | seen, lastResponse, .blank :: rest => readResponses seen lastResponse rest
  | seen, _, .response response :: rest =>
      readResponses (onResponse seen response) (some response) rest
  | seen, _, .malformed e :: _ => (.error e, seen)
  | seen, _, .failed e :: _ => (.error e, seen)

/-- `send_to_daemon_streaming`, where `daemon` is the error of reaching the daemon or the
lines it writes before it closes the socket. -/
def sendToDaemonStreaming (seen : σ) (daemon : Except Error (List UdsLine)) :
    Except Error SessionResponse × σ :=
  match daemon with
  | .error e => (.error e, seen)
  | .ok lines => readResponses onResponse seen none lines

/-- The last line is the answer. -/
theorem readResponses_last (response : SessionResponse) :
    ∀ (responses : List SessionResponse) (seen : σ) (lastResponse : Option SessionResponse),
      ∃ seen', readResponses onResponse seen lastResponse
        ((responses ++ [response]).map .response) = (.ok response, seen') := by
  intro responses
  induction responses with
  | nil => intro seen lastResponse; exact ⟨onResponse seen response, rfl⟩
  | cons r responses ih =>
      intro seen lastResponse
      exact ih (onResponse seen r) (some r)

end Reader

/-- `error_response`. -/
def errorResponse (command code message : Text) (exitCode : Int) : Response where
  text := code ++ ": ".toList ++ message
  json := .obj [("ok", .bool false), ("command", .str command),
    ("error", .obj [("code", .str code), ("message", .str message)])]
  exitCode := exitCode

/-- What every streaming command does with a response that is no success, or with an
error. -/
def failureResponse (command : Text) : Except Error SessionResponse → Response
  | .ok resp =>
      errorResponse command "connection_error".toList
        (resp.message.getD (command ++ " failed".toList)) exitConnection
  | .error e => errorResponse command "connection_error".toList e.display exitConnection

/-! ## exec -/

/-- `exec_response`. -/
def execResponse (command stdout stderr : Text) (exitCode : Int) : Response where
  text := "exec exit_code=".toList ++ (toString exitCode).toList ++ " stdout=".toList ++ stdout
  json := .obj [("ok", .bool true), ("command", .str "exec".toList), ("requested", .str command),
    ("stdout", .str stdout), ("stderr", .str stderr), ("exit_code", .int exitCode)]
  exitCode := exitSuccess

/-- `exec_streaming_response`. -/
def execStreamingResponse (exitCode : Int) (timedOut : Bool) : Response where
  text := "exec exit_code=".toList ++ (toString exitCode).toList ++
    (if timedOut then " timed_out=true".toList else [])
  json := .obj [("ok", .bool true), ("command", .str "exec".toList), ("exit_code", .int exitCode),
    ("timed_out", .bool timedOut)]
  exitCode := exitSuccess

/-- What the callback of `exec` changes. -/
structure ExecSeen where
  printed : Text
  streamedOutput : Bool

/-- The callback of `exec`: print the chunks, unless the output is JSON. -/
def execOnResponse (json : Bool) (seen : ExecSeen) (resp : SessionResponse) : ExecSeen :=
  match resp.data with
  | none => seen
  | some data =>
      if (data.get "kind").bind Json.asStr ≠ some "chunk".toList then seen
      else if json then seen
      else
        match (data.get "chunk").bind Json.asStr with
        | some chunk => ⟨seen.printed ++ chunk, true⟩
        | none => seen

/-- The response of `exec` to a successful answer. -/
def execSuccess (json : Bool) (command : Text) (seen : ExecSeen) (resp : SessionResponse) :
    Response :=
  let data := resp.data.getD (.obj [])
  let stdout := ((data.get "stdout").bind Json.asStr).getD []
  let stderr := ((data.get "stderr").bind Json.asStr).getD []
  let exitCode := asI32 (((data.get "exit_code").bind Json.asI64).getD 0)
  if json then execResponse command stdout stderr exitCode
  else if seen.streamedOutput then
    execStreamingResponse exitCode (((data.get "timed_out").bind Json.asBool).getD false)
  else execResponse command stdout stderr exitCode

/-- `exec` through the daemon. -/
def runExec (json : Bool) (command : Text) (daemon : Except Error (List UdsLine)) : Response :=
  match sendToDaemonStreaming (execOnResponse json) ⟨[], false⟩ daemon with
  | (.ok resp, seen) =>
      if resp.success then execSuccess json command seen resp
      else failureResponse "exec".toList (.ok resp)
  | (.error e, _) => failureResponse "exec".toList (.error e)

/-! ## push -/

/-- `PushProgress`. -/
structure PushProgress where
  sentBytes : Nat
  totalBytes : Nat
  transferredBytes : Nat
  resumedBytes : Nat
  deriving DecidableEq, Repr

/-- The daemon's `push_progress_response`. -/
def pushProgressResponse (remotePath : Text) (progress : PushProgress) : SessionResponse :=
  .okWithData ("push progress ".toList ++ (toString progress.sentBytes).toList ++ "/".toList ++
      (toString progress.totalBytes).toList)
    (.obj [("kind", .str "progress".toList), ("remote_path", .str remotePath),
      ("sent_bytes", .int progress.sentBytes), ("total_bytes", .int progress.totalBytes),
      ("transferred_bytes", .int progress.transferredBytes),
      ("resumed_bytes", .int progress.resumedBytes)])

/-- `push_response`. -/
def pushResponse (localPath remotePath : Text) (sentBytes totalBytes resumedBytes : Nat) :
    Response where
  text := "push sent_bytes=".toList ++ (toString sentBytes).toList ++ " total_bytes=".toList ++
    (toString totalBytes).toList ++ " resumed_bytes=".toList ++ (toString resumedBytes).toList ++
    " remote=".toList ++ remotePath
  json := .obj [("ok", .bool true), ("command", .str "push".toList),
    ("local_path", .str localPath), ("remote_path", .str remotePath),
    ("sent_bytes", .int sentBytes), ("total_bytes", .int totalBytes),
    ("resumed_bytes", .int resumedBytes)]
  exitCode := exitSuccess

/-- The response of `push` to a successful answer. -/
def pushSuccess (localPath remotePath : Text) (resp : SessionResponse) : Response :=
  let data := resp.data.getD (.obj [])
  let field := fun key => ((data.get key).bind Json.asU64).getD 0
  pushResponse localPath remotePath (field "sent_bytes") (field "total_bytes")
    (field "resumed_bytes")

/-- `push` through the daemon. -/
def runPush (localPath remotePath : Text) (daemon : Except Error (List UdsLine)) : Response :=
  match sendToDaemonStreaming (fun (_ : Unit) _ => ()) () daemon with
  | (.ok resp, _) =>
      if resp.success then pushSuccess localPath remotePath resp
      else failureResponse "push".toList (.ok resp)
  | (.error e, _) => failureResponse "push".toList (.error e)

/-! ## Truncated streams -/

/-- The two commands that read a stream of responses. -/
inductive Streamed where
  | exec (command : Text)
  | push (localPath remotePath : Text)

/-- The lines the daemon writes for a command before the final one. -/
def IsIntermediate : Streamed → SessionResponse → Prop
  | .exec _, resp => ∃ data, resp = execOutputChunkResponse data
  | .push _ remotePath, resp => ∃ progress, resp = pushProgressResponse remotePath progress

/-- The exit code of a command when the daemon closes the socket after these lines. -/
def exitCode (json : Bool) (cmd : Streamed) (lines : List SessionResponse) : Int :=
  match cmd with
  | .exec command => (runExec json command (.ok (lines.map .response))).exitCode
  | .push localPath remotePath =>
      (runPush localPath remotePath (.ok (lines.map .response))).exitCode

@[simp] theorem failureResponse_exitCode (command : Text)
    (result : Except Error SessionResponse) :
    (failureResponse command result).exitCode = exitConnection := by
  cases result <;> rfl

@[simp] theorem execSuccess_exitCode (json : Bool) (command : Text) (seen : ExecSeen)
    (resp : SessionResponse) : (execSuccess json command seen resp).exitCode = exitSuccess := by
  rw [execSuccess]
  cases json with
  | true => rfl
  | false => cases seen.streamedOutput <;> rfl

@[simp] theorem pushSuccess_exitCode (localPath remotePath : Text) (resp : SessionResponse) :
    (pushSuccess localPath remotePath resp).exitCode = exitSuccess := rfl

theorem exitCode_nil (json : Bool) (cmd : Streamed) : exitCode json cmd [] = exitConnection := by
  cases cmd <;> rfl

/-- The exit code says success exactly when the last line does. -/
theorem exitCode_concat (json : Bool) (cmd : Streamed) (lines : List SessionResponse)
    (resp : SessionResponse) :
    exitCode json cmd (lines ++ [resp]) = exitSuccess ↔ resp.success = true := by
  have hne : exitConnection ≠ exitSuccess := by decide
  cases cmd with
  | exec command =>
      obtain ⟨seen, hlast⟩ := readResponses_last (execOnResponse json) resp lines ⟨[], false⟩ none
      unfold exitCode runExec sendToDaemonStreaming
      simp only [hlast]
      cases resp.success with
      | true => simp only [if_true, execSuccess_exitCode]
      | false => simp only [Bool.false_eq_true, if_false, failureResponse_exitCode, hne]
  | push localPath remotePath =>
      obtain ⟨seen, hlast⟩ := readResponses_last (fun (_ : Unit) _ => ()) resp lines () none
      unfold exitCode runPush sendToDaemonStreaming
      simp only [hlast]
      cases resp.success with
      | true => simp only [if_true, pushSuccess_exitCode]
      | false => simp only [Bool.false_eq_true, if_false, failureResponse_exitCode, hne]

theorem IsIntermediate.success {cmd : Streamed} {resp : SessionResponse}
    (h : IsIntermediate cmd resp) : resp.success = true := by
  cases cmd with
  | exec command =>
      obtain ⟨data, rfl⟩ := h
      rfl
  | push localPath remotePath =>
      obtain ⟨progress, rfl⟩ := h
      rfl

/-- A truncated stream is told from a complete one exactly when nothing arrived at all,
or nothing is missing. -/
theorem success_only_if_final_iff (json : Bool) (cmd : Streamed)
    (lines : List SessionResponse) (final : SessionResponse)
    (hlines : ∀ resp ∈ lines, IsIntermediate cmd resp) (received : List SessionResponse)
    (hpre : received <+: lines ++ [final]) :
    (exitCode json cmd received = exitSuccess → received = lines ++ [final]) ↔
      (received = [] ∨ received = lines ++ [final]) := by
  constructor
  · intro h
    by_cases hnil : received = []
    · exact .inl hnil
    right
    rcases Text.prefix_append_cases hpre with hin | ⟨tail, htail, rfl⟩
    · -- the last line that arrived is an intermediate one
      cases received using List.reverseRecOn with
      | nil => exact absurd rfl hnil
      | append_singleton received last =>
          exact h ((exitCode_concat json cmd received last).mpr
            (hlines last (hin.subset (by simp))).success)
    · cases tail using List.reverseRecOn with
      | nil =>
          cases lines using List.reverseRecOn with
          | nil => exact absurd rfl hnil
          | append_singleton lines last =>
              rw [List.append_nil] at h
              have := h ((exitCode_concat json cmd lines last).mpr
                (hlines last (by simp)).success)
              simp at this
      | append_singleton tail last =>
          rw [htail.eq_of_length (by have := htail.length_le; simp at this ⊢; omega)]
  · rintro (rfl | rfl) h
    · rw [exitCode_nil] at h
      exact absurd h (by decide)
    · rfl

/-- At one chunk of two lines the condition fails, and so does the property. -/
theorem success_only_if_final_iff_chunk :
    ¬ (exitCode false (.exec "ls".toList) [execOutputChunkResponse [97]] = exitSuccess →
      [execOutputChunkResponse [97]] =
        [execOutputChunkResponse [97]] ++ [SessionResponse.ok "done".toList]) := by
  intro h
  have hiff := success_only_if_final_iff false (.exec "ls".toList) [execOutputChunkResponse [97]]
    (.ok "done".toList) (by intro resp hresp; exact ⟨[97], List.mem_singleton.mp hresp⟩)
    [execOutputChunkResponse [97]] (List.prefix_append _ _)
  rcases hiff.mp h with hnil | hall
  · cases hnil
  · simp at hall

/-- An `exec` that loses the daemon after one chunk of output, and a `push` after one
progress report, exit with success although the final line is missing. -/
theorem truncated_streams_exit_success :
    (∃ lines final received, (∀ resp ∈ lines, IsIntermediate (.exec "ls".toList) resp) ∧
        received <+: lines ++ [final] ∧ received ≠ lines ++ [final] ∧
        exitCode false (.exec "ls".toList) received = exitSuccess) ∧
      ∃ lines final received,
        (∀ resp ∈ lines, IsIntermediate (.push "a".toList "b".toList) resp) ∧
        received <+: lines ++ [final] ∧ received ≠ lines ++ [final] ∧
        exitCode false (.push "a".toList "b".toList) received = exitSuccess := by
  refine ⟨⟨[execOutputChunkResponse [97]], .ok "done".toList, [execOutputChunkResponse [97]],
      ?_, List.prefix_append _ _, by simp, by decide +kernel⟩,
    ⟨[pushProgressResponse "b".toList ⟨1, 2, 1, 0⟩], .ok "done".toList,
      [pushProgressResponse "b".toList ⟨1, 2, 1, 0⟩], ?_, List.prefix_append _ _, by simp,
      by decide +kernel⟩⟩
  · intro resp hresp
    exact ⟨[97], List.mem_singleton.mp hresp⟩
  · intro resp hresp
    exact ⟨⟨1, 2, 1, 0⟩, List.mem_singleton.mp hresp⟩

end RustdeskCli.Cli
