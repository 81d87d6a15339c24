import RustdeskCli.Cli.DaemonArgs
import RustdeskCli.Daemon.Handlers
set_option autoImplicit false

/-!
# Cli: pushing a file without the daemon (`src/main.rs`)

`push --peer` opens a connection of its own and runs the same `PushTransfer` on it as the
daemon does for `push`.  Between two blocks the daemon reports its progress to a client,
and stops when the client does not take the report; `direct_push` draws a progress line
and goes on.  Apart from that the two are the same: what is sent, where it ends, and the
three numbers that are printed.
-/

namespace RustdeskCli.Cli

open RustdeskCli.Foundation
open RustdeskCli.Session
open RustdeskCli.Terminal
open RustdeskCli.Daemon
open RustdeskCli.Transfer

/-! ## Whoever looks on between the blocks -/

section Observed

variable {σ : Type} (zstd : Zstd) (onBlock : PushTransfer → σ → Except Error Unit × σ)

/-- A block that goes through leaves the rest of the loop to be run. -/
theorem sendAllBlocks_of_true {zstd : Zstd} {t t' : PushTransfer} {s s' : Stream}
    (hblock : t.sendNextBlock zstd s = (.ok true, t', s')) :
    sendAllBlocks zstd t s = sendAllBlocks zstd t' s' := by
  unfold sendAllBlocks
  rw [sendBlocks, hblock]

/-- A loop with an observer is the loop without one, up to the point where the observer
fails. -/
theorem sendBlocks_observed (t : PushTransfer) (s : Stream) (seen : σ) :
    ∀ {result : Except Error Unit} {t' : PushTransfer} {s' : Stream} {seen' : σ},
      sendBlocks zstd onBlock t s seen = (result, t', s', seen') →
      sendAllBlocks zstd t s = (result, t', s') ∨
        ∃ e, result = .error e ∧ sendAllBlocks zstd t s = sendAllBlocks zstd t' s' := by
  induction t, s, seen using sendBlocks.induct zstd onBlock with
  | case1 t s seen e t₁ s₁ hblock =>
      intro result t' s' seen' h
      rw [sendBlocks, hblock] at h
      cases h
      left
      rw [sendAllBlocks_eq, sendBlocks, hblock]
  | case2 t s seen t₁ s₁ hblock =>
      intro result t' s' seen' h
      rw [sendBlocks, hblock] at h
      cases h
      left
      rw [sendAllBlocks_eq, sendBlocks, hblock]
  | case3 t s seen t₁ s₁ hblock e seen₁ hcall =>
      intro result t' s' seen' h
      rw [sendBlocks, hblock] at h
      simp only [hcall] at h
      cases h
      exact .inr ⟨e, rfl, sendAllBlocks_of_true hblock⟩
  | case4 t s seen t₁ s₁ hblock seen₁ hcall ih =>
      intro result t' s' seen' h
      rw [sendBlocks, hblock] at h
      simp only [hcall] at h
      rw [sendAllBlocks_of_true hblock]
      exact ih h

/-- A finished loop has counted what it has read. -/
theorem sendAllBlocks_counts {zstd : Zstd} (t : PushTransfer) (s : Stream) {t' : PushTransfer}
    {s' : Stream} (h : sendAllBlocks zstd t s = (.ok (), t', s')) :
    t'.sentBytes ≤ t.sentBytes + t.file.rest.length ∧ t'.totalBytes = t.totalBytes ∧
      t'.resumedBytes = t.resumedBytes := by
  rw [sendAllBlocks_eq] at h
  generalize hseen : () = seen at h
  clear hseen
  induction t, s, seen using sendBlocks.induct zstd (fun _ () => (.ok (), ())) with
  | case1 t s seen e t₁ s₁ hblock =>
      rw [sendBlocks, hblock] at h
      cases h
  | case2 t s seen t₁ s₁ hblock =>
      rw [sendBlocks, hblock] at h
      cases h
      rw [(PushTransfer.sendNextBlock_false hblock).2.1]
      exact ⟨Nat.le_add_right _ _, rfl, rfl⟩
  | case3 t s seen t₁ s₁ hblock e seen₁ hcall => cases hcall
  | case4 t s seen t₁ s₁ hblock seen₁ hcall ih =>
      rw [sendBlocks, hblock] at h
      obtain ⟨hsent, htotal, hresumed⟩ := ih h
      obtain ⟨_, ⟨b⟩⟩ := PushTransfer.sendNextBlock_true hblock
      have hrest := congrArg List.length b.rest
      have hcount : t₁.sentBytes = t.sentBytes + b.chunk.length :=
        congrArg PushTransfer.sentBytes b.transfer
      rw [List.length_append] at hrest
      refine ⟨by omega, htotal.trans ?_, hresumed.trans ?_⟩
      · rw [b.transfer]
      · rw [b.transfer]

end Observed

/-! ## direct_push -/

/-- What `direct_push` returns: the bytes sent, the size of the file, and where the transfer
was resumed. -/
structure PushTotals where
  sentBytes : Nat
  totalBytes : Nat
  resumedBytes : Nat
  deriving DecidableEq, Repr

/-- The three numbers of `PushTransfer::result` that are returned. -/
def pushTotals (t : PushTransfer) : PushTotals := ⟨t.sentBytes, t.totalBytes, t.resumedBytes⟩

/-- What `direct_push` does after a block: draw the progress, unless the output is JSON. -/
def renderBlock (json : Bool) (t : PushTransfer) (drawn : List PushProgress) :
    Except Error Unit × List PushProgress :=
  (.ok (), if json then drawn else drawn ++ [progress t])

/-- `direct_push` on its connection: its result, the stream, and the progress it has drawn.
There is no result while the peer does not answer. -/
def directTransfer (env : CommandEnv) (json : Bool) (localPath remotePath : Text) (s : Stream) :
    Option (Except Error PushTotals) × Stream × List PushProgress :=
  match PushTransfer.begin env.file env.nanos localPath remotePath s with
  | (none, s) => (none, s, [])
  | (some (.error e), s) => (some (.error e), s, [])
  | (some (.ok t), s) =>
      match sendBlocks env.exec.zstd (renderBlock json) t s (renderBlock json t []).2 with
      | (.error e, _, s, drawn) => (some (.error e), s, drawn)
      | (.ok (), t, s, drawn) =>
          match t.waitForDone s with
          | (.error e, s) => (some (.error e), s, drawn)
          | (.ok (), s) => (some (.ok (pushTotals t)), s, drawn)

/-- What `direct_push` meets: the runtime, and `connect_with_mode` under the timeout, which
gives no result when it runs out. -/
structure DirectPushEnv where
  command : CommandEnv
  runtime : Except Error Unit
  connect : ConnectionConfig → Login → Option (Except Error Stream)

/-- `direct_push`. -/
def directPush (env : DirectPushEnv) (options : ConnectOptions) (timeoutSecs : UInt64)
    (localPath remotePath : Text) (json : Bool) : Option (Except Error PushTotals) :=
  match env.runtime with
  | .error e => some (.error e)
  | .ok () =>
      match parseRemoteTarget remotePath localPath with
      | .error e => some (.error e)
      | .ok target =>
          match env.connect (buildDirectConnectionConfig options)
              ⟨.fileTransfer, some (.fileTransfer target.dir false)⟩ with
          | none =>
              some (.error (.msg ("direct push timed out after ".toList ++
                (toString timeoutSecs.toNat).toList ++ "s".toList)))
          | some (.error e) => some (.error e)
          | some (.ok s) => (directTransfer env.command json localPath remotePath s).1

/-- The response of `push --peer`. -/
def directPushResponse (localPath remotePath : Text) : Except Error PushTotals → Response
  | .ok totals =>
      pushResponse localPath remotePath totals.sentBytes totals.totalBytes totals.resumedBytes
  | .error e =>
      errorResponse "push".toList "connection_error".toList e.display exitConnection

/-! ## The two ways -/

section Agreement

variable {env : CommandEnv} (json : Bool) {localPath remotePath : Text} {s : Stream}

/-- A client that takes every report. -/
def Uds.Takes (uds : Uds) : Prop := ∀ e, some e ∉ uds.writes

theorem Uds.Takes.sendResponse {uds : Uds} (h : Uds.Takes uds) (response : SessionResponse) :
    ∃ uds', uds.sendResponse response = (.ok (), uds') ∧ Uds.Takes uds' := by
  unfold Uds.sendResponse Uds.write
  rcases hwrites : uds.writes with _ | ⟨_ | e, writes⟩
  · exact ⟨_, rfl, by simp [Uds.Takes]⟩
  · refine ⟨_, rfl, fun e he => h e ?_⟩
    rw [hwrites]
    exact List.mem_cons_of_mem _ he
  · exact absurd (hwrites ▸ List.mem_cons_self) (h e)

/-- The numbers in the answer of the daemon to a finished push. -/
theorem pushComplete_get (t : PushTransfer) :
    ((pushComplete t).data.getD (.obj [])).get "sent_bytes" = some (.int t.sentBytes) ∧
      ((pushComplete t).data.getD (.obj [])).get "total_bytes" = some (.int t.totalBytes) ∧
      ((pushComplete t).data.getD (.obj [])).get "resumed_bytes" = some (.int t.resumedBytes) := by
  simp only [pushComplete, SessionResponse.okWithData, Option.getD_some, Json.get,
    List.lookup_cons, String.reduceBEq, and_self]

theorem pushSuccess_eq (resp : SessionResponse) :
    pushSuccess localPath remotePath resp =
      pushResponse localPath remotePath
        ((((resp.data.getD (.obj [])).get "sent_bytes").bind Json.asU64).getD 0)
        ((((resp.data.getD (.obj [])).get "total_bytes").bind Json.asU64).getD 0)
        ((((resp.data.getD (.obj [])).get "resumed_bytes").bind Json.asU64).getD 0) := rfl

/-- A number of an `u64` is read back. -/
theorem asU64_natCast {n : Nat} (h : n < 2 ^ 64) : Json.asU64 (.int n) = some n := by
  rw [Json.asU64, if_pos (by omega), Int.toNat_natCast]

end Agreement

/-- A push of the sample file. -/
def samplePush : CommandEnv where
  exec := ⟨storingZstd, 0, "30".toList⟩
  pid := 1
  nanos := 0
  file := sampleFile

end RustdeskCli.Cli
