import RustdeskCli.Cli.CarriedOut
import RustdeskCli.Cli.DirectPush
import RustdeskCli.Cli.Served
set_option autoImplicit false

/-!
# Cli: from a file to the peer (`src/main.rs`, `src/daemon.rs`, `src/file_transfer.rs`)

A `push` that exits with success, followed back over the socket to the run of the daemon that it
has its answer from, and from there to what this run has sent on the peer's stream: where the
file is to go, its bytes from the offset on that the peer asked for, and the end.  The success
does not say that the peer has confirmed anything, since the wait for the confirmation may run
out.
-/

namespace RustdeskCli.Cli

open RustdeskCli.Foundation
open RustdeskCli.Session
open RustdeskCli.Daemon
open RustdeskCli.Transfer

/-! ## A transfer that goes through -/

section Transfer

variable {env : CommandEnv} {localPath remotePath : Text} {s s' : Stream}

/-- An announcement names the target in its first message. -/
theorem announce_receive {file : LocalFile} {jobId : Int} {metadata : Metadata}
    (h : announce file localPath remotePath jobId s = (.ok metadata, s')) :
    ∃ target digest, parseRemoteTarget remotePath localPath = .ok target ∧
      s'.sent = s.sent ++ [.receive
        { id := jobId, path := target.dir, name := target.fileName, size := metadata.len
          modifiedTime := metadata.modifiedTime, fileNum := 1
          totalSize := metadata.len }, digest] := by
  unfold announce at h
  split at h
  · cases h
  · rename_i found hfound
    split at h
    · cases h
    · split at h
      · cases h
      · rename_i target htarget
        split at h
        · cases h
        · rename_i s₁ hrequest
          split at h
          · cases h
          · rename_i s₂ hdigest
            obtain ⟨hfound, rfl⟩ := Prod.mk.inj h
            obtain rfl := Except.ok.inj hfound
            have hsent := s.send_sent (.receive
              { id := jobId, path := target.dir, name := target.fileName, size := found.len
                modifiedTime := found.modifiedTime, fileNum := 1, totalSize := found.len })
            rw [hrequest] at hsent
            unfold sendLocalDigest at hdigest
            have hmore := s₁.send_sent (.digest
              { id := jobId, fileNum := 0, lastModified := found.modifiedTime
                fileSize := found.len, isUpload := false, isIdentical := false
                transferredSize := 0, isResume := true })
            rw [hdigest, hsent, List.append_assoc] at hmore
            exact ⟨target, _, htarget, hmore⟩

/-- So does a transfer that begins. -/
theorem begin_receive {file : LocalFile} {nanos : Nat} {t : PushTransfer}
    (h : PushTransfer.begin file nanos localPath remotePath s = (some (.ok t), s')) :
    ∃ target metadata rest, parseRemoteTarget remotePath localPath = .ok target ∧
      file.metadata = .ok metadata ∧
      s'.sent = s.sent ++ .receive
        { id := t.jobId, path := target.dir, name := target.fileName, size := metadata.len
          modifiedTime := metadata.modifiedTime, fileNum := 1
          totalSize := metadata.len } :: rest := by
  obtain ⟨_, _, _, _, _, _, _, _, _, hjob⟩ := PushTransfer.begin_ok h
  unfold PushTransfer.begin at h
  simp only at h
  split at h
  · cases h
  · rename_i metadata s₁ hannounce
    obtain ⟨target, digest, htarget, hsent⟩ := announce_receive hannounce
    have hreply := recvFileEventSkipping_isTransfer isDone false (newJobId nanos) s₁
    split at h
    · cases h
    · cases h
    · rename_i reply s₂ hrecv
      rw [hrecv] at hreply
      have hresume := resumeFrom_extends s₂ (newJobId nanos) metadata.len reply
      split at h
      · cases h
      · rename_i resumedBytes skipTransfer s₃ hresumed
        rw [hresumed] at hresume
        have hs : s₃ = s' := by
          split at h
          · cases h
          · exact (Prod.mk.inj h).2
        obtain ⟨added, hadded, _⟩ := (hreply.trans hresume).sent
        refine ⟨target, metadata, digest :: added, htarget, announce_metadata hannounce, ?_⟩
        rw [← hs, hadded, hsent, hjob]
        simp

/-- A transfer that went through: `t` as it began and `t'` as it ended, on a stream that was `s`
before and is `s'` after it. -/
structure Pushed (env : CommandEnv) (localPath remotePath : Text) (s s' : Stream)
    (t t' : PushTransfer) : Prop where
  announced : ∃ target modifiedTime rest, parseRemoteTarget remotePath localPath = .ok target ∧
    s'.sent = s.sent ++ .receive
      { id := t.jobId, path := target.dir, name := target.fileName
        size := env.file.content.length, modifiedTime := modifiedTime, fileNum := 1
        totalSize := env.file.content.length } :: rest
  begun : ∃ s₁,
    PushTransfer.begin env.file env.nanos localPath remotePath s = (some (.ok t), s₁) ∧
      (t.skipTransfer = false → Delivered env.exec.zstd env.file.content t t' s₁ s') ∧
      (t.skipTransfer = true → s' = s₁)
  sentBytes : t'.sentBytes = env.file.content.length
  totalBytes : t'.totalBytes = env.file.content.length
  resumed : t'.resumedBytes = t.resumedBytes ∧ t.resumedBytes ≤ env.file.content.length

/-- The file is what its metadata say and does not change, and packing can be undone. -/
structure StableFile (env : CommandEnv) : Prop where
  packing : RoundTrips env.exec.zstd
  length : ∀ metadata, env.file.metadata = .ok metadata →
    metadata.len = env.file.content.length
  bound : env.file.content.length < 2 ^ 64

/-- How a handler that returns an answer comes to it. -/
theorem pushFileCommand_ok {uds uds' : Uds} {final : SessionResponse}
    (h : pushFileCommand env localPath remotePath s uds = (some (.ok final), s', uds')) :
    ∃ t s₁ t' s₂, PushTransfer.begin env.file env.nanos localPath remotePath s =
        (some (.ok t), s₁) ∧
      sendAllBlocks env.exec.zstd t s₁ = (.ok (), t', s₂) ∧ t'.waitForDone s₂ = (.ok (), s') ∧
      final = pushComplete t' := by
  unfold pushFileCommand at h
  split at h
  · cases h
  · cases h
  · rename_i t s₁ hbegin
    split at h
    · cases h
    · rename_i uds₁ hreport
      split at h
      · cases h
      · rename_i t' s₂ uds₂ lastReported hblocks
        split at h
        · cases h
        · rename_i s₃ hdone
          obtain ⟨hfinal, hrest⟩ := Prod.mk.inj h
          obtain ⟨rfl, _⟩ := Prod.mk.inj hrest
          refine ⟨t, s₁, t', s₂, hbegin, ?_, hdone, (Except.ok.inj (Option.some.inj hfinal)).symm⟩
          rcases sendBlocks_observed env.exec.zstd (reportBlock remotePath) t s₁
            (uds₁, t.sentBytes) hblocks with hall | ⟨e, he, _⟩
          · exact hall
          · cases he

/-- A push whose handler returns an answer has gone through. -/
theorem pushed_of_answer (hfile : StableFile env) {uds uds' : Uds} {final : SessionResponse}
    (h : pushFileCommand env localPath remotePath s uds = (some (.ok final), s', uds')) :
    ∃ t t', final = pushComplete t' ∧ Pushed env localPath remotePath s s' t t' := by
  obtain ⟨t, s₁, t', s₂, hbegin, hall, hdone, hfinal⟩ := pushFileCommand_ok h
  obtain ⟨target, metadata, rest, htarget, hmetadata, hsent⟩ := begin_receive hbegin
  obtain ⟨found, reply, s₀, hfound, _, hresume, hopened, htotal, hcount, hjob⟩ :=
    PushTransfer.begin_ok hbegin
  obtain rfl : found = metadata := by
    rw [hmetadata] at hfound
    exact (Except.ok.inj hfound).symm
  have hlen := hfile.length found hmetadata
  obtain ⟨hle, hskipped, _⟩ := resumeFrom_ok hresume
  obtain ⟨_, hsame, hresumed⟩ := sendAllBlocks_counts t s₁ hall
  have hblocks := sendBlocks_extends env.exec.zstd (fun _ () => (.ok (), ())) t s₁ ()
  rw [sendAllBlocks_eq.mp hall] at hblocks
  have hwait := t'.waitForDone_extends s₂
  rw [hdone] at hwait
  obtain ⟨added, hadded, _⟩ := (hblocks.trans hwait).sent
  have hannounced : ∃ target modifiedTime rest,
      parseRemoteTarget remotePath localPath = .ok target ∧
        s'.sent = s.sent ++ .receive
          { id := t.jobId, path := target.dir, name := target.fileName
            size := env.file.content.length, modifiedTime := modifiedTime, fileNum := 1
            totalSize := env.file.content.length } :: rest := by
    refine ⟨target, found.modifiedTime, rest ++ added, htarget, ?_⟩
    rw [hadded, hsent, hlen]
    simp
  have htotal' : t'.totalBytes = env.file.content.length := hsame.trans (htotal.trans hlen)
  refine ⟨t, t', hfinal, ?_⟩
  cases hskip : t.skipTransfer with
  | false =>
      obtain ⟨b⟩ := sendBlocks_sent _ hfile.packing t s₁ () hskip (sendAllBlocks_eq.mp hall)
      have hdelivered := b.delivered hskip (openAt_rest hopened) (hlen ▸ hle) hcount
        (htotal.trans hlen)
      rw [hdone] at hdelivered
      exact ⟨hannounced, ⟨s₁, hbegin, fun _ => hdelivered,
          fun hskips => absurd (hskip.symm.trans hskips) Bool.false_ne_true⟩,
        hdelivered.sentBytes, htotal', hresumed, hlen ▸ hle⟩
  | true =>
      obtain ⟨rfl, rfl⟩ : t = t' ∧ s₁ = s₂ := by
        have hblock : t.sendNextBlock env.exec.zstd s₁ = (.ok false, t, s₁) := by
          unfold PushTransfer.sendNextBlock
          rw [if_pos hskip]
        rw [sendAllBlocks_eq, sendBlocks, hblock] at hall
        cases hall
        exact ⟨rfl, rfl⟩
      have hs : s₁ = s' := by
        unfold PushTransfer.waitForDone at hdone
        rw [if_pos hskip] at hdone
        exact (Prod.mk.inj hdone).2
      exact ⟨hannounced, ⟨s₁, hbegin, fun hsends => absurd (hsends.symm.trans hskip) Bool.false_ne_true,
          fun _ => hs.symm⟩,
        hcount.trans ((hskipped hskip).trans hlen), htotal', hresumed, hlen ▸ hle⟩

end Transfer

/-! ## The client's side -/

section Client

variable {ι : Type} {lib : Capture.ImageLib ι}
variable {commands : Codec SessionCommand Error} {responses : Codec SessionResponse Error}

/-- An entry of an object without repeated keys arrives under its key. -/
theorem get_received {success : Bool} {message : Option Text} {fields : List (String × Json)}
    (hkeys : (fields.map Prod.fst).Nodup) (key : String) :
    ((SessionResponse.received ⟨success, message, some (.obj fields)⟩).data.getD (.obj [])).get
      key = (Json.get key (.obj fields)).map Json.canonical := by
  have hget : (SessionResponse.received ⟨success, message, some (.obj fields)⟩).data.bind
      (Json.get key) = (fields.lookup key).map Json.canonical :=
    SessionResponse.received_get hkeys key
  rw [Json.get, ← hget]
  cases (SessionResponse.received ⟨success, message, some (.obj fields)⟩).data <;> rfl

/-- The numbers of a finished push, as they arrive and are printed. -/
theorem pushSuccess_received {localPath remotePath : Text} {t : PushTransfer}
    (hsent : t.sentBytes < 2 ^ 64) (htotal : t.totalBytes < 2 ^ 64)
    (hresumed : t.resumedBytes < 2 ^ 64) :
    pushSuccess localPath remotePath (pushComplete t).received =
      pushResponse localPath remotePath t.sentBytes t.totalBytes t.resumedBytes := by
  have harrived (key : String) : ((pushComplete t).received.data.getD (.obj [])).get key =
      (((pushComplete t).data.getD (.obj [])).get key).map Json.canonical :=
    get_received (by simp) key
  obtain ⟨hgetSent, hgetTotal, hgetResumed⟩ := pushComplete_get t
  have hprinted (n : Nat) (hn : n < 2 ^ 64) :
      (((some (Json.int n)).map Json.canonical).bind Json.asU64).getD 0 = n := by
    have hnumber : (Json.int n).canonical.asU64 = some n := asU64_natCast hn
    rw [Option.map_some, Option.bind_some, hnumber, Option.getD_some]
  rw [pushSuccess_eq, harrived, harrived, harrived, hgetSent, hgetTotal, hgetResumed,
    hprinted _ hsent, hprinted _ htotal, hprinted _ hresumed]

/-- A `push` that exits with success has sent the file: a run of its handler has named the
target to the peer and sent the content from the offset on that the peer asked for, and what is
printed are the numbers of that run. -/
theorem push_success_delivers (hcommands : commands.Lawful id)
    (hresponses : responses.Lawful SessionResponse.received) (d : DaemonLoop) (req : Request)
    (hfirst : StableFile req.first) (hretry : StableFile req.retry)
    (localPath remotePath : Text)
    (hsuccess : (runPush localPath remotePath (reachDaemon (daemonOver lib commands responses d req)
      (.push localPath remotePath))).exitCode = exitSuccess) :
    ∃ env wakes run uds s' t t',
      RunsOn lib req (.push localPath remotePath) d env wakes run uds ∧
      Pushed env localPath remotePath (run.encrypted.schedule wakes) s' t t' ∧
      runPush localPath remotePath (reachDaemon (daemonOver lib commands responses d req)
        (.push localPath remotePath)) =
          pushResponse localPath remotePath env.file.content.length env.file.content.length
            t.resumedBytes := by
  have hshell : SessionCommand.push localPath remotePath ≠ .shell := nofun
  have hresult := hsuccess
  unfold runPush at hresult
  split at hresult
  · rename_i resp seen hresp
    split at hresult
    · rename_i htold
      obtain ⟨partials, final, rfl, hcarried, _⟩ :=
        carriedOut_of_streaming hcommands hresponses hshell hresp htold
      obtain ⟨env, wakes, run, uds, run', uds', hon, hrun, _⟩ := hcarried
      have hfile : StableFile env := by
        cases hon with
        | first => exact hfirst
        | retry => exact hretry
      replace hrun : DaemonLoop.runPush localPath remotePath env wakes run uds =
        some (.ok final, run', uds') := hrun
      unfold DaemonLoop.runPush at hrun
      split at hrun
      · cases hrun
      · rename_i result s' uds₁ hpush
        obtain ⟨rfl, _⟩ := Prod.mk.inj (Option.some.inj hrun)
        obtain ⟨t, t', rfl, hpushed⟩ := pushed_of_answer hfile hpush
        refine ⟨env, wakes, run, uds, s', t, t', hon, hpushed, ?_⟩
        have hbound := hfile.bound
        have hsent := hpushed.sentBytes
        have htotal := hpushed.totalBytes
        obtain ⟨hresumed, hle⟩ := hpushed.resumed
        have hprinted : pushSuccess localPath remotePath (pushComplete t').received =
            pushResponse localPath remotePath t'.sentBytes t'.totalBytes t'.resumedBytes :=
          pushSuccess_received (by omega) (by omega) (by omega)
        unfold runPush
        rw [hresp]
        simp only [htold, if_true]
        rw [hprinted, hsent, htotal, hresumed]
    · exact absurd hresult exitConnection_ne
  · exact absurd hresult exitConnection_ne

/-- The answer ends with a line that says success. -/
def endsWithSuccess (written : List Output) : Bool :=
  match written.getLast? with
  | some (.line response) => response.success
  | _ => false

/-- `push` exits with success exactly when the daemon's answer ends with one. -/
theorem push_exit_iff (hcommands : commands.Lawful id)
    (hresponses : responses.Lawful SessionResponse.received) {d d' : DaemonLoop} (req : Request)
    (localPath remotePath : Text) {uds : Uds}
    (hhandled : d.handleRequest lib { req with line := .ok (.push localPath remotePath) } =
      some (uds, d')) :
    (runPush localPath remotePath (reachDaemon (daemonOver lib commands responses d req)
      (.push localPath remotePath))).exitCode = exitSuccess ↔
        endsWithSuccess uds.written = true := by
  obtain ⟨partials, final, hwritten, _, _⟩ := handleRequest_lines (by simp) hhandled
  have hreached : reachDaemon (daemonOver lib commands responses d req)
      (.push localPath remotePath) =
        .ok ((partials.map SessionResponse.received ++ [final.received]).map .response) := by
    show Except.ok ((daemonOver lib commands responses d req).lines
      (.push localPath remotePath)) = _
    rw [daemonOver_lines lib commands responses hcommands, hhandled, Option.elim_some, hwritten,
      flatMap_outputBytes, linesRead_stream hresponses, List.map_append, List.map_singleton]
  have hlast : endsWithSuccess uds.written = final.success := by
    unfold endsWithSuccess
    rw [hwritten, List.map_append, List.map_singleton, List.getLast?_concat]
  rw [hreached, hlast]
  exact exitCode_concat false (.push localPath remotePath) (partials.map SessionResponse.received)
    final.received

end Client

/-- A daemon on a peer that has the first byte of the file. -/
def pushDaemon : DaemonLoop :=
  { sampleDaemon with
    encrypted := { sampleDaemon.encrypted with inbox := sampleStream.inbox } }

/-- What its handler meets: the sample file. -/
def pushRequest : Request :=
  { sampleRequest (.ok (.push "a.bin".toList "/remote/".toList)) []
      (.error (.msg "refused".toList)) with
    first := samplePush
    retry := samplePush }

/-- Its file and its packing do not let it down. -/
theorem stableFile_samplePush : StableFile samplePush := by
  refine ⟨?_, ?_, by decide⟩
  · intro data packed h
    rw [← Except.ok.inj h]
    rfl
  · intro metadata h
    rw [← Except.ok.inj h]
    rfl

/-- The push of four bytes to that peer reports all four. -/
theorem push_success_delivers_four :
    ∃ resumedBytes, runPush "a.bin".toList "/remote/".toList
        (reachDaemon (daemonOver sampleImages commandCodec responseCodec pushDaemon pushRequest)
          (.push "a.bin".toList "/remote/".toList)) =
      pushResponse "a.bin".toList "/remote/".toList 4 4 resumedBytes := by
  have hends : (pushDaemon.handleRequest sampleImages pushRequest).any
      (fun handled => endsWithSuccess handled.1.written) = true := by decide +kernel
  obtain ⟨⟨uds, d'⟩, hhandled, hsuccess⟩ := (Option.any_eq_true _ _).mp hends
  have hexit := (push_exit_iff commandCodec_lawful responseCodec_lawful pushRequest
    "a.bin".toList "/remote/".toList hhandled).mpr hsuccess
  obtain ⟨env, wakes, run, uds₀, s', t, t', hon, _, hprinted⟩ :=
    push_success_delivers commandCodec_lawful responseCodec_lawful pushDaemon pushRequest
      stableFile_samplePush stableFile_samplePush "a.bin".toList "/remote/".toList hexit
  have henv : env.file.content.length = 4 := by cases hon <;> rfl
  rw [henv] at hprinted
  exact ⟨t.resumedBytes, hprinted⟩

end RustdeskCli.Cli
