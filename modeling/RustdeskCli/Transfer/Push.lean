import RustdeskCli.Daemon.Stream
import RustdeskCli.Transfer.RemoteTarget
set_option autoImplicit false

/-!
# Transfer: pushing one file (`src/file_transfer.rs`)

`PushTransfer::begin` announces the file and its digest and waits for the peer to say
from which offset it wants it; `send_next_block` reads, compresses and sends one block
at a time; `wait_for_done` says that the file is complete.

The local file is its content and a schedule of reads: how many bytes each coming read
returns, at least one unless the end of the file has been reached.
-/

namespace RustdeskCli.Transfer

open RustdeskCli.Foundation
open RustdeskCli.Session
open RustdeskCli.Terminal
open RustdeskCli.Daemon

/-- `FILE_TRANSFER_BLOCK_SIZE`. -/
def fileTransferBlockSize : Nat := 128 * 1024

/-! ## The local file -/

/-- What `begin` reads of the metadata of the local file. -/
structure Metadata where
  isFile : Bool
  len : Nat
  /-- seconds since the epoch, zero when they are not known -/
  modifiedTime : Nat
  deriving DecidableEq, Repr

/-- The local file: what the calls on it return. -/
structure LocalFile where
  metadata : Except Error Metadata
  opened : Except Error Unit
  sought : Except Error Unit
  content : Bytes
  /-- the results of the coming reads; a read after the last of these fills its buffer -/
  reads : List (Except Error Nat)

/-- An open `File`: what is left of it after its position. -/
structure File where
  rest : Bytes
  reads : List (Except Error Nat)
  deriving DecidableEq

/-- `File::read` into a buffer of the block size: some bytes, none only at the end. -/
def File.read (file : File) : Except Error Bytes × File :=
  let full := min fileTransferBlockSize file.rest.length
  match file.reads with
  | .error e :: reads => (.error e, { file with reads := reads })
  | .ok n :: reads =>
      let len := min (max 1 n) full
      (.ok (file.rest.take len), ⟨file.rest.drop len, reads⟩)
  | [] => (.ok (file.rest.take full), ⟨file.rest.drop full, []⟩)

/-! ## Events of a transfer -/

/-- `FileTransferEvent`. -/
inductive FileTransferEvent where
  | digest (digest : FileTransferDigest)
  | confirm (confirm : SendConfirm)
  | done (done : FileTransferDone)
  | error (error : FileTransferError)
  deriving DecidableEq, Repr

/-- What one round of the loop of `recv_file_event` makes of a frame. -/
inductive FileStep where
  | again
  | event (event : FileTransferEvent)
  | failed (e : Error)
  deriving DecidableEq, Repr

/-- An event counts when it is about this job. -/
def ofJob (jobId id : Int) (event : FileTransferEvent) : FileStep :=
  if id = jobId then .event event else .again

/-- One round of the loop of `recv_file_event`. -/
def fileStep (jobId : Int) (s : Stream) : Frame → FileStep × Stream
  | .heartbeat => (.again, s)
  | .failed e => (.failed (e.context "receiving file transfer message".toList), s)
  | .undecodable e => (.failed (e.context "decoding file transfer message".toList), s)
  | .message (.sendConfirm confirm) => (ofJob jobId confirm.id (.confirm confirm), s)
  | .message (.digest digest) => (ofJob jobId digest.id (.digest digest), s)
  | .message (.fileDone done) => (ofJob jobId done.id (.done done), s)
  | .message (.fileError error) => (ofJob jobId error.id (.error error), s)
  | .message (.testDelay td) =>
      match s.send (.testDelay td.echo) with
      | (.ok (), s) => (.again, s)
      | (.error e, s) =>
          (.failed (e.context "echoing TestDelay during file transfer".toList), s)
  | .message (.closeReason reason) =>
      (.failed (.msg ("peer closed file transfer session: ".toList ++ reason)), s)
  | .message _ => (.again, s)

/-- `recv_file_event`, called again as long as it returns an event that `skip` passes
over; `none` when the caller's timer ends the wait or, without a timer, when there is
nothing left to read and the wait goes on. -/
def recvFileEventSkipping (skip : FileTransferEvent → Bool) (timed : Bool) (jobId : Int) :
    List Event → Stream → Option (Except Error FileTransferEvent) × Stream
  | [], s =>
      (s.lost.map fun e => .error (e.context "receiving file transfer message".toList),
        { s with inbox := [] })
  | .line _ :: inbox, s => recvFileEventSkipping skip timed jobId inbox s
  | .elapsed _ :: inbox, s =>
      if timed then (none, { s with inbox := inbox })
      else recvFileEventSkipping skip timed jobId inbox s
  | .frame frame :: inbox, s =>
      match fileStep jobId s frame with
      | (.again, s) => recvFileEventSkipping skip timed jobId inbox s
      | (.failed e, s) => (some (.error e), { s with inbox := inbox })
      | (.event event, s) =>
          if skip event then recvFileEventSkipping skip timed jobId inbox s
          else (some (.ok event), { s with inbox := inbox })

/-- `recv_file_event`. -/
def recvFileEvent (timed : Bool) (jobId : Int) (s : Stream) :
    Option (Except Error FileTransferEvent) × Stream :=
  recvFileEventSkipping (fun _ => false) timed jobId s.inbox s

/-! ## The transfer -/

/-- `PushTransfer`. -/
structure PushTransfer where
  localPath : Text
  remotePath : Text
  file : File
  totalBytes : Nat
  sentBytes : Nat
  transferredBytes : Nat
  resumedBytes : Nat
  jobId : Int
  skipTransfer : Bool
  deriving DecidableEq

/-- `new_job_id`, from the time in nanoseconds. -/
def newJobId (nanos : Nat) : Int := (nanos % (2 ^ 31 - 2) : Nat) + 1

/-- `u32::MAX`. -/
def u32Max : Nat := 2 ^ 32 - 1

/-- `send_local_digest`. -/
def sendLocalDigest (s : Stream) (jobId : Int) (totalBytes modifiedTime : Nat) (isResume : Bool) :
    Except Error Unit × Stream :=
  s.send (.digest
    { id := jobId, fileNum := 0, lastModified := modifiedTime, fileSize := totalBytes
      isUpload := false, isIdentical := false, transferredSize := 0, isResume := isResume })

/-- `confirm_upload_from_remote_digest`. -/
def confirmUploadFromRemoteDigest (s : Stream) (jobId : Int) (digest : FileTransferDigest)
    (totalBytes : Nat) : Except Error Nat × Stream :=
  let resumedBytes :=
    if digest.isIdentical then min (min digest.transferredSize.toNat totalBytes) u32Max else 0
  match s.send (.sendConfirm
      ⟨jobId, digest.fileNum, some (.offsetBlk (UInt32.ofNat resumedBytes))⟩) with
  | (.error e, s) => (.error (e.context "sending file transfer confirmation".toList), s)
  | (.ok (), s) => (.ok resumedBytes, s)

/-- What `begin` makes of the reply: the offset to resume from, and whether there is
nothing to send. -/
def resumeFrom (s : Stream) (jobId : Int) (totalBytes : Nat) :
    FileTransferEvent → Except Error (Nat × Bool) × Stream
  | .digest digest =>
      match confirmUploadFromRemoteDigest s jobId digest totalBytes with
      | (.error e, s) => (.error e, s)
      | (.ok resumedBytes, s) => (.ok (resumedBytes, false), s)
  | .confirm confirm =>
      match confirm.union with
      | some (.skip true) => (.ok (totalBytes, true), s)
      | some (.offsetBlk offset) => (.ok (min offset.toNat totalBytes, false), s)
      | _ => (.ok (0, false), s)
  | .error err => (.error (.msg ("file transfer error: ".toList ++ err.error)), s)
  -- the loop of `begin` passes over these
  | .done _ => (.ok (0, false), s)

/-- The loop of `begin` goes on after a `Done`. -/
def isDone : FileTransferEvent → Bool
  | .done _ => true
  | _ => false

/-- The first half of `begin`: the announcement of the file. -/
def announce (file : LocalFile) (localPath remotePath : Text) (jobId : Int) (s : Stream) :
    Except Error Metadata × Stream :=
  match file.metadata with
  | .error e =>
      (.error (e.context ("reading local file metadata for ".toList ++ localPath)), s)
  | .ok metadata =>
      if !metadata.isFile then
        (.error (.msg ("push supports single files only: ".toList ++ localPath)), s)
      else
        match parseRemoteTarget remotePath localPath with
        | .error e => (.error e, s)
        | .ok target =>
            match s.send (.receive
                { id := jobId, path := target.dir, name := target.fileName, size := metadata.len
                  modifiedTime := metadata.modifiedTime, fileNum := 1
                  totalSize := metadata.len }) with
            | (.error e, s) => (.error (e.context "sending file transfer request".toList), s)
            | (.ok (), s) =>
                match sendLocalDigest s jobId metadata.len metadata.modifiedTime true with
                | (.error e, s) => (.error (e.context "sending local file digest".toList), s)
                | (.ok (), s) => (.ok metadata, s)

/-- The last part of `begin`: the local file, opened at the offset to resume from. -/
def openAt (file : LocalFile) (localPath : Text) (resumedBytes : Nat) : Except Error File :=
  match file.opened with
  | .error e => .error (e.context ("opening local file ".toList ++ localPath))
  | .ok () =>
      if resumedBytes > 0 then
        match file.sought with
        | .error e =>
            .error (e.context ("seeking local file ".toList ++ localPath ++
              " to resume offset ".toList ++ (toString resumedBytes).toList))
        | .ok () => .ok ⟨file.content.drop resumedBytes, file.reads⟩
      else .ok ⟨file.content, file.reads⟩

/-- `PushTransfer::begin`; `none` while the peer does not answer. -/
def PushTransfer.begin (file : LocalFile) (nanos : Nat) (localPath remotePath : Text)
    (s : Stream) : Option (Except Error PushTransfer) × Stream :=
  let jobId := newJobId nanos
  match announce file localPath remotePath jobId s with
  | (.error e, s) => (some (.error e), s)
  | (.ok metadata, s) =>
      match recvFileEventSkipping isDone false jobId s.inbox s with
      | (none, s) => (none, s)
      | (some (.error e), s) =>
          (some (.error (e.context "waiting for file transfer confirmation".toList)), s)
      | (some (.ok event), s) =>
          match resumeFrom s jobId metadata.len event with
          | (.error e, s) => (some (.error e), s)
          | (.ok (resumedBytes, skipTransfer), s) =>
              match openAt file localPath resumedBytes with
              | .error e => (some (.error e), s)
              | .ok opened =>
                  (some (.ok
                    { localPath := localPath, remotePath := remotePath, file := opened
                      totalBytes := metadata.len, sentBytes := resumedBytes
                      transferredBytes := 0, resumedBytes := resumedBytes, jobId := jobId
                      skipTransfer := skipTransfer }), s)

/-- `compress_chunk`: compressed only if that makes it smaller. -/
def compressChunk (zstd : Zstd) (chunk : Bytes) : Except Error (Bytes × Bool) :=
  match zstd.encodeAll chunk with
  | .error e => .error (e.context "zstd compression failed".toList)
  | .ok compressed =>
      if compressed.length < chunk.length then .ok (compressed, true) else .ok (chunk, false)

/-- `PushTransfer::send_next_block`. -/
def PushTransfer.sendNextBlock (zstd : Zstd) (t : PushTransfer) (s : Stream) :
    Except Error Bool × PushTransfer × Stream :=
  if t.skipTransfer then (.ok false, t, s)
  else
    match t.file.read with
    | (.error e, file) =>
        (.error (e.context ("reading local file ".toList ++ t.localPath)),
          { t with file := file }, s)
    | (.ok chunk, file) =>
        if chunk.length = 0 then (.ok false, { t with file := file }, s)
        else
          match compressChunk zstd chunk with
          | .error e => (.error e, { t with file := file }, s)
          | .ok (data, compressed) =>
              let t := { t with
                file := file
                sentBytes := t.sentBytes + chunk.length
                transferredBytes := t.transferredBytes + data.length }
              match s.send (.block ⟨t.jobId, 0, data, compressed, 0⟩) with
              | (.error e, s) =>
                  (.error (e.context ("sending file block for ".toList ++ t.localPath)), t, s)
              | (.ok (), s) => (.ok true, t, s)

/-- `PushTransfer::wait_for_done`. -/
def PushTransfer.waitForDone (t : PushTransfer) (s : Stream) : Except Error Unit × Stream :=
  if t.skipTransfer then (.ok (), s)
  else
    match s.send (.fileDone ⟨t.jobId, 0⟩) with
    | (.error e, s) => (.error (e.context "sending file transfer completion".toList), s)
    | (.ok (), s) =>
        match recvFileEvent true t.jobId s with
        | (some (.ok (.error err)), s) =>
            (.error (.msg ("file transfer error: ".toList ++ err.error)), s)
        | (_, s) => (.ok (), s)

/-! ## One block -/

theorem File.read_ok {file file' : File} {chunk : Bytes} (h : file.read = (.ok chunk, file')) :
    file.rest = chunk ++ file'.rest ∧ chunk.length ≤ fileTransferBlockSize ∧
      (chunk.length = 0 → file.rest = []) := by
  unfold File.read at h
  simp only at h
  -- whatever the schedule says, some prefix of the rest is taken
  have htake : ∀ len, len ≤ min fileTransferBlockSize file.rest.length →
      (len = 0 → file.rest = []) → chunk = file.rest.take len → file'.rest = file.rest.drop len →
      file.rest = chunk ++ file'.rest ∧ chunk.length ≤ fileTransferBlockSize ∧
        (chunk.length = 0 → file.rest = []) := by
    intro len hlen hzero hchunk hrest
    have hlength : chunk.length = len := by
      rw [hchunk, List.length_take]
      omega
    refine ⟨by rw [hchunk, hrest, List.take_append_drop], by omega, ?_⟩
    intro hnone
    exact hzero (by omega)
  have hpos : 0 < fileTransferBlockSize := by decide
  split at h
  · cases h
  · rename_i n reads _
    obtain ⟨hchunk, rfl⟩ := Prod.mk.inj h
    refine htake _ (min_le_right _ _) ?_ (Except.ok.inj hchunk).symm rfl
    intro hzero
    exact List.eq_nil_of_length_eq_zero (by omega)
  · obtain ⟨hchunk, rfl⟩ := Prod.mk.inj h
    refine htake _ le_rfl ?_ (Except.ok.inj hchunk).symm rfl
    intro hzero
    exact List.eq_nil_of_length_eq_zero (by omega)

/-- What the peer makes of a block: decompressed exactly if its flag says so. -/
def unpack (zstd : Zstd) (block : FileTransferBlock) : Except Error Bytes :=
  if block.compressed then zstd.decodeAll block.data else .ok block.data

/-- What zstd does: decompression undoes compression. -/
def RoundTrips (zstd : Zstd) : Prop :=
  ∀ data packed, zstd.encodeAll data = .ok packed → zstd.decodeAll packed = .ok data

theorem unpack_compressChunk {zstd : Zstd} (hzstd : RoundTrips zstd) {chunk data : Bytes}
    {compressed : Bool} (h : compressChunk zstd chunk = .ok (data, compressed))
    (id fileNum : Int) (blkId : Nat) :
    unpack zstd ⟨id, fileNum, data, compressed, blkId⟩ = .ok chunk := by
  unfold compressChunk at h
  split at h
  · cases h
  · rename_i packed hpacked
    split at h
    · obtain ⟨rfl, rfl⟩ := Prod.mk.inj (Except.ok.inj h)
      exact hzstd chunk packed hpacked
    · obtain ⟨rfl, rfl⟩ := Prod.mk.inj (Except.ok.inj h)
      rfl

/-- What one sent block is: a nonempty piece of the file and its packed form. -/
structure SentBlock (zstd : Zstd) (t t' : PushTransfer) (s s' : Stream) where
  chunk : Bytes
  data : Bytes
  compressed : Bool
  rest : t.file.rest = chunk ++ t'.file.rest
  nonempty : 0 < chunk.length
  bounded : chunk.length ≤ fileTransferBlockSize
  packed : compressChunk zstd chunk = .ok (data, compressed)
  transfer : t' = { t with
    file := t'.file
    sentBytes := t.sentBytes + chunk.length
    transferredBytes := t.transferredBytes + data.length }
  stream : (s.send (.block ⟨t.jobId, 0, data, compressed, 0⟩)) = (.ok (), s')

/-- A call that sent a block took the next piece of the file. -/
theorem PushTransfer.sendNextBlock_true {zstd : Zstd} {t t' : PushTransfer} {s s' : Stream}
    (h : t.sendNextBlock zstd s = (.ok true, t', s')) :
    t.skipTransfer = false ∧ Nonempty (SentBlock zstd t t' s s') := by
  unfold PushTransfer.sendNextBlock at h
  split at h
  · cases h
  · rename_i hskip
    refine ⟨by simpa using hskip, ?_⟩
    split at h
    · cases h
    · rename_i chunk file hread
      obtain ⟨hrest, hbound, _⟩ := File.read_ok hread
      split at h
      · cases h
      · rename_i hlen
        split at h
        · cases h
        · rename_i data compressed hpacked
          simp only at h
          split at h
          · cases h
          · rename_i sent hsend
            obtain ⟨_, hrest'⟩ := Prod.mk.inj h
            obtain ⟨rfl, rfl⟩ := Prod.mk.inj hrest'
            exact ⟨chunk, data, compressed, hrest, by omega, hbound, hpacked, rfl, hsend⟩

/-- A call that sent nothing was at the end of the file, or had nothing to send. -/
theorem PushTransfer.sendNextBlock_false {zstd : Zstd} {t t' : PushTransfer} {s s' : Stream}
    (h : t.sendNextBlock zstd s = (.ok false, t', s')) :
    s' = s ∧ t' = { t with file := t'.file } ∧
      (t.skipTransfer = false → t.file.rest = []) ∧ (t.skipTransfer = true → t' = t) := by
  unfold PushTransfer.sendNextBlock at h
  split at h
  · rename_i hskip
    obtain ⟨_, hrest⟩ := Prod.mk.inj h
    obtain ⟨rfl, rfl⟩ := Prod.mk.inj hrest
    exact ⟨rfl, rfl, by simp [hskip], fun _ => rfl⟩
  · rename_i hskip
    split at h
    · cases h
    · rename_i chunk file hread
      obtain ⟨_, _, hend⟩ := File.read_ok hread
      split at h
      · rename_i hlen
        obtain ⟨_, hrest⟩ := Prod.mk.inj h
        obtain ⟨rfl, rfl⟩ := Prod.mk.inj hrest
        exact ⟨rfl, rfl, fun _ => hend hlen, by simp [hskip]⟩
      · split at h
        · cases h
        · simp only at h
          split at h <;> cases h

theorem SentBlock.rest_length {zstd : Zstd} {t t' : PushTransfer} {s s' : Stream}
    (b : SentBlock zstd t t' s s') : t'.file.rest.length < t.file.rest.length := by
  have := congrArg List.length b.rest
  have := b.nonempty
  simp only [List.length_append] at *
  omega

/-! ## All blocks -/

section Blocks

variable {σ : Type} (zstd : Zstd) (onBlock : PushTransfer → σ → Except Error Unit × σ)

/-- `while transfer.send_next_block(..)? { .. }`, with what the caller does after each
block. -/
def sendBlocks (t : PushTransfer) (s : Stream) (seen : σ) :
    Except Error Unit × PushTransfer × Stream × σ :=
  match _hblock : t.sendNextBlock zstd s with
  | (.error e, t, s) => (.error e, t, s, seen)
  | (.ok false, t, s) => (.ok (), t, s, seen)
  | (.ok true, t', s) =>
      match onBlock t' seen with
      | (.error e, seen) => (.error e, t', s, seen)
      | (.ok (), seen) => sendBlocks t' s seen
termination_by t.file.rest.length
decreasing_by
  obtain ⟨_, ⟨b⟩⟩ := PushTransfer.sendNextBlock_true _hblock
  exact b.rest_length

/-- What a finished loop has sent: the rest of the file, cut into blocks. -/
structure BlocksSent (t t' : PushTransfer) (s s' : Stream) where
  blocks : List FileTransferBlock
  pieces : List Bytes
  sent : s'.sent = s.sent ++ blocks.map .block
  unpacked : List.Forall₂ (fun block piece => unpack zstd block = .ok piece) blocks pieces
  content : pieces.flatten = t.file.rest
  sizes : ∀ piece ∈ pieces, 1 ≤ piece.length ∧ piece.length ≤ fileTransferBlockSize
  sentBytes : t'.sentBytes = t.sentBytes + t.file.rest.length
  totalBytes : t'.totalBytes = t.totalBytes
  jobId : t'.jobId = t.jobId
  skipTransfer : t'.skipTransfer = t.skipTransfer

variable {zstd}

/-- At the end of the file there is nothing left to send. -/
def BlocksSent.ofFalse {t t' : PushTransfer} {s s' : Stream} (hskip : t.skipTransfer = false)
    (h : t.sendNextBlock zstd s = (.ok false, t', s')) : BlocksSent zstd t t' s s' where
  blocks := []
  pieces := []
  sent := by simp [(PushTransfer.sendNextBlock_false h).1]
  unpacked := .nil
  content := ((PushTransfer.sendNextBlock_false h).2.2.1 hskip).symm
  sizes := by simp
  sentBytes := by
    obtain ⟨_, ht, hend, _⟩ := PushTransfer.sendNextBlock_false h
    rw [ht, hend hskip]
    rfl
  totalBytes := by rw [(PushTransfer.sendNextBlock_false h).2.1]
  jobId := by rw [(PushTransfer.sendNextBlock_false h).2.1]
  skipTransfer := by rw [(PushTransfer.sendNextBlock_false h).2.1]

/-- One block, then the rest. -/
def BlocksSent.cons (hzstd : RoundTrips zstd) {t t₁ t' : PushTransfer} {s s₁ s' : Stream}
    (b : SentBlock zstd t t₁ s s₁) (rest : BlocksSent zstd t₁ t' s₁ s') :
    BlocksSent zstd t t' s s' where
  blocks := ⟨t.jobId, 0, b.data, b.compressed, 0⟩ :: rest.blocks
  pieces := b.chunk :: rest.pieces
  sent := by
    have hsent := s.send_sent (.block ⟨t.jobId, 0, b.data, b.compressed, 0⟩)
    rw [b.stream] at hsent
    rw [rest.sent, hsent]
    simp
  unpacked := .cons (unpack_compressChunk hzstd b.packed _ _ _) rest.unpacked
  content := by rw [List.flatten_cons, rest.content, b.rest]
  sizes := by
    intro piece hpiece
    rcases List.mem_cons.mp hpiece with rfl | hpiece
    · exact ⟨b.nonempty, b.bounded⟩
    · exact rest.sizes piece hpiece
  sentBytes := by
    have hbytes : t₁.sentBytes = t.sentBytes + b.chunk.length :=
      congrArg PushTransfer.sentBytes b.transfer
    rw [rest.sentBytes, b.rest, List.length_append, hbytes]
    omega
  totalBytes := by rw [rest.totalBytes, b.transfer]
  jobId := by rw [rest.jobId, b.transfer]
  skipTransfer := by rw [rest.skipTransfer, b.transfer]

/-- Whatever the caller does after a block, a loop that finishes has sent the rest of
the file. -/
theorem sendBlocks_sent (hzstd : RoundTrips zstd) (t : PushTransfer) (s : Stream) (seen : σ) :
    ∀ {t' : PushTransfer} {s' : Stream} {seen' : σ}, t.skipTransfer = false →
      sendBlocks zstd onBlock t s seen = (.ok (), t', s', seen') →
      Nonempty (BlocksSent zstd t t' s s') := by
  induction t, s, seen using sendBlocks.induct zstd onBlock with
  | case1 t s seen e t₁ s₁ hblock =>
      intro t' s' seen' _ h
      rw [sendBlocks, hblock] at h
      cases h
  | case2 t s seen t₁ s₁ hblock =>
      intro t' s' seen' hskip h
      rw [sendBlocks, hblock] at h
      cases h
      exact ⟨.ofFalse hskip hblock⟩
  | case3 t s seen t₁ s₁ hblock e seen₁ hcall =>
      intro t' s' seen' _ h
      rw [sendBlocks, hblock] at h
      simp only [hcall] at h
      cases h
  | case4 t s seen t₁ s₁ hblock seen₁ hcall ih =>
      intro t' s' seen' hskip h
      rw [sendBlocks, hblock] at h
      simp only [hcall] at h
      obtain ⟨_, ⟨b⟩⟩ := PushTransfer.sendNextBlock_true hblock
      have hskip₁ : t₁.skipTransfer = false := by rw [b.transfer]; exact hskip
      obtain ⟨rest⟩ := ih hskip₁ h
      exact ⟨.cons hzstd b rest⟩

end Blocks

/-- `send_next_block` repeated until it returns `false`. -/
def sendAllBlocks (zstd : Zstd) (t : PushTransfer) (s : Stream) :
    Except Error Unit × PushTransfer × Stream :=
  match sendBlocks zstd (fun _ () => (.ok (), ())) t s () with
  | (result, t, s, ()) => (result, t, s)

theorem sendAllBlocks_eq {zstd : Zstd} {t t' : PushTransfer} {s s' : Stream}
    {result : Except Error Unit} :
    sendAllBlocks zstd t s = (result, t', s') ↔
      sendBlocks zstd (fun _ () => (.ok (), ())) t s () = (result, t', s', ()) := by
  unfold sendAllBlocks
  simp only [Prod.ext_iff, and_true]

/-! ## Nothing fails by itself -/

/-- No read of the file, no compression and no send fails. -/
structure NoFailure (zstd : Zstd) (t : PushTransfer) (s : Stream) : Prop where
  reads : ∀ e, .error e ∉ t.file.reads
  packs : ∀ chunk, ∃ packed, zstd.encodeAll chunk = .ok packed
  sends : ∀ e, some e ∉ s.sends

theorem File.read_of_reads {file : File} (h : ∀ e, .error e ∉ file.reads) :
    ∃ chunk file', file.read = (.ok chunk, file') ∧ ∀ e, .error e ∉ file'.reads := by
  unfold File.read
  rcases hreads : file.reads with _ | ⟨e | n, reads⟩
  · exact ⟨_, _, rfl, by simp⟩
  · exact absurd (hreads ▸ List.mem_cons_self) (h e)
  · refine ⟨_, _, rfl, fun e he => h e ?_⟩
    rw [hreads]
    exact List.mem_cons_of_mem _ he

theorem send_of_sends {s : Stream} (h : ∀ e, some e ∉ s.sends) (m : Outgoing) :
    ∃ s', s.send m = (.ok (), s') ∧ ∀ e, some e ∉ s'.sends := by
  unfold Stream.send
  rcases hsends : s.sends with _ | ⟨_ | e, sends⟩
  · exact ⟨_, rfl, by simp⟩
  · refine ⟨_, rfl, fun e he => h e ?_⟩
    rw [hsends]
    exact List.mem_cons_of_mem _ he
  · exact absurd (hsends ▸ List.mem_cons_self) (h e)

/-- Without a failure a call sends a block or is at the end of the file. -/
theorem NoFailure.sendNextBlock {zstd : Zstd} {t : PushTransfer} {s : Stream}
    (h : NoFailure zstd t s) :
    ∃ more t' s', t.sendNextBlock zstd s = (.ok more, t', s') ∧ NoFailure zstd t' s' := by
  obtain ⟨chunk, file, hread, hreads⟩ := File.read_of_reads h.reads
  unfold PushTransfer.sendNextBlock
  split
  · exact ⟨_, _, _, rfl, h⟩
  · rw [hread]
    simp only
    split
    · exact ⟨_, _, _, rfl, hreads, h.packs, h.sends⟩
    · obtain ⟨packed, hpacked⟩ := h.packs chunk
      have hchunk : ∃ data compressed, compressChunk zstd chunk = .ok (data, compressed) := by
        rw [compressChunk, hpacked]
        simp only
        split <;> exact ⟨_, _, rfl⟩
      obtain ⟨data, compressed, hchunk⟩ := hchunk
      obtain ⟨s', hsend, hsends⟩ :=
        send_of_sends h.sends (.block ⟨t.jobId, 0, data, compressed, 0⟩)
      rw [hchunk]
      simp only [hsend]
      exact ⟨_, _, _, rfl, hreads, h.packs, hsends⟩

/-- Without a failure the loop finishes. -/
theorem NoFailure.sendAllBlocks {zstd : Zstd} {t : PushTransfer} {s : Stream}
    (h : NoFailure zstd t s) : ∃ t' s', sendAllBlocks zstd t s = (.ok (), t', s') := by
  have hloop : ∀ (t : PushTransfer) (s : Stream) (seen : Unit), NoFailure zstd t s →
      ∃ t' s', sendBlocks zstd (fun _ () => (.ok (), ())) t s seen = (.ok (), t', s', ()) := by
    intro t s seen
    induction t, s, seen using sendBlocks.induct zstd (fun _ () => (.ok (), ())) with
    | case1 t s seen e t₁ s₁ hblock =>
        intro h
        obtain ⟨more, t', s', hok, _⟩ := h.sendNextBlock
        rw [hblock] at hok
        cases hok
    | case2 t s seen t₁ s₁ hblock =>
        intro _
        rw [sendBlocks, hblock]
        exact ⟨_, _, rfl⟩
    | case3 t s seen t₁ s₁ hblock e seen₁ hcall =>
        cases hcall
    | case4 t s seen t₁ s₁ hblock seen₁ hcall ih =>
        intro h
        obtain ⟨more, t', s', hok, hnext⟩ := h.sendNextBlock
        rw [hblock] at hok
        cases hok
        rw [sendBlocks, hblock]
        simp only
        exact ih hnext
  obtain ⟨t', s', hrun⟩ := hloop t s () h
  exact ⟨t', s', sendAllBlocks_eq.mpr hrun⟩

/-! ## One round of a wait -/

/-- The `TestDelay` of an event. -/
def testDelay? : Event → Option TestDelay
  | .frame (.message (.testDelay td)) => some td
  | _ => none

theorem testDelay?_eq_some {event : Event} {td : TestDelay} (h : testDelay? event = some td) :
    event = .frame (.message (.testDelay td)) := by
  unfold testDelay? at h
  split at h
  · cases h
    rfl
  · cases h

section Rounds

variable (skip : FileTransferEvent → Bool) (timed : Bool) (jobId : Int)

/-- A `TestDelay` is echoed, and the wait goes on if that succeeds. -/
theorem recvFileEventSkipping_delay {event : Event} {td : TestDelay}
    (h : testDelay? event = some td) (inbox : List Event) (s : Stream) :
    recvFileEventSkipping skip timed jobId (event :: inbox) s =
      match s.send (.testDelay td.echo) with
      | (.ok (), s) => recvFileEventSkipping skip timed jobId inbox s
      | (.error e, s) =>
          (some (.error (e.context "echoing TestDelay during file transfer".toList)),
            { s with inbox := inbox }) := by
  cases testDelay?_eq_some h
  conv_lhs => unfold recvFileEventSkipping fileStep
  dsimp only
  rcases s.send _ with ⟨e | u, s₁⟩ <;> rfl

/-- Any other event ends the wait or is passed over, whatever the stream is. -/
theorem recvFileEventSkipping_quiet {event : Event} (h : testDelay? event = none) :
    (∃ r, ∀ inbox s, recvFileEventSkipping skip timed jobId (event :: inbox) s =
      (r, { s with inbox := inbox })) ∨
    ∀ inbox s, recvFileEventSkipping skip timed jobId (event :: inbox) s =
      recvFileEventSkipping skip timed jobId inbox s := by
  rcases event with frame | timer | line
  · have hstep : ∃ step, ∀ s, fileStep jobId s frame = (step, s) := by
      rcases frame with _ | m | e | e
      case message =>
        cases m with
        | testDelay td => cases h
        | _ => exact ⟨_, fun _ => rfl⟩
      all_goals exact ⟨_, fun _ => rfl⟩
    obtain ⟨step, hstep⟩ := hstep
    cases step with
    | again =>
        refine .inr fun inbox s => ?_
        conv_lhs => unfold recvFileEventSkipping
        rw [hstep]
    | failed e =>
        refine .inl ⟨some (.error e), fun inbox s => ?_⟩
        unfold recvFileEventSkipping
        rw [hstep]
    | event event =>
        by_cases hskip : skip event = true
        · refine .inr fun inbox s => ?_
          conv_lhs => unfold recvFileEventSkipping
          rw [hstep]
          exact if_pos hskip
        · refine .inl ⟨some (.ok event), fun inbox s => ?_⟩
          unfold recvFileEventSkipping
          rw [hstep]
          exact if_neg hskip
  · cases timed with
    | true => exact .inl ⟨none, fun _ _ => rfl⟩
    | false => exact .inr fun _ _ => rfl
  · exact .inr fun _ _ => rfl

end Rounds

/-! ## What the waits send -/

/-- The message is the echo of a `TestDelay`. -/
def IsEcho (m : Outgoing) : Prop := ∃ td, m = .testDelay td

/-- A wait for an event of a transfer only echoes delays. -/
theorem recvFileEventSkipping_extends (skip : FileTransferEvent → Bool) (timed : Bool)
    (jobId : Int) : ∀ (inbox : List Event) (s : Stream),
      s.Extends IsEcho (recvFileEventSkipping skip timed jobId inbox s).2 := by
  intro inbox
  induction inbox with
  | nil => intro s; exact (Stream.Extends.refl _ s).read []
  | cons event inbox ih =>
      intro s
      rcases hdelay : testDelay? event with _ | td
      · rcases recvFileEventSkipping_quiet skip timed jobId hdelay with ⟨r, hr⟩ | hr
        · rw [hr]
          exact (Stream.Extends.refl _ s).read inbox
        · rw [hr]
          exact ih s
      · have hecho := s.send_extends (P := IsEcho) (m := .testDelay td.echo) ⟨td.echo, rfl⟩
        rw [recvFileEventSkipping_delay skip timed jobId hdelay]
        rcases hsend : s.send (.testDelay td.echo) with ⟨e | u, s₁⟩
        all_goals rw [hsend] at hecho
        · exact hecho.read inbox
        · exact hecho.trans (ih s₁)

/-- The message belongs to a file transfer. -/
def IsFile : Outgoing → Prop
  | .receive _ | .digest _ | .sendConfirm _ | .block _ | .fileDone _ => True
  | _ => False

/-- What a push sends: messages of the transfer, and echoes. -/
def IsTransfer (m : Outgoing) : Prop := IsFile m ∨ IsEcho m

theorem send_isTransfer (s : Stream) {m : Outgoing} (hm : IsFile m) :
    s.Extends IsTransfer (s.send m).2 :=
  s.send_extends (.inl hm)

/-- The announcement fails before it uses the stream, or it is two sends. -/
theorem announce_cases (file : LocalFile) (localPath remotePath : Text) (jobId : Int) :
    (∃ e, ∀ s, announce file localPath remotePath jobId s = (.error e, s)) ∨
    ∃ metadata request digest, file.metadata = .ok metadata ∧ IsFile request ∧ IsFile digest ∧
      ∀ s, announce file localPath remotePath jobId s =
        match s.send request with
        | (.error e, s) => (.error (e.context "sending file transfer request".toList), s)
        | (.ok (), s) =>
            match s.send digest with
            | (.error e, s) => (.error (e.context "sending local file digest".toList), s)
            | (.ok (), s) => (.ok metadata, s) := by
  unfold announce sendLocalDigest
  cases file.metadata with
  | error e => exact .inl ⟨_, fun _ => rfl⟩
  | ok metadata =>
      dsimp only
      by_cases hfile : (!metadata.isFile) = true
      · exact .inl ⟨_, fun _ => if_pos hfile⟩
      · cases parseRemoteTarget remotePath localPath with
        | error e => exact .inl ⟨_, fun _ => if_neg hfile⟩
        | ok target =>
            exact .inr ⟨metadata, .receive _, .digest _, rfl, trivial, trivial,
              fun _ => if_neg hfile⟩

theorem announce_extends (file : LocalFile) (localPath remotePath : Text) (jobId : Int)
    (s : Stream) : s.Extends IsTransfer (announce file localPath remotePath jobId s).2 := by
  rcases announce_cases file localPath remotePath jobId with
    ⟨e, hr⟩ | ⟨metadata, request, digest, -, hrequest, hdigest, hr⟩
  · rw [hr]
    exact .refl _ s
  · rw [hr]
    have hfirst := send_isTransfer s hrequest
    rcases hsend : s.send request with ⟨e | u, s₁⟩
    all_goals rw [hsend] at hfirst
    · exact hfirst
    · refine hfirst.trans ?_
      have hsecond := send_isTransfer s₁ hdigest
      dsimp only
      rcases hsend : s₁.send digest with ⟨e | u, s₂⟩
      all_goals
        rw [hsend] at hsecond
        exact hsecond

theorem resumeFrom_extends (s : Stream) (jobId : Int) (totalBytes : Nat)
    (reply : FileTransferEvent) : s.Extends IsTransfer (resumeFrom s jobId totalBytes reply).2 := by
  unfold resumeFrom
  split
  · rename_i digest
    have hconfirm : s.Extends IsTransfer
        (confirmUploadFromRemoteDigest s jobId digest totalBytes).2 := by
      unfold confirmUploadFromRemoteDigest
      simp only
      split <;> rename_i hsend <;>
        exact (congrArg Prod.snd hsend) ▸ send_isTransfer s trivial
    split <;> rename_i h <;> rw [h] at hconfirm <;> exact hconfirm
  · split <;> exact .refl _ s
  · exact .refl _ s
  · exact .refl _ s

theorem recvFileEventSkipping_isTransfer (skip : FileTransferEvent → Bool) (timed : Bool)
    (jobId : Int) (s : Stream) :
    s.Extends IsTransfer (recvFileEventSkipping skip timed jobId s.inbox s).2 :=
  (recvFileEventSkipping_extends skip timed jobId s.inbox s).mono fun _ => .inr

/-- The beginning of a push sends messages of the transfer and echoes. -/
theorem PushTransfer.begin_extends (file : LocalFile) (nanos : Nat) (localPath remotePath : Text)
    (s : Stream) :
    s.Extends IsTransfer (PushTransfer.begin file nanos localPath remotePath s).2 := by
  have hannounce := announce_extends file localPath remotePath (newJobId nanos) s
  unfold PushTransfer.begin
  simp only
  split <;> rename_i h <;> rw [h] at hannounce
  · exact hannounce
  · rename_i metadata s₁
    have hreply := recvFileEventSkipping_isTransfer isDone false (newJobId nanos) s₁
    split <;> rename_i h <;> rw [h] at hreply
    · exact hannounce.trans hreply
    · exact hannounce.trans hreply
    · rename_i reply s₂
      have hresume := resumeFrom_extends s₂ (newJobId nanos) metadata.len reply
      split <;> rename_i h <;> rw [h] at hresume
      · exact (hannounce.trans hreply).trans hresume
      · split <;> exact (hannounce.trans hreply).trans hresume

theorem PushTransfer.sendNextBlock_extends (zstd : Zstd) (t : PushTransfer) (s : Stream) :
    s.Extends IsTransfer (t.sendNextBlock zstd s).2.2 := by
  unfold PushTransfer.sendNextBlock
  split
  · exact .refl _ s
  · split
    · exact .refl _ s
    · split
      · exact .refl _ s
      · split
        · exact .refl _ s
        · simp only
          split <;> rename_i hsend <;> exact (congrArg Prod.snd hsend) ▸ send_isTransfer s trivial

theorem sendBlocks_extends {σ : Type} (zstd : Zstd)
    (onBlock : PushTransfer → σ → Except Error Unit × σ) (t : PushTransfer) (s : Stream)
    (seen : σ) : s.Extends IsTransfer (sendBlocks zstd onBlock t s seen).2.2.1 := by
  induction t, s, seen using sendBlocks.induct zstd onBlock with
  | case1 t s seen e t₁ s₁ hblock =>
      have hnext := t.sendNextBlock_extends zstd s
      rw [sendBlocks, hblock]
      rwa [hblock] at hnext
  | case2 t s seen t₁ s₁ hblock =>
      have hnext := t.sendNextBlock_extends zstd s
      rw [sendBlocks, hblock]
      rwa [hblock] at hnext
  | case3 t s seen t₁ s₁ hblock e seen₁ hcall =>
      have hnext := t.sendNextBlock_extends zstd s
      rw [sendBlocks, hblock]
      simp only [hcall]
      rwa [hblock] at hnext
  | case4 t s seen t₁ s₁ hblock seen₁ hcall ih =>
      have hnext := t.sendNextBlock_extends zstd s
      rw [sendBlocks, hblock]
      simp only [hcall]
      rw [hblock] at hnext
      exact hnext.trans ih

theorem PushTransfer.waitForDone_extends (t : PushTransfer) (s : Stream) :
    s.Extends IsTransfer (t.waitForDone s).2 := by
  have hdone := send_isTransfer s (m := .fileDone ⟨t.jobId, 0⟩) trivial
  unfold PushTransfer.waitForDone
  split
  · exact .refl _ s
  · split <;> rename_i h <;> rw [h] at hdone
    · exact hdone
    · rename_i s₁
      have hwait := recvFileEventSkipping_isTransfer (fun _ => false) true t.jobId s₁
      rw [recvFileEvent]
      split <;> rename_i h <;> rw [h] at hwait <;> exact hdone.trans hwait

/-- `wait_for_done` sends the `Done`, and after it only echoes. -/
theorem PushTransfer.waitForDone_sent {t : PushTransfer} (hskip : t.skipTransfer = false)
    (s : Stream) : ∃ echoes, (t.waitForDone s).2.sent =
      s.sent ++ [.fileDone ⟨t.jobId, 0⟩] ++ echoes ∧ ∀ m ∈ echoes, IsEcho m := by
  have hsent := s.send_sent (.fileDone ⟨t.jobId, 0⟩)
  unfold PushTransfer.waitForDone
  rw [hskip]
  simp only [Bool.false_eq_true, if_false]
  split <;> rename_i hsend <;> rw [hsend] at hsent
  · exact ⟨[], by simpa using hsent, by simp⟩
  · rename_i s₁
    obtain ⟨echoes, hechoes, hkind⟩ :=
      (recvFileEventSkipping_extends (fun _ => false) true t.jobId s₁.inbox s₁).sent
    rw [recvFileEvent]
    split <;> rename_i hrecv <;> rw [hrecv] at hechoes <;>
      exact ⟨echoes, by rw [hechoes, hsent], hkind⟩

/-! ## The whole push -/

/-- The reply `begin` acts on. -/
def acceptedReply (file : LocalFile) (nanos : Nat) (localPath remotePath : Text) (s : Stream) :
    Option FileTransferEvent :=
  match announce file localPath remotePath (newJobId nanos) s with
  | (.error _, _) => none
  | (.ok _, s) =>
      match recvFileEventSkipping isDone false (newJobId nanos) s.inbox s with
      | (some (.ok event), _) => some event
      | _ => none

theorem announce_metadata {file : LocalFile} {localPath remotePath : Text} {jobId : Int}
    {s s' : Stream} {metadata : Metadata}
    (h : announce file localPath remotePath jobId s = (.ok metadata, s')) :
    file.metadata = .ok metadata := by
  rcases announce_cases file localPath remotePath jobId with
    ⟨e, hr⟩ | ⟨found, request, digest, hfound, -, -, hr⟩
  · rw [hr] at h
    cases h
  · rw [hr] at h
    generalize s.send request = sent at h
    obtain ⟨e | u, s₁⟩ := sent
    · cases h
    · dsimp only at h
      generalize s₁.send digest = sent at h
      obtain ⟨e | u, s₂⟩ := sent
      · cases h
      · rw [hfound, Except.ok.inj (Prod.mk.inj h).1]

/-- How a transfer begins: the file is announced, a reply arrives, the reply says where to
resume, and the file is opened there. -/
theorem PushTransfer.begin_ok {file : LocalFile} {nanos : Nat} {localPath remotePath : Text}
    {s s' : Stream} {t : PushTransfer}
    (h : PushTransfer.begin file nanos localPath remotePath s = (some (.ok t), s')) :
    ∃ metadata reply s₁, file.metadata = .ok metadata ∧
      acceptedReply file nanos localPath remotePath s = some reply ∧
      resumeFrom s₁ (newJobId nanos) metadata.len reply =
        (.ok (t.resumedBytes, t.skipTransfer), s') ∧
      openAt file localPath t.resumedBytes = .ok t.file ∧
      t.totalBytes = metadata.len ∧ t.sentBytes = t.resumedBytes ∧ t.jobId = newJobId nanos := by
  unfold PushTransfer.begin at h
  unfold acceptedReply
  simp only at h
  split at h
  · cases h
  · rename_i metadata s₀ hannounce
    split at h
    · cases h
    · cases h
    · rename_i reply s₁ hreply
      split at h
      · cases h
      · rename_i resumedBytes skipTransfer s₂ hresume
        split at h
        · cases h
        · rename_i opened hopened
          obtain ⟨ht, rfl⟩ := Prod.mk.inj h
          rw [← Except.ok.inj (Option.some.inj ht)]
          exact ⟨metadata, reply, s₁, announce_metadata hannounce, by simp only [hreply], hresume,
            hopened, rfl, rfl, rfl⟩

/-- Where a reply says to resume: within the file, at its end if there is nothing to send,
and where the peer is told. -/
theorem resumeFrom_ok {s s' : Stream} {jobId : Int} {totalBytes resumedBytes : Nat}
    {skipTransfer : Bool} {reply : FileTransferEvent}
    (h : resumeFrom s jobId totalBytes reply = (.ok (resumedBytes, skipTransfer), s')) :
    resumedBytes ≤ totalBytes ∧ (skipTransfer = true → resumedBytes = totalBytes) ∧
      ∀ digest, reply = .digest digest →
        ∃ offset, s'.sent.getLast? =
            some (.sendConfirm ⟨jobId, digest.fileNum, some (.offsetBlk offset)⟩) ∧
          offset.toNat = resumedBytes := by
  unfold resumeFrom at h
  split at h
  · rename_i digest
    unfold confirmUploadFromRemoteDigest at h
    simp only at h
    set r := if digest.isIdentical then
      min (min digest.transferredSize.toNat totalBytes) u32Max else 0 with hr
    have hle : r ≤ totalBytes ∧ r ≤ u32Max := by
      rw [hr]
      split <;> omega
    have hsent := s.send_sent
      (.sendConfirm ⟨jobId, digest.fileNum, some (.offsetBlk (UInt32.ofNat r))⟩)
    rcases hsend : s.send
        (.sendConfirm ⟨jobId, digest.fileNum, some (.offsetBlk (UInt32.ofNat r))⟩) with
      ⟨e | _, s₁⟩ <;> rw [hsend] at h hsent
    · cases h
    · obtain ⟨hres, rfl⟩ := Prod.mk.inj h
      obtain ⟨rfl, rfl⟩ := Prod.mk.inj (Except.ok.inj hres)
      refine ⟨hle.1, by simp, ?_⟩
      intro digest' hdigest
      obtain rfl := FileTransferEvent.digest.inj hdigest
      refine ⟨UInt32.ofNat r, by rw [hsent]; simp, ?_⟩
      exact UInt32.toNat_ofNat_of_lt' (lt_of_le_of_lt hle.2 (by decide))
  · rename_i confirm
    split at h <;> obtain ⟨hres, rfl⟩ := Prod.mk.inj h <;>
      obtain ⟨rfl, rfl⟩ := Prod.mk.inj (Except.ok.inj hres)
    · exact ⟨le_rfl, fun _ => rfl, by simp⟩
    · exact ⟨min_le_right _ _, by simp, by simp⟩
    · exact ⟨Nat.zero_le _, by simp, by simp⟩
  · cases h
  · obtain ⟨hres, rfl⟩ := Prod.mk.inj h
    obtain ⟨rfl, rfl⟩ := Prod.mk.inj (Except.ok.inj hres)
    exact ⟨Nat.zero_le _, by simp, by simp⟩

theorem openAt_rest {file : LocalFile} {localPath : Text} {resumedBytes : Nat} {opened : File}
    (h : openAt file localPath resumedBytes = .ok opened) :
    opened.rest = file.content.drop resumedBytes := by
  unfold openAt at h
  split at h
  · cases h
  · split at h
    · split at h
      · cases h
      · rw [← Except.ok.inj h]
    · rename_i hzero
      obtain rfl : resumedBytes = 0 := by omega
      rw [← Except.ok.inj h]
      rfl

/-- The peer has received the content from an offset on: the blocks, unpacked, are the
content, and the `Done` comes after the last of them. -/
structure Delivered (zstd : Zstd) (content : Bytes) (t t' : PushTransfer) (s s' : Stream) :
    Prop where
  sent : ∃ (blocks : List FileTransferBlock) (pieces : List Bytes) (echoes : List Outgoing),
    s'.sent = s.sent ++ blocks.map .block ++ [.fileDone ⟨t.jobId, 0⟩] ++ echoes ∧
      (∀ m ∈ echoes, IsEcho m) ∧
      List.Forall₂ (fun block piece => unpack zstd block = .ok piece) blocks pieces ∧
      pieces.flatten = content.drop t.resumedBytes ∧
      ∀ piece ∈ pieces, 1 ≤ piece.length ∧ piece.length ≤ fileTransferBlockSize
  sentBytes : t'.sentBytes = content.length
  totalBytes : t'.totalBytes = content.length

/-- Blocks that are sent from the offset on, and then `wait_for_done`, deliver the file. -/
theorem BlocksSent.delivered {zstd : Zstd} {t t' : PushTransfer} {s s' : Stream}
    {content : Bytes} (b : BlocksSent zstd t t' s s') (hskip : t.skipTransfer = false)
    (hrest : t.file.rest = content.drop t.resumedBytes) (hle : t.resumedBytes ≤ content.length)
    (hsent : t.sentBytes = t.resumedBytes) (htotal : t.totalBytes = content.length) :
    Delivered zstd content t t' s (t'.waitForDone s').2 := by
  obtain ⟨echoes, hechoes, hkind⟩ :=
    PushTransfer.waitForDone_sent (b.skipTransfer.trans hskip) s'
  refine ⟨⟨b.blocks, b.pieces, echoes, ?_, hkind, b.unpacked, ?_, b.sizes⟩, ?_, ?_⟩
  · rw [hechoes, b.sent, b.jobId]
  · rw [b.content, hrest]
  · rw [b.sentBytes, hsent, hrest, List.length_drop]
    omega
  · rw [b.totalBytes, htotal]

/-- A push transfers exactly the file: it resumes within the file and says so to a peer that
sent a digest; the blocks it sends, each unpacked, are the rest of the file, and `Done`
follows them; and it sends nothing when the peer has the file. -/
theorem push_transfers_exactly_the_file (zstd : Zstd) (hzstd : RoundTrips zstd)
    (file : LocalFile) (metadata : Metadata) (hmetadata : file.metadata = .ok metadata)
    (hlen : metadata.len = file.content.length) (nanos : Nat) (localPath remotePath : Text)
    (s s₁ : Stream) (t : PushTransfer)
    (hbegin : PushTransfer.begin file nanos localPath remotePath s = (some (.ok t), s₁)) :
    t.resumedBytes ≤ file.content.length ∧
      (∀ digest, acceptedReply file nanos localPath remotePath s = some (.digest digest) →
        ∃ offset, s₁.sent.getLast? =
            some (.sendConfirm ⟨t.jobId, digest.fileNum, some (.offsetBlk offset)⟩) ∧
          offset.toNat = t.resumedBytes) ∧
      (t.skipTransfer = false →
        (∀ t₂ s₂, sendAllBlocks zstd t s₁ = (.ok (), t₂, s₂) →
          Delivered zstd file.content t t₂ s₁ (t₂.waitForDone s₂).2) ∧
        (NoFailure zstd t s₁ → ∃ t₂ s₂, sendAllBlocks zstd t s₁ = (.ok (), t₂, s₂))) ∧
      (t.skipTransfer = true →
        sendAllBlocks zstd t s₁ = (.ok (), t, s₁) ∧ t.waitForDone s₁ = (.ok (), s₁) ∧
          t.sentBytes = file.content.length) := by
  obtain ⟨found, reply, s₀, hfound, hreply, hresume, hopened, htotal, hsent, hjob⟩ :=
    PushTransfer.begin_ok hbegin
  obtain rfl : found = metadata := by
    rw [hmetadata] at hfound
    exact (Except.ok.inj hfound).symm
  obtain ⟨hle, hskipped, hdigest⟩ := resumeFrom_ok hresume
  rw [hlen] at hle htotal hskipped
  refine ⟨hle, ?_, ?_, ?_⟩
  · intro digest haccepted
    rw [hreply] at haccepted
    rw [hjob]
    exact hdigest digest (Option.some.inj haccepted)
  · intro hskip
    refine ⟨?_, NoFailure.sendAllBlocks⟩
    intro t₂ s₂ hblocks
    obtain ⟨b⟩ := sendBlocks_sent _ hzstd t s₁ () hskip (sendAllBlocks_eq.mp hblocks)
    exact b.delivered hskip (openAt_rest hopened) hle hsent htotal
  · intro hskip
    refine ⟨?_, ?_, hsent.trans (hskipped hskip)⟩
    · have hblock : t.sendNextBlock zstd s₁ = (.ok false, t, s₁) := by
        unfold PushTransfer.sendNextBlock
        rw [if_pos hskip]
      rw [sendAllBlocks_eq, sendBlocks, hblock]
    · unfold PushTransfer.waitForDone
      simp [hskip]

/-- The header of a zstd frame with one stored block of `n` bytes. -/
def storedHeader (n : Nat) : Bytes :=
  [0x28, 0xB5, 0x2F, 0xFD, 0x00, 0x58, UInt8.ofNat (8 * n + 1), UInt8.ofNat ((8 * n + 1) / 256),
    UInt8.ofNat ((8 * n + 1) / 65536)]

/-- Zstd on data it cannot make smaller: the data is stored. -/
def storingZstd : Zstd where
  encodeAll data := .ok (storedHeader data.length ++ data)
  decodeAll packed := .ok (packed.drop 9)

/-- A file of four bytes, read one byte at a time at first. -/
def sampleFile : LocalFile where
  metadata := .ok ⟨true, 4, 0⟩
  opened := .ok ()
  sought := .ok ()
  content := [10, 20, 30, 40]
  reads := [.ok 1]

/-- The peer has the first byte of the file. -/
def sampleStream : Stream where
  login := ⟨.fileTransfer, some (.fileTransfer "/remote".toList false)⟩
  inbox := [.frame .heartbeat, .frame (.message (.fileDone ⟨1, 0⟩)),
    .frame (.message (.digest ⟨1, 0, 0, 4, true, true, 1, false⟩))]
  lost := none
  sends := []
  sent := []

/-- The transfer after that reply. -/
def sampleTransfer : PushTransfer where
  localPath := "a.bin".toList
  remotePath := "/remote/".toList
  file := ⟨[20, 30, 40], [.ok 1]⟩
  totalBytes := 4
  sentBytes := 1
  transferredBytes := 0
  resumedBytes := 1
  jobId := 1
  skipTransfer := false

/-- The stream after that reply. -/
def sampleBegun : Stream :=
  { sampleStream with
    inbox := []
    sent := [.receive ⟨1, "/remote".toList, "a.bin".toList, 4, 0, 1, 4⟩,
      .digest ⟨1, 0, 0, 4, false, false, 0, true⟩,
      .sendConfirm ⟨1, 0, some (.offsetBlk 1)⟩] }

/-- The hypotheses hold of a peer that has one byte of the file, and the transfer then
sends the other three. -/
theorem push_transfers_exactly_the_file_resumed :
    PushTransfer.begin sampleFile 0 "a.bin".toList "/remote/".toList sampleStream =
        (some (.ok sampleTransfer), sampleBegun) ∧
      ∃ t₂ s₂, sendAllBlocks storingZstd sampleTransfer sampleBegun = (.ok (), t₂, s₂) ∧
        Delivered storingZstd [10, 20, 30, 40] sampleTransfer t₂ sampleBegun
          (t₂.waitForDone s₂).2 := by
  have hbegin : PushTransfer.begin sampleFile 0 "a.bin".toList "/remote/".toList sampleStream =
      (some (.ok sampleTransfer), sampleBegun) := by decide +kernel
  have hzstd : RoundTrips storingZstd := by
    intro data packed h
    rw [← Except.ok.inj h]
    rfl
  obtain ⟨_, _, hblocks, _⟩ := push_transfers_exactly_the_file storingZstd hzstd sampleFile
    ⟨true, 4, 0⟩ rfl rfl 0 "a.bin".toList "/remote/".toList sampleStream _ _ hbegin
  obtain ⟨hdelivered, hfinishes⟩ := hblocks rfl
  obtain ⟨t₂, s₂, hrun⟩ := hfinishes
    ⟨by simp [sampleTransfer], fun chunk => ⟨_, rfl⟩, by simp [sampleBegun, sampleStream]⟩
  exact ⟨hbegin, t₂, s₂, hrun, hdelivered t₂ s₂ hrun⟩

end RustdeskCli.Transfer
