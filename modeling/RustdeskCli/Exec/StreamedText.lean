import RustdeskCli.Cli.Streaming
import RustdeskCli.Exec.Chunking
set_option autoImplicit false

/-!
# Exec: the text of a streamed exec (`src/daemon.rs`, `src/main.rs`)

A streaming `exec` sends the client each chunk of output as soon as it has been read.
`exec_output_chunk_response` decodes the chunk by itself, so that a character whose
bytes are in two chunks is decoded as two pieces, neither of them well-formed; the
final response is decoded from all the bytes at once.
-/

namespace RustdeskCli.Exec

open RustdeskCli.Foundation
open RustdeskCli.Session
open RustdeskCli.Terminal
open RustdeskCli.Cli

/-! ## The chunks a run streams -/

/-- What the terminal prints before anything else ends a wait. -/
def printed (zstd : Zstd) (secs : Text) : List Arrival → List Bytes
  | [] => []
  | arrival :: rest =>
      match recvTerminalDataWithTimeout zstd secs arrival with
      | .ok (.data data) => data :: printed zstd secs rest
      | _ => []

/-- The chunks up to the one in which the sentinel is complete. -/
def untilSentinel (sentinel : Text) : Bytes → List Bytes → List Bytes
  | _, [] => []
  | collected, chunk :: chunks =>
      if (findSentinelOutput (fromUtf8Lossy (collected ++ chunk)) sentinel).isSome then [chunk]
      else chunk :: untilSentinel sentinel (collected ++ chunk) chunks

/-- The chunks of output that the collection loop reads. -/
def shown (zstd : Zstd) (remaining sentinel : Text) (inbox : List Arrival) : List Bytes :=
  untilSentinel sentinel [] (printed zstd remaining inbox)

/-- A write to a streaming client that takes it. -/
theorem sendChunk_streaming {client : Client} (hstreaming : client.streaming = true)
    (hwrites : ∀ e, some e ∉ client.writes) (data : Bytes) :
    client.sendChunk data =
      (.ok (), ⟨true, client.writes.tail, client.written ++ [execOutputChunkResponse data]⟩) := by
  rw [Client.sendChunk, if_pos hstreaming, Client.sendResponse]
  split
  · rename_i e _ hhead
    exact absurd (by rw [hhead]; exact List.mem_cons_self) (hwrites e)
  · rw [hstreaming]

/-- The loop streams the chunks it reads, each as it is. -/
theorem collect_written (zstd : Zstd) (remaining sentinel : Text) :
    ∀ (inbox : List Arrival) (collected : Bytes) (client : Client), client.streaming = true →
      (∀ e, some e ∉ client.writes) →
      (collect zstd remaining sentinel collected client inbox).2.1.written = client.written ++
        (untilSentinel sentinel collected (printed zstd remaining inbox)).map
          execOutputChunkResponse := by
  intro inbox
  induction inbox with
  | nil => intro collected client _ _; simp [collect, printed, untilSentinel]
  | cons arrival rest ih =>
      intro collected client hstreaming hwrites
      rw [collect, printed]
      rcases recvTerminalDataWithTimeout zstd remaining arrival with e | data | exitCode | message
      · simp only
        split <;> simp [untilSentinel]
      · simp only [sendChunk_streaming hstreaming hwrites, untilSentinel]
        split
        · rfl
        · rw [ih _ _ rfl fun e he => hwrites e (List.mem_of_mem_tail he), List.map_cons]
          simp
      · simp [untilSentinel]
      · simp [untilSentinel]

/-! ## The text the client gets -/

/-- The `chunk` of a response. -/
def chunkText (response : SessionResponse) : Text :=
  ((response.data.bind (Json.get "chunk")).bind Json.asStr).getD []

/-- The `chunk` strings of the responses, one after the other. -/
def streamedText (responses : List SessionResponse) : Text := responses.flatMap chunkText

theorem streamedText_chunks (chunks : List Bytes) :
    streamedText (chunks.map execOutputChunkResponse) = (chunks.map fromUtf8Lossy).flatten := by
  rw [streamedText, List.flatMap_map, List.flatMap_def]
  rfl

/-- The callback of `exec` prints the chunks and nothing else. -/
theorem execOnResponse_chunks (chunks : List Bytes) (seen : ExecSeen) :
    ((chunks.map execOutputChunkResponse).foldl (execOnResponse false) seen).printed =
      seen.printed ++ streamedText (chunks.map execOutputChunkResponse) := by
  induction chunks generalizing seen with
  | nil => simp [streamedText]
  | cons chunk chunks ih =>
      have hseen : execOnResponse false seen (execOutputChunkResponse chunk) =
          ⟨seen.printed ++ fromUtf8Lossy chunk, true⟩ := rfl
      rw [List.map_cons, List.foldl_cons, ih, hseen, streamedText_chunks, ← List.map_cons,
        streamedText_chunks, List.map_cons, List.flatten_cons, List.append_assoc]

/-- The streamed text of the chunks is the text of all their bytes exactly when no chunk
ends inside a sequence that the next bytes go on with; only then is a text printed as it
is.  The chunks are those a run streams. -/
theorem streamedText_iff (chunks : List Bytes) :
    (streamedText (chunks.map execOutputChunkResponse) = fromUtf8Lossy chunks.flatten ↔
        CutsClean chunks) ∧
      (∀ text, chunks.flatten = textBytes text →
        (((chunks.map execOutputChunkResponse).foldl (execOnResponse false) ⟨[], false⟩).printed =
          text ↔ CutsClean chunks)) ∧
      ∀ (zstd : Zstd) (remaining sentinel : Text) (client : Client) (inbox : List Arrival),
        client.streaming = true → (∀ e, some e ∉ client.writes) →
        shown zstd remaining sentinel inbox = chunks →
        (collect zstd remaining sentinel [] client inbox).2.1.written =
          client.written ++ chunks.map execOutputChunkResponse := by
  have hstreamed : streamedText (chunks.map execOutputChunkResponse) =
      fromUtf8Lossy chunks.flatten ↔ CutsClean chunks := by
    rw [streamedText_chunks]
    exact fromUtf8Lossy_chunks_iff chunks
  refine ⟨hstreamed, ?_, ?_⟩
  · intro text htext
    have hback : fromUtf8Lossy chunks.flatten = text := by
      rw [htext, textBytes_eq, fromUtf8Lossy_encode]
    rw [execOnResponse_chunks, List.nil_append, ← hstreamed, hback]
  · rintro zstd remaining sentinel client inbox hstreaming hwrites rfl
    exact collect_written zstd remaining sentinel inbox [] client hstreaming hwrites

/-- An `é` in one chunk is printed as it is. -/
theorem streamedText_whole_character :
    (([[0x61], [0xC3, 0xA9]].map execOutputChunkResponse).foldl
        (execOnResponse false) ⟨[], false⟩).printed = ['a', 'é'] ∧
      (collect ⟨.ok, .ok⟩ [] ['#'] [] ⟨true, [], []⟩
          ([[0x61], [0xC3, 0xA9]].map (chunkArrival 1))).2.1.written =
        [[0x61], [0xC3, 0xA9]].map execOutputChunkResponse :=
  ⟨((streamedText_iff [[0x61], [0xC3, 0xA9]]).2.1 ['a', 'é'] (by rw [textBytes_eq]; decide)).mpr
      (by decide),
    (streamedText_iff [[0x61], [0xC3, 0xA9]]).2.2 ⟨.ok, .ok⟩ [] ['#'] ⟨true, [], []⟩
      ([[0x61], [0xC3, 0xA9]].map (chunkArrival 1)) rfl (by simp) (by decide +kernel)⟩

/-- An `é` whose two bytes are in two chunks is streamed as two replacement characters. -/
theorem streamedText_cut_character :
    ([[0xC3], [0xA9]] : List Bytes).flatten = textBytes ['é'] ∧
      streamedText (collect ⟨.ok, .ok⟩ [] ['#'] [] ⟨true, [], []⟩
          ([[0xC3], [0xA9]].map (chunkArrival 1))).2.1.written = [replacement, replacement] ∧
      streamedText ([[0xC3], [0xA9]].map execOutputChunkResponse) ≠
        fromUtf8Lossy ([[0xC3], [0xA9]] : List Bytes).flatten := by
  refine ⟨?_, ?_, ?_⟩
  · rw [textBytes_eq]
    decide
  · decide +kernel
  · decide +kernel

end RustdeskCli.Exec
