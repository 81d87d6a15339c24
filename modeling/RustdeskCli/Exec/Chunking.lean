import RustdeskCli.Exec.Command
set_option autoImplicit false

/-!
# Exec: the result and the chunks it arrives in (`src/daemon.rs`, `src/main.rs`)

The collection loop decodes all it has after every chunk and stops as soon as the
scan finds the sentinel followed by one digit.  What it has then is some prefix of
the bytes the terminal printed, cut wherever the network cut it.

The output before the sentinel is the same in every such prefix; the exit code's
digits, and whether the echoed `echo` has been seen yet, are not.
-/

namespace RustdeskCli.Exec

open RustdeskCli.Foundation
open RustdeskCli.Session
open RustdeskCli.Terminal

/-! ## The loop on chunks -/

/-- A chunk of the terminal's output. -/
def chunkArrival (tid : Int) (chunk : Bytes) : Arrival := .response (.data ⟨tid, chunk, false⟩)

/-- The collection loop on chunks alone. -/
def gather (sentinel : Text) : Bytes → List Bytes → Bytes
  | collected, [] => collected
  | collected, chunk :: chunks =>
      if (findSentinelOutput (fromUtf8Lossy (collected ++ chunk)) sentinel).isSome then
        collected ++ chunk
      else gather sentinel (collected ++ chunk) chunks

/-- A write to a client whose writes succeed. -/
theorem sendChunk_ok {client : Client} (hwrites : client.writes = []) (data : Bytes) :
    ∃ client', client.sendChunk data = (.ok (), client') ∧ client'.writes = [] := by
  rw [Client.sendChunk]
  split
  · exact ⟨_, by rw [Client.sendResponse, hwrites], rfl⟩
  · exact ⟨client, rfl, hwrites⟩

/-- With a client whose writes succeed, the loop gathers the chunks. -/
theorem collect_chunks (zstd : Zstd) (remaining sentinel : Text) (tid : Int) :
    ∀ (chunks : List Bytes) (collected : Bytes) (client : Client), client.writes = [] →
      ∃ timedOut client' inbox,
        collect zstd remaining sentinel collected client (chunks.map (chunkArrival tid)) =
          (.complete (gather sentinel collected chunks) timedOut, client', inbox) := by
  intro chunks
  induction chunks with
  | nil => intro collected client _; exact ⟨true, client, [], rfl⟩
  | cons chunk chunks ih =>
      intro collected client hwrites
      obtain ⟨client', hsend, hwrites'⟩ := sendChunk_ok hwrites chunk
      have hrecv : recvTerminalDataWithTimeout zstd remaining (chunkArrival tid chunk) =
          .ok (.data chunk) := rfl
      rw [List.map_cons, collect, gather]
      simp only [hrecv, hsend]
      split
      · exact ⟨false, client', _, rfl⟩
      · exact ih (collected ++ chunk) client' hwrites'

/-- The loop stops at a prefix of the bytes where the scan succeeds, or at their end. -/
theorem gather_spec (sentinel : Text) :
    ∀ (chunks : List Bytes) (collected : Bytes),
      ∃ rest, collected ++ chunks.flatten = gather sentinel collected chunks ++ rest ∧
        ((findSentinelOutput (fromUtf8Lossy (gather sentinel collected chunks)) sentinel).isSome =
          true ∨ rest = []) := by
  intro chunks
  induction chunks with
  | nil => intro collected; exact ⟨[], by simp [gather], .inr rfl⟩
  | cons chunk chunks ih =>
      intro collected
      rw [gather]
      split
      · rename_i hfound
        exact ⟨chunks.flatten, by simp, .inl hfound⟩
      · obtain ⟨rest, hsplit, hend⟩ := ih (collected ++ chunk)
        exact ⟨rest, by rw [← hsplit]; simp, hend⟩

/-- The two parsers' results on what the loop has collected. -/
def Collected.output (parse : Text → Text → Text × Int) (sentinel : Text) :
    Collected → Option (Text × Int)
  | .complete bytes _ => some (parse (fromUtf8Lossy bytes) sentinel)
  | _ => none

/-- stdout and exit code of the daemon's `exec` when the terminal's output arrives in
these chunks; `streaming` says whether a client is being streamed to. -/
def daemonOutput (env : ExecEnv) (tid : Int) (streaming : Bool) (chunks : List Bytes) :
    Option (Text × Int) :=
  (collect env.zstd env.remaining (sentinelOf env.sentinelId) [] ⟨streaming, [], []⟩
    (chunks.map (chunkArrival tid))).1.output parseExecOutput (sentinelOf env.sentinelId)

/-- stdout and exit code of `direct_exec` when the terminal's output arrives in these
chunks. -/
def directOutput (env : ExecEnv) (tid : Int) (chunks : List Bytes) : Option (Text × Int) :=
  (collect env.zstd env.remaining (sentinelOf env.sentinelId) [] ⟨false, [], []⟩
    (chunks.map (chunkArrival tid))).1.output parseDirectExecOutput (sentinelOf env.sentinelId)

theorem daemonOutput_eq (env : ExecEnv) (tid : Int) (streaming : Bool) (chunks : List Bytes) :
    daemonOutput env tid streaming chunks =
      some (parseExecOutput (fromUtf8Lossy (gather (sentinelOf env.sentinelId) [] chunks))
        (sentinelOf env.sentinelId)) := by
  obtain ⟨timedOut, client, inbox, h⟩ := collect_chunks env.zstd env.remaining
    (sentinelOf env.sentinelId) tid chunks [] ⟨streaming, [], []⟩ rfl
  rw [daemonOutput, h]
  rfl

theorem directOutput_eq (env : ExecEnv) (tid : Int) (chunks : List Bytes) :
    directOutput env tid chunks =
      some (parseDirectExecOutput (fromUtf8Lossy (gather (sentinelOf env.sentinelId) [] chunks))
        (sentinelOf env.sentinelId)) := by
  obtain ⟨timedOut, client, inbox, h⟩ := collect_chunks env.zstd env.remaining
    (sentinelOf env.sentinelId) tid chunks [] ⟨false, [], []⟩ rfl
  rw [directOutput, h]
  rfl

/-- Once the command has been typed, `exec_command_inner` answers with the daemon's
output of the chunks. -/
theorem finishExec_chunks (env : ExecEnv) (command : Text) (tid : Int) (st : ExecState)
    {chunks : List Bytes} (hwrites : st.client.writes = [])
    (hinbox : st.peer.inbox = chunks.map (chunkArrival tid)) :
    ∃ output timedOut,
      daemonOutput env tid st.client.streaming chunks = some output ∧
        (finishExec env command tid st).1 =
          .ok (.okWithData (executedText command)
            (execData command output.1 output.2 timedOut)) := by
  obtain ⟨timedOut, client, inbox, hcollect⟩ := collect_chunks env.zstd env.remaining
    (sentinelOf env.sentinelId) tid chunks [] st.client hwrites
  refine ⟨_, timedOut, daemonOutput_eq env tid st.client.streaming chunks, ?_⟩
  unfold finishExec
  simp only [hinbox, hcollect]

/-- A whole `exec_command_inner` whose terminal opens, whose prompt drain ends idle and
whose command could be typed answers with the daemon's output of the chunks. -/
theorem execCommandInner_chunks (env : ExecEnv) (command : Text) {st : ExecState}
    {info : TerminalInfo} {peer peer' : Peer} {chunks : List Bytes}
    (hwrites : st.client.writes = [])
    (hopen : openTerminal st.peer 24 80 = (some (.ok info), peer))
    (hdrain : drainPrompt env.zstd "2".toList peer.inbox =
      (.idle, chunks.map (chunkArrival info.terminalId)))
    (hsend : sendTerminalData env.zstd
        { peer with inbox := chunks.map (chunkArrival info.terminalId) } info.terminalId
        (textBytes (wrapped command (sentinelOf env.sentinelId))) = (.ok (), peer')) :
    ∃ output timedOut,
      daemonOutput env info.terminalId st.client.streaming chunks = some output ∧
        (execCommandInner env command st).1 =
          .ok (.okWithData (executedText command)
            (execData command output.1 output.2 timedOut)) := by
  have hinbox : peer'.inbox = chunks.map (chunkArrival info.terminalId) := by
    rw [← sendTerminalData_inbox hsend]
  unfold execCommandInner
  simp only [hopen, hdrain, hsend]
  exact finishExec_chunks env command info.terminalId
    ⟨peer', st.client, some info.serviceId⟩ hwrites hinbox

/-- The same for `direct_exec` and its own parser. -/
theorem directExec_chunks (env : ExecEnv) (command : Text) {start peer peer' : Peer}
    {info : TerminalInfo} {chunks : List Bytes}
    (hopen : openTerminal start 24 80 = (some (.ok info), peer))
    (hdrain : drainPrompt env.zstd "0.5".toList peer.inbox =
      (.idle, chunks.map (chunkArrival info.terminalId)))
    (hsend : sendTerminalData env.zstd
        { peer with inbox := chunks.map (chunkArrival info.terminalId) } info.terminalId
        (textBytes (wrapped command (sentinelOf env.sentinelId))) = (.ok (), peer')) :
    ∃ output timedOut,
      directOutput env info.terminalId chunks = some output ∧
        (directExec env command start).1 = .ok (output.1, output.2, timedOut) := by
  have hinbox : peer'.inbox = chunks.map (chunkArrival info.terminalId) := by
    rw [← sendTerminalData_inbox hsend]
  obtain ⟨timedOut, client, inbox, hcollect⟩ := collect_chunks env.zstd env.remaining
    (sentinelOf env.sentinelId) info.terminalId chunks [] ⟨false, [], []⟩ rfl
  refine ⟨_, timedOut, directOutput_eq env info.terminalId chunks, ?_⟩
  unfold directExec
  simp only [hopen, hdrain, hsend, hinbox, hcollect]

/-! ## What the parsers see in a prefix -/

variable {sentinel : Text}

/-- The echoed `echo` and the line feed after it, if the parser finds them. -/
theorem outputStart_cases (raw sentinel : Text) :
    (∃ pos nl, Text.find (echoCmd sentinel) raw = some pos ∧
        Text.find ['\n'] (raw.drop pos) = some nl ∧ outputStart raw sentinel = pos + nl + 1) ∨
      (outputStart raw sentinel = 0 ∧
        ∀ pos, Text.find (echoCmd sentinel) raw = some pos →
          Text.find ['\n'] (raw.drop pos) = none) := by
  rw [outputStart]
  cases hpos : Text.find (echoCmd sentinel) raw with
  | none => exact .inr ⟨rfl, by simp⟩
  | some pos =>
      cases hnl : Text.find ['\n'] (raw.drop pos) with
      | none => exact .inr ⟨by simp [hnl], by simp [hnl]⟩
      | some nl => exact .inl ⟨pos, nl, rfl, hnl, by simp [hnl]⟩

theorem echoCmd_ne_nil (sentinel : Text) : echoCmd sentinel ≠ [] := by simp [echoCmd_eq]

/-- A line feed stands right before the offset where the output starts. -/
theorem outputStart_spec {raw : Text} (h : 0 < outputStart raw sentinel) :
    ∃ before after, raw = before ++ '\n' :: after ∧
      outputStart raw sentinel = before.length + 1 := by
  rcases outputStart_cases raw sentinel with ⟨pos, nl, _, hnl, hstart⟩ | ⟨hzero, _⟩
  · obtain ⟨after, hafter⟩ := (Text.find_eq_some hnl).1
    rw [List.drop_drop] at hafter
    have hlen := Text.find_length (by simp) hnl
    rw [List.length_drop, List.length_singleton] at hlen
    refine ⟨raw.take (pos + nl), after, ?_, ?_⟩
    · conv_lhs => rw [← List.take_append_drop (pos + nl) raw, ← hafter]
      rfl
    · rw [hstart, List.length_take, Nat.min_eq_left (by omega)]
  · omega

/-- The parser finds the start of the output in a prefix as in the whole text, unless
the prefix ends before it. -/
theorem outputStart_short (hmark : IsMarker sentinel) {short long : Text}
    (hpre : short <+: long) :
    outputStart short sentinel = outputStart long sentinel ∨
      (outputStart short sentinel = 0 ∧ short.length < outputStart long sentinel) := by
  have hne := echoCmd_ne_nil sentinel
  rcases outputStart_cases short sentinel with ⟨pos, nl, hpos, hnl, hstart⟩ | ⟨hzero, hnone⟩
  · left
    have hpos' := Text.find_mono hne hpre hpos
    have hnl' := Text.find_mono (by simp) (hpre.drop pos) hnl
    rw [hstart, outputStart, hpos', Option.bind_some, hnl']
    rfl
  · rcases outputStart_cases long sentinel with ⟨pos, nl, hpos, hnl, hstart⟩ | ⟨hzero', _⟩
    · by_cases hlen : pos + nl + 1 ≤ short.length
      · exfalso
        -- the line feed found after the `echo` is not inside it
        have hecho : (echoCmd sentinel).length ≤ nl := by
          by_contra hlt
          obtain ⟨rest, hrest⟩ := (Text.find_eq_some hpos).1
          have hat := (Text.find_eq_some hnl).1
          rw [← hrest, List.drop_append_of_le_length (by omega)] at hat
          have hmem : '\n' ∈ (echoCmd sentinel).drop nl := by
            cases hdrop : (echoCmd sentinel).drop nl with
            | nil => rw [List.drop_eq_nil_iff] at hdrop; omega
            | cons c cs =>
                rw [hdrop, List.cons_append] at hat
                rw [(List.cons_prefix_cons.mp hat).1]
                exact List.mem_cons_self
          have hin := List.mem_of_mem_drop hmem
          simp [echoCmd_eq, hmark.no_lf] at hin
        have hpos' := Text.find_of_length hne hpre hpos (by omega)
        have hnl' := Text.find_of_length (by simp) (hpre.drop pos) hnl
          (by rw [List.length_drop, List.length_singleton]; omega)
        rw [hnone pos hpos'] at hnl'
        cases hnl'
      · exact .inr ⟨hzero, by omega⟩
    · exact .inl (hzero.trans hzero'.symm)

/-- A replacement character at the end is not seen by the search for the start. -/
theorem outputStart_replacement (hmark : IsMarker sentinel) (text : Text) :
    outputStart (text ++ [replacement]) sentinel = outputStart text sentinel := by
  have hsep : replacement ∉ echoCmd sentinel := by
    simp [echoCmd_eq, replacement, hmark.no_replacement]
  have hne := echoCmd_ne_nil sentinel
  have hecho : Text.find (echoCmd sentinel) (text ++ [replacement]) =
      Text.find (echoCmd sentinel) text := by
    rw [Text.find_append_cons hne hsep]
    cases Text.find (echoCmd sentinel) text with
    | some pos => rfl
    | none => simp [Text.find, hne]
  rw [outputStart, outputStart, hecho]
  cases hpos : Text.find (echoCmd sentinel) text with
  | none => rfl
  | some pos =>
      have hlen := Text.find_length hne hpos
      have hlf : Text.find ['\n'] ((text ++ [replacement]).drop pos) =
          Text.find ['\n'] (text.drop pos) := by
        rw [List.drop_append_of_le_length (by omega),
          Text.find_append_cons (by simp) (by simp [replacement])]
        cases Text.find ['\n'] (text.drop pos) with
        | some nl => rfl
        | none => simp [Text.find]
      rw [Option.bind_some, Option.bind_some, hlf]

/-- A replacement character at the end is not seen by the scan either. -/
theorem findSentinelOutput_replacement (hne : sentinel ≠ []) (text : Text) :
    findSentinelOutput (text ++ [replacement]) sentinel = findSentinelOutput text sentinel := by
  have hpre : text <+: text ++ [replacement] := List.prefix_append _ _
  cases hlong : findSentinelOutput (text ++ [replacement]) sentinel with
  | some p =>
      -- the digit the scan stopped before is not the replacement character
      have hdigit := (findSentinelOutput_spec hne hlong).2
      have hlt := lt_length_of_startsWithDigit hdigit
      rw [List.length_append, List.length_singleton] at hlt
      have hin : p + sentinel.length ≠ text.length := by
        intro heq
        rw [heq, List.drop_left] at hdigit
        revert hdigit
        decide
      exact (findSentinelOutput_of_length hne hpre hlong (by omega)).symm
  | none =>
      cases hshort : findSentinelOutput text sentinel with
      | none => rfl
      | some p =>
          rw [findSentinelOutput_mono hne hpre hshort] at hlong
          cases hlong

/-- What the parsers see in `seen`, decoded from some prefix of the bytes, when the
scan stops at `p` there. -/
structure Seen (sentinel whole seen : Text) (p : Nat) : Prop where
  found : findSentinelOutput seen sentinel = some p
  inWhole : findSentinelOutput whole sentinel = some p
  take : ∀ n ≤ p, seen.take n = whole.take n
  digits : exitDigits seen sentinel p <+: exitDigits whole sentinel p
  digits_ne : exitDigits seen sentinel p ≠ []
  start : outputStart seen sentinel = outputStart whole sentinel ∨
    (outputStart seen sentinel = 0 ∧ p + sentinel.length < outputStart whole sentinel)

theorem exitDigits_ne_nil {raw : Text} {p : Nat}
    (h : startsWithDigit (raw.drop (p + sentinel.length)) = true) :
    exitDigits raw sentinel p ≠ [] := by
  rw [exitDigits]
  cases hdrop : raw.drop (p + sentinel.length) with
  | nil => simp [hdrop, startsWithDigit] at h
  | cons c cs =>
      have hc : c.isDigit = true := by simpa [hdrop, startsWithDigit] using h
      simp [hc]

/-- What the scan stops at in a decoded prefix, it stops at in the whole text. -/
theorem seen_of_cut (hmark : IsMarker sentinel) {whole text seen : Text} {p : Nat}
    (hpre : text <+: whole) (hseen : seen = text ∨ seen = text ++ [replacement])
    (hfound : findSentinelOutput seen sentinel = some p) : Seen sentinel whole seen p := by
  have hne := hmark.ne_nil
  have htext : findSentinelOutput text sentinel = some p := by
    rcases hseen with rfl | rfl
    · exact hfound
    · rwa [findSentinelOutput_replacement hne] at hfound
  have hlen := lt_length_of_startsWithDigit (findSentinelOutput_spec hne htext).2
  have hdigits : exitDigits seen sentinel p = exitDigits text sentinel p := by
    rcases hseen with rfl | rfl
    · rfl
    · rw [exitDigits, exitDigits, List.drop_append_of_le_length (by omega)]
      exact Text.takeWhile_append_of_neg rfl
  have hstart : outputStart seen sentinel = outputStart text sentinel := by
    rcases hseen with rfl | rfl
    · rfl
    · exact outputStart_replacement hmark text
  refine ⟨hfound, findSentinelOutput_mono hne hpre htext, ?_, ?_, ?_, ?_⟩
  · intro n hn
    obtain ⟨rest, rfl⟩ := hpre
    have htake : (text ++ rest).take n = text.take n := List.take_append_of_le_length (by omega)
    rcases hseen with rfl | rfl
    · exact htake.symm
    · rw [htake]
      exact List.take_append_of_le_length (by omega)
  · rw [hdigits]
    exact Text.takeWhile_prefix_takeWhile _ (hpre.drop _)
  · rw [hdigits]
    exact exitDigits_ne_nil (findSentinelOutput_spec hne htext).2
  · rw [hstart]
    rcases outputStart_short hmark hpre with h | ⟨hzero, hlt⟩
    · exact .inl h
    · exact .inr ⟨hzero, by omega⟩

theorem lineStart_le (raw : Text) (pos : Nat) : lineStart raw pos ≤ pos := by
  rw [lineStart]
  cases h : Text.rfind '\n' (raw.take pos) with
  | none => exact Nat.zero_le _
  | some i =>
      obtain ⟨xs, ys, hsplit, hlen, _⟩ := Text.rfind_eq_some h
      have := congrArg List.length hsplit
      simp only [List.length_take, List.length_append, List.length_cons] at this
      simp only [Option.map_some, Option.getD_some]
      omega

/-- The daemon's parser on a decoded prefix. -/
theorem Seen.parseExecOutput_eq {whole seen : Text} {p : Nat} (h : Seen sentinel whole seen p) :
    parseExecOutput seen sentinel =
      (stdoutBetween whole (outputStart seen sentinel) (lineStart whole p),
        (Text.parseI32 (exitDigits seen sentinel p)).getD (-1)) := by
  have hline : lineStart seen p = lineStart whole p := by
    rw [lineStart, lineStart, h.take p (Nat.le_refl _)]
  rw [parseExecOutput, h.found]
  simp only [hline, stdoutBetween, h.take _ (lineStart_le whole p)]

/-- The direct parser on a decoded prefix. -/
theorem Seen.parseDirectExecOutput_eq {whole seen : Text} {p : Nat}
    (h : Seen sentinel whole seen p) :
    parseDirectExecOutput seen sentinel =
      (directStdout (whole.take p) sentinel,
        (Text.parseI32 (exitDigits seen sentinel p)).getD 0) := by
  rw [parseDirectExecOutput, h.found]
  simp only [h.take p (Nat.le_refl _)]

/-! ## The condition -/

/-- The result read from a text does not depend on where its bytes are cut: the exit
code's digits are stable, and the line of the echoed `echo` ends before the line of
the sentinel's output starts, or there is no output before that line. -/
def ChunkSafe (sentinel text : Text) : Prop :=
  ∀ p ∈ findSentinelOutput text sentinel,
    Text.StableDigits (exitDigits text sentinel p) ∧
      (outputStart text sentinel ≤ lineStart text p ∨
        ∀ c ∈ text.take (lineStart text p), Text.isLineEnd c = true)

/-- In a safe text every decoded prefix the loop can stop at has one result. -/
theorem parse_of_chunkSafe {whole seen : Text} {p : Nat} (hsafe : ChunkSafe sentinel whole)
    (h : Seen sentinel whole seen p) :
    parseExecOutput seen sentinel = parseExecOutput whole sentinel ∧
      parseDirectExecOutput seen sentinel = parseDirectExecOutput whole sentinel := by
  obtain ⟨hdigits, hstart⟩ := hsafe p h.inWhole
  have hcode := Text.parseI32_of_stable hdigits h.digits h.digits_ne
  refine ⟨?_, ?_⟩
  · rw [h.parseExecOutput_eq, hcode, parseExecOutput, h.inWhole]
    refine Prod.ext ?_ rfl
    simp only
    rcases h.start with heq | ⟨hzero, hlt⟩
    · rw [heq]
    · have hle := lineStart_le whole p
      rw [hzero, stdoutBetween, stdoutBetween, if_neg (by omega : ¬ outputStart whole sentinel < _)]
      rcases hstart with hearly | hblank
      · omega
      · rw [List.drop_zero, Text.trimEndLines, List.rdropWhile_eq_nil_iff.mpr hblank, ite_self]
  · rw [h.parseDirectExecOutput_eq, hcode, parseDirectExecOutput, h.inWhole]

/-- Whatever the loop stops at, in a safe text its result is that of all the bytes. -/
theorem parse_gather_of_chunkSafe (hmark : IsMarker sentinel) {bytes : Bytes}
    (hsafe : ChunkSafe sentinel (fromUtf8Lossy bytes)) {chunks : List Bytes}
    (hflat : chunks.flatten = bytes) :
    parseExecOutput (fromUtf8Lossy (gather sentinel [] chunks)) sentinel =
        parseExecOutput (fromUtf8Lossy bytes) sentinel ∧
      parseDirectExecOutput (fromUtf8Lossy (gather sentinel [] chunks)) sentinel =
        parseDirectExecOutput (fromUtf8Lossy bytes) sentinel := by
  obtain ⟨rest, hsplit, hend⟩ := gather_spec sentinel chunks []
  rw [List.nil_append, hflat] at hsplit
  rcases hend with hfound | rfl
  · obtain ⟨p, hp⟩ := Option.isSome_iff_exists.mp hfound
    obtain ⟨text, hpre, hseen⟩ := fromUtf8Lossy_front (gather sentinel [] chunks) rest
    rw [← hsplit] at hpre
    exact parse_of_chunkSafe hsafe (seen_of_cut hmark hpre hseen hp)
  · rw [hsplit, List.append_nil]
    exact ⟨rfl, rfl⟩

/-- The bytes can be cut after any of the exit code's digits, and the loop stops there. -/
theorem exists_cut (hmark : IsMarker sentinel) {bytes : Bytes} {p : Nat} {pre : Text}
    (hfound : findSentinelOutput (fromUtf8Lossy bytes) sentinel = some p) (hne : pre ≠ [])
    (hpre : pre <+: exitDigits (fromUtf8Lossy bytes) sentinel p) :
    ∃ front back, bytes = front ++ back ∧
      fromUtf8Lossy front = (fromUtf8Lossy bytes).take (p + sentinel.length) ++ pre ∧
      fromUtf8Lossy front <+: fromUtf8Lossy bytes ∧
      Seen sentinel (fromUtf8Lossy bytes) (fromUtf8Lossy front) p ∧
      exitDigits (fromUtf8Lossy front) sentinel p = pre := by
  have hlt := lt_length_of_startsWithDigit (findSentinelOutput_spec hmark.ne_nil hfound).2
  have hdigit : ∀ c ∈ pre, c.isDigit = true := fun c hc => List.mem_takeWhile_imp (hpre.subset hc)
  obtain ⟨more, hmore⟩ := hpre.trans (List.takeWhile_prefix _)
  have hwhole : fromUtf8Lossy bytes =
      ((fromUtf8Lossy bytes).take (p + sentinel.length) ++ pre) ++ more := by
    rw [List.append_assoc, hmore, List.take_append_drop]
  have hcut : ∃ front back, bytes = front ++ back ∧
      fromUtf8Lossy front = (fromUtf8Lossy bytes).take (p + sentinel.length) ++ pre := by
    cases pre using List.reverseRecOn with
    | nil => exact absurd rfl hne
    | append_singleton pre c =>
        have hc : c ≠ replacement := by
          rintro rfl
          exact absurd (hdigit replacement (by simp)) (by decide)
        rw [← List.append_assoc, List.append_assoc _ [c], List.singleton_append] at hwhole
        obtain ⟨front, back, hsplit, hfront⟩ := fromUtf8Lossy_cut hc hwhole
        exact ⟨front, back, hsplit, by rw [hfront, List.append_assoc]⟩
  obtain ⟨front, back, hsplit, hfront⟩ := hcut
  have htake : ((fromUtf8Lossy bytes).take (p + sentinel.length)).length = p + sentinel.length := by
    rw [List.length_take, Nat.min_eq_left (by omega)]
  have hprefix : fromUtf8Lossy front <+: fromUtf8Lossy bytes := by
    rw [hfront]
    exact ⟨more, hwhole.symm⟩
  have hpos := List.length_pos_of_ne_nil hne
  have hseen := seen_of_cut hmark hprefix (.inl rfl)
    (findSentinelOutput_of_length hmark.ne_nil hprefix hfound
      (by rw [hfront, List.length_append, htake]; omega))
  refine ⟨front, back, hsplit, hfront, hprefix, hseen, ?_⟩
  rw [exitDigits, hfront, List.drop_left' htake, List.takeWhile_eq_self_iff.mpr hdigit]

/-- There is no line feed between the start of a line and an offset on it. -/
theorem not_mem_drop_lineStart (raw : Text) (pos : Nat) :
    '\n' ∉ (raw.take pos).drop (lineStart raw pos) := by
  rw [lineStart]
  cases h : Text.rfind '\n' (raw.take pos) with
  | none => exact fun hmem => Text.rfind_eq_none_iff.mp h (List.mem_of_mem_drop hmem)
  | some i =>
      obtain ⟨xs, ys, hsplit, hlen, hys⟩ := Text.rfind_eq_some h
      rw [hsplit, Option.map_some, Option.getD_some, ← List.singleton_append,
        ← List.append_assoc, List.drop_left' (by simp [hlen])]
      exact hys

/-- Cut right after its first digit, the sentinel's line is not finished, so an output
that would start after that line does not start at all. -/
theorem outputStart_of_cut (hmark : IsMarker sentinel) {whole : Text} {p : Nat} {c : Char}
    (hfound : findSentinelOutput whole sentinel = some p) (hc : c ≠ '\n')
    (hpre : whole.take (p + sentinel.length) ++ [c] <+: whole)
    (hlate : lineStart whole p < outputStart whole sentinel) :
    outputStart (whole.take (p + sentinel.length) ++ [c]) sentinel = 0 := by
  rcases outputStart_short hmark hpre with heq | ⟨hzero, _⟩
  · exfalso
    have hpos : 0 < outputStart (whole.take (p + sentinel.length) ++ [c]) sentinel := by omega
    obtain ⟨before, after, hsplit, hstart⟩ := outputStart_spec hpos
    have hline := lineStart_le whole p
    have htake : whole.take (p + sentinel.length) = whole.take p ++ sentinel := by
      obtain ⟨rest, hrest⟩ := (findSentinelOutput_spec hmark.ne_nil hfound).1
      rw [List.take_add, ← hrest, List.take_left]
    have hmem : '\n' ∈ (whole.take (p + sentinel.length) ++ [c]).drop (lineStart whole p) := by
      rw [hsplit, List.drop_append_of_le_length (by omega)]
      simp
    have hlen : lineStart whole p ≤ (whole.take p).length := by
      have := lt_length_of_startsWithDigit (findSentinelOutput_spec hmark.ne_nil hfound).2
      rw [List.length_take]
      omega
    rw [htake, List.append_assoc, List.drop_append_of_le_length hlen] at hmem
    simp [not_mem_drop_lineStart, hmark.no_lf, hc.symm] at hmem
  · exact hzero

section Cuts

variable {bytes : Bytes} {p : Nat}

/-- Cut anywhere the loop can stop, the daemon's parser returns the same. -/
def SameAtCuts (sentinel : Text) (bytes : Bytes) (p : Nat) : Prop :=
  ∀ front back, bytes = front ++ back →
    Seen sentinel (fromUtf8Lossy bytes) (fromUtf8Lossy front) p →
      parseExecOutput (fromUtf8Lossy front) sentinel =
        parseExecOutput (fromUtf8Lossy bytes) sentinel

/-- Cuts between the digits show that the digits are stable. -/
theorem stableDigits_of_cuts (hmark : IsMarker sentinel)
    (hfound : findSentinelOutput (fromUtf8Lossy bytes) sentinel = some p)
    (hcut : SameAtCuts sentinel bytes p) :
    Text.StableDigits (exitDigits (fromUtf8Lossy bytes) sentinel p) := by
  have hself := seen_of_cut hmark List.prefix_rfl (.inl rfl) hfound
  refine Text.stable_of_parseI32 (-1)
    ((Text.parseI32 (exitDigits (fromUtf8Lossy bytes) sentinel p)).getD (-1))
    (fun c hc => List.mem_takeWhile_imp hc) fun pre hne hpre => ?_
  obtain ⟨front, back, hsplit, _, _, hseen, hexit⟩ := exists_cut hmark hfound hne hpre
  have hsame := hcut front back hsplit hseen
  rw [hseen.parseExecOutput_eq, hself.parseExecOutput_eq, hexit, Prod.mk.injEq] at hsame
  exact hsame.2

/-- A cut after the first digit shows that the output starts before the sentinel's
line, or that there is none. -/
theorem outputStart_of_cuts (hmark : IsMarker sentinel)
    (hfound : findSentinelOutput (fromUtf8Lossy bytes) sentinel = some p)
    (hcut : SameAtCuts sentinel bytes p) :
    outputStart (fromUtf8Lossy bytes) sentinel ≤ lineStart (fromUtf8Lossy bytes) p ∨
      ∀ c ∈ (fromUtf8Lossy bytes).take (lineStart (fromUtf8Lossy bytes) p),
        Text.isLineEnd c = true := by
  by_cases hlate : lineStart (fromUtf8Lossy bytes) p < outputStart (fromUtf8Lossy bytes) sentinel
  · right
    have hself := seen_of_cut hmark List.prefix_rfl (.inl rfl) hfound
    obtain ⟨d, ds, hds⟩ := List.exists_cons_of_ne_nil hself.digits_ne
    have hd : d.isDigit = true := List.mem_takeWhile_imp (l := (fromUtf8Lossy bytes).drop _)
      (by rw [← exitDigits, hds]; exact List.mem_cons_self)
    have hlf : d ≠ '\n' := by
      rintro rfl
      exact absurd hd (by decide)
    obtain ⟨front, back, hsplit, hfront, hpre, hseen, _⟩ :=
      exists_cut hmark hfound (List.cons_ne_nil d []) (by rw [hds]; exact ⟨ds, rfl⟩)
    have hzero := outputStart_of_cut hmark hfound hlf (hfront ▸ hpre) hlate
    have hsame := hcut front back hsplit hseen
    rw [hseen.parseExecOutput_eq, hself.parseExecOutput_eq, hfront, hzero, Prod.mk.injEq,
      stdoutBetween, stdoutBetween, if_neg (by omega : ¬ outputStart _ sentinel < _)] at hsame
    by_cases hline : 0 < lineStart (fromUtf8Lossy bytes) p
    · have hblank := hsame.1
      rw [if_pos hline, List.drop_zero] at hblank
      exact List.rdropWhile_eq_nil_iff.mp hblank
    · simp [Nat.eq_zero_of_not_pos hline]
  · exact .inl (by omega)

end Cuts

/-- The result of an `exec`, in the daemon and direct, is the same for all ways to cut
the terminal's bytes into chunks exactly when their text is safe. -/
theorem exec_result_chunking_iff (env : ExecEnv) (tid : Int) (streaming : Bool) (bytes : Bytes) :
    (∀ chunks chunks' : List Bytes, chunks.flatten = bytes → chunks'.flatten = bytes →
      daemonOutput env tid streaming chunks = daemonOutput env tid streaming chunks' ∧
        directOutput env tid chunks = directOutput env tid chunks') ↔
      ChunkSafe (sentinelOf env.sentinelId) (fromUtf8Lossy bytes) := by
  have hmark := sentinelOf_isMarker env.sentinelId
  simp only [daemonOutput_eq, directOutput_eq, Option.some.injEq]
  constructor
  · intro hsame p hp
    -- one cut against no cut
    have hcut : SameAtCuts (sentinelOf env.sentinelId) bytes p := by
      intro front back hsplit hseen
      have hgather : gather (sentinelOf env.sentinelId) [] [front, back] = front := by
        simp [gather, hseen.found]
      have hwhole : gather (sentinelOf env.sentinelId) [] [bytes] = bytes := by
        simp [gather]
      have := (hsame [front, back] [bytes] (by simp [hsplit]) (by simp)).1
      rwa [hgather, hwhole] at this
    exact ⟨stableDigits_of_cuts hmark hp hcut, outputStart_of_cuts hmark hp hcut⟩
  · intro hsafe chunks chunks' hflat hflat'
    obtain ⟨hdaemon, hdirect⟩ := parse_gather_of_chunkSafe hmark hsafe hflat
    obtain ⟨hdaemon', hdirect'⟩ := parse_gather_of_chunkSafe hmark hsafe hflat'
    exact ⟨hdaemon.trans hdaemon'.symm, hdirect.trans hdirect'.symm⟩

/-- An environment with a compression library that is never called. -/
def plainEnv : ExecEnv := ⟨⟨fun data => .ok data, fun data => .ok data⟩, 1, "30".toList⟩

/-- The bytes of a sentinel's output line. -/
def outputLine (code : Text) : Bytes :=
  textBytes (sentinelOf plainEnv.sentinelId ++ code ++ "\r\n".toList)

/-- Exit code 127, cut after its first digit, is exit code 1. -/
theorem exit_code_cut_in_digits :
    [(outputLine "127".toList).take 43, (outputLine "127".toList).drop 43].flatten =
        outputLine "127".toList ∧
      daemonOutput plainEnv 5 true [outputLine "127".toList] = some ([], 127) ∧
      daemonOutput plainEnv 5 true
          [(outputLine "127".toList).take 43, (outputLine "127".toList).drop 43] = some ([], 1) := by
  decide +kernel

end RustdeskCli.Exec
