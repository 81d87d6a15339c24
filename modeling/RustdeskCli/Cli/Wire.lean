import RustdeskCli.Cli.Commands
import RustdeskCli.Daemon.Answers
import RustdeskCli.Session.Wire
set_option autoImplicit false
set_option linter.dupNamespace false

/-!
# Cli: client and daemon over the socket

A client writes its command as one line and closes its side; the daemon reads one line,
answers with lines, and closes.  Both sides read what has arrived when the other one goes
away, so a request and an answer can end at any byte.

The JSON forms are those of two codecs, `commands` and `responses`, of which only this is
used: a value is one trimmed line, it is read back as it was written, and no proper front
of it is read at all.  The forms `serde` derives are codecs of this kind.
-/

namespace RustdeskCli.Cli

open RustdeskCli.Foundation
open RustdeskCli.Session
open RustdeskCli.Daemon

/-! ## Requests -/

section Requests

variable (commands : Codec SessionCommand Error)

/-- The daemon reads one line: `none` when it is no text, and otherwise what the line
decodes to. -/
def readRequest (arrived : Bytes) : Option (Except Error SessionCommand) :=
  match Records.cutAfter 0x0A arrived with
  | [] => some (commands.read [])
  | line :: _ =>
      match fromUtf8 line with
      | none => none
      | some text => some (commands.read (Text.trim text))

/-- The turn of the daemon when these bytes arrive of a request, before the client is gone. -/
def requestTurn (arrived : Bytes) (req : Request) : Action :=
  match readRequest commands arrived with
  | none => .acceptError
  | some line => .accept { req with line := line }

variable {commands} (hcommands : commands.Lawful id)

include hcommands

theorem readRequest_whole (cmd : SessionCommand) {arrived : Bytes}
    (hcut : arrived <+: commands.stream [cmd]) (hall : commands.bytes cmd <+: arrived) :
    readRequest commands arrived = some (.ok cmd) := by
  have hlf := Codec.lf_not_mem_bytes hcommands cmd
  have hne : commands.bytes cmd ≠ [] := fun hnil =>
    hcommands.nonempty cmd (Text.utf8_injective hnil)
  obtain ⟨tail, rfl⟩ := hall
  rw [Codec.stream_singleton] at hcut
  have htail : tail <+: [0x0A] := (List.prefix_append_right_inj _).mp hcut
  have hread : commands.read (commands.write cmd) = .ok cmd := hcommands.reads cmd
  have htrim := Text.trim_eq_self_iff.mpr (hcommands.trimmed cmd)
  unfold readRequest
  cases tail with
  | nil =>
      rw [List.append_nil, Records.cutAfter_of_not_mem hlf hne]
      have htext : fromUtf8 (commands.bytes cmd) = some (commands.write cmd) :=
        fromUtf8_eq_some_iff.mpr rfl
      simp only [htext, htrim, hread]
  | cons b tail =>
      obtain ⟨rfl, hnil⟩ := List.cons_prefix_cons.mp htail
      obtain rfl := List.prefix_nil.mp hnil
      rw [Records.cutAfter_record hlf]
      have htext : fromUtf8 (commands.bytes cmd ++ [0x0A]) = some (commands.write cmd ++ ['\n']) :=
        fromUtf8_eq_some_iff.mpr (Text.utf8_append (commands.write cmd) ['\n'])
      simp only [htext, Text.trim_append_right _ (show Text.Blank ['\n'] by decide), htrim, hread]

theorem readRequest_front (cmd : SessionCommand) {arrived : Bytes}
    (hcut : arrived <+: commands.stream [cmd]) (hpart : ¬ commands.bytes cmd <+: arrived) :
    readRequest commands arrived = none ∨
      ∃ e, readRequest commands arrived = some (.error e) := by
  rw [Codec.stream_singleton] at hcut
  have hfront : arrived <+: commands.bytes cmd := by
    rcases Text.prefix_append_cases hcut with hin | ⟨tail, _, rfl⟩
    · exact hin
    · exact absurd (List.prefix_append _ _) hpart
  have hne : arrived ≠ commands.bytes cmd := fun heq => hpart (heq ▸ List.prefix_rfl)
  have hlf : 0x0A ∉ arrived := fun hmem =>
    Codec.lf_not_mem_bytes hcommands cmd (hfront.subset hmem)
  unfold readRequest
  by_cases hnil : arrived = []
  · subst hnil
    obtain ⟨e, he⟩ := hcommands.refuses cmd [] List.nil_prefix (hcommands.nonempty cmd).symm
    exact .inr ⟨e, congrArg some he⟩
  · rw [Records.cutAfter_of_not_mem hlf hnil]
    simp only
    cases htext : fromUtf8 arrived with
    | none => exact .inl rfl
    | some text =>
        obtain ⟨e, he⟩ := Codec.refuses_front hcommands cmd htext hfront hne
        exact .inr ⟨e, congrArg some he⟩

/-- A request that breaks off at any byte is carried out as the command it was, or it changes
nothing: the daemon never takes it for another one.  It is carried out exactly when no more
than the line feed is missing. -/
theorem broken_request_is_whole_or_nothing {ι : Type} (lib : Capture.ImageLib ι) (d : DaemonLoop)
    (hrunning : d.returned = none) (req : Request) (cmd : SessionCommand) (arrived : Bytes)
    (hcut : arrived <+: commands.stream [cmd]) :
    (commands.bytes cmd <+: arrived →
      loopStep lib d (requestTurn commands arrived req) =
        loopStep lib d (.accept { req with line := .ok cmd })) ∧
      (¬ commands.bytes cmd <+: arrived →
        loopStep lib d (requestTurn commands arrived req) = some d) := by
  have hnot : ¬ d.returned.isSome = true := by simp [hrunning]
  constructor
  · intro hall
    rw [requestTurn, readRequest_whole hcommands cmd hcut hall]
  · intro hpart
    unfold requestTurn
    rcases readRequest_front hcommands cmd hcut hpart with hnone | ⟨e, he⟩
    · rw [hnone]
      unfold loopStep
      rw [if_neg hnot]
    · rw [he]
      unfold loopStep
      rw [if_neg hnot]
      rfl

end Requests

/-- A disconnect of which five bytes have arrived is none. -/
theorem broken_request_is_whole_or_nothing_disconnect :
    (commandCodec.stream [.disconnect]).take 5 = Text.utf8 "\"Disc".toList ∧
      loopStep sampleImages sampleDaemon
          (requestTurn commandCodec (Text.utf8 "\"Disc".toList)
            (sampleRequest (.ok .status) [] (.error (.msg "refused".toList)))) =
        some sampleDaemon := by
  have hcut : Text.utf8 "\"Disc".toList <+: commandCodec.stream [.disconnect] := by decide +kernel
  have hpart : ¬ commandCodec.bytes .disconnect <+: Text.utf8 "\"Disc".toList := by
    decide +kernel
  exact ⟨by decide +kernel, (broken_request_is_whole_or_nothing commandCodec_lawful sampleImages
    sampleDaemon rfl _ .disconnect _ hcut).2 hpart⟩

/-! ## Answers -/

section Answers

variable (responses : Codec SessionResponse Error)

/-- What the daemon writes for one output. -/
def outputBytes : Output → Bytes
  | .line response => responses.bytes response ++ [0x0A]
  | .raw data => data

/-- A line as the client's loops see it. -/
def udsLine : Record SessionResponse Error → UdsLine
  | .blank => .blank
  | .value response => .response response
  | .refused e => .malformed e
  | .unreadable => .failed (.msg "stream did not contain valid UTF-8".toList)

/-- What the client reads of these bytes, up to the end of the stream. -/
def linesRead (arrived : Bytes) : List UdsLine := (responses.records arrived).map udsLine

theorem flatMap_outputBytes (lines : List SessionResponse) :
    (lines.map Output.line).flatMap (outputBytes responses) = responses.stream lines := by
  unfold Codec.stream Records.framed
  rw [List.flatMap_map, List.flatMap_map]
  rfl

section Loops

variable {σ : Type} (onResponse : σ → SessionResponse → σ)

/-- The loop passes over lines that are responses. -/
theorem readResponses_append (lines : List SessionResponse) (rest : List UdsLine) (seen : σ)
    (last : Option SessionResponse) :
    readResponses onResponse seen last (lines.map .response ++ rest) =
      readResponses onResponse (lines.foldl onResponse seen) (lines.getLast?.or last) rest := by
  induction lines generalizing seen last with
  | nil => rfl
  | cons line lines ih =>
      rw [List.map_cons, List.cons_append, readResponses, ih, List.foldl_cons, List.getLast?_cons]
      cases lines.getLast? <;> rfl

/-- At a line that cannot be read the loop ends, with an error unless the line is blank. -/
theorem readResponses_broken {tail : List (Record SessionResponse Error)}
    (h : Codec.Broken tail) (seen : σ) (last : Option SessionResponse) :
    readResponses onResponse seen last (tail.map udsLine) =
        readResponses onResponse seen last [] ∨
      ∃ e, readResponses onResponse seen last (tail.map udsLine) = (.error e, seen) := by
  rcases h with rfl | rfl | rfl | ⟨e, rfl⟩
  · exact .inl rfl
  · exact .inl rfl
  · exact .inr ⟨_, rfl⟩
  · exact .inr ⟨e, rfl⟩

end Loops

variable {responses} {received : SessionResponse → SessionResponse}
  (hresponses : responses.Lawful received)

include hresponses

theorem linesRead_stream (lines : List SessionResponse) :
    linesRead responses (responses.stream lines) = (lines.map received).map .response := by
  rw [linesRead, Codec.records_stream hresponses, List.map_map, List.map_map]
  rfl

/-- An answer that breaks off at any byte is to `send_to_daemon_streaming` what it is up to the
last response that has arrived, but for the line feed, or it is an error; and
`send_to_daemon` returns the first response or an error.  A response that was not written is
never returned, and never seen by a callback. -/
theorem broken_answer_is_front_or_error (lines : List SessionResponse) (arrived : Bytes)
    (hcut : arrived <+: responses.stream lines) :
    ∃ whole rest, lines = whole ++ rest ∧ responses.stream whole <+: arrived ++ [0x0A] ∧
      (∀ line ∈ rest.head?, ¬ responses.stream (whole ++ [line]) <+: arrived ++ [0x0A]) ∧
      (∀ (σ : Type) (onResponse : σ → SessionResponse → σ) (seen : σ),
        let read := readResponses onResponse seen none (linesRead responses arrived)
        read.2 = (whole.map received).foldl onResponse seen ∧
          (read = readResponses onResponse seen none ((whole.map received).map .response) ∨
            ∃ e, read.1 = .error e)) ∧
      ∀ response, firstResponse (linesRead responses arrived) = .ok response →
        (whole.map received).head? = some response := by
  obtain ⟨whole, rest, tail, hlines, hbroken, hrecords, hwhole, hnext⟩ :=
    Codec.records_of_prefix hresponses hcut
  have hread : linesRead responses arrived =
      (whole.map received).map .response ++ tail.map udsLine := by
    rw [linesRead, hrecords, List.map_append, List.map_map, List.map_map]
    rfl
  refine ⟨whole, rest, hlines, hwhole, hnext, ?_, ?_⟩
  · intro σ onResponse seen
    have hall := readResponses_append onResponse (whole.map received) [] seen none
    rw [List.append_nil] at hall
    rw [hread, readResponses_append, hall]
    rcases readResponses_broken onResponse hbroken ((whole.map received).foldl onResponse seen)
      ((whole.map received).getLast?.or none) with hsame | ⟨e, he⟩
    · rw [hsame]
      refine ⟨?_, .inl rfl⟩
      cases (whole.map received).getLast?.or none <;> rfl
    · rw [he]
      exact ⟨rfl, .inr ⟨e, rfl⟩⟩
  · intro response hfirst
    rw [hread] at hfirst
    cases hreceived : whole.map received with
    | cons first others =>
        rw [hreceived] at hfirst
        exact congrArg some (Except.ok.inj hfirst)
    | nil =>
        rw [hreceived] at hfirst
        rcases hbroken with rfl | rfl | rfl | ⟨e, rfl⟩ <;> cases hfirst

omit hresponses in
/-- A client that gets ten bytes of an answer gets an error. -/
theorem broken_answer_is_front_or_error_ten :
    ∃ e, firstResponse (linesRead responseCodec
      ((responseCodec.stream [.ok "done".toList]).take 10)) = .error e := by
  obtain ⟨whole, rest, hlines, hwhole, _, _, hread⟩ :=
    broken_answer_is_front_or_error responseCodec_lawful [.ok "done".toList] _
      (List.take_prefix 10 _)
  cases hfirst : firstResponse (linesRead responseCodec
      ((responseCodec.stream [.ok "done".toList]).take 10)) with
  | error e => exact ⟨e, rfl⟩
  | ok response =>
      have hsome := hread response hfirst
      cases whole with
      | nil => cases hsome
      | cons first others =>
          obtain ⟨rfl, _⟩ := List.cons.inj hlines
          have hlong := hwhole.length_le
          rw [Codec.stream, List.map_cons, Records.framed_cons] at hlong
          have hbytes : 20 < (responseCodec.bytes (.ok "done".toList)).length := by decide +kernel
          have htaken : ((responseCodec.stream [.ok "done".toList]).take 10).length ≤ 10 :=
            List.length_take_le 10 _
          simp only [List.length_append, List.length_cons, List.length_nil] at hlong
          omega

omit hresponses in
/-- Outputs that are all lines. -/
theorem lines_of_partials {partials : List Output} (h : ∀ output ∈ partials, output.IsPartial) :
    ∃ lines : List SessionResponse,
      partials = lines.map .line ∧ ∀ line ∈ lines, IsPartial line := by
  induction partials with
  | nil => exact ⟨[], rfl, by simp⟩
  | cons output partials ih =>
      obtain ⟨lines, rfl, hlines⟩ := ih fun other hother => h other (List.mem_cons_of_mem _ hother)
      have hfirst := h output List.mem_cons_self
      cases output with
      | line response => exact ⟨response :: lines, rfl, List.forall_mem_cons.mpr ⟨hfirst, hlines⟩⟩
      | raw data => exact hfirst.elim

omit hresponses in
/-- A request that is no shell is answered by partial lines and a final one. -/
theorem handleRequest_lines {ι : Type} {lib : Capture.ImageLib ι} {d d' : DaemonLoop}
    {req : Request} {uds : Uds} (hshell : req.line ≠ .ok .shell)
    (hhandled : d.handleRequest lib req = some (uds, d')) :
    ∃ partials final, uds.written = (partials ++ [final]).map .line ∧
      (∀ line ∈ partials, IsPartial line) ∧ ¬ IsPartial final := by
  obtain ⟨outputs, final, hwritten, houtputs, hfinal⟩ := (handleRequest_answer hhandled).1 hshell
  obtain ⟨partials, rfl, hpartials⟩ := lines_of_partials houtputs
  exact ⟨partials, final, by rw [hwritten, List.map_append]; rfl, hpartials, hfinal⟩

end Answers

/-! ## Client and daemon -/

section EndToEnd

variable {ι : Type} (lib : Capture.ImageLib ι)
variable (commands : Codec SessionCommand Error) (responses : Codec SessionResponse Error)

/-- The daemon in the state `d` at the other end of the socket; `req` is what its handlers meet
outside. -/
def daemonOver (d : DaemonLoop) (req : Request) : DaemonSide where
  running := true
  runtime := .ok ()
  lock := .ok ()
  connect := .ok ()
  write := fun _ => .ok ()
  lines := fun cmd =>
    match requestTurn commands (commands.stream [cmd]) req with
    | .accept req =>
        match d.handleRequest lib req with
        | some (uds, _) => linesRead responses (uds.written.flatMap (outputBytes responses))
        | none => []
    | _ => []

/-- What the client reads of the daemon's answer to its command. -/
theorem daemonOver_lines (hcommands : commands.Lawful id) (d : DaemonLoop) (req : Request)
    (cmd : SessionCommand) :
    (daemonOver lib commands responses d req).lines cmd =
      (d.handleRequest lib { req with line := .ok cmd }).elim [] fun handled =>
        linesRead responses (handled.1.written.flatMap (outputBytes responses)) := by
  have hwhole : commands.bytes cmd <+: commands.stream [cmd] := by
    rw [Codec.stream_singleton]
    exact List.prefix_append _ _
  unfold daemonOver requestTurn
  simp only [readRequest_whole hcommands cmd List.prefix_rfl hwhole]
  cases d.handleRequest lib { req with line := .ok cmd } <;> rfl

/-- From the command of a client to what it acts on: the daemon carries out that command, and
`send_to_daemon_streaming` returns the one final response of its handler, after its callback
has seen the partial ones in order and the final one; where there are no partial ones,
`send_to_daemon` returns it too. -/
theorem client_acts_on_final_answer {received : SessionResponse → SessionResponse}
    (hcommands : commands.Lawful id) (hresponses : responses.Lawful received)
    (d d' : DaemonLoop) (req : Request) (cmd : SessionCommand) (hshell : cmd ≠ .shell) (uds : Uds)
    (hhandled : d.handleRequest lib { req with line := .ok cmd } = some (uds, d')) :
    ∃ partials final, uds.written = (partials ++ [final]).map .line ∧
      (∀ line ∈ partials, IsPartial line) ∧ ¬ IsPartial final ∧
      (∀ (σ : Type) (onResponse : σ → SessionResponse → σ) (seen : σ),
        sendToDaemonStreaming onResponse seen
            (reachDaemon (daemonOver lib commands responses d req) cmd) =
          (.ok (received final), ((partials ++ [final]).map received).foldl onResponse seen)) ∧
      (partials = [] →
        sendToDaemon (daemonOver lib commands responses d req) cmd = .ok (received final)) := by
  obtain ⟨partials, final, hwritten, hpartials, hfinal⟩ :=
    handleRequest_lines (fun hline => hshell (Except.ok.inj hline)) hhandled
  have hlines : (daemonOver lib commands responses d req).lines cmd =
      ((partials ++ [final]).map received).map .response := by
    rw [daemonOver_lines lib commands responses hcommands, hhandled, Option.elim_some, hwritten,
      flatMap_outputBytes, linesRead_stream hresponses]
  refine ⟨partials, final, hwritten, hpartials, hfinal, ?_, ?_⟩
  · intro σ onResponse seen
    have hall := readResponses_append onResponse ((partials ++ [final]).map received) [] seen none
    rw [List.append_nil] at hall
    show readResponses onResponse seen none
      ((daemonOver lib commands responses d req).lines cmd) = _
    rw [hlines, hall, List.map_append, List.map_singleton, List.getLast?_concat]
    rfl
  · rintro rfl
    show firstResponse ((daemonOver lib commands responses d req).lines cmd) = _
    rw [hlines]
    rfl

/-- A `move` that a daemon in its default mode answers. -/
theorem client_acts_on_final_answer_move :
    sendToDaemon (daemonOver sampleImages commandCodec responseCodec sampleDaemon
        (sampleRequest (.ok .status) [] (.error (.msg "refused".toList)))) (.move 3 4) =
      .ok (.ok "Moved to (3, 4)".toList) := by
  obtain ⟨partials, final, hwritten, _, _, _, hfirst⟩ :=
    client_acts_on_final_answer sampleImages commandCodec responseCodec commandCodec_lawful
      responseCodec_lawful sampleDaemon _
      (sampleRequest (.ok .status) [] (.error (.msg "refused".toList))) (.move 3 4) (by simp) _ rfl
  have hone : (partials ++ [final]).map Output.line =
      [Output.line (.ok "Moved to (3, 4)".toList)] := hwritten.symm
  cases partials with
  | nil =>
      obtain rfl : final = .ok "Moved to (3, 4)".toList :=
        Output.line.inj (List.cons.inj hone).1
      rw [hfirst rfl]
      rfl
  | cons line partials => simp at hone

end EndToEnd

end RustdeskCli.Cli
