import RustdeskCli.Exec.Sentinel
set_option autoImplicit false

/-!
# Exec: the output parsers (`src/daemon.rs`, `src/main.rs`)

`parse_exec_output` cuts the program's output out of the terminal transcript: from
the line after the echoed `echo` to the start of the line the sentinel stands on.
A program whose output does not end with a line feed has its last line on the
sentinel's line, where the parser does not look.

`parse_direct_exec_output` is the second parser, of the connectionless `exec`.
-/

namespace RustdeskCli.Exec

open RustdeskCli.Foundation

/-- `format!("echo '{sentinel}'")`. -/
def echoCmd (sentinel : Text) : Text := "echo '".toList ++ sentinel ++ "'".toList

-- stated by hand: the generated equation decodes the two literals
theorem echoCmd_eq (sentinel : Text) :
    echoCmd sentinel = "echo '".toList ++ sentinel ++ "'".toList := rfl

/-- Step 3 of `parse_exec_output`: the offset after the line of the echoed `echo`,
and 0 when there is no such line. -/
def outputStart (raw sentinel : Text) : Nat :=
  ((Text.find (echoCmd sentinel) raw).bind fun pos =>
    (Text.find ['\n'] (raw.drop pos)).map fun nl => pos + nl + 1).getD 0

/-- Step 4 of `parse_exec_output`: the start of the line of an offset. -/
def lineStart (raw : Text) (pos : Nat) : Nat :=
  ((Text.rfind '\n' (raw.take pos)).map (· + 1)).getD 0

/-- Step 5 of `parse_exec_output`. -/
def stdoutBetween (raw : Text) (outputStart sentinelLineStart : Nat) : Text :=
  if outputStart < sentinelLineStart then
    Text.trimEndLines ((raw.take sentinelLineStart).drop outputStart)
  else []

/-- The digits that follow the sentinel at an offset. -/
def exitDigits (raw sentinel : Text) (pos : Nat) : Text :=
  (raw.drop (pos + sentinel.length)).takeWhile Char.isDigit

/-- `parse_exec_output`. -/
def parseExecOutput (raw sentinel : Text) : Text × Int :=
  match findSentinelOutput raw sentinel with
  | none => (Text.trim raw, -1)
  | some sentinelPos =>
      let exitCode := (Text.parseI32 (exitDigits raw sentinel sentinelPos)).getD (-1)
      (stdoutBetween raw (outputStart raw sentinel) (lineStart raw sentinelPos), exitCode)

/-- The stdout of `parse_direct_exec_output`: the lines before the sentinel, less
those that show the echoed `echo`. -/
def directStdout (before sentinel : Text) : Text :=
  Text.trim (Text.joinLines ((Text.lines before).filter fun line =>
    !Text.contains line (echoCmd sentinel ++ "$?".toList)))

/-- `parse_direct_exec_output`. -/
def parseDirectExecOutput (raw sentinel : Text) : Text × Int :=
  match findSentinelOutput raw sentinel with
  | some pos =>
      let exitCode := (Text.parseI32 (exitDigits raw sentinel pos)).getD 0
      (directStdout (raw.take pos) sentinel, exitCode)
  | none => (Text.trim raw, -1)

/-! ## The transcript of one command -/

/-- The decimal text of an exit code. -/
def codeText (code : Nat) : Text := (toString code).toList

/-- The echoed input: the command, then the `echo`. -/
def echoedInput (sentinel cmd : Text) : Text :=
  cmd ++ "\r\n".toList ++ echoCmd sentinel ++ "$?\r\n".toList

/-- What the terminal shows from the echoed command on. -/
def transcript (sentinel cmd out : Text) (code : Nat) (prompt : Text) : Text :=
  echoedInput sentinel cmd ++ (out ++ (sentinel ++ (codeText code ++ ("\r\n".toList ++ prompt))))

/-- The part of a text after its last line feed. -/
def lastLine (text : Text) : Text := text.rtakeWhile (· ≠ '\n')

/-- The part of a text up to its last line feed. -/
def fullLines (text : Text) : Text := text.rdropWhile (· ≠ '\n')

theorem fullLines_append_lastLine (text : Text) : fullLines text ++ lastLine text = text :=
  List.rdropWhile_append_rtakeWhile ..

theorem not_mem_lastLine (text : Text) : '\n' ∉ lastLine text := by
  intro hmem
  have := List.mem_rtakeWhile_imp hmem
  simp at this

/-- The full lines are empty or end with a line feed. -/
theorem fullLines_eq (text : Text) :
    fullLines text = [] ∨ ∃ lines, fullLines text = lines ++ ['\n'] := by
  by_cases hnil : fullLines text = []
  · exact .inl hnil
  · refine .inr ⟨(fullLines text).dropLast, ?_⟩
    have hlast : (fullLines text).getLast hnil = '\n' := by
      by_contra hne
      exact List.rdropWhile_last_not (fun c : Char => decide (c ≠ '\n')) text hnil
        (decide_eq_true hne)
    conv_lhs => rw [← List.dropLast_append_getLast hnil]
    rw [hlast]

variable {sentinel : Text}

/-- The echoed input shows the sentinel once, in the `echo`. -/
theorem find_sentinel_echoedInput (hmark : IsMarker sentinel) {cmd : Text}
    (hcmd : ¬ sentinel <:+: cmd) (rest : Text) :
    Text.find sentinel (echoedInput sentinel cmd ++ rest) = some (cmd.length + 8) := by
  have hsplit : echoedInput sentinel cmd ++ rest =
      cmd ++ '\r' :: ("\necho ".toList ++
        '\x27' :: (sentinel ++ ("'".toList ++ ("$?\r\n".toList ++ rest)))) := by
    simp [echoedInput, echoCmd_eq]
  have hecho : Text.find sentinel "\necho ".toList = none := by
    rw [Text.find_eq_none_iff]
    intro hinfix
    have hmem := hinfix.subset hmark.underscore
    revert hmem
    decide
  rw [hsplit, Text.find_append_cons hmark.ne_nil hmark.no_cr, Text.find_eq_none_iff.mpr hcmd,
    Text.find_append_cons hmark.ne_nil hmark.no_quote, hecho,
    Text.find_append_self hmark.ne_nil]
  simp
  omega

/-- The output starts right after the echoed input. -/
theorem outputStart_echoedInput (hmark : IsMarker sentinel) {cmd : Text}
    (hcmd : ¬ sentinel <:+: cmd) (rest : Text) :
    outputStart (echoedInput sentinel cmd ++ rest) sentinel =
      (echoedInput sentinel cmd).length := by
  have hfirst := Text.find_eq_some (find_sentinel_echoedInput hmark hcmd rest)
  have hdrop : (echoedInput sentinel cmd ++ rest).drop (cmd.length + 2) =
      ("echo '".toList ++ (sentinel ++ "'$?\r".toList)) ++ '\n' :: rest := by
    have hassoc : echoedInput sentinel cmd ++ rest =
        (cmd ++ "\r\n".toList) ++
          (("echo '".toList ++ (sentinel ++ "'$?\r".toList)) ++ '\n' :: rest) := by
      simp [echoedInput, echoCmd_eq]
    rw [hassoc]
    exact List.drop_left' (by simp)
  have hecho : Text.find (echoCmd sentinel) (echoedInput sentinel cmd ++ rest) =
      some (cmd.length + 2) := by
    refine Text.find_of_first (by simp [echoCmd_eq]) ?_ fun j hj hpre => ?_
    · rw [hdrop]
      exact ⟨"$?\r\n".toList ++ rest, by simp [echoCmd_eq]⟩
    · -- an earlier `echo` command would hold an earlier sentinel
      refine hfirst.2 (j + 6) (by omega) ?_
      obtain ⟨more, hmore⟩ := hpre
      rw [← List.drop_drop, ← hmore, echoCmd_eq, List.append_assoc, List.append_assoc]
      exact ⟨"'".toList ++ more, (List.drop_left' (by simp)).symm⟩
  have hlf : Text.find ['\n'] ((echoedInput sentinel cmd ++ rest).drop (cmd.length + 2)) =
      some (sentinel.length + 10) := by
    rw [hdrop, Text.find_singleton (by simp [hmark.no_lf])]
    simp
  rw [outputStart, hecho, Option.bind_some, hlf, Option.map_some, Option.getD_some]
  simp [echoedInput, echoCmd_eq]
  omega

/-- Whatever line the parser stops at, it returns some full lines of what follows the
echoed input, trimmed. -/
theorem stdoutBetween_eq (head rest : Text) (pos : Nat) :
    ∃ full, full <+: rest ∧ (full = [] ∨ ∃ lines, full = lines ++ ['\n']) ∧
      stdoutBetween (head ++ rest) head.length (lineStart (head ++ rest) pos) =
        Text.trimEndLines full := by
  rw [stdoutBetween]
  split
  · rename_i hlt
    rw [lineStart] at hlt ⊢
    cases hr : Text.rfind '\n' ((head ++ rest).take pos) with
    | none => simp [hr] at hlt
    | some i =>
        obtain ⟨xs, ys, hsplit, hlen, _⟩ := Text.rfind_eq_some hr
        simp only [hr, Option.map_some, Option.getD_some] at hlt ⊢
        have hline : (head ++ rest).take (i + 1) = xs ++ ['\n'] := by
          have htake : ((head ++ rest).take pos).take (i + 1) = xs ++ ['\n'] := by
            rw [hsplit, ← List.singleton_append, ← List.append_assoc]
            exact List.take_left' (by simp [hlen])
          have hle : i + 1 ≤ pos := by
            have := congrArg List.length hsplit
            simp only [List.length_take, List.length_append, List.length_cons] at this
            omega
          rwa [List.take_take, Nat.min_eq_left hle] at htake
        refine ⟨((head ++ rest).take (i + 1)).drop head.length, ?_, .inr ⟨xs.drop head.length, ?_⟩,
          rfl⟩
        · rw [List.take_append, List.take_of_length_le (by omega), List.drop_left]
          exact List.take_prefix _ _
        · rw [hline, List.drop_append_of_le_length (by omega)]
  · exact ⟨[], List.nil_prefix, .inl rfl, rfl⟩

/-- The line of the sentinel starts after the full lines of the output. -/
theorem lineStart_append (head out rest : Text) :
    lineStart (head ++ '\n' :: (out ++ rest)) (head.length + 1 + out.length) =
      head.length + 1 + (fullLines out).length := by
  have htake : (head ++ '\n' :: (out ++ rest)).take (head.length + 1 + out.length) =
      head ++ '\n' :: out := by
    rw [show head ++ '\n' :: (out ++ rest) = (head ++ '\n' :: out) ++ rest by simp]
    exact List.take_left' (by simp; omega)
  rw [lineStart, htake]
  have hsplit := fullLines_append_lastLine out
  rcases fullLines_eq out with hnil | ⟨lines, hlines⟩
  · rw [hnil, List.nil_append] at hsplit
    rw [hnil, Text.rfind_append_cons (by rw [← hsplit]; exact not_mem_lastLine out)]
    rfl
  · have hout : head ++ '\n' :: out = (head ++ '\n' :: lines) ++ '\n' :: lastLine out := by
      conv_lhs => rw [← hsplit, hlines]
      simp
    rw [hout, Text.rfind_append_cons (not_mem_lastLine out), hlines]
    simp
    omega

/-- Before a sentinel that stands right after the output, the parser returns the
output's full lines, trimmed. -/
theorem stdoutBetween_fullLines (head out rest : Text) :
    stdoutBetween (head ++ '\n' :: (out ++ rest)) (head.length + 1)
        (lineStart (head ++ '\n' :: (out ++ rest)) (head.length + 1 + out.length)) =
      Text.trimEndLines (fullLines out) := by
  rw [lineStart_append, stdoutBetween]
  have hassoc : head ++ '\n' :: (out ++ rest) =
      (head ++ ['\n']) ++ (fullLines out ++ (lastLine out ++ rest)) := by
    rw [← List.append_assoc (fullLines out), fullLines_append_lastLine]
    simp
  have hslice : ((head ++ '\n' :: (out ++ rest)).take
      (head.length + 1 + (fullLines out).length)).drop (head.length + 1) = fullLines out := by
    rw [hassoc, ← List.append_assoc, List.take_left' (by simp; omega), List.drop_left' (by simp)]
  split
  · rw [hslice]
  · have hnil : fullLines out = [] := List.eq_nil_of_length_eq_zero (by omega)
    rw [hnil]
    rfl

/-- The output up to its last line feed is all there is, up to trimming, when the last
line has only carriage returns. -/
theorem trimEndLines_fullLines {out : Text} (h : ∀ c ∈ lastLine out, c = '\r') :
    Text.trimEndLines (fullLines out) = Text.trimEndLines out := by
  conv_rhs => rw [← fullLines_append_lastLine out]
  refine (Text.rdropWhile_append_of_forall fun c hc => ?_).symm
  rw [h c hc]
  rfl

/-- A last line with more than carriage returns survives the trimming of the output. -/
theorem length_fullLines_lt {out : Text} (h : ∃ c ∈ lastLine out, c ≠ '\r') :
    (fullLines out).length < (Text.trimEndLines out).length := by
  obtain ⟨c, hc, hcr⟩ := h
  have hlf : c ≠ '\n' := fun heq => not_mem_lastLine out (heq ▸ hc)
  conv_rhs => rw [← fullLines_append_lastLine out]
  exact Text.length_lt_trimEndLines _ ⟨c, hc, by simp [Text.isLineEnd, hcr, hlf]⟩

/-- Full lines of the output and what follows it never trim to an output with an
unfinished last line. -/
theorem trimEndLines_ne (hmark : IsMarker sentinel) {out rest full : Text}
    (hlast : ∃ c ∈ lastLine out, c ≠ '\r') (hpre : full <+: out ++ (sentinel ++ rest))
    (hfull : full = [] ∨ ∃ lines, full = lines ++ ['\n']) :
    Text.trimEndLines full ≠ Text.trimEndLines out := by
  intro heq
  have hlong := length_fullLines_lt hlast
  have hle := Text.length_trimEndLines_le full
  have hout := Text.length_trimEndLines_le out
  rw [← heq] at hlong hout
  -- lines that end inside the output end before its last line, and are too short
  have hinside : ¬ full <+: out := by
    intro hin
    rcases hfull with rfl | ⟨lines, rfl⟩
    · rw [List.length_nil] at hle
      omega
    · rw [← fullLines_append_lastLine out] at hin
      have := (Text.concat_isPrefix_left (not_mem_lastLine out) hin).length_le
      omega
  rcases Text.prefix_append_cases hpre with hin | ⟨tail, htail, rfl⟩
  · exact hinside hin
  · rcases List.prefix_or_prefix_of_prefix htail (List.prefix_append sentinel rest) with h | h
    · rcases hfull with hnil | ⟨lines, hlines⟩
      · exact hinside (hnil ▸ List.nil_prefix)
      · have htaken : lines ++ ['\n'] <+: out ++ tail := by rw [hlines]
        exact hinside (hlines ▸ Text.concat_isPrefix_left
          (fun hmem => hmark.no_lf (h.subset hmem)) htaken)
    · -- lines that end after the sentinel keep it
      have := Text.length_lt_trimEndLines out
        ⟨'_', h.subset hmark.underscore, rfl⟩
      omega

/-- The decimal text of an exit code is nonempty, all digits, and parses back. -/
theorem codeText_spec {code : Nat} (h : code ≤ 255) :
    (∃ d ds, codeText code = d :: ds ∧ d.isDigit = true) ∧
      (∀ c ∈ codeText code, c.isDigit = true) ∧
      Text.parseI32 (codeText code) = some (code : Int) := by
  have hall : ∀ c : Fin 256, startsWithDigit (codeText c) = true ∧
      (codeText c).all Char.isDigit = true ∧
      Text.parseI32 (codeText c) = some ((c : Nat) : Int) := by
    decide +kernel
  obtain ⟨hstart, hdigits, hparse⟩ := hall ⟨code, by omega⟩
  rw [List.all_eq_true] at hdigits
  refine ⟨?_, hdigits, hparse⟩
  simp only at hstart hdigits
  cases htext : codeText code with
  | nil => simp [htext, startsWithDigit] at hstart
  | cons d ds => exact ⟨d, ds, rfl, hdigits d (by simp [htext])⟩

/-- An output that ends with a line end is followed by the sentinel's first
occurrence. -/
theorem find_sentinel_out (hmark : IsMarker sentinel) {out : Text}
    (hout : ¬ sentinel <:+: out) (hlast : ∀ c ∈ lastLine out, c = '\r') (rest : Text) :
    Text.find sentinel (out ++ (sentinel ++ rest)) = some out.length := by
  cases out using List.reverseRecOn with
  | nil => exact Text.find_append_self hmark.ne_nil rest
  | append_singleton out c =>
      have hsep : c ∉ sentinel := by
        by_cases hlf : c = '\n'
        · exact hlf ▸ hmark.no_lf
        · have hmem : c ∈ lastLine (out ++ [c]) := by
            rw [lastLine, List.rtakeWhile_concat_pos _ _ _ (by simpa using hlf)]
            simp
          exact hlast c hmem ▸ hmark.no_cr
      have hnone : Text.find sentinel out = none := by
        rw [Text.find_eq_none_iff]
        exact fun h => hout (h.trans (List.prefix_append _ _).isInfix)
      rw [List.append_assoc, List.singleton_append, Text.find_append_cons hmark.ne_nil hsep, hnone,
        Text.find_append_self hmark.ne_nil]
      simp

/-- In the transcript of an output that ends with a line end, the scan stops at the
sentinel's output. -/
theorem findSentinelOutput_transcript (hmark : IsMarker sentinel) {cmd out : Text}
    {code : Nat} (hcode : code ≤ 255) (hcmd : ¬ sentinel <:+: cmd) (hout : ¬ sentinel <:+: out)
    (hlast : ∀ c ∈ lastLine out, c = '\r') (prompt : Text) :
    findSentinelOutput (transcript sentinel cmd out code prompt) sentinel =
      some ((echoedInput sentinel cmd).length + out.length) := by
  obtain ⟨⟨d, ds, hcons, hd⟩, _, _⟩ := codeText_spec hcode
  let shown := codeText code ++ ("\r\n".toList ++ prompt)
  -- after the echoed sentinel comes the quote, and then the output
  have hfirst := find_sentinel_echoedInput hmark hcmd (out ++ (sentinel ++ shown))
  have hsplit : echoedInput sentinel cmd ++ (out ++ (sentinel ++ shown)) =
      (cmd ++ "\r\necho '".toList) ++
        (sentinel ++ ("'$?\r\n".toList ++ (out ++ (sentinel ++ shown)))) := by
    simp [echoedInput, echoCmd_eq]
  have hquote : Text.find sentinel "'$?\r".toList = none := by
    rw [Text.find_eq_none_iff]
    intro hinfix
    have hmem := hinfix.subset hmark.underscore
    revert hmem
    decide
  have hsecond : Text.find sentinel (("'$?\r\n".toList ++ out) ++ (sentinel ++ shown)) =
      some ("'$?\r\n".toList ++ out).length := by
    rw [show ("'$?\r\n".toList ++ out) ++ (sentinel ++ shown) =
      "'$?\r".toList ++ '\n' :: (out ++ (sentinel ++ shown)) by simp,
      Text.find_append_cons hmark.ne_nil hmark.no_lf, hquote, find_sentinel_out hmark hout hlast]
    simp
  have hstop := findSentinelOutput_stop hmark.ne_nil hsecond
    (by simp [shown, hcons, startsWithDigit, hd])
  rw [hsplit] at hfirst
  have hhead : (cmd ++ "\r\necho '".toList).length = cmd.length + 8 := by simp
  rw [← hhead] at hfirst
  have hskip := findSentinelOutput_skip hmark.ne_nil hfirst rfl
  rw [transcript, hsplit, hskip, ← List.append_assoc "'$?\r\n".toList, hstop]
  simp [echoedInput, echoCmd_eq]
  omega

/-- Extraction is lossless exactly when the output's last line is finished.

For every command, output and prompt, and every exit code of a shell, the parser
returns the output without its trailing line ends, and the exit code, exactly when
nothing but carriage returns follows the output's last line feed. -/
theorem parse_exec_output_lossless_iff (id : BitVec 128) (cmd out prompt : Text) (code : Nat)
    (hcode : code ≤ 255) (hcmd : ¬ sentinelOf id <:+: cmd) (hout : ¬ sentinelOf id <:+: out) :
    parseExecOutput (transcript (sentinelOf id) cmd out code prompt) (sentinelOf id) =
        (Text.trimEndLines out, (code : Int)) ↔
      ∀ c ∈ lastLine out, c = '\r' := by
  have hmark := sentinelOf_isMarker id
  have hstart := outputStart_echoedInput hmark hcmd
  constructor
  · intro hparse
    by_contra hlast
    push Not at hlast
    rw [parseExecOutput] at hparse
    cases hfind : findSentinelOutput (transcript (sentinelOf id) cmd out code prompt)
        (sentinelOf id) with
    | none =>
        simp only [hfind, Prod.mk.injEq] at hparse
        omega
    | some pos =>
        obtain ⟨full, hpre, hfull, hstdout⟩ := stdoutBetween_eq
          (echoedInput (sentinelOf id) cmd)
          (out ++ (sentinelOf id ++ (codeText code ++ ("\r\n".toList ++ prompt)))) pos
        simp only [hfind, Prod.mk.injEq] at hparse
        rw [transcript, hstart, hstdout] at hparse
        exact trimEndLines_ne hmark hlast hpre hfull hparse.1
  · intro hlast
    obtain ⟨⟨d, ds, hcons, hd⟩, hdigits, hvalue⟩ := codeText_spec hcode
    have hfind := findSentinelOutput_transcript hmark hcode hcmd hout hlast prompt
    have hexit : exitDigits (transcript (sentinelOf id) cmd out code prompt) (sentinelOf id)
        ((echoedInput (sentinelOf id) cmd).length + out.length) = codeText code := by
      have hassoc : transcript (sentinelOf id) cmd out code prompt =
          (echoedInput (sentinelOf id) cmd ++ out ++ sentinelOf id) ++
            (codeText code ++ ("\r\n".toList ++ prompt)) := by
        simp [transcript]
      rw [exitDigits, hassoc, List.drop_left' (by simp; omega),
        List.takeWhile_append_of_pos hdigits]
      simp
    have hstdout : stdoutBetween (transcript (sentinelOf id) cmd out code prompt)
        (echoedInput (sentinelOf id) cmd).length
        (lineStart (transcript (sentinelOf id) cmd out code prompt)
          ((echoedInput (sentinelOf id) cmd).length + out.length)) =
        Text.trimEndLines (fullLines out) := by
      have hlf : echoedInput (sentinelOf id) cmd =
          (cmd ++ "\r\n".toList ++ echoCmd (sentinelOf id) ++ "$?\r".toList) ++ ['\n'] := by
        simp [echoedInput]
      rw [transcript, hlf, List.append_assoc _ ['\n'], List.length_append]
      exact stdoutBetween_fullLines _ _ _
    rw [parseExecOutput, hfind]
    simp only [hexit, hvalue, Option.getD_some]
    rw [show outputStart (transcript (sentinelOf id) cmd out code prompt) (sentinelOf id) = _
      from hstart _, hstdout, trimEndLines_fullLines hlast]

/-- The transcript of a listing: its output ends with a line end. -/
theorem parse_exec_output_lossless_iff_listing :
    parseExecOutput (transcript (sentinelOf 1) "ls".toList "a\r\nb\r\n".toList 2 "$ ".toList)
        (sentinelOf 1) = ("a\r\nb".toList, 2) :=
  (parse_exec_output_lossless_iff 1 "ls".toList "a\r\nb\r\n".toList "$ ".toList 2 (by decide)
    (by decide +kernel) (by decide +kernel)).mpr (by simp [lastLine, List.rtakeWhile])

/-- `printf hello` loses its output: the parser returns the empty text. -/
theorem parse_exec_output_drops_last_line :
    ¬ sentinelOf 1 <:+: "printf hello".toList ∧ ¬ sentinelOf 1 <:+: "hello".toList ∧
      ¬ sentinelOf 1 <:+: "$ ".toList ∧
      parseExecOutput
          (transcript (sentinelOf 1) "printf hello".toList "hello".toList 0 "$ ".toList)
          (sentinelOf 1) = ([], 0) ∧
      Text.trimEndLines "hello".toList ≠ [] := by
  decide +kernel

end RustdeskCli.Exec
