import RustdeskCli.Exec.Chunking
import RustdeskCli.Foundation.Lines
set_option autoImplicit false

/-!
# Exec: the two output parsers compared (`src/daemon.rs`, `src/main.rs`)

`parse_exec_output` keeps what stands between the line of the echoed `echo` and the line
of the sentinel; `parse_direct_exec_output` keeps every line in front of the sentinel but
the echoed ones, joins them anew and trims the result.  A transcript is cut here into the
part before the output, the output, and the part of the sentinel's line in front of it,
and the two results are compared piece by piece.
-/

namespace RustdeskCli.Exec

open RustdeskCli.Foundation

/-! ## The pieces of a transcript -/

/-- Where the output starts, but not behind the line of the sentinel. -/
def blockStart (raw sentinel : Text) (pos : Nat) : Nat :=
  min (outputStart raw sentinel) (lineStart raw pos)

/-- What the terminal shows before the output. -/
def shownBefore (raw sentinel : Text) (pos : Nat) : Text := raw.take (blockStart raw sentinel pos)

/-- The output: full lines, up to the line of the sentinel. -/
def shownOutput (raw sentinel : Text) (pos : Nat) : Text :=
  (raw.take (lineStart raw pos)).drop (blockStart raw sentinel pos)

/-- What stands on the line of the sentinel in front of it. -/
def shownBeside (raw : Text) (pos : Nat) : Text := (raw.take pos).drop (lineStart raw pos)

/-- What `parse_direct_exec_output` takes for an echoed line. -/
def echoMark (sentinel : Text) : Text := echoCmd sentinel ++ "$?".toList

/-- A text that is empty or ends with a line feed. -/
def EndsLine (text : Text) : Prop := text = [] ∨ ∃ front, text = front ++ ['\n']

theorem endsLine_lineStart (raw : Text) (pos : Nat) : EndsLine (raw.take (lineStart raw pos)) := by
  have hle := lineStart_le raw pos
  rw [lineStart] at hle ⊢
  cases hfind : Text.rfind '\n' (raw.take pos) with
  | none => exact .inl (by simp)
  | some i =>
      obtain ⟨xs, ys, heq, rfl, -⟩ := Text.rfind_eq_some hfind
      simp only [hfind, Option.map_some, Option.getD_some] at hle ⊢
      have htake : (raw.take pos).take (xs.length + 1) = xs ++ ['\n'] := by
        rw [heq, ← List.singleton_append, ← List.append_assoc]
        exact List.take_left' (by simp)
      rw [List.take_take, Nat.min_eq_left hle] at htake
      exact .inr ⟨xs, htake⟩

theorem endsLine_outputStart (raw sentinel : Text) :
    EndsLine (raw.take (outputStart raw sentinel)) := by
  by_cases hzero : outputStart raw sentinel = 0
  · exact .inl (by rw [hzero, List.take_zero])
  · obtain ⟨before, after, heq, hstart⟩ := outputStart_spec (Nat.pos_of_ne_zero hzero)
    right
    refine ⟨before, ?_⟩
    rw [hstart, heq, ← List.singleton_append, ← List.append_assoc]
    exact List.take_left' (by simp)

theorem endsLine_shownBefore (raw sentinel : Text) (pos : Nat) :
    EndsLine (shownBefore raw sentinel pos) := by
  unfold shownBefore blockStart
  rcases Nat.le_total (outputStart raw sentinel) (lineStart raw pos) with hle | hle
  · rw [Nat.min_eq_left hle]
    exact endsLine_outputStart raw sentinel
  · rw [Nat.min_eq_right hle]
    exact endsLine_lineStart raw pos

theorem endsLine_shownOutput (raw sentinel : Text) (pos : Nat) :
    EndsLine (shownOutput raw sentinel pos) := by
  unfold shownOutput
  obtain hnil | ⟨front, hfront⟩ := endsLine_lineStart raw pos
  · exact .inl (by rw [hnil, List.drop_nil])
  · rw [hfront]
    by_cases hle : blockStart raw sentinel pos ≤ front.length
    · exact .inr ⟨_, List.drop_append_of_le_length hle⟩
    · exact .inl (List.drop_eq_nil_of_le (by simp; omega))

/-- The text before the sentinel is the three pieces. -/
theorem take_eq_pieces (raw sentinel : Text) (pos : Nat) :
    raw.take pos =
      shownBefore raw sentinel pos ++ (shownOutput raw sentinel pos ++ shownBeside raw pos) := by
  have hline := lineStart_le raw pos
  have hblock : blockStart raw sentinel pos ≤ lineStart raw pos := Nat.min_le_right _ _
  have htake : (raw.take pos).take (lineStart raw pos) = raw.take (lineStart raw pos) := by
    rw [List.take_take, Nat.min_eq_left hline]
  have hbefore : (raw.take (lineStart raw pos)).take (blockStart raw sentinel pos) =
      shownBefore raw sentinel pos := by
    rw [List.take_take, Nat.min_eq_left hblock, shownBefore]
  calc raw.take pos
      = (raw.take pos).take (lineStart raw pos) ++ shownBeside raw pos :=
        (List.take_append_drop _ _).symm
    _ = raw.take (lineStart raw pos) ++ shownBeside raw pos := by rw [htake]
    _ = (shownBefore raw sentinel pos ++ shownOutput raw sentinel pos) ++ shownBeside raw pos := by
        rw [← hbefore, shownOutput, List.take_append_drop]
    _ = _ := List.append_assoc _ _ _

/-! ## The results on the pieces -/

/-- `parse_exec_output` returns the output without its last line ends. -/
theorem stdoutBetween_eq_shownOutput (raw sentinel : Text) (pos : Nat) :
    stdoutBetween raw (outputStart raw sentinel) (lineStart raw pos) =
      Text.trimEndLines (shownOutput raw sentinel pos) := by
  unfold stdoutBetween shownOutput blockStart
  split
  · rename_i hlt
    rw [Nat.min_eq_left (by omega)]
  · rename_i hle
    rw [Nat.min_eq_right (by omega), List.drop_eq_nil_of_le (by simp)]
    rfl

/-- The lines of a piece that `parse_direct_exec_output` keeps. -/
def keptLines (sentinel text : Text) : List Text :=
  (Text.lines text).filter fun line => !Text.contains line (echoMark sentinel)

/-- `parse_direct_exec_output` joins what it keeps of each piece. -/
theorem directStdout_eq_pieces (raw sentinel : Text) (pos : Nat) :
    directStdout (raw.take pos) sentinel =
      Text.trim (Text.joinLines (keptLines sentinel (shownBefore raw sentinel pos) ++
        (keptLines sentinel (shownOutput raw sentinel pos) ++
          keptLines sentinel (shownBeside raw pos)))) := by
  rw [directStdout, take_eq_pieces raw sentinel pos,
    Text.lines_append (endsLine_shownBefore raw sentinel pos),
    Text.lines_append (endsLine_shownOutput raw sentinel pos), List.filter_append,
    List.filter_append]
  rfl

/-! ## When the results agree -/

/-- A line that adds nothing to the result of `parse_direct_exec_output`. -/
def IdleLine (sentinel line : Text) : Prop :=
  Text.Blank line ∨ echoMark sentinel <:+: line

/-- A text with line ends behind it that has no whitespace at its own ends, and no carriage
return in front of a line feed. -/
def PlainOutput (output : Text) : Prop :=
  ∃ text ends, output = text ++ ends ∧ (∀ c ∈ ends, Text.isLineEnd c = true) ∧
    Text.Trimmed text ∧ ¬['\r', '\n'] <:+: text

theorem plainOutput_iff {output : Text} :
    PlainOutput output ↔
      Text.Trimmed (Text.trimEndLines output) ∧ ¬['\r', '\n'] <:+: Text.trimEndLines output := by
  constructor
  · rintro ⟨text, ends, rfl, hends, htrimmed, hcr⟩
    have hself : text.rdropWhile Text.isLineEnd = text := by
      rw [List.rdropWhile_eq_self_iff]
      intro hne hend
      have hlast := htrimmed.2 _ (List.getLast?_eq_some_getLast hne)
      have hblank : Text.Blank [text.getLast hne] :=
        Text.blank_of_isLineEnd (List.forall_mem_singleton.mpr hend)
      rw [hblank _ List.mem_cons_self] at hlast
      cases hlast
    have htext : Text.trimEndLines (text ++ ends) = text := by
      rw [Text.trimEndLines, Text.rdropWhile_append_of_forall hends, hself]
    rw [htext]
    exact ⟨htrimmed, hcr⟩
  · rintro ⟨htrimmed, hcr⟩
    obtain ⟨ends, hends, heq⟩ := Text.trimEndLines_spec output
    exact ⟨_, ends, heq, hends, htrimmed, hcr⟩

theorem blank_kept_iff {sentinel text : Text} :
    (∀ line ∈ keptLines sentinel text, Text.Blank line) ↔
      ∀ line ∈ Text.lines text, IdleLine sentinel line := by
  unfold keptLines IdleLine
  simp only [List.mem_filter, Bool.not_eq_true', Bool.eq_false_iff, ne_eq,
    Text.contains_iff_infix, and_imp]
  apply forall₂_congr
  intro line _
  tauto

theorem keptLines_eq_lines {sentinel text : Text}
    (h : ∀ line ∈ Text.lines text, ¬echoMark sentinel <:+: line) :
    keptLines sentinel text = Text.lines text := by
  rw [keptLines, List.filter_eq_self]
  intro line hline
  rw [Bool.not_eq_true', Bool.eq_false_iff, ne_eq, Text.contains_iff_infix]
  exact h line hline

variable {sentinel : Text}

theorem echoMark_ne_nil (sentinel : Text) : echoMark sentinel ≠ [] := by
  rw [echoMark]
  exact List.append_ne_nil_of_right_ne_nil _ (by decide)

theorem echoMark_no_lineEnd (hmark : IsMarker sentinel) :
    ∀ c ∈ echoMark sentinel, Text.isLineEnd c = false := by
  intro c hc
  rw [echoMark, echoCmd_eq, List.mem_append, List.mem_append, List.mem_append] at hc
  have hall : ("echo '".toList ++ "'".toList ++ "$?".toList).all
      (fun c => !Text.isLineEnd c) = true := by decide
  have hliteral : ∀ c, (c ∈ "echo '".toList ∨ c ∈ "'".toList) ∨ c ∈ "$?".toList →
      Text.isLineEnd c = false := by
    intro c hc
    rw [← List.mem_append, ← List.mem_append] at hc
    simpa using List.all_eq_true.mp hall c hc
  obtain ((hecho | hsentinel) | hquote) | hstatus := hc
  · exact hliteral c (.inl (.inl hecho))
  · rw [Text.isLineEnd, Bool.or_eq_false_iff, decide_eq_false_iff_not, decide_eq_false_iff_not]
    constructor
    · rintro rfl
      exact hmark.no_cr hsentinel
    · rintro rfl
      exact hmark.no_lf hsentinel
  · exact hliteral c (.inl (.inr hquote))
  · exact hliteral c (.inr hstatus)

/-- An echoed line in the output is kept by one parser and dropped by the other. -/
theorem no_echo_of_agree (hmark : IsMarker sentinel) {before output beside : Text}
    (h : Text.trimEndLines output = Text.trim (Text.joinLines (keptLines sentinel before ++
      (keptLines sentinel output ++ keptLines sentinel beside)))) :
    ∀ line ∈ Text.lines output, ¬echoMark sentinel <:+: line := by
  intro line hline hecho
  have hends := echoMark_no_lineEnd hmark
  have hlf : '\n' ∉ echoMark sentinel := by
    intro hmem
    have hfalse := hends '\n' hmem
    cases hfalse
  have hshown : echoMark sentinel <:+: Text.trimEndLines output :=
    Text.infix_trimEndLines (echoMark_ne_nil sentinel) hends
      (hecho.trans (Text.infix_of_mem_lines hline))
  rw [h] at hshown
  obtain ⟨kept, hkept, hin⟩ := Text.infix_joinLines (echoMark_ne_nil sentinel) hlf
    (hshown.trans (Text.trim_infix _))
  have hnot : ∀ text : Text, kept ∈ keptLines sentinel text → False := by
    intro text hmem
    have hcontains := (List.mem_filter.mp hmem).2
    rw [Text.contains_iff_infix.mpr hin] at hcontains
    cases hcontains
  rw [List.mem_append, List.mem_append] at hkept
  obtain hfront | hmiddle | hback := hkept
  · exact hnot before hfront
  · exact hnot output hmiddle
  · exact hnot beside hback

/-- The two results for a transcript in three pieces are the same exactly when the pieces
around the output add nothing and the output is plain and shows no echo. -/
theorem stdout_agree_iff (hmark : IsMarker sentinel) (before output beside : Text) :
    Text.trimEndLines output = Text.trim (Text.joinLines (keptLines sentinel before ++
        (keptLines sentinel output ++ keptLines sentinel beside))) ↔
      (∀ line ∈ Text.lines before, IdleLine sentinel line) ∧
        (∀ line ∈ Text.lines beside, IdleLine sentinel line) ∧
        (∀ line ∈ Text.lines output, ¬echoMark sentinel <:+: line) ∧ PlainOutput output := by
  rw [← blank_kept_iff, ← blank_kept_iff, plainOutput_iff]
  have hjoin : (∀ line ∈ keptLines sentinel before, Text.Blank line) →
      (∀ line ∈ keptLines sentinel beside, Text.Blank line) →
      (∀ line ∈ Text.lines output, ¬echoMark sentinel <:+: line) →
      Text.trim (Text.joinLines (keptLines sentinel before ++
        (keptLines sentinel output ++ keptLines sentinel beside))) =
        Text.dropCr (Text.trim output) := by
    intro hbefore hbeside hecho
    rw [Text.trim_joinLines_append_left hbefore, Text.trim_joinLines_append_right _ hbeside,
      keptLines_eq_lines hecho, Text.trim_joinLines_lines]
  constructor
  · intro h
    have hecho := no_echo_of_agree hmark h
    -- the visible characters of the pieces around the output have no place in the result
    have hvisible := congrArg Text.visible h
    rw [Text.visible_trimEndLines, Text.visible_trim, Text.visible_joinLines, List.flatMap_append,
      List.flatMap_append, keptLines_eq_lines hecho, Text.visible_lines] at hvisible
    have hlength := congrArg List.length hvisible
    simp only [List.length_append] at hlength
    have hblank : ∀ lines : List Text, (lines.flatMap Text.visible).length = 0 →
        ∀ line ∈ lines, Text.Blank line := by
      intro lines hzero line hline
      rw [List.length_eq_zero_iff, List.flatMap_eq_nil_iff] at hzero
      exact Text.visible_eq_nil_iff.mp (hzero line hline)
    have hbefore := hblank (keptLines sentinel before) (by omega)
    have hbeside := hblank (keptLines sentinel beside) (by omega)
    have htrimmed : Text.Trimmed (Text.trimEndLines output) := by
      rw [h]
      exact Text.trimmed_trim _
    have hself : Text.trimEndLines output = Text.trim output := by
      rw [← Text.trim_trimEndLines, Text.trim_eq_self_iff.mpr htrimmed]
    rw [hjoin hbefore hbeside hecho, hself] at h
    refine ⟨hbefore, hbeside, hecho, htrimmed, ?_⟩
    rw [hself]
    exact Text.dropCr_eq_self_iff.mp h.symm
  · rintro ⟨hbefore, hbeside, hecho, htrimmed, hcr⟩
    have hself : Text.trim output = Text.trimEndLines output := by
      rw [← Text.trim_trimEndLines, Text.trim_eq_self_iff.mpr htrimmed]
    rw [hjoin hbefore hbeside hecho, hself, Text.dropCr_eq_self_iff.mpr hcr]

/-- The transcripts both parsers read alike.  The digits behind the sentinel are an `i32`;
the lines before the output, and what stands beside the sentinel, are blank or echo the
`echo`; the output echoes nothing, begins with no whitespace and ends with none but line
ends, and its lines end with line feeds alone. -/
structure ReadAlike (raw sentinel : Text) (pos : Nat) : Prop where
  exit_code : Text.digitsValue (exitDigits raw sentinel pos) ≤ 2147483647
  idle_before : ∀ line ∈ Text.lines (shownBefore raw sentinel pos), IdleLine sentinel line
  idle_beside : ∀ line ∈ Text.lines (shownBeside raw pos), IdleLine sentinel line
  no_echo : ∀ line ∈ Text.lines (shownOutput raw sentinel pos), ¬echoMark sentinel <:+: line
  plain : PlainOutput (shownOutput raw sentinel pos)

/-- The exit codes differ exactly where the digits are too large. -/
theorem exitCode_agree_iff {digits : Text} (hne : digits ≠ []) :
    (Text.parseI32 digits).getD (-1) = (Text.parseI32 digits).getD 0 ↔
      Text.digitsValue digits ≤ 2147483647 := by
  constructor
  · intro h
    by_contra hlarge
    have hnone : Text.parseI32 digits = none := by
      rw [Text.parseI32, if_neg (by simpa using hne), if_neg hlarge]
    rw [hnone] at h
    cases h
  · intro hsmall
    rw [Text.parseI32_of_le hne hsmall]
    rfl

/-- The two parsers return the same for a transcript exactly when it has no sentinel output,
or is read alike around it. -/
theorem parse_outputs_agree_iff (raw : Text) (id : BitVec 128) :
    parseExecOutput raw (sentinelOf id) = parseDirectExecOutput raw (sentinelOf id) ↔
      ∀ pos ∈ findSentinelOutput raw (sentinelOf id), ReadAlike raw (sentinelOf id) pos := by
  have hmark := sentinelOf_isMarker id
  rw [parseExecOutput, parseDirectExecOutput]
  cases hfind : findSentinelOutput raw (sentinelOf id) with
  | none => simp
  | some pos =>
      have hdigits := exitDigits_ne_nil (findSentinelOutput_spec hmark.ne_nil hfind).2
      have hstdout := stdout_agree_iff hmark (shownBefore raw (sentinelOf id) pos)
        (shownOutput raw (sentinelOf id) pos) (shownBeside raw pos)
      simp only [Prod.mk.injEq, stdoutBetween_eq_shownOutput, directStdout_eq_pieces, hstdout,
        exitCode_agree_iff hdigits, Option.mem_def, Option.some.injEq, forall_eq']
      constructor
      · rintro ⟨⟨hbefore, hbeside, hecho, hplain⟩, hcode⟩
        exact ⟨hcode, hbefore, hbeside, hecho, hplain⟩
      · rintro ⟨hcode, hbefore, hbeside, hecho, hplain⟩
        exact ⟨⟨hbefore, hbeside, hecho, hplain⟩, hcode⟩

/-- What a terminal shows for `ls` in a directory with one file. -/
def listingTranscript : Text :=
  transcript (sentinelOf 1) "ls".toList "a\r\n".toList 0 "$ ".toList

/-- The second parser returns the echoed command too. -/
theorem parse_outputs_differ_listing :
    parseExecOutput listingTranscript (sentinelOf 1) = ("a".toList, 0) ∧
      parseDirectExecOutput listingTranscript (sentinelOf 1) = ("ls\na".toList, 0) ∧
      parseExecOutput listingTranscript (sentinelOf 1) ≠
        parseDirectExecOutput listingTranscript (sentinelOf 1) := by
  have hdaemon : parseExecOutput listingTranscript (sentinelOf 1) = ("a".toList, 0) := by
    decide +kernel
  have hdirect : parseDirectExecOutput listingTranscript (sentinelOf 1) = ("ls\na".toList, 0) := by
    decide +kernel
  refine ⟨hdaemon, hdirect, ?_⟩
  rw [hdaemon, hdirect]
  decide

end RustdeskCli.Exec
