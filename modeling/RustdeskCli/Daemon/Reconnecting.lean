import RustdeskCli.Daemon.Loop
set_option autoImplicit false

/-!
# Daemon: which errors are taken for a lost connection (`src/daemon.rs`)

`should_reconnect` looks for ten texts in an error and all its causes.  The handlers put
other people's words into their errors: what the peer says about a terminal, a screenshot
or a file, the path of a local file, and what the system says about it.  The words of the
program around them play no part, whatever stands next to them.
-/

namespace RustdeskCli.Daemon

open RustdeskCli.Foundation
open RustdeskCli.Session

/-! ## The errors -/

/-- The errors the handlers of a command make of somebody else's text. -/
inductive ApplicationError where
  /-- `exec_command_inner`, on an `Error` event of the terminal -/
  | duringExec (message : Text)
  | duringPromptDrain (message : Text)
  /-- `terminal_info_from_opened`, as `exec` and the clipboard commands return it -/
  | openRefused (message : Text)
  /-- the same, as `shell_session` returns it -/
  | openRefusedShell (message : Text)
  | screenshotFailed (message : Text)
  | fileTransfer (message : Text)
  /-- `PushTransfer::begin` and `send_next_block`, on the local file -/
  | metadata (path : Text) (io : Error)
  | notAFile (path : Text)
  | noFileName (path : Text)
  /-- `parse_remote_target`, on the remote path of the command -/
  | noRemoteFileName (path : Text)
  | opening (path : Text) (io : Error)
  | seeking (path : Text) (offset : Nat) (io : Error)
  | reading (path : Text) (io : Error)
  deriving DecidableEq, Repr

namespace ApplicationError

/-- The error as the handler returns it. -/
def error : ApplicationError → Error
  | .duringExec m => .msg ("terminal error during exec: ".toList ++ m)
  | .duringPromptDrain m => .msg ("terminal error during prompt drain: ".toList ++ m)
  | .openRefused m => .msg ("remote refused to open terminal: ".toList ++ m)
  | .openRefusedShell m =>
      .msg ("shell: terminal open failed: ".toList ++
        ("remote refused to open terminal: ".toList ++ m))
  | .screenshotFailed m => .msg ("screenshot failed: ".toList ++ m)
  | .fileTransfer m => .msg ("file transfer error: ".toList ++ m)
  | .metadata path io => io.context ("reading local file metadata for ".toList ++ path)
  | .notAFile path => .msg ("push supports single files only: ".toList ++ path)
  | .noFileName path => .msg ("local path has no valid file name: ".toList ++ path)
  | .noRemoteFileName path => .msg ("remote path has no file name: ".toList ++ path)
  | .opening path io => io.context ("opening local file ".toList ++ path)
  | .seeking path offset io =>
      io.context ("seeking local file ".toList ++ path ++
        " to resume offset ".toList ++ (toString offset).toList)
  | .reading path io => io.context ("reading local file ".toList ++ path)

/-- The texts that are not the program's. -/
def texts : ApplicationError → List Text
  | .duringExec m | .duringPromptDrain m | .openRefused m | .openRefusedShell m
  | .screenshotFailed m | .fileTransfer m => [m]
  | .notAFile path | .noFileName path | .noRemoteFileName path => [path]
  | .metadata path io | .opening path io | .seeking path _ io | .reading path io =>
      [path, io.alternate]

end ApplicationError

/-! ## The program's own words -/

/-- None of the texts `should_reconnect` looks for occurs. -/
def Harmless (text : Text) : Prop :=
  ∀ needle ∈ reconnectNeedles, ¬needle <:+: text.map Char.toLower

theorem shouldReconnect_eq_false_iff (e : Error) :
    shouldReconnect e = false ↔ Harmless e.alternate := by
  unfold shouldReconnect Harmless
  simp only [List.any_eq_false, Text.contains_iff_infix]

/-- No needle begins in the text, to end in it or to go on behind it. -/
def opensInert (words : Text) : Bool :=
  reconnectNeedles.all fun needle =>
    (words.map Char.toLower).tails.all fun rest =>
      rest.isEmpty || !(needle.isPrefixOf rest || rest.isPrefixOf needle)

/-- No needle that begins before the text goes on in it. -/
def closesInert (words : Text) : Bool :=
  reconnectNeedles.all fun needle =>
    needle.tails.all fun back =>
      back.isEmpty || !(back.isPrefixOf (words.map Char.toLower) ||
        (words.map Char.toLower).isPrefixOf back)

/-- The words of the program that stand before or between the texts of others. -/
def ownWords : List String :=
  ["terminal error during exec: ", "terminal error during prompt drain: ",
    "remote refused to open terminal: ", "shell: terminal open failed: ", "screenshot failed: ",
    "file transfer error: ", "reading local file metadata for ",
    "push supports single files only: ", "local path has no valid file name: ",
    "remote path has no file name: ", "opening local file ", "seeking local file ",
    " to resume offset ", "reading local file ", ": "]

/-- The program's words are inert.  The needles are computed once for all of them. -/
theorem opensInert_of_mem {words : String} (h : words ∈ ownWords) :
    opensInert words.toList = true := by
  have hall : (ownWords.all fun words => opensInert words.toList) = true := by decide +kernel
  exact List.all_eq_true.mp hall words h

theorem needle_ne_nil {needle : Text} (h : needle ∈ reconnectNeedles) : needle ≠ [] := by
  have hall : (reconnectNeedles.all fun needle => !needle.isEmpty) = true := by decide +kernel
  intro hnil
  have hneedle := List.all_eq_true.mp hall needle h
  rw [hnil] at hneedle
  cases hneedle

/-- Inert words in front of a text change nothing. -/
theorem harmless_append_of_opensInert {words : Text} (h : opensInert words = true) (text : Text) :
    Harmless (words ++ text) ↔ Harmless text := by
  refine forall₂_congr fun needle hneedle => not_congr ?_
  have hrests : ∀ rest, rest <:+ words.map Char.toLower → rest ≠ [] →
      ¬needle <+: rest ∧ ¬rest <+: needle := by
    intro rest hsuffix hne
    have hinert := List.all_eq_true.mp h needle hneedle
    have hrest := List.all_eq_true.mp hinert rest ((List.mem_tails _ _).mpr hsuffix)
    rw [Bool.or_eq_true, List.isEmpty_iff] at hrest
    rcases hrest with hnil | hrest
    · exact absurd hnil hne
    · rwa [Bool.not_eq_true', Bool.or_eq_false_iff, ← Bool.not_eq_true, ← Bool.not_eq_true,
        List.isPrefixOf_iff_prefix, List.isPrefixOf_iff_prefix] at hrest
  have hout : ¬needle <:+: words.map Char.toLower := by
    rintro ⟨before, after, heq⟩
    have hsuffix : needle ++ after <:+ words.map Char.toLower :=
      ⟨before, by rw [← List.append_assoc, heq]⟩
    have hne : needle ++ after ≠ [] := List.append_ne_nil_of_left_ne_nil (needle_ne_nil hneedle) _
    exact (hrests _ hsuffix hne).1 (List.prefix_append _ _)
  rw [List.map_append, Text.infix_append_iff_of_seam, or_iff_right hout]
  intro front back heq hfront _ hsuffix _
  exact (hrests front hsuffix hfront).2 ⟨back, heq.symm⟩

/-- Inert words behind a text cut it off from what follows them. -/
theorem harmless_append_of_closesInert {words : Text} (h : closesInert words = true)
    (text rest : Text) :
    Harmless (text ++ (words ++ rest)) ↔ Harmless text ∧ Harmless (words ++ rest) := by
  have hseam : ∀ needle ∈ reconnectNeedles,
      (needle <:+: (text ++ (words ++ rest)).map Char.toLower ↔
        needle <:+: text.map Char.toLower ∨ needle <:+: (words ++ rest).map Char.toLower) := by
    intro needle hneedle
    have hbacks := List.all_eq_true.mp h needle hneedle
    rw [List.map_append, Text.infix_append_iff_of_seam]
    intro front back heq _ hback _ hprefix
    have hmem : back ∈ needle.tails := (List.mem_tails _ _).mpr ⟨front, heq.symm⟩
    have hnot := List.all_eq_true.mp hbacks back hmem
    rw [Bool.or_eq_true, List.isEmpty_iff] at hnot
    rcases hnot with hnil | hnot
    · exact hback hnil
    · rw [Bool.not_eq_true', Bool.or_eq_false_iff, ← Bool.not_eq_true, ← Bool.not_eq_true,
        List.isPrefixOf_iff_prefix, List.isPrefixOf_iff_prefix] at hnot
      rw [List.map_append] at hprefix
      rcases List.prefix_or_prefix_of_prefix hprefix (List.prefix_append _ _) with hin | hin
      · exact hnot.1 hin
      · exact hnot.2 hin
  constructor
  · intro hharmless
    constructor
    · intro needle hneedle hin
      exact hharmless needle hneedle ((hseam needle hneedle).mpr (.inl hin))
    · intro needle hneedle hin
      exact hharmless needle hneedle ((hseam needle hneedle).mpr (.inr hin))
  · rintro ⟨hleft, hright⟩ needle hneedle hin
    rcases (hseam needle hneedle).mp hin with hin | hin
    · exact hleft needle hneedle hin
    · exact hright needle hneedle hin

/-- Digits are no letters, in lower case or not. -/
theorem isAlpha_toLower_of_isDigit {c : Char} (h : c.isDigit = true) :
    c.toLower.isAlpha = false := by
  have hdigits : '0'.val.toNat = 48 ∧ '9'.val.toNat = 57 := ⟨rfl, rfl⟩
  have hupper : 'A'.val.toNat = 65 ∧ 'Z'.val.toNat = 90 := ⟨rfl, rfl⟩
  have hlower : 'a'.val.toNat = 97 ∧ 'z'.val.toNat = 122 := ⟨rfl, rfl⟩
  simp only [Char.isDigit, Bool.and_eq_true, decide_eq_true_eq, ge_iff_le,
    UInt32.le_iff_toNat_le] at h
  have hsame : c.toLower = c := by
    unfold Char.toLower
    rw [dif_neg]
    rintro ⟨hge, -⟩
    have hval := UInt32.le_iff_toNat_le.mp hge
    omega
  rw [hsame, ← Bool.not_eq_true]
  intro halpha
  have hletter : (decide ('A'.val ≤ c.val ∧ c.val ≤ 'Z'.val) ||
      (decide ('a'.val ≤ c.val) && decide (c.val ≤ 'z'.val))) = true := halpha
  simp only [Bool.or_eq_true, Bool.and_eq_true, decide_eq_true_eq,
    UInt32.le_iff_toNat_le] at hletter
  omega

/-- A number is harmless. -/
theorem harmless_toDigits (n : Nat) : Harmless (Nat.toDigits 10 n) := by
  intro needle hneedle hin
  have hletters : (reconnectNeedles.all fun needle => needle.any Char.isAlpha) = true := by
    decide +kernel
  obtain ⟨c, hc, halpha⟩ := List.any_eq_true.mp (List.all_eq_true.mp hletters needle hneedle)
  obtain ⟨digit, hdigit, rfl⟩ := List.mem_map.mp (hin.subset hc)
  have hisDigit := Nat.isDigit_of_mem_toDigits (by omega) (by omega) hdigit
  rw [isAlpha_toLower_of_isDigit hisDigit] at halpha
  cases halpha

theorem alternate_msg (message : Text) : (Error.msg message).alternate = message := by
  simp [Error.alternate, Error.msg, List.intercalate]

theorem alternate_context (e : Error) (message : Text) :
    (e.context message).alternate = message ++ (": ".toList ++ e.alternate) := by
  simp [Error.alternate, Error.context, List.intercalate]

/-- An error with a cause is harmless when both are. -/
theorem harmless_context (e : Error) (message : Text) :
    Harmless (e.context message).alternate ↔ Harmless message ∧ Harmless e.alternate := by
  have hcloses : closesInert ": ".toList = true := by decide +kernel
  rw [alternate_context, harmless_append_of_closesInert hcloses,
    harmless_append_of_opensInert (opensInert_of_mem (by simp [ownWords]))]

/-! ## The texts decide -/

/-- An application error is not taken for a lost connection exactly when no text that is not the
program's contains one of the ten texts. -/
theorem harmless_error_iff (a : ApplicationError) :
    Harmless a.error.alternate ↔ ∀ text ∈ a.texts, Harmless text := by
  have hmsg : ∀ {words : String}, words ∈ ownWords → ∀ text,
      (Harmless (Error.msg (words.toList ++ text)).alternate ↔ ∀ t ∈ [text], Harmless t) := by
    intro words hwords text
    rw [alternate_msg, harmless_append_of_opensInert (opensInert_of_mem hwords),
      List.forall_mem_singleton]
  have hcontext : ∀ {words : String}, words ∈ ownWords → ∀ (io : Error) (text : Text),
      (Harmless (io.context (words.toList ++ text)).alternate ↔
        ∀ t ∈ [text, io.alternate], Harmless t) := by
    intro words hwords io text
    rw [harmless_context, harmless_append_of_opensInert (opensInert_of_mem hwords),
      List.forall_mem_cons, List.forall_mem_singleton]
  cases a with
  | duringExec m => exact hmsg (by simp [ownWords]) m
  | duringPromptDrain m => exact hmsg (by simp [ownWords]) m
  | openRefused m => exact hmsg (by simp [ownWords]) m
  | openRefusedShell m =>
      have hshell : opensInert "shell: terminal open failed: ".toList = true :=
        opensInert_of_mem (by simp [ownWords])
      have hrefused : opensInert "remote refused to open terminal: ".toList = true :=
        opensInert_of_mem (by simp [ownWords])
      rw [ApplicationError.error, alternate_msg, harmless_append_of_opensInert hshell,
        harmless_append_of_opensInert hrefused]
      exact (List.forall_mem_singleton (p := Harmless)).symm
  | screenshotFailed m => exact hmsg (by simp [ownWords]) m
  | fileTransfer m => exact hmsg (by simp [ownWords]) m
  | metadata path io => exact hcontext (by simp [ownWords]) io path
  | notAFile path => exact hmsg (by simp [ownWords]) path
  | noFileName path => exact hmsg (by simp [ownWords]) path
  | noRemoteFileName path => exact hmsg (by simp [ownWords]) path
  | opening path io => exact hcontext (by simp [ownWords]) io path
  | seeking path offset io =>
      have hopens : opensInert "seeking local file ".toList = true :=
        opensInert_of_mem (by simp [ownWords])
      have hmiddle : opensInert " to resume offset ".toList = true :=
        opensInert_of_mem (by simp [ownWords])
      have hcloses : closesInert " to resume offset ".toList = true := by decide +kernel
      have hnumber : Harmless (toString offset).toList := by
        rw [Nat.toString_eq_repr, Nat.toList_repr]
        exact harmless_toDigits offset
      rw [ApplicationError.error, harmless_context, List.append_assoc, List.append_assoc,
        harmless_append_of_opensInert hopens, harmless_append_of_closesInert hcloses,
        harmless_append_of_opensInert hmiddle, and_iff_left hnumber]
      exact (List.forall_mem_cons.trans
        (and_congr_right fun _ => List.forall_mem_singleton)).symm
  | reading path io => exact hcontext (by simp [ownWords]) io path

/-- `should_reconnect` says no to an application error exactly when no text in it that is not
the program's contains one of the ten texts; the command is then answered with the error and
not repeated. -/
theorem shouldReconnect_application_iff (a : ApplicationError) :
    (shouldReconnect a.error = false ↔ ∀ text ∈ a.texts, Harmless text) ∧
    ∀ (req : Request) (what : Text) (run : CommandEnv → List Stream.Wake → DaemonLoop → Uds → Run)
      (d d₁ : DaemonLoop) (uds uds₁ : Uds), (∀ text ∈ a.texts, Harmless text) →
      run req.first req.firstWakes d uds = some (.error a.error, d₁, uds₁) →
      d.withRetry req what run uds =
        some ((uds₁.sendResponse (.error a.error.alternate)).2, d₁) := by
  have hiff : shouldReconnect a.error = false ↔ ∀ text ∈ a.texts, Harmless text :=
    (shouldReconnect_eq_false_iff a.error).trans (harmless_error_iff a)
  refine ⟨hiff, ?_⟩
  intro req what run d d₁ uds uds₁ htexts hrun
  unfold DaemonLoop.withRetry
  rw [hrun]
  simp only [hiff.mpr htexts]
  rfl

/-- A command that the terminal does not know is answered with that, whatever a second try
would do. -/
theorem shouldReconnect_command_not_found :
    shouldReconnect (ApplicationError.duringExec "command not found".toList).error = false ∧
      ∀ (req : Request) (what : Text) (d : DaemonLoop) (uds : Uds),
        d.withRetry req what
            (fun _ _ d uds =>
              some (.error (ApplicationError.duringExec "command not found".toList).error, d, uds))
            uds =
          some ((uds.sendResponse (.error
            (ApplicationError.duringExec "command not found".toList).error.alternate)).2, d) := by
  have hharmless : ∀ text ∈ (ApplicationError.duringExec "command not found".toList).texts,
      Harmless text := by
    have htext := (shouldReconnect_eq_false_iff (.msg "command not found".toList)).mp
      (by decide +kernel)
    rw [alternate_msg] at htext
    exact (List.forall_mem_singleton (p := Harmless)).mpr htext
  have hboth := shouldReconnect_application_iff (.duringExec "command not found".toList)
  refine ⟨hboth.1.mpr hharmless, ?_⟩
  intro req what d uds
  exact hboth.2 req what _ d d uds uds hharmless rfl

/-- The terminal reports that a connection of its own was refused, and the command is run
again. -/
theorem shouldReconnect_refused_by_remote :
    ∃ m : Text, m = "ssh: connect to host db: Connection refused".toList ∧
      shouldReconnect (ApplicationError.duringExec m).error = true := by
  refine ⟨_, rfl, ?_⟩
  decide +kernel

end RustdeskCli.Daemon
