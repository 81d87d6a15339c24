import RustdeskCli.Cli.Permissions
import RustdeskCli.Exec.Command
import RustdeskCli.Foundation.Lines
import RustdeskCli.Transfer.RemoteTarget
set_option autoImplicit false

/-!
# Cli: what the sandbox lets through (`src/permissions.rs`)

The checks of a sandbox look at the arguments of a command.  What the command then does
is decided elsewhere: `parse_remote_target` makes the path of a push out of both its
arguments, and the shell reads an `exec` line by line.  Here the two are compared, for all
rules at once: a check is sound for given arguments when no rules can be found under which
it lets through what they forbid.
-/

namespace RustdeskCli.Cli

open RustdeskCli.Foundation
open RustdeskCli.Session
open RustdeskCli.Exec
open RustdeskCli.Transfer

namespace PermissionManager

/-! ## What a passed check says -/

theorem blockedPathIn_eq_none_iff {rules : SandboxRules} {text : Text} :
    blockedPathIn rules text = none ↔
      ∀ blocked ∈ rules.blockedPaths, blocked ≠ [] → ¬blocked <:+: text := by
  rw [blockedPathIn, List.find?_eq_none]
  apply forall₂_congr
  intro blocked _
  rw [← Text.contains_iff_infix]
  simp [List.isEmpty_eq_false_iff]

theorem ensurePathAllowed_ok_iff {p : PermissionManager} {rules : SandboxRules} {path : Text}
    (hrules : p.sandboxRules = some rules) :
    p.ensurePathAllowed path = .ok () ↔
      ∀ blocked ∈ rules.blockedPaths, blocked ≠ [] → ¬blocked <:+: path := by
  rw [← blockedPathIn_eq_none_iff, ensurePathAllowed, hrules, Option.bind_some]
  cases blockedPathIn rules path with
  | none => simp
  | some blocked => simp

theorem ensurePushAllowed_ok {p : PermissionManager} {console : Console}
    {localPath remotePath : Text}
    (h : p.ensurePushAllowed console localPath remotePath = .ok ()) :
    p.ensurePathAllowed localPath = .ok () ∧ p.ensurePathAllowed remotePath = .ok () := by
  unfold ensurePushAllowed at h
  cases hlocal : p.ensurePathAllowed localPath with
  | error e =>
      rw [hlocal] at h
      cases h
  | ok _ =>
      cases hremote : p.ensurePathAllowed remotePath with
      | error e =>
          rw [hlocal, hremote] at h
          cases h
      | ok _ => exact ⟨rfl, rfl⟩

/-- Without prompts a push is allowed when both its paths are. -/
theorem ensurePushAllowed_of_paths {rules : SandboxRules} (console : Console)
    {localPath remotePath : Text}
    (hlocal : ensurePathAllowed ⟨true, some rules⟩ localPath = .ok ())
    (hremote : ensurePathAllowed ⟨true, some rules⟩ remotePath = .ok ()) :
    ensurePushAllowed ⟨true, some rules⟩ console localPath remotePath = .ok () := by
  unfold ensurePushAllowed
  rw [hlocal, hremote]
  rfl

end PermissionManager

/-! ## Push -/

/-- The path of the file the peer is asked to create. -/
def targetPath (target : RemoteTarget) : Text := target.dir ++ '/' :: target.fileName

/-- No rules let the push through although they block the file it creates. -/
def PushSound (localPath remotePath : Text) (target : RemoteTarget) : Prop :=
  ∀ (p : PermissionManager) (rules : SandboxRules) (console : Console),
    p.sandboxRules = some rules → p.ensurePushAllowed console localPath remotePath = .ok () →
      ∀ blocked ∈ rules.blockedPaths, blocked ≠ [] →
        Text.contains (targetPath target) blocked = false

/-- A path that stands in an argument of the push, where the check can see it. -/
def Occurs (localPath remotePath path : Text) : Prop :=
  path <:+: localPath ∨ path <:+: remotePath

instance (localPath remotePath path : Text) : Decidable (Occurs localPath remotePath path) :=
  inferInstanceAs (Decidable (_ ∨ _))

/-- The check is sound exactly when the whole path stands in one of the arguments. -/
theorem pushSound_iff_occurs {localPath remotePath : Text} {target : RemoteTarget} :
    PushSound localPath remotePath target ↔
      Occurs localPath remotePath (targetPath target) := by
  constructor
  · intro hsound
    by_contra hocc
    obtain ⟨hlocal, hremote⟩ := not_or.mp hocc
    -- the rules that block this very path
    let rules : SandboxRules := ⟨[], [], [targetPath target]⟩
    have hallowed : ∀ path : Text, ¬targetPath target <:+: path →
        PermissionManager.ensurePathAllowed ⟨true, some rules⟩ path = .ok () := by
      intro path hpath
      rw [PermissionManager.ensurePathAllowed_ok_iff rfl]
      intro blocked hblocked _
      rw [List.mem_singleton.mp hblocked]
      exact hpath
    have hpush := PermissionManager.ensurePushAllowed_of_paths ⟨false, .ok (), .ok []⟩
      (hallowed localPath hlocal) (hallowed remotePath hremote)
    have hne : targetPath target ≠ [] := by simp [targetPath]
    have hno := hsound _ rules _ rfl hpush _ List.mem_cons_self hne
    rw [Text.contains_iff_infix.mpr (List.infix_refl _)] at hno
    cases hno
  · intro hocc p rules console hrules hpush blocked hblocked hne
    obtain ⟨hlocal, hremote⟩ := PermissionManager.ensurePushAllowed_ok hpush
    rw [PermissionManager.ensurePathAllowed_ok_iff hrules] at hlocal hremote
    rw [Bool.eq_false_iff, ne_eq, Text.contains_iff_infix]
    intro hinside
    cases hocc with
    | inl hin => exact hlocal blocked hblocked hne (hinside.trans hin)
    | inr hin => exact hremote blocked hblocked hne (hinside.trans hin)

/-- When the arguments show the path of the push: the remote path names a directory and a
file, or what the target is completed with (the name of the local file, `./` or a second
`/`) makes no path that does not stand in an argument anyway. -/
def ShownByArguments (localPath remotePath : Text) : Prop :=
  let trimmed := Text.trim remotePath
  if trimmed.getLast? = some '/' then
    let dir := if trimEndSlashes trimmed = [] then ['/'] else trimEndSlashes trimmed
    ∀ name ∈ fileName localPath, Occurs localPath remotePath (dir ++ '/' :: name)
  else if '/' ∈ trimmed.tail then True
  else if trimmed.head? = some '/' then Occurs localPath remotePath ('/' :: trimmed)
  else Occurs localPath remotePath ("./".toList ++ trimmed)

/-- A target that was parsed is one of the four ways to split the path. -/
theorem splitsInto_of_parse {localPath remotePath : Text} {target : RemoteTarget}
    (h : parseRemoteTarget remotePath localPath = .ok target) :
    ∃ name, fileName localPath = some name ∧
      SplitsInto name (Text.trim remotePath) target := by
  rw [parseRemoteTarget_eq] at h
  by_cases hblank : Text.trim remotePath = []
  · rw [remoteTargetFor_blank hblank] at h
    cases h
  · cases hname : fileName localPath with
    | none =>
        obtain ⟨e, he⟩ := remoteTargetFor_unnamed remotePath localPath
        rw [hname, he] at h
        cases h
    | some name =>
        obtain ⟨other, hother, hsplits⟩ := remoteTargetFor_splitsInto hblank name localPath
        rw [hname, hother] at h
        obtain rfl := Except.ok.inj h
        exact ⟨name, rfl, hsplits⟩

/-- The path of the push in terms of its arguments. -/
theorem shownByArguments_iff_occurs {localPath remotePath : Text} {target : RemoteTarget}
    (h : parseRemoteTarget remotePath localPath = .ok target) :
    ShownByArguments localPath remotePath ↔
      Occurs localPath remotePath (targetPath target) := by
  obtain ⟨name, hname, hsplits⟩ := splitsInto_of_parse h
  have hinfix := Text.trim_infix remotePath
  unfold ShownByArguments
  generalize Text.trim remotePath = trimmed at hsplits hinfix ⊢
  simp only [hname]
  cases hsplits with
  | directory slash =>
      -- the file keeps its local name
      rw [if_pos slash]
      simp [targetPath]
  | bare plain named =>
      have hlast := getLast?_append_ne_slash [] plain named
      have htail : '/' ∉ trimmed.tail := fun hmem => plain (List.mem_of_mem_tail hmem)
      have hhead : trimmed.head? ≠ some '/' := fun hh => plain (List.mem_of_mem_head? hh)
      rw [List.nil_append] at hlast
      rw [if_neg hlast, if_neg htail, if_neg hhead]
      exact Iff.rfl
  | @inRoot file plain named =>
      have hlast := getLast?_append_ne_slash ['/'] plain named
      rw [List.singleton_append] at hlast
      rw [if_neg hlast, List.tail_cons, if_neg plain, if_pos List.head?_cons]
      exact Iff.rfl
  | @within dir file inside plain named =>
      -- the remote path itself
      have hlast := getLast?_append_ne_slash (dir ++ ['/']) plain named
      rw [← List.append_cons] at hlast
      have htail : '/' ∈ (dir ++ '/' :: file).tail := by
        rw [List.tail_append_of_ne_nil inside]
        exact List.mem_append_right _ List.mem_cons_self
      rw [if_neg hlast, if_pos htail]
      exact iff_of_true trivial (.inr hinfix)

/-- A push that is allowed under a sandbox creates no blocked file, whatever the rules,
exactly when its arguments show the path of the file. -/
theorem pushSound_iff {localPath remotePath : Text} {target : RemoteTarget}
    (h : parseRemoteTarget remotePath localPath = .ok target) :
    PushSound localPath remotePath target ↔ ShownByArguments localPath remotePath := by
  rw [pushSound_iff_occurs, shownByArguments_iff_occurs h]

/-- Pushing over `/tmp/report.txt` under its own name. -/
theorem pushSound_report :
    parseRemoteTarget "/tmp/report.txt".toList "report.txt".toList =
        .ok ⟨"/tmp".toList, "report.txt".toList⟩ ∧
      PushSound "report.txt".toList "/tmp/report.txt".toList
        ⟨"/tmp".toList, "report.txt".toList⟩ := by
  have hparse : parseRemoteTarget "/tmp/report.txt".toList "report.txt".toList =
      .ok ⟨"/tmp".toList, "report.txt".toList⟩ := by rfl
  refine ⟨hparse, (pushSound_iff hparse).mpr ?_⟩
  unfold ShownByArguments
  decide

/-- The rules block `/etc/passwd`, and a local `passwd` may be pushed to `/etc/`. -/
theorem not_pushSound_passwd :
    parseRemoteTarget "/etc/".toList "passwd".toList = .ok ⟨"/etc".toList, "passwd".toList⟩ ∧
      ¬PushSound "passwd".toList "/etc/".toList ⟨"/etc".toList, "passwd".toList⟩ := by
  refine ⟨rfl, ?_⟩
  intro hsound
  have hblocked := hsound ⟨true, some ⟨[], [], ["/etc/passwd".toList]⟩⟩
    ⟨[], [], ["/etc/passwd".toList]⟩ ⟨false, .ok (), .ok []⟩ rfl rfl "/etc/passwd".toList
    List.mem_cons_self (by decide)
  exact absurd hblocked (by decide)

/-! ## Exec -/

/-- The lines of what `exec` types, without the line of its sentinel and the empty rest
behind the last line feed. -/
def linesBeforeSentinel (command sentinel : Text) : List Text :=
  ((wrapped command sentinel).splitOn '\n').dropLast.dropLast

/-- These are the lines of the command. -/
theorem linesBeforeSentinel_eq (command : Text) {sentinel : Text} (h : '\n' ∉ sentinel) :
    linesBeforeSentinel command sentinel = command.splitOn '\n' := by
  have hwrapped : wrapped command sentinel =
      command ++ '\n' :: (("echo '".toList ++ sentinel ++ "'$?".toList) ++ '\n' :: []) := by
    simp [wrapped]
  have hecho : '\n' ∉ "echo '".toList ++ sentinel ++ "'$?".toList := by
    simp [h]
  rw [linesBeforeSentinel, hwrapped, List.splitOn_append_cons_self,
    List.splitOn_append_cons_self_of_not_mem hecho]
  simp

/-- No rules let the command through although a line of it is none they allow. -/
def ExecSound (command sentinel : Text) : Prop :=
  ∀ (p : PermissionManager) (rules : SandboxRules) (console : Console),
    p.sandboxRules = some rules → p.ensureExecAllowed console command = .ok () →
      ∀ line ∈ linesBeforeSentinel command sentinel, Text.trim line ≠ [] →
        ∃ allowed ∈ rules.allowedCommands, allowed <+: Text.trim line

/-- The lines of a command that are not blank. -/
def nonBlankLines (command : Text) : List Text :=
  (command.splitOn '\n').filter fun line => Text.trim line ≠ []

theorem ensureExecAllowed_allowed {p : PermissionManager} {rules : SandboxRules}
    {console : Console} {command : Text} (hrules : p.sandboxRules = some rules)
    (h : p.ensureExecAllowed console command = .ok ()) :
    ∃ allowed ∈ rules.allowedCommands, allowed <+: Text.trim command := by
  unfold PermissionManager.ensureExecAllowed at h
  simp only [hrules] at h
  split at h
  · cases h
  · split at h
    · cases h
    · rename_i hany
      rw [Bool.not_eq_false, List.any_eq_true] at hany
      obtain ⟨allowed, hmem, hpre⟩ := hany
      exact ⟨allowed, hmem, List.isPrefixOf_iff_prefix.mp hpre⟩

/-- A command is allowed by the rules that allow it and block nothing. -/
theorem ensureExecAllowed_self (console : Console) (command : Text) :
    PermissionManager.ensureExecAllowed ⟨true, some ⟨[], [Text.trim command], []⟩⟩ console
      command = .ok () := by
  have hsome : [Text.trim command] ≠ [] := List.cons_ne_nil _ _
  have hany : ¬([Text.trim command].any fun allowed =>
      allowed.isPrefixOf (Text.trim command)) = false := by
    rw [Bool.not_eq_false, List.any_eq_true]
    exact ⟨_, List.mem_cons_self, List.isPrefixOf_iff_prefix.mpr (List.prefix_refl _)⟩
  unfold PermissionManager.ensureExecAllowed
  dsimp only
  rw [if_neg hsome, if_neg hany]
  rfl

/-- The only line that is not blank is, trimmed, the trimmed command. -/
theorem trim_eq_of_nonBlankLines {command line : Text} (hone : (nonBlankLines command).length ≤ 1)
    (hline : line ∈ command.splitOn '\n') (hblank : Text.trim line ≠ []) :
    Text.trim command = Text.trim line := by
  obtain ⟨before, after, heq⟩ := List.append_of_mem hline
  have hlength : (before.filter fun l => Text.trim l ≠ []).length = 0 ∧
      (after.filter fun l => Text.trim l ≠ []).length = 0 := by
    rw [nonBlankLines, heq, List.filter_append, List.filter_cons_of_pos (by simpa using hblank),
      List.length_append, List.length_cons] at hone
    omega
  have hblanks : ∀ lines : List Text, (lines.filter fun l => Text.trim l ≠ []).length = 0 →
      ∀ l ∈ lines, Text.Blank l := by
    intro lines h l hl
    rw [List.length_eq_zero_iff, List.filter_eq_nil_iff] at h
    exact Text.trim_eq_nil_iff.mp (by simpa using h l hl)
  rw [← Text.joinLines_splitOn command, heq]
  exact Text.trim_joinLines_around line (hblanks before hlength.1) (hblanks after hlength.2)

/-- Between two lines that are not blank there is a line feed that trimming leaves. -/
theorem lf_mem_trim {command : Text} (htwo : 1 < (nonBlankLines command).length) :
    '\n' ∈ Text.trim command ∧ ∃ line ∈ command.splitOn '\n', Text.trim line ≠ [] := by
  have hchar : ∀ line : Text, Text.trim line ≠ [] →
      ∃ xs c ys, line = xs ++ c :: ys ∧ Text.isWhitespace c = false := by
    intro line hline
    have hnot : ∃ c ∈ line, Text.isWhitespace c = false := by
      by_contra hall
      apply hline
      rw [Text.trim_eq_nil_iff]
      intro c hc
      by_contra hws
      exact hall ⟨c, hc, by simpa using hws⟩
    obtain ⟨c, hc, hws⟩ := hnot
    obtain ⟨xs, ys, rfl⟩ := List.append_of_mem hc
    exact ⟨xs, c, ys, rfl, hws⟩
  match hlines : nonBlankLines command, htwo with
  | first :: second :: rest, _ =>
      obtain ⟨before, after, heq, -, hfirst, hafter⟩ := List.filter_eq_cons_iff.mp hlines
      obtain ⟨between, behind, heq', -, hsecond, -⟩ := List.filter_eq_cons_iff.mp hafter
      subst heq'
      simp only [decide_eq_true_eq] at hfirst hsecond
      obtain ⟨xs, c, ys, rfl, hc⟩ := hchar first hfirst
      obtain ⟨zs, d, ws, rfl, hd⟩ := hchar second hsecond
      constructor
      · have hcommand : command =
            (before.flatMap (fun l => l ++ ['\n']) ++ xs) ++ c ::
              ((ys ++ (between.flatMap (fun l => '\n' :: l) ++ '\n' :: zs)) ++ d ::
                (ws ++ behind.flatMap fun l => '\n' :: l)) := by
          rw [← Text.joinLines_splitOn command, heq, Text.joinLines_around]
          simp
        rw [hcommand]
        exact Text.mem_trim_between hc hd (by simp)
      · exact ⟨xs ++ c :: ys, by rw [heq]; simp, hfirst⟩

/-- An `exec` that is allowed under a sandbox types only allowed commands, whatever the
rules, exactly when it has at most one line that is not blank. -/
theorem execSound_iff (command : Text) (id : BitVec 128) :
    ExecSound command (sentinelOf id) ↔ (nonBlankLines command).length ≤ 1 := by
  have hlines := linesBeforeSentinel_eq command (sentinelOf_isMarker id).no_lf
  constructor
  · intro hsound
    by_contra hmany
    obtain ⟨hlf, line, hline, hblank⟩ := lf_mem_trim (Nat.lt_of_not_le hmany)
    rw [← hlines] at hline
    -- the rules that allow this very command
    obtain ⟨allowed, hmem, hpre⟩ := hsound _ _ _ rfl
      (ensureExecAllowed_self ⟨false, .ok (), .ok []⟩ command) line hline hblank
    rw [List.mem_singleton.mp hmem] at hpre
    have hinLine : '\n' ∈ line := (Text.trim_infix line).subset (hpre.subset hlf)
    rw [hlines] at hline
    exact Text.not_mem_of_mem_splitOn hline hinLine
  · intro hone p rules console hrules hexec line hline hblank
    rw [hlines] at hline
    rw [← trim_eq_of_nonBlankLines hone hline hblank]
    exact ensureExecAllowed_allowed hrules hexec

/-- The rules allow `ls`, and the shell is handed `rm -rf /` on a second line. -/
theorem not_execSound_second_line : ¬ExecSound "ls\nrm -rf /".toList (sentinelOf 0) := by
  intro hsound
  have hlines := linesBeforeSentinel_eq "ls\nrm -rf /".toList (sentinelOf_isMarker 0).no_lf
  have hmem : "rm -rf /".toList ∈ linesBeforeSentinel "ls\nrm -rf /".toList (sentinelOf 0) := by
    rw [hlines]
    decide
  obtain ⟨allowed, hallowed, hpre⟩ := hsound ⟨true, some ⟨[], ["ls".toList], []⟩⟩
    ⟨[], ["ls".toList], []⟩ ⟨false, .ok (), .ok []⟩ rfl rfl _ hmem (by decide)
  rw [List.mem_singleton.mp hallowed] at hpre
  exact absurd hpre (by decide)

end RustdeskCli.Cli
