import RustdeskCli.Daemon.Lifecycle
import RustdeskCli.Session.Response
set_option autoImplicit false

/-!
# Daemon: a startup that fails (`src/daemon.rs`)

When the first connection fails, `run_daemon` writes the reason to the error file and
returns; `spawn_daemon`, in the process that started it, waits for the lock file and, when
none appears, reads the error file.  Between the two stands `DaemonCleanupGuard`, which
removes all three files when `run_daemon` returns.

The results of the file operations are discarded, so the system may refuse any of them.
-/

namespace RustdeskCli.Daemon

open RustdeskCli.Foundation
open RustdeskCli.Session

/-! ## The daemon's side -/

/-- What is at the three paths, with the text of the error file. -/
structure StartupFiles where
  socket : Bool
  lock : Bool
  error : Option Text
  deriving DecidableEq, Repr

/-- What the system lets the two processes do: remove a file, write the error file, read it. -/
structure Access where
  removable : Artifact → Bool
  writable : Bool
  readable : Bool

namespace StartupFiles

/-- `fs::remove_file`, whose result is discarded. -/
def unlink (access : Access) (files : StartupFiles) (path : Artifact) : StartupFiles :=
  if access.removable path then
    match path with
    | .socket => { files with socket := false }
    | .lock => { files with lock := false }
    | .error => { files with error := none }
  else files

/-- `write_startup_error`, whose result is discarded. -/
def writeStartupError (access : Access) (message : Text) (files : StartupFiles) : StartupFiles :=
  if access.writable then { files with error := some message } else files

/-- One file operation of an ending daemon. -/
def perform (access : Access) (message : Text) (files : StartupFiles) : ExitOp → StartupFiles
  | .unlink path => files.unlink access path
  | .writeError => files.writeStartupError access message

variable (access : Access) (message : Text) (files : StartupFiles)

@[simp] theorem unlink_error (path : Artifact) :
    (files.unlink access path).error =
      if path = .error ∧ access.removable .error then none else files.error := by
  unfold unlink
  cases path <;> split <;> simp_all

@[simp] theorem unlink_lock (path : Artifact) :
    (files.unlink access path).lock =
      (files.lock && !(path = .lock ∧ access.removable .lock)) := by
  unfold unlink
  cases path <;> split <;> simp_all

@[simp] theorem writeStartupError_error :
    (files.writeStartupError access message).error =
      if access.writable then some message else files.error := by
  unfold writeStartupError
  split <;> rfl

@[simp] theorem writeStartupError_lock :
    (files.writeStartupError access message).lock = files.lock := by
  unfold writeStartupError
  split <;> rfl

end StartupFiles

/-- The ways the first connection of `run_daemon` fails. -/
inductive StartupFailure where
  | connect (e : Error)
  | timedOut (secs : UInt64)
  | init (e : Error)
  deriving DecidableEq, Repr

namespace StartupFailure

/-- The message for the error file. -/
def message : StartupFailure → Text
  | .connect e => e.alternate
  | .timedOut secs =>
      "connect timed out after ".toList ++ (toString secs.toNat).toList ++ "s".toList
  | .init e => "daemon init failed: ".toList ++ e.alternate

/-- The way the daemon ends then. -/
def exit : StartupFailure → ExitKind
  | .connect _ | .timedOut _ => .connectFailed
  | .init _ => .initFailed

/-- The files after `run_daemon` has returned and its guard has been dropped. -/
def filesAfter (failure : StartupFailure) (access : Access) (files : StartupFiles) :
    StartupFiles :=
  (exitOps failure.exit).foldl (StartupFiles.perform access failure.message) files

end StartupFailure

/-! ## The side of the process that waits -/

/-- `wait_secs`. -/
def waitSecs (timeout : Option UInt64) : UInt64 := timeout.getD 30 + 5

/-- `wait_iters`. -/
def waitIters (timeout : Option UInt64) : Nat := (waitSecs timeout * 10).toNat

/-- The end of `spawn_daemon`, after the daemon has been spawned; `look` gives the files as
they are at each poll and, last, after the loop. -/
def spawnWait (access : Access) (timeout : Option UInt64) (look : Nat → StartupFiles) :
    Except Error Unit :=
  if (List.range (waitIters timeout)).any fun i => (look i).lock then .ok ()
  else
    match (look (waitIters timeout)).error with
    | some text =>
        let error := if access.readable then text else "daemon startup failed".toList
        .error (.msg ("Daemon failed to start: ".toList ++ Text.trim error))
    | none =>
        .error (.msg ("Daemon started but lock file not created within ".toList ++
          (toString (waitSecs timeout).toNat).toList ++ " seconds".toList))

/-! ## What the user learns -/

/-- The error file holds the message, there is no lock file, and a process that has waited and
looks at the files now fails with the message. -/
structure ErrorReaches (access : Access) (message : Text) (files : StartupFiles) : Prop where
  file : files.error = some message
  no_lock : files.lock = false
  told : ∀ timeout look, (∀ i < waitIters timeout, (look i).lock = false) →
    look (waitIters timeout) = files →
    spawnWait access timeout look =
      .error (.msg ("Daemon failed to start: ".toList ++ Text.trim message))

/-- What a failed startup leaves of the error file.  Whatever it writes, the guard comes
last. -/
theorem filesAfter_error (failure : StartupFailure) (access : Access) (files : StartupFiles) :
    (failure.filesAfter access files).error =
      if access.removable .error then none
      else if access.writable then some failure.message else files.error := by
  unfold StartupFailure.filesAfter
  cases failure <;> cases hremove : access.removable .error <;> cases hwrite : access.writable <;>
    simp [StartupFailure.exit, exitOps, cleanup, StartupFiles.perform, hremove, hwrite]

theorem filesAfter_lock (failure : StartupFailure) (access : Access) (files : StartupFiles) :
    (failure.filesAfter access files).lock = (files.lock && !access.removable .lock) := by
  unfold StartupFailure.filesAfter
  cases failure <;> cases hremove : access.removable .lock <;>
    simp [StartupFailure.exit, exitOps, cleanup, StartupFiles.perform, hremove]

/-- A process that has waited in vain reads the error file. -/
theorem spawnWait_of_error {access : Access} {timeout : Option UInt64} {look : Nat → StartupFiles}
    {text : Text} (hlock : ∀ i < waitIters timeout, (look i).lock = false)
    (herror : (look (waitIters timeout)).error = some text) :
    spawnWait access timeout look =
      .error (.msg ("Daemon failed to start: ".toList ++
        Text.trim (if access.readable then text else "daemon startup failed".toList))) := by
  have hnone : ((List.range (waitIters timeout)).any fun i => (look i).lock) = false := by
    rw [List.any_eq_false]
    intro i hi
    rw [hlock i (List.mem_range.mp hi)]
    exact Bool.false_ne_true
  unfold spawnWait
  rw [hnone, herror]
  rfl

/-- What the process that waits tells the user, when the error file holds the message and
there is no lock file. -/
theorem told_iff {access : Access} {message : Text} {files : StartupFiles}
    (hfile : files.error = some message) (hlock : files.lock = false) :
    (∀ timeout look, (∀ i < waitIters timeout, (look i).lock = false) →
      look (waitIters timeout) = files →
      spawnWait access timeout look =
        .error (.msg ("Daemon failed to start: ".toList ++ Text.trim message))) ↔
      access.readable = true ∨ Text.trim message = Text.trim "daemon startup failed".toList := by
  constructor
  · intro htold
    have hnow := htold none (fun _ => files) (fun _ _ => hlock) rfl
    rw [spawnWait_of_error (fun _ _ => hlock) hfile] at hnow
    have htext := List.append_cancel_left (congrArg Error.message (Except.error.inj hnow))
    cases hreadable : access.readable with
    | true => exact .inl rfl
    | false =>
        rw [hreadable] at htext
        exact .inr htext.symm
  · intro hread timeout look hpolls hlook
    rw [spawnWait_of_error hpolls (hlook ▸ hfile)]
    rcases hread with hreadable | htrim
    · rw [hreadable]
      rfl
    · cases access.readable with
      | true => rfl
      | false => exact congrArg (fun text => Except.error (Error.msg (_ ++ text))) htrim.symm

/-- The message reaches the user exactly when the guard is not allowed to remove the error
file, which the daemon could write, or which held that message already; and the lock file
does go away, and the error file can be read. -/
theorem startup_error_reaches_iff (failure : StartupFailure) (access : Access)
    (files : StartupFiles) :
    ErrorReaches access failure.message (failure.filesAfter access files) ↔
      access.removable .error = false ∧
      (access.writable = true ∨ files.error = some failure.message) ∧
      (files.lock = true → access.removable .lock = true) ∧
      (access.readable = true ∨
        Text.trim failure.message = Text.trim "daemon startup failed".toList) := by
  have hfile : (failure.filesAfter access files).error = some failure.message ↔
      access.removable .error = false ∧
        (access.writable = true ∨ files.error = some failure.message) := by
    rw [filesAfter_error]
    cases access.removable .error <;> cases access.writable <;> simp
  have hlock : (failure.filesAfter access files).lock = false ↔
      (files.lock = true → access.removable .lock = true) := by
    rw [filesAfter_lock]
    cases files.lock <;> cases access.removable .lock <;> simp
  constructor
  · intro h
    obtain ⟨hremovable, hwritten⟩ := hfile.mp h.file
    exact ⟨hremovable, hwritten, hlock.mp h.no_lock, (told_iff h.file h.no_lock).mp h.told⟩
  · rintro ⟨hremovable, hwritten, hgone, hread⟩
    have herror := hfile.mpr ⟨hremovable, hwritten⟩
    have hnone := hlock.mpr hgone
    exact ⟨herror, hnone, (told_iff herror hnone).mpr hread⟩

/-- The files of a daemon that is about to connect, in a directory of its own. -/
def boundFiles : StartupFiles := ⟨true, false, none⟩

/-- Every file operation is allowed. -/
def fullAccess : Access := ⟨fun _ => true, true, true⟩

/-- The connection is refused, and the user reads that the lock file is missing. -/
theorem startup_error_lost_refused :
    ∃ failure : StartupFailure, failure.message = "Connection refused (os error 111)".toList ∧
      (failure.filesAfter fullAccess boundFiles).error = none ∧
      spawnWait fullAccess (some 1) (fun _ => failure.filesAfter fullAccess boundFiles) =
        .error (.msg "Daemon started but lock file not created within 6 seconds".toList) ∧
      ¬ErrorReaches fullAccess failure.message (failure.filesAfter fullAccess boundFiles) := by
  let failure := StartupFailure.connect (.msg "Connection refused (os error 111)".toList)
  have herror : (failure.filesAfter fullAccess boundFiles).error = none := rfl
  refine ⟨failure, rfl, herror, by decide, ?_⟩
  intro h
  cases herror.symm.trans h.file

end RustdeskCli.Daemon
