import Mathlib.Algebra.Group.Nat.Defs
import Mathlib.Logic.Function.Basic
import RustdeskCli.Foundation.Machine
set_option autoImplicit false

/-!
# Daemon: processes and their files (`src/daemon.rs`)

Every daemon uses the same three paths: the socket, the lock and the startup error.
A daemon that starts removes what looks stale and binds the socket; a daemon that ends
removes all three.  Neither looks at whose files they are.  The file operations of any
number of processes are the steps of one machine, in any order.

A process is told apart by its pid, which may be used again after its end.  The
functions `cleanup_stale_daemon_artifacts` and `cleanup` are followed operation by
operation; what a daemon does between them is one stage.
-/

namespace RustdeskCli.Daemon

open RustdeskCli.Foundation

/-! ## Files -/

/-- A process id. -/
abbrev Pid := Nat

/-- `SOCKET_PATH`, `LOCK_PATH` and `ERROR_PATH`. -/
inductive Artifact where
  | socket
  | lock
  | error
  deriving DecidableEq, Repr

/-- A lock file: the pid in it, if it can be decoded, and the process that wrote it, while
that process is there. -/
structure LockEntry where
  pid : Option Pid
  writer : Option Pid
  deriving DecidableEq, Repr

/-- What is at the three paths. -/
structure Files where
  /-- a socket and the process that listens on it, or a stale file -/
  socket : Option (Option Pid)
  lock : Option LockEntry
  error : Bool
  deriving DecidableEq, Repr

namespace Files

/-- The running process whose file is at a path. -/
def owner (files : Files) : Artifact → Option Pid
  | .socket => files.socket.join
  | .lock => files.lock.bind LockEntry.writer
  | .error => none

/-- `fs::remove_file`; no file is no error. -/
def unlink (files : Files) : Artifact → Files
  | .socket => { files with socket := none }
  | .lock => { files with lock := none }
  | .error => { files with error := false }

/-- The files of a process that has ended are stale. -/
def orphan (files : Files) (p : Pid) : Files :=
  { files with
    socket := files.socket.map fun owner => if owner = some p then none else owner
    lock := files.lock.map fun entry =>
      { entry with writer := if entry.writer = some p then none else entry.writer } }

/-- Nothing at the paths belongs to a running process. -/
def Stale (files : Files) : Prop := ∀ path, files.owner path = none

end Files

/-! ## Processes -/

/-- Who calls `cleanup_stale_daemon_artifacts`: the daemon, or the command that spawns it. -/
inductive Role where
  | daemon
  | spawner
  deriving DecidableEq, Repr

/-- What an ending daemon still has to do. -/
inductive ExitOp where
  | unlink (path : Artifact)
  | writeError
  deriving DecidableEq, Repr

/-- The next operation of a process, with what it has found out so far. -/
inductive Stage where
  | absent
  | checkSocket
  | checkLock (socketExists : Bool)
  | probeSocket (lockExists : Bool)
  | readLock (socketAlive : Bool)
  | probePid (socketAlive : Bool) (pid : Pid)
  | removing (path : Artifact) (rest : List Artifact)
  | bind
  /-- bound, not yet connected to the peer -/
  | starting
  | running
  | exiting (ops : List ExitOp)
  deriving DecidableEq, Repr

namespace Stage

/-- The daemon is bound to the socket and still there. -/
def isListening : Stage → Bool
  | .starting | .running | .exiting _ => true
  | _ => false

/-- Between the first check and the bind, or between the decision to end and the end. -/
def isCritical : Stage → Bool
  | .absent | .checkSocket | .starting | .running => false
  | _ => true

/-- The process has found no live socket. -/
def isBlind : Stage → Bool
  | .checkLock false | .readLock false | .probePid false _ | .removing .. | .bind => true
  | _ => false

theorem isCritical_of_isBlind {stage : Stage} (h : stage.isBlind = true) :
    stage.isCritical = true := by
  cases stage <;> first | rfl | cases h

end Stage

/-- The ways a daemon ends: `graceful_shutdown`, an error that only the guard cleans up after,
a failed connection, a failed initialisation. -/
inductive ExitKind where
  | graceful
  | guardOnly
  | connectFailed
  | initFailed
  deriving DecidableEq, Repr

/-- `cleanup`. -/
def cleanup : List ExitOp := [.unlink .socket, .unlink .error, .unlink .lock]

/-- The file operations of an ending daemon.  The guard runs `cleanup` last, also after the
daemon has run it itself. -/
def exitOps : ExitKind → List ExitOp
  | .graceful => cleanup ++ cleanup
  | .guardOnly => cleanup
  | .connectFailed => .writeError :: cleanup ++ .writeError :: cleanup
  | .initFailed => .writeError :: cleanup ++ cleanup

/-! ## The machine -/

/-- The processes and the files, and a record of who removed whose file while its owner was
running. -/
structure Host where
  stage : Pid → Stage
  role : Pid → Role
  files : Files
  victims : List (Pid × Pid)

namespace Host

/-- The process goes on to a stage. -/
def set (h : Host) (p : Pid) (stage : Stage) : Host :=
  { h with stage := Function.update h.stage p stage }

/-- The process removes a file. -/
def unlink (h : Host) (p : Pid) (path : Artifact) : Host :=
  { h with
    files := h.files.unlink path
    victims :=
      match h.files.owner path with
      | some q => if q = p then h.victims else h.victims ++ [(p, q)]
      | none => h.victims }

/-- The process ends, and its sockets with it. -/
def ends (h : Host) (p : Pid) : Host := { h.set p .absent with files := h.files.orphan p }

/-- `pid_is_alive`; `answer` is what the system says of a pid that is none of the processes. -/
def pidIsAlive (h : Host) (pid : Pid) (answer : Bool) : Bool :=
  0 < pid && pid < 2 ^ 31 && (h.stage pid ≠ .absent || answer)

/-- The end of the checks of `cleanup_stale_daemon_artifacts`. -/
def staleDecision (socketAlive lockAlive : Bool) : Stage :=
  if socketAlive || lockAlive then .absent else .removing .socket [.lock, .error]

/-- After a file has been removed: the next one, or the bind of a daemon. -/
def afterRemoving (role : Role) : List Artifact → Stage
  | path :: rest => .removing path rest
  | [] =>
      match role with
      | .daemon => .bind
      | .spawner => .absent

/-- The checks of `cleanup_stale_daemon_artifacts`, one by one. -/
def look (h : Host) (answer : Bool) : Stage → Option Stage
  | .checkSocket => some (.checkLock h.files.socket.isSome)
  | .checkLock socketExists =>
      let lockExists := h.files.lock.isSome
      if !socketExists && !lockExists then some (.removing .error [])
      else if socketExists then some (.probeSocket lockExists)
      else some (.readLock false)
  | .probeSocket lockExists =>
      let socketAlive := (h.files.owner .socket).isSome
      if lockExists then some (.readLock socketAlive) else some (staleDecision socketAlive false)
  | .readLock socketAlive =>
      match h.files.lock.bind LockEntry.pid with
      | some pid => some (.probePid socketAlive pid)
      | none => some (staleDecision socketAlive false)
  | .probePid socketAlive pid => some (staleDecision socketAlive (h.pidIsAlive pid answer))
  | _ => none

/-- The next file operation of a process. -/
def advance (h : Host) (p : Pid) (answer : Bool) : Option Host :=
  match h.look answer (h.stage p) with
  | some stage => some (h.set p stage)
  | none =>
      match h.stage p with
      | .removing path rest => some ((h.unlink p path).set p (afterRemoving (h.role p) rest))
      | .bind =>
          if h.files.socket.isSome then some (h.set p .absent)
          else some { h.set p .starting with files := { h.files with socket := some (some p) } }
      | .starting =>
          some { h.set p .running with files := { h.files with lock := some ⟨some p, some p⟩ } }
      | .exiting [] => some (h.ends p)
      | .exiting (.unlink path :: ops) => some ((h.unlink p path).set p (.exiting ops))
      | .exiting (.writeError :: ops) =>
          some { h.set p (.exiting ops) with files := { h.files with error := true } }
      | _ => none

/-- Whether a daemon can end so where it is. -/
def canExit (stage : Stage) (kind : ExitKind) : Bool :=
  match stage, kind with
  | .starting, .guardOnly | .starting, .connectFailed | .starting, .initFailed => true
  | .running, .graceful | .running, .guardOnly => true
  | _, _ => false

end Host

/-- A process appears, does its next file operation, decides to end, or is killed. -/
inductive HostAction where
  | launch (p : Pid) (role : Role)
  | advance (p : Pid) (answer : Bool)
  | exit (p : Pid) (kind : ExitKind)
  | kill (p : Pid)
  deriving DecidableEq, Repr

/-- One action of the machine. -/
def hostStep (h : Host) : HostAction → Option Host
  | .launch p role =>
      if h.stage p = .absent then
        some { h.set p .checkSocket with role := Function.update h.role p role }
      else none
  | .advance p answer => h.advance p answer
  | .exit p kind =>
      if Host.canExit (h.stage p) kind then some (h.set p (.exiting (exitOps kind))) else none
  | .kill p => if h.stage p = .absent then none else some (h.ends p)

/-- The machine of the processes. -/
def hostMachine : Machine Host HostAction := ⟨hostStep⟩

/-- No process, and whatever is at the paths. -/
def Host.idle (files : Files) : Host := ⟨fun _ => .absent, fun _ => .daemon, files, []⟩

/-! ## One process at a time -/

/-- No process makes its first check, and none decides to end, while another one is between
its first check and its bind, or ending. -/
def Serialised (h : Host) : HostAction → Prop
  | .advance p _ => h.stage p = .checkSocket → ∀ q, (h.stage q).isCritical = false
  | .exit _ _ => ∀ q, (h.stage q).isCritical = false
  | _ => True

/-- What holds while the processes take turns. -/
structure Exclusive (h : Host) : Prop where
  critical : ∀ p q, (h.stage p).isCritical = true → (h.stage q).isCritical = true → p = q
  /-- a bound daemon that does not end has the socket -/
  bound : ∀ p, (h.stage p).isListening = true → (h.stage p).isCritical = false →
    h.files.socket = some (some p)
  owners : ∀ path p, h.files.owner path = some p → (h.stage p).isListening = true
  listening : ∀ p q, (h.stage p).isListening = true → (h.stage q).isListening = true → p = q
  /-- a process that has found no live socket is right -/
  blind : ∀ p q, (h.stage p).isBlind = true → (h.stage q).isListening = false
  victims : h.victims = []

namespace Exclusive

variable {h : Host} {p : Pid}

/-- What holds of the new stage of `p`, and of the stages of the others, holds of all. -/
theorem forall_set {P : Pid → Stage → Prop} {stage : Stage} (hp : P p stage)
    (hothers : ∀ q, q ≠ p → P q (h.stage q)) (q : Pid) : P q ((h.set p stage).stage q) :=
  (Function.forall_update_iff h.stage P).mpr ⟨hp, hothers⟩ q

/-- A process goes on to another stage without binding or ending. -/
theorem set (hh : Exclusive h) {stage : Stage}
    (hlistening : stage.isListening = (h.stage p).isListening)
    (hcritical : stage.isCritical = true → ∀ q, q ≠ p → (h.stage q).isCritical = false)
    (hbound : stage.isListening = true → stage.isCritical = false →
      h.files.socket = some (some p))
    (hblind : stage.isBlind = true → ∀ q, (h.stage q).isListening = false) :
    Exclusive (h.set p stage) := by
  have hsame : ∀ q, ((h.set p stage).stage q).isListening = (h.stage q).isListening :=
    forall_set (P := fun q st => st.isListening = (h.stage q).isListening) hlistening
      fun _ _ => rfl
  refine ⟨?_, ?_, ?_, ?_, ?_, hh.victims⟩
  · refine forall_set (P := fun q st => ∀ r, st.isCritical = true →
      ((h.set p stage).stage r).isCritical = true → q = r) ?_ ?_
    · intro r hp
      refine forall_set (P := fun r st => st.isCritical = true → p = r) (fun _ => rfl) ?_ r
      intro r hr hcrit
      rw [hcritical hp r hr] at hcrit
      cases hcrit
    · intro q hq r hcrit
      refine forall_set (P := fun r st => st.isCritical = true → q = r) ?_ ?_ r
      · intro hp
        rw [hcritical hp q hq] at hcrit
        cases hcrit
      · exact fun r _ => hh.critical q r hcrit
  · exact forall_set (P := fun q st => st.isListening = true → st.isCritical = false →
      h.files.socket = some (some q)) hbound fun q _ => hh.bound q
  · intro path q howner
    rw [hsame]
    exact hh.owners path q howner
  · intro q r
    rw [hsame, hsame]
    exact hh.listening q r
  · intro q r
    rw [hsame]
    exact forall_set (P := fun q st => st.isBlind = true → (h.stage r).isListening = false)
      (fun hp => hblind hp r) (fun q _ => hh.blind q r) q

/-- The files change, and the bound daemons keep theirs. -/
theorem withFiles (hh : Exclusive h) {files : Files}
    (hbound : ∀ q, (h.stage q).isListening = true → (h.stage q).isCritical = false →
      files.socket = some (some q))
    (howners : ∀ path q, files.owner path = some q → (h.stage q).isListening = true) :
    Exclusive { h with files := files } :=
  ⟨hh.critical, hbound, howners, hh.listening, hh.blind, hh.victims⟩

theorem owner_unlink {files : Files} {removed path : Artifact} {q : Pid}
    (howner : (files.unlink removed).owner path = some q) : files.owner path = some q := by
  cases removed <;> cases path <;> first | exact howner | cases howner

/-- A process removes a file while no daemon but itself, ending, is bound. -/
theorem unlink (hh : Exclusive h) (path : Artifact)
    (hself : ∀ q, (h.stage q).isListening = true → q = p ∧ (h.stage q).isCritical = true) :
    Exclusive (h.unlink p path) := by
  have hvictims : (h.unlink p path).victims = [] := by
    unfold Host.unlink
    simp only
    split
    · rename_i q howner
      rw [if_pos (hself q (hh.owners path q howner)).1]
      exact hh.victims
    · exact hh.victims
  have hfiles : Exclusive { h with files := h.files.unlink path } := by
    refine hh.withFiles ?_ ?_
    · intro q hq hcrit
      rw [(hself q hq).2] at hcrit
      cases hcrit
    · intro removed q howner
      exact hh.owners removed q (owner_unlink howner)
  exact ⟨hfiles.critical, hfiles.bound, hfiles.owners, hfiles.listening, hfiles.blind, hvictims⟩

/-- A process that has found no live socket binds. -/
theorem bind (hh : Exclusive h) (hstage : h.stage p = .bind) :
    Exclusive { h.set p .starting with files := { h.files with socket := some (some p) } } := by
  have hcritical : ∀ q, q ≠ p → (h.stage q).isCritical = false := fun q hq =>
    Bool.eq_false_iff.mpr fun hcrit => hq (hh.critical q p hcrit (by rw [hstage]; rfl))
  have hnone : ∀ q, (h.stage q).isListening = false := fun q =>
    hh.blind p q (by rw [hstage]; rfl)
  -- the process is the only one that listens now, and nobody is critical
  have hself : ∀ q, ((h.set p .starting).stage q).isListening = true → q = p := by
    refine forall_set (P := fun q st => st.isListening = true → q = p) (fun _ => rfl) ?_
    intro q _ hq
    rw [hnone q] at hq
    cases hq
  have hcalm : ∀ q, ((h.set p .starting).stage q).isCritical = false :=
    forall_set (P := fun q st => st.isCritical = false) rfl hcritical
  refine ⟨?_, ?_, ?_, ?_, ?_, hh.victims⟩
  · intro q r hq
    rw [hcalm q] at hq
    cases hq
  · intro q hq _
    rw [hself q hq]
  · intro path q howner
    cases path with
    | socket =>
        obtain rfl : p = q := Option.some.inj howner
        exact forall_set (P := fun r st => r = p → st.isListening = true) (fun _ => rfl)
          (fun r hr heq => absurd heq hr) p rfl
    | lock =>
        have hlisten := hh.owners .lock q howner
        rw [hnone q] at hlisten
        cases hlisten
    | error => cases howner
  · intro q r hq hr
    exact (hself q hq).trans (hself r hr).symm
  · intro q r hq
    have hcrit := Stage.isCritical_of_isBlind hq
    rw [hcalm q] at hcrit
    cases hcrit

/-- The files of the others stay theirs when a process ends. -/
theorem owner_orphan {files : Files} {path : Artifact} {q : Pid}
    (howner : (files.orphan p).owner path = some q) : files.owner path = some q ∧ q ≠ p := by
  have hkeep : ∀ {owner : Option Pid}, (if owner = some p then none else owner) = some q →
      owner = some q ∧ q ≠ p := by
    intro owner hkept
    split at hkept
    · cases hkept
    · rename_i hne
      exact ⟨hkept, fun hq => hne (hq ▸ hkept)⟩
  obtain ⟨socket, lock, error⟩ := files
  cases path with
  | socket =>
      cases socket with
      | none => cases howner
      | some owner => exact hkeep howner
  | lock =>
      cases lock with
      | none => cases howner
      | some entry => exact hkeep howner
  | error => cases howner

theorem ends (hh : Exclusive h) : Exclusive (h.ends p) := by
  -- the ended process was one of those that listened, or was not
  have hlistening : ∀ q, ((h.set p .absent).stage q).isListening = true →
      q ≠ p ∧ (h.set p .absent).stage q = h.stage q := by
    refine forall_set (P := fun q st => st.isListening = true → q ≠ p ∧ st = h.stage q) ?_ ?_
    · intro hp
      cases hp
    · exact fun q hq _ => ⟨hq, rfl⟩
  refine ⟨?_, ?_, ?_, ?_, ?_, hh.victims⟩
  · refine forall_set (P := fun q st => ∀ r, st.isCritical = true →
      ((h.set p .absent).stage r).isCritical = true → q = r) ?_ ?_
    · intro r hp
      cases hp
    · intro q hq r hcrit
      refine forall_set (P := fun r st => st.isCritical = true → q = r) ?_ ?_ r
      · intro hp
        cases hp
      · exact fun r _ => hh.critical q r hcrit
  · intro q hq hcrit
    obtain ⟨hne, hsame⟩ := hlistening q hq
    have hbound : h.files.socket = some (some q) := by
      refine hh.bound q ?_ ?_
      · exact hsame ▸ hq
      · exact hsame ▸ hcrit
    unfold Host.ends Files.orphan
    rw [hbound]
    simp [hne]
  · intro path q howner
    obtain ⟨hold, hne⟩ := owner_orphan howner
    refine forall_set (P := fun r st => r ≠ p → (h.stage r).isListening = true →
      st.isListening = true) ?_ (fun r _ _ hr => hr) q hne (hh.owners path q hold)
    intro hp
    exact absurd rfl hp
  · intro q r hq hr
    obtain ⟨_, hq'⟩ := hlistening q hq
    obtain ⟨_, hr'⟩ := hlistening r hr
    exact hh.listening q r (hq' ▸ hq) (hr' ▸ hr)
  · intro q r hq
    refine Bool.eq_false_iff.mpr fun hr => ?_
    obtain ⟨_, hr'⟩ := hlistening r hr
    refine forall_set (P := fun q st => st.isBlind = true → False) ?_ ?_ q hq
    · intro hp
      cases hp
    · intro q _ hq
      have hquiet := hh.blind q r hq
      rw [← hr'] at hquiet
      exact absurd hr (by simp [Host.ends, hquiet])

/-! ## Steps -/

/-- A check leaves a process unbound, and blind only if it was blind or there is no live
socket. -/
theorem look_spec {answer : Bool} {stage stage' : Stage}
    (hlook : h.look answer stage = some stage') :
    stage'.isListening = false ∧ stage.isListening = false ∧
      (stage = .checkSocket ∨ stage.isCritical = true) ∧
      (stage'.isBlind = true → stage.isBlind = true ∨ h.files.owner .socket = none) := by
  -- the decision is blind only after a look at the socket that found nobody
  have hdecision : ∀ socketAlive lockAlive,
      (Host.staleDecision socketAlive lockAlive).isListening = false ∧
        ((Host.staleDecision socketAlive lockAlive).isBlind = true → socketAlive = false) := by
    intro socketAlive lockAlive
    cases socketAlive <;> cases lockAlive <;> simp [Host.staleDecision, Stage.isListening,
      Stage.isBlind]
  unfold Host.look at hlook
  split at hlook
  · rw [← Option.some.inj hlook]
    refine ⟨rfl, rfl, .inl rfl, fun hblind => .inr ?_⟩
    unfold Files.owner
    cases hsocket : h.files.socket with
    | none => rfl
    | some owner => rw [hsocket] at hblind; cases hblind
  · rename_i socketExists
    cases socketExists with
    | false =>
        simp only at hlook
        split at hlook
        · rw [← Option.some.inj hlook]
          exact ⟨rfl, rfl, .inr rfl, fun _ => .inl rfl⟩
        · rw [← Option.some.inj hlook]
          exact ⟨rfl, rfl, .inr rfl, fun _ => .inl rfl⟩
    | true =>
        rw [← Option.some.inj hlook]
        exact ⟨rfl, rfl, .inr rfl, fun hblind => by cases hblind⟩
  · have hfound : (h.files.owner .socket).isSome = false → h.files.owner .socket = none :=
      fun hnone => by simpa using hnone
    simp only at hlook
    split at hlook
    · rw [← Option.some.inj hlook]
      refine ⟨rfl, rfl, .inr rfl, fun hblind => .inr (hfound ?_)⟩
      cases halive : (h.files.owner .socket).isSome with
      | false => rfl
      | true => rw [halive] at hblind; cases hblind
    · rw [← Option.some.inj hlook]
      obtain ⟨hquiet, hblind⟩ := hdecision (h.files.owner .socket).isSome false
      exact ⟨hquiet, rfl, .inr rfl, fun hb => .inr (hfound (hblind hb))⟩
  · rename_i socketAlive
    split at hlook
    · rw [← Option.some.inj hlook]
      refine ⟨rfl, rfl, .inr rfl, fun hblind => .inl ?_⟩
      cases socketAlive with
      | false => rfl
      | true => cases hblind
    · rw [← Option.some.inj hlook]
      obtain ⟨hquiet, hblind⟩ := hdecision socketAlive false
      exact ⟨hquiet, rfl, .inr rfl, fun hb => .inl (by rw [hblind hb]; rfl)⟩
  · rename_i socketAlive pid
    rw [← Option.some.inj hlook]
    obtain ⟨hquiet, hblind⟩ := hdecision socketAlive (h.pidIsAlive pid answer)
    exact ⟨hquiet, rfl, .inr rfl, fun hb => .inl (by rw [hblind hb]; rfl)⟩
  · cases hlook

theorem afterRemoving_isListening (role : Role) (rest : List Artifact) :
    (Host.afterRemoving role rest).isListening = false := by
  cases rest with
  | nil => cases role <;> rfl
  | cons path rest => rfl

/-- When no other process is critical and no running daemon has the socket, none is there. -/
theorem none_listening (hh : Exclusive h) (hquiet : (h.stage p).isListening = false)
    (hcritical : ∀ q, q ≠ p → (h.stage q).isCritical = false)
    (hsocket : h.files.owner .socket = none) (q : Pid) : (h.stage q).isListening = false := by
  refine Bool.eq_false_iff.mpr fun hlisten => ?_
  have hne : q ≠ p := by
    rintro rfl
    rw [hquiet] at hlisten
    cases hlisten
  have hbound := hh.bound q hlisten (hcritical q hne)
  unfold Files.owner at hsocket
  rw [hbound] at hsocket
  cases hsocket

/-- A process checks. -/
theorem look (hh : Exclusive h) {answer : Bool} (hturn : Serialised h (.advance p answer))
    {stage : Stage} (hlook : h.look answer (h.stage p) = some stage) :
    Exclusive (h.set p stage) := by
  obtain ⟨hnew, hquiet, hwhere, hblind⟩ := look_spec hlook
  have hothers : ∀ q, q ≠ p → (h.stage q).isCritical = false := by
    intro q hq
    rcases hwhere with hfirst | hcrit
    · exact hturn hfirst q
    · exact Bool.eq_false_iff.mpr fun hq' => hq (hh.critical q p hq' hcrit)
  refine hh.set (hnew.trans hquiet.symm) (fun _ => hothers) ?_ ?_
  · intro hlisten
    rw [hnew] at hlisten
    cases hlisten
  · intro hstage
    rcases hblind hstage with hold | hsocket
    · exact fun q => hh.blind p q hold
    · exact hh.none_listening hquiet hothers hsocket

/-- A process removes what it took for stale. -/
theorem removing (hh : Exclusive h) {path : Artifact} {rest : List Artifact}
    (hstage : h.stage p = .removing path rest) :
    Exclusive ((h.unlink p path).set p (Host.afterRemoving (h.role p) rest)) := by
  have hblind : ∀ q, (h.stage q).isListening = false := fun q =>
    hh.blind p q (by rw [hstage]; rfl)
  have hunlinked : Exclusive (h.unlink p path) := by
    refine hh.unlink path ?_
    intro q hq
    rw [hblind q] at hq
    cases hq
  have hnew := afterRemoving_isListening (h.role p) rest
  refine hunlinked.set (hnew.trans (hblind p).symm) ?_ ?_ (fun _ => hblind)
  · intro _ q hq
    exact Bool.eq_false_iff.mpr fun hcrit => hq (hh.critical q p hcrit (by rw [hstage]; rfl))
  · intro hlisten
    rw [hnew] at hlisten
    cases hlisten

/-- An ending daemon goes on ending. -/
theorem exiting (hh : Exclusive h) {ops ops' : List ExitOp} (hstage : h.stage p = .exiting ops) :
    Exclusive (h.set p (.exiting ops')) := by
  refine hh.set (by rw [hstage]; rfl) ?_ (fun _ hcrit => by cases hcrit) (fun hb => by cases hb)
  intro _ q hq
  exact Bool.eq_false_iff.mpr fun hcrit => hq (hh.critical q p hcrit (by rw [hstage]; rfl))

/-- A daemon that is connected writes its lock. -/
theorem starting (hh : Exclusive h) (hstage : h.stage p = .starting) :
    Exclusive { h.set p .running with
      files := { h.files with lock := some ⟨some p, some p⟩ } } := by
  have hrunning : Exclusive (h.set p .running) := by
    refine hh.set (by rw [hstage]; rfl) (fun hcrit => by cases hcrit) ?_ (fun hb => by cases hb)
    intro _ _
    exact hh.bound p (by rw [hstage]; rfl) (by rw [hstage]; rfl)
  refine hrunning.withFiles hrunning.bound ?_
  intro path q howner
  cases path with
  | socket => exact hrunning.owners .socket q howner
  | lock =>
      obtain rfl : p = q := Option.some.inj howner
      exact forall_set (P := fun r st => r = p → st.isListening = true) (fun _ => rfl)
        (fun r hr heq => absurd heq hr) p rfl
  | error => cases howner

theorem advance (hh : Exclusive h) {h' : Host} {answer : Bool}
    (hturn : Serialised h (.advance p answer)) (hstep : h.advance p answer = some h') :
    Exclusive h' := by
  unfold Host.advance at hstep
  split at hstep
  · rename_i stage hlook
    rw [← Option.some.inj hstep]
    exact hh.look hturn hlook
  · split at hstep <;> rename_i hstage
    · rw [← Option.some.inj hstep]
      exact hh.removing hstage
    · split at hstep <;> rw [← Option.some.inj hstep]
      · refine hh.set (by rw [hstage]; rfl) (fun hcrit => by cases hcrit)
          (fun hlisten => by cases hlisten) (fun hb => by cases hb)
      · exact hh.bind hstage
    · rw [← Option.some.inj hstep]
      exact hh.starting hstage
    · rw [← Option.some.inj hstep]
      exact hh.ends
    · rename_i path ops
      rw [← Option.some.inj hstep]
      refine (hh.unlink path ?_).exiting hstage
      intro q hq
      obtain rfl := hh.listening q p hq (by rw [hstage]; rfl)
      exact ⟨rfl, by rw [hstage]; rfl⟩
    · rename_i ops
      rw [← Option.some.inj hstep]
      have hexiting : Exclusive (h.set p (.exiting ops)) := hh.exiting hstage
      refine hexiting.withFiles hexiting.bound ?_
      intro path q howner
      cases path with
      | error => cases howner
      | socket => exact hexiting.owners .socket q howner
      | lock => exact hexiting.owners .lock q howner
    · cases hstep

/-- A daemon decides to end while nobody is critical. -/
theorem exit (hh : Exclusive h) (hturn : ∀ q, (h.stage q).isCritical = false)
    {kind : ExitKind} (hexit : Host.canExit (h.stage p) kind = true) :
    Exclusive (h.set p (.exiting (exitOps kind))) := by
  have hlistening : (h.stage p).isListening = true := by
    cases hstage : h.stage p with
    | starting => rfl
    | running => rfl
    | _ => rw [hstage] at hexit; cases hexit
  exact hh.set hlistening.symm (fun _ q _ => hturn q) (fun _ hcrit => by cases hcrit)
    (fun hb => by cases hb)

theorem step (h : Host) (action : HostAction) (h' : Host) (hh : Exclusive h)
    (hturn : Serialised h action) (hstep : hostStep h action = some h') : Exclusive h' := by
  cases action with
  | launch p role =>
      unfold hostStep at hstep
      simp only at hstep
      split at hstep
      · rename_i habsent
        rw [← Option.some.inj hstep]
        have hlaunched : Exclusive (h.set p .checkSocket) :=
          hh.set (by rw [habsent]; rfl) (fun hcrit => by cases hcrit)
            (fun hlisten => by cases hlisten) (fun hb => by cases hb)
        exact ⟨hlaunched.critical, hlaunched.bound, hlaunched.owners, hlaunched.listening,
          hlaunched.blind, hlaunched.victims⟩
      · cases hstep
  | advance p answer => exact hh.advance hturn hstep
  | exit p kind =>
      unfold hostStep at hstep
      simp only at hstep
      split at hstep
      · rename_i hexit
        rw [← Option.some.inj hstep]
        exact hh.exit hturn hexit
      · cases hstep
  | kill p =>
      unfold hostStep at hstep
      simp only at hstep
      split at hstep
      · cases hstep
      · rw [← Option.some.inj hstep]
        exact hh.ends

theorem idle {files : Files} (hstale : files.Stale) : Exclusive (Host.idle files) := by
  refine ⟨?_, ?_, ?_, ?_, ?_, rfl⟩
  · intro p q hcrit
    cases hcrit
  · intro p hlisten
    cases hlisten
  · intro path p howner
    have hnone : files.owner path = some p := howner
    rw [hstale path] at hnone
    cases hnone
  · intro p q hlisten
    cases hlisten
  · intro p q hblind
    cases hblind

end Exclusive

/-- From any stale files, over any run in which the processes start and end one at a time, no
process removes the file of a running daemon, and at most one running daemon is bound to the
socket. -/
theorem one_daemon_when_serialised (files : Files) (hstale : files.Stale)
    (actions : List HostAction) (h : Host)
    (hturns : hostMachine.Meets Serialised (Host.idle files) actions)
    (hrun : hostMachine.run (Host.idle files) actions = some h) :
    h.victims = [] ∧
      ∀ p q, (h.stage p).isListening = true → (h.stage q).isListening = true → p = q := by
  have hh := hostMachine.invariant_of_meets Exclusive.step (Exclusive.idle hstale) hturns hrun
  exact ⟨hh.victims, hh.listening⟩

/-- A socket that a killed daemon has left behind. -/
def staleSocket : Files := ⟨some none, none, false⟩

theorem staleSocket_stale : staleSocket.Stale := by
  intro path
  cases path <;> rfl

/-- Three daemons take turns: the first starts, the second finds it alive and gives up, the
first ends, and the third starts. -/
def takingTurns : List HostAction :=
  .launch 1 .daemon :: List.replicate 8 (.advance 1 false) ++
    .launch 2 .daemon :: List.replicate 5 (.advance 2 false) ++
    .exit 1 .graceful :: List.replicate 7 (.advance 1 false) ++
    .launch 3 .daemon :: List.replicate 4 (.advance 3 false)

theorem takingTurns_serialised :
    hostMachine.Meets Serialised (Host.idle staleSocket) takingTurns := by
  repeat' refine And.intro ?_ ?_
  all_goals first
    | exact trivial
    -- the process has made its first check before
    | (intro hfirst; cases hfirst; done)
    | (intro _ q
       match q with
       | 0 | 1 | 2 | 3 => rfl
       | n + 4 => rfl)
    | (intro q
       match q with
       | 0 | 1 | 2 | 3 => rfl
       | n + 4 => rfl)

/-- Over a stale socket the third of them ends up alone. -/
theorem one_daemon_when_serialised_three :
    ∃ h, hostMachine.run (Host.idle staleSocket) takingTurns = some h ∧
      h.stage 1 = .absent ∧ h.stage 2 = .absent ∧ h.stage 3 = .starting ∧ h.victims = [] ∧
      ∀ p, (h.stage p).isListening = true → p = 3 := by
  obtain ⟨hvictims, hone⟩ := one_daemon_when_serialised staleSocket staleSocket_stale takingTurns _
    takingTurns_serialised rfl
  exact ⟨_, rfl, rfl, rfl, rfl, hvictims, fun p hlistens => hone p 3 hlistens rfl⟩

/-- Two daemons start over a stale socket: both find it dead, the first removes it and binds,
the second removes the socket of the first and binds too. -/
theorem two_daemons_over_stale_socket :
    staleSocket.Stale ∧
      ∃ h, hostMachine.run (Host.idle staleSocket)
          ([.launch 1 .daemon, .launch 2 .daemon] ++ List.replicate 3 (.advance 1 false) ++
            List.replicate 3 (.advance 2 false) ++ List.replicate 4 (.advance 1 false) ++
            List.replicate 4 (.advance 2 false)) = some h ∧
        h.victims = [(2, 1)] ∧ (h.stage 1).isListening = true ∧ (h.stage 2).isListening = true :=
  ⟨staleSocket_stale, _, rfl, rfl, rfl, rfl⟩

end RustdeskCli.Daemon
