import RustdeskCli.Foundation.Ticker
import RustdeskCli.Daemon.Loop
set_option autoImplicit false

/-!
# Daemon: the timers of the loop (`src/daemon.rs`, `src/crypto.rs`)

`run_daemon` races its next event against three timers: the idle timeout, the ticks of the
heartbeat task and, at a tick, the time since the last frame of the peer.  Here the loop
runs with a clock, in milliseconds.  A turn of the loop takes as long as it takes, and the
heartbeat task ticks meanwhile; the loop waits only while nothing is ready.

The turns are those of the loop's machine, which leaves open when a timer expires.  What is
recorded beside the clock, when a heartbeat was sent last and what the timers have done,
is for the statements; the daemon does not read it.
-/

namespace RustdeskCli.Daemon

open RustdeskCli.Foundation
open RustdeskCli.Session
open RustdeskCli.Capture

/-! ## The clock -/

/-- `HEARTBEAT_INTERVAL`. -/
def heartbeatInterval : Nat := 30 * 1000

/-- `KEEPALIVE_TIMEOUT`. -/
def keepaliveTimeout : Nat := 90 * 1000

/-- `DEFAULT_IDLE_TIMEOUT`, in seconds. -/
def defaultIdleTimeout : Nat := 300

/-- The `idle_timeout` of `run_daemon`. -/
def idleTimeoutOf (timeout : Option Nat) : Nat := timeout.getD defaultIdleTimeout * 1000

/-- `is_keepalive_expired`. -/
def isKeepaliveExpired (recvIdleFor timeout : Nat) : Bool := decide (timeout < recvIdleFor)

/-- A reconnect after a keepalive timeout: when it was, and when the last frame had been read. -/
structure Expiry where
  time : Nat
  heard : Nat
  deriving DecidableEq, Repr

/-- The loop with its timers.  `lastRecvAt` is the `last_recv_at` of the stream. -/
structure ClockedLoop where
  daemon : DaemonLoop
  ticker : Ticker heartbeatInterval
  lastActivity : Nat
  lastRecvAt : Nat
  /-- the clients that have connected and are not accepted yet -/
  backlog : Nat
  /-- when a heartbeat was last handed to the stream; at first, when the loop started -/
  lastBeat : Nat
  /-- the time that turns have taken since the last client was accepted -/
  busy : Nat
  expiries : List Expiry
  /-- when the idle timeout ended the loop -/
  idled : Option Nat

namespace ClockedLoop

/-- `Instant::now()`. -/
def now (c : ClockedLoop) : Nat := c.ticker.now

/-- `recv_idle_for`, after some more time. -/
def recvIdleFor (c : ClockedLoop) (later : Nat) : Nat := c.now + later - c.lastRecvAt

/-- The loop as `run_daemon` starts it, some time after the last frame of the login. -/
def start (daemon : DaemonLoop) (gap : Nat) : ClockedLoop where
  daemon := daemon
  ticker := .startAt gap (by decide)
  lastActivity := gap
  lastRecvAt := 0
  backlog := 0
  lastBeat := gap
  busy := 0
  expiries := []
  idled := none

/-- Nothing is ready for the loop: `select!` waits. -/
def Waits (idle : Nat) (c : ClockedLoop) : Prop :=
  c.daemon.returned.isNone ∧ c.daemon.encrypted.inbox.isEmpty ∧ c.daemon.encrypted.lost.isNone ∧
    c.ticker.pending = false ∧ c.backlog = 0 ∧ c.now < c.lastActivity + idle

instance decidableWaits (idle : Nat) (c : ClockedLoop) : Decidable (c.Waits idle) :=
  inferInstanceAs (Decidable (_ ∧ _ ∧ _ ∧ _ ∧ _ ∧ _))

/-- A turn that leaves the daemon like this, after this time. -/
def turn (c : ClockedLoop) (took : Nat) (daemon : DaemonLoop) : ClockedLoop :=
  { c with daemon := daemon, ticker := c.ticker.pass took, busy := c.busy + took }

/-- The turn has read a frame, or has a new stream, this long after its start. -/
def heardAfter (c : ClockedLoop) (start : Nat) : Option Nat → ClockedLoop
  | none => c
  | some later => { c with lastRecvAt := start + later }

/-- A client has been accepted. -/
def accepted (c : ClockedLoop) : ClockedLoop :=
  { c with backlog := c.backlog - 1, lastActivity := c.now, busy := 0 }

/-- The loop takes a tick: it hands a heartbeat to the stream, which takes `sending`, and looks
how long ago the last frame was. -/
def beat (c : ClockedLoop) (sending : Nat) : ClockedLoop :=
  { c with
    ticker := c.ticker.take.pass sending
    lastBeat := c.now
    busy := c.busy + sending
    expiries :=
      if (c.daemon.encrypted.send .heartbeat).1.isOk ∧
          isKeepaliveExpired (c.recvIdleFor sending) keepaliveTimeout then
        c.expiries ++ [⟨c.now + sending, c.lastRecvAt⟩]
      else c.expiries }

/-- The idle timeout has ended the loop. -/
def idledOut (c : ClockedLoop) : ClockedLoop := { c with idled := some c.now }

end ClockedLoop

/-! ## The machine -/

/-- What happens, and how long it takes.  `heard` is when a turn reads its last frame or has its
new stream, counted from its start. -/
inductive TimedAction where
  /-- a client connects -/
  | client
  | peerSends (frame : Frame)
  | peerCloses (e : Error)
  | frameCut (frames : List Frame)
  | wait (d : Nat)
  | peerMessage (attempts : Attempts) (close : Option Error) (took heard : Nat)
  | heartbeatTick (attempts : Attempts) (close : Option Error) (sending took heard : Nat)
  | accept (req : Request) (took : Nat) (heard : Option Nat)
  /-- a client whose request cannot be read -/
  | unreadable (took : Nat)
  /-- `accept` fails -/
  | acceptFails
  | idleTimeout (close : Option Error) (took : Nat)
  | signal (close : Option Error) (took : Nat)

/-- One action of the loop with its timers; `none` when it cannot happen. -/
def timedStep {ι : Type} (lib : ImageLib ι) (idle : Nat) (c : ClockedLoop)
    (action : TimedAction) : Option ClockedLoop :=
  match action with
  | .client => some { c with backlog := c.backlog + 1 }
  | .peerSends frame =>
      (loopStep lib c.daemon (.peerSends frame)).map fun d => { c with daemon := d }
  | .peerCloses e => (loopStep lib c.daemon (.peerCloses e)).map fun d => { c with daemon := d }
  | .frameCut frames =>
      (loopStep lib c.daemon (.frameCut frames)).map fun d => { c with daemon := d }
  | .wait d =>
      if c.Waits idle ∧ c.now + d ≤ c.ticker.next ∧ c.now + d ≤ c.lastActivity + idle then
        some { c with ticker := c.ticker.pass d }
      else none
  | .peerMessage attempts close took heard =>
      if heard ≤ took then
        (loopStep lib c.daemon (.peerMessage attempts close)).map fun d =>
          (c.turn took d).heardAfter c.now (some heard)
      else none
  | .heartbeatTick attempts close sending took heard =>
      if c.ticker.pending ∧ heard ≤ took then
        let expired := isKeepaliveExpired (c.recvIdleFor sending) keepaliveTimeout
        (loopStep lib c.daemon (.heartbeatTick expired attempts close)).map fun d =>
          ((c.beat sending).turn took d).heardAfter (c.now + sending)
            (if d.reconnects = c.daemon.reconnects then none else some heard)
      else none
  | .accept req took heard =>
      if 0 < c.backlog ∧ ∀ later ∈ heard, later ≤ took then
        (loopStep lib c.daemon (.accept req)).map fun d =>
          (c.accepted.turn took d).heardAfter c.now heard
      else none
  | .unreadable took =>
      if 0 < c.backlog then
        (loopStep lib c.daemon .acceptError).map fun d => c.accepted.turn took d
      else none
  | .acceptFails => (loopStep lib c.daemon .acceptError).map fun d => { c with daemon := d }
  | .idleTimeout close took =>
      if c.backlog = 0 ∧ c.lastActivity + idle ≤ c.now then
        (loopStep lib c.daemon (.idleTimeout close)).map fun d => c.idledOut.turn took d
      else none
  | .signal close took =>
      (loopStep lib c.daemon (.signal close)).map fun d => c.turn took d

/-- The machine of the loop with its timers. -/
def timedMachine {ι : Type} (lib : ImageLib ι) (idle : Nat) : Machine ClockedLoop TimedAction :=
  ⟨timedStep lib idle⟩

/-! ## One step -/

namespace ClockedLoop

variable (c : ClockedLoop)

@[simp] theorem daemon_turn (took : Nat) (d : DaemonLoop) : (c.turn took d).daemon = d := rfl
@[simp] theorem now_turn (took : Nat) (d : DaemonLoop) : (c.turn took d).now = c.now + took := rfl
@[simp] theorem now_accepted : c.accepted.now = c.now := rfl
@[simp] theorem now_beat (sending : Nat) : (c.beat sending).now = c.now + sending := rfl

@[simp] theorem daemon_heardAfter (start : Nat) (heard : Option Nat) :
    (c.heardAfter start heard).daemon = c.daemon := by
  cases heard <;> rfl

theorem now_lt_next : c.now < c.ticker.next := c.ticker.ahead

theorem next_le_now : c.ticker.next ≤ c.now + heartbeatInterval := c.ticker.near

end ClockedLoop

section Steps

variable {ι : Type} {lib : ImageLib ι} {idle : Nat} {c c' : ClockedLoop}

theorem returned_of_loopStep {d d' : DaemonLoop} {action : Action}
    (h : loopStep lib d action = some d') : d.returned.isSome = false := by
  unfold loopStep at h
  split at h
  · cases h
  · rename_i hreturned
    exact Bool.eq_false_iff.mpr hreturned

theorem loopStep_heartbeatTick {d d' : DaemonLoop} {expired : Bool} {attempts : Attempts}
    {close : Option Error} (h : loopStep lib d (.heartbeatTick expired attempts close) = some d') :
    d' = d.heartbeatTick expired attempts close := by
  unfold loopStep at h
  split at h
  · cases h
  · exact (Option.some.inj h).symm

/-- The idle timeout ends the loop. -/
theorem loopStep_idleTimeout {d d' : DaemonLoop} {close : Option Error}
    (h : loopStep lib d (.idleTimeout close) = some d') : d'.returned.isSome = true := by
  unfold loopStep at h
  split at h
  · cases h
  · rw [← Option.some.inj h]
    rfl

/-- A step with a clock is a step of the loop, or leaves the daemon as it is. -/
theorem timedStep_loop {action : TimedAction} (h : timedStep lib idle c action = some c') :
    c'.daemon = c.daemon ∨ ∃ turn, loopStep lib c.daemon turn = some c'.daemon := by
  cases action with
  | client =>
      obtain rfl := Option.some.inj h
      exact .inl rfl
  | wait d =>
      obtain ⟨-, h⟩ := Option.ite_none_right_eq_some.mp h
      obtain rfl := Option.some.inj h
      exact .inl rfl
  | peerSends frame =>
      obtain ⟨d, hstep, rfl⟩ := Option.map_eq_some_iff.mp h
      exact .inr ⟨_, hstep⟩
  | peerCloses e =>
      obtain ⟨d, hstep, rfl⟩ := Option.map_eq_some_iff.mp h
      exact .inr ⟨_, hstep⟩
  | frameCut frames =>
      obtain ⟨d, hstep, rfl⟩ := Option.map_eq_some_iff.mp h
      exact .inr ⟨_, hstep⟩
  | peerMessage attempts close took heard =>
      obtain ⟨-, h⟩ := Option.ite_none_right_eq_some.mp h
      obtain ⟨d, hstep, rfl⟩ := Option.map_eq_some_iff.mp h
      exact .inr ⟨_, by simpa using hstep⟩
  | heartbeatTick attempts close sending took heard =>
      obtain ⟨-, h⟩ := Option.ite_none_right_eq_some.mp h
      obtain ⟨d, hstep, rfl⟩ := Option.map_eq_some_iff.mp h
      exact .inr ⟨_, by simpa using hstep⟩
  | accept req took heard =>
      obtain ⟨-, h⟩ := Option.ite_none_right_eq_some.mp h
      obtain ⟨d, hstep, rfl⟩ := Option.map_eq_some_iff.mp h
      exact .inr ⟨_, by simpa using hstep⟩
  | unreadable took =>
      obtain ⟨-, h⟩ := Option.ite_none_right_eq_some.mp h
      obtain ⟨d, hstep, rfl⟩ := Option.map_eq_some_iff.mp h
      exact .inr ⟨_, hstep⟩
  | acceptFails =>
      obtain ⟨d, hstep, rfl⟩ := Option.map_eq_some_iff.mp h
      exact .inr ⟨_, hstep⟩
  | idleTimeout close took =>
      obtain ⟨-, h⟩ := Option.ite_none_right_eq_some.mp h
      obtain ⟨d, hstep, rfl⟩ := Option.map_eq_some_iff.mp h
      exact .inr ⟨_, hstep⟩
  | signal close took =>
      obtain ⟨d, hstep, rfl⟩ := Option.map_eq_some_iff.mp h
      exact .inr ⟨_, hstep⟩

/-- Every attempt to connect again is recorded. -/
theorem DaemonLoop.reconnects_recover (d : DaemonLoop) (attempts : Attempts)
    (close : Option Error) :
    (d.recover attempts close).reconnects = d.reconnects ++ [d.closeSent] := by
  have hreconnect : (d.reconnect attempts d.activeConnType).2.reconnects =
      d.reconnects ++ [d.closeSent] := by
    unfold DaemonLoop.reconnect
    dsimp only
    split <;> rfl
  unfold DaemonLoop.recover
  split <;> rename_i h <;> rw [h] at hreconnect <;> exact hreconnect

/-- A tick that does not connect again has found that the peer is not silent. -/
theorem expired_of_heartbeatTick {d : DaemonLoop} {expired : Bool} {attempts : Attempts}
    {close : Option Error}
    (h : (d.heartbeatTick expired attempts close).reconnects = d.reconnects) :
    expired = false := by
  unfold DaemonLoop.heartbeatTick at h
  split at h
  · simp [DaemonLoop.reconnects_recover] at h
  · split at h
    · simp [DaemonLoop.reconnects_recover] at h
    · rename_i hexpired
      exact Bool.eq_false_iff.mpr hexpired

end Steps

/-! ## What holds at all times -/

namespace ClockedLoop

/-- The clocks are in order: the next ring is close to the last heartbeat, the idle time has
not been overrun by waiting, and what the timers have done was due. -/
structure Timed (idle : Nat) (c : ClockedLoop) : Prop where
  heard : c.lastRecvAt ≤ c.now
  beaten : c.ticker.pending = false → c.ticker.next ≤ c.lastBeat + heartbeatInterval
  alive : c.now ≤ c.lastActivity + idle + c.busy
  expired : ∀ expiry ∈ c.expiries, expiry.heard + keepaliveTimeout < expiry.time
  idled : ∀ time, c.idled = some time → c.daemon.returned.isSome ∧
    c.lastActivity + idle ≤ time ∧ time ≤ c.lastActivity + idle + c.busy

/-- The peer has been checked at the last ring. -/
def Checked (c : ClockedLoop) : Prop :=
  c.ticker.pending = false →
    c.ticker.next ≤ c.lastRecvAt + keepaliveTimeout + heartbeatInterval

variable {idle : Nat} {c : ClockedLoop}

theorem Timed.idled_eq_none (h : c.Timed idle) (hrunning : c.daemon.returned.isSome = false) :
    c.idled = none := by
  cases hidled : c.idled with
  | none => rfl
  | some time =>
      have hreturned := (h.idled time hidled).1
      rw [hrunning] at hreturned
      cases hreturned

/-- What is outside the loop does not move the clocks. -/
theorem Timed.meanwhile (h : c.Timed idle) (hidled : c.idled = none) (d : DaemonLoop) :
    { c with daemon := d }.Timed idle where
  heard := h.heard
  beaten := h.beaten
  alive := h.alive
  expired := h.expired
  idled := by
    intro time htime
    have hnone : ({ c with daemon := d } : ClockedLoop).idled = none := hidled
    rw [hnone] at htime
    cases htime

/-- A turn keeps the clocks in order. -/
theorem Timed.turn (h : c.Timed idle) (hidled : c.idled = none) (took : Nat) (d : DaemonLoop) :
    (c.turn took d).Timed idle where
  heard := Nat.le_add_right_of_le h.heard
  beaten := by
    intro hpending
    obtain ⟨hquiet, hnext⟩ := Ticker.quiet_pass hpending
    exact hnext.trans_le (h.beaten hquiet)
  alive := by
    have halive := h.alive
    change c.now + took ≤ c.lastActivity + idle + (c.busy + took)
    omega
  expired := h.expired
  idled := by
    intro time htime
    rw [show (c.turn took d).idled = none from hidled] at htime
    cases htime

theorem Checked.turn (h : c.Checked) (took : Nat) (d : DaemonLoop) : (c.turn took d).Checked := by
  intro hpending
  obtain ⟨hquiet, hnext⟩ := Ticker.quiet_pass hpending
  exact hnext.trans_le (h hquiet)

/-- A frame that has been read is no later than now. -/
theorem Timed.heardAfter (h : c.Timed idle) {start : Nat} {heard : Option Nat}
    (hheard : ∀ later ∈ heard, start + later ≤ c.now) : (c.heardAfter start heard).Timed idle := by
  cases heard with
  | none => exact h
  | some later => exact ⟨hheard later rfl, h.beaten, h.alive, h.expired, h.idled⟩

theorem Checked.heardAfter (h : c.Checked) {start : Nat} (hstart : c.lastRecvAt ≤ start)
    (heard : Option Nat) : (c.heardAfter start heard).Checked := by
  cases heard with
  | none => exact h
  | some later =>
      intro hpending
      have hnext := h hpending
      change c.ticker.next ≤ start + later + keepaliveTimeout + heartbeatInterval
      omega

/-- The idle time starts anew with a client. -/
theorem Timed.accepted (h : c.Timed idle) (hidled : c.idled = none) : c.accepted.Timed idle where
  heard := h.heard
  beaten := h.beaten
  alive := by
    change c.now ≤ c.now + idle + 0
    omega
  expired := h.expired
  idled := by
    intro time htime
    rw [show c.accepted.idled = none from hidled] at htime
    cases htime

/-- A tick is answered with a heartbeat, and a keepalive timeout is one. -/
theorem Timed.beat (h : c.Timed idle) (hidled : c.idled = none) (sending : Nat) :
    (c.beat sending).Timed idle where
  heard := Nat.le_add_right_of_le h.heard
  beaten := by
    intro hpending
    obtain ⟨-, hnext⟩ := Ticker.quiet_pass hpending
    exact hnext.trans_le c.next_le_now
  alive := by
    have halive := h.alive
    change c.now + sending ≤ c.lastActivity + idle + (c.busy + sending)
    omega
  expired := by
    intro expiry hexpiry
    unfold ClockedLoop.beat at hexpiry
    dsimp only at hexpiry
    split at hexpiry
    · rename_i hexpired
      rcases List.mem_append.mp hexpiry with hold | hnew
      · exact h.expired expiry hold
      · obtain rfl := List.mem_singleton.mp hnew
        have hidle : keepaliveTimeout < c.now + sending - c.lastRecvAt :=
          of_decide_eq_true hexpired.2
        change c.lastRecvAt + keepaliveTimeout < c.now + sending
        omega
    · exact h.expired expiry hexpiry
  idled := by
    intro time htime
    rw [show (c.beat sending).idled = none from hidled] at htime
    cases htime

end ClockedLoop

section Runs

variable {ι : Type} {lib : ImageLib ι} {idle : Nat} {c c' : ClockedLoop}

/-- Waiting, the loop does not miss a ring or the idle timeout. -/
theorem timed_wait (hc : c.Timed idle ∧ c.Checked) {d : Nat}
    (hidle : c.now + d ≤ c.lastActivity + idle) :
    { c with ticker := c.ticker.pass d }.Timed idle ∧
      { c with ticker := c.ticker.pass d }.Checked := by
  obtain ⟨htimed, hchecked⟩ := hc
  refine ⟨⟨Nat.le_add_right_of_le htimed.heard, ?_, Nat.le_add_right_of_le hidle, htimed.expired,
    htimed.idled⟩, ?_⟩
  · intro hpending
    obtain ⟨hquiet, hnext⟩ := Ticker.quiet_pass hpending
    exact hnext.trans_le (htimed.beaten hquiet)
  · intro hpending
    obtain ⟨hquiet, hnext⟩ := Ticker.quiet_pass hpending
    exact hnext.trans_le (hchecked hquiet)

/-- A tick leaves a peer behind that has been heard, or a new stream. -/
theorem checked_beat (hc : c.Timed idle) {sending took heard : Nat} {attempts : Attempts}
    {close : Option Error} {d : DaemonLoop}
    (hstep : loopStep lib c.daemon (.heartbeatTick
      (isKeepaliveExpired (c.recvIdleFor sending) keepaliveTimeout) attempts close) = some d) :
    (((c.beat sending).turn took d).heardAfter (c.now + sending)
      (if d.reconnects = c.daemon.reconnects then none else some heard)).Checked := by
  have hnear := c.next_le_now
  have hheard := hc.heard
  -- without a ring meanwhile, the next one is the one it was
  have hnext : ((c.beat sending).turn took d).ticker.pending = false →
      ((c.beat sending).turn took d).ticker.next = c.ticker.next := by
    intro hpending
    obtain ⟨hquiet, hnext⟩ := Ticker.quiet_pass hpending
    obtain ⟨-, hbeat⟩ := Ticker.quiet_pass hquiet
    exact hnext.trans hbeat
  obtain rfl := loopStep_heartbeatTick hstep
  split
  · rename_i hsame
    have hexpired := expired_of_heartbeatTick hsame
    have hrecent : ¬ keepaliveTimeout < c.now + sending - c.lastRecvAt :=
      of_decide_eq_false hexpired
    intro hpending
    refine (hnext hpending).trans_le ?_
    change c.ticker.next ≤ c.lastRecvAt + keepaliveTimeout + heartbeatInterval
    omega
  · intro hpending
    refine (hnext hpending).trans_le ?_
    change c.ticker.next ≤ c.now + sending + heard + keepaliveTimeout + heartbeatInterval
    omega

/-- Every step keeps the clocks in order. -/
theorem timed_step {action : TimedAction} (hc : c.Timed idle ∧ c.Checked)
    (h : timedStep lib idle c action = some c') : c'.Timed idle ∧ c'.Checked := by
  obtain ⟨htimed, hchecked⟩ := hc
  cases action with
  | client =>
      obtain rfl := Option.some.inj h
      exact ⟨⟨htimed.heard, htimed.beaten, htimed.alive, htimed.expired, htimed.idled⟩, hchecked⟩
  | wait d =>
      obtain ⟨⟨-, -, hidle⟩, h⟩ := Option.ite_none_right_eq_some.mp h
      obtain rfl := Option.some.inj h
      exact timed_wait ⟨htimed, hchecked⟩ hidle
  | peerSends frame =>
      obtain ⟨d, hstep, rfl⟩ := Option.map_eq_some_iff.mp h
      have hidled := htimed.idled_eq_none (returned_of_loopStep hstep)
      exact ⟨htimed.meanwhile hidled d, hchecked⟩
  | peerCloses e =>
      obtain ⟨d, hstep, rfl⟩ := Option.map_eq_some_iff.mp h
      have hidled := htimed.idled_eq_none (returned_of_loopStep hstep)
      exact ⟨htimed.meanwhile hidled d, hchecked⟩
  | frameCut frames =>
      obtain ⟨d, hstep, rfl⟩ := Option.map_eq_some_iff.mp h
      have hidled := htimed.idled_eq_none (returned_of_loopStep hstep)
      exact ⟨htimed.meanwhile hidled d, hchecked⟩
  | peerMessage attempts close took heard =>
      obtain ⟨hle, h⟩ := Option.ite_none_right_eq_some.mp h
      obtain ⟨d, hstep, rfl⟩ := Option.map_eq_some_iff.mp h
      have hidled := htimed.idled_eq_none (returned_of_loopStep hstep)
      refine ⟨(htimed.turn hidled took d).heardAfter ?_,
        (hchecked.turn took d).heardAfter htimed.heard _⟩
      rintro later ⟨⟩
      exact Nat.add_le_add_left hle c.now
  | heartbeatTick attempts close sending took heard =>
      obtain ⟨⟨-, hle⟩, h⟩ := Option.ite_none_right_eq_some.mp h
      obtain ⟨d, hstep, rfl⟩ := Option.map_eq_some_iff.mp h
      have hidled := htimed.idled_eq_none (returned_of_loopStep hstep)
      refine ⟨((htimed.beat hidled sending).turn hidled took d).heardAfter ?_,
        checked_beat htimed hstep⟩
      intro later hlater
      split at hlater
      · cases hlater
      · cases hlater
        exact Nat.add_le_add_left hle (c.now + sending)
  | accept req took heard =>
      obtain ⟨⟨-, hle⟩, h⟩ := Option.ite_none_right_eq_some.mp h
      obtain ⟨d, hstep, rfl⟩ := Option.map_eq_some_iff.mp h
      have hidled := htimed.idled_eq_none (returned_of_loopStep hstep)
      have haccepted : c.accepted.Checked := hchecked
      refine ⟨((htimed.accepted hidled).turn hidled took d).heardAfter ?_,
        (haccepted.turn took d).heardAfter htimed.heard _⟩
      intro later hlater
      exact Nat.add_le_add_left (hle later hlater) c.now
  | unreadable took =>
      obtain ⟨-, h⟩ := Option.ite_none_right_eq_some.mp h
      obtain ⟨d, hstep, rfl⟩ := Option.map_eq_some_iff.mp h
      have hidled := htimed.idled_eq_none (returned_of_loopStep hstep)
      have haccepted : c.accepted.Checked := hchecked
      exact ⟨(htimed.accepted hidled).turn hidled took d, haccepted.turn took d⟩
  | acceptFails =>
      obtain ⟨d, hstep, rfl⟩ := Option.map_eq_some_iff.mp h
      have hidled := htimed.idled_eq_none (returned_of_loopStep hstep)
      exact ⟨htimed.meanwhile hidled d, hchecked⟩
  | idleTimeout close took =>
      obtain ⟨⟨-, hidle⟩, h⟩ := Option.ite_none_right_eq_some.mp h
      obtain ⟨d, hstep, rfl⟩ := Option.map_eq_some_iff.mp h
      refine ⟨⟨Nat.le_add_right_of_le htimed.heard, ?_, ?_, htimed.expired, ?_⟩,
        hchecked.turn took d⟩
      · intro hpending
        obtain ⟨hquiet, hnext⟩ := Ticker.quiet_pass hpending
        exact hnext.trans_le (htimed.beaten hquiet)
      · have halive := htimed.alive
        change c.now + took ≤ c.lastActivity + idle + (c.busy + took)
        omega
      · intro time htime
        obtain rfl := Option.some.inj htime
        have halive := htimed.alive
        refine ⟨loopStep_idleTimeout hstep, hidle, ?_⟩
        change c.now ≤ c.lastActivity + idle + (c.busy + took)
        omega
  | signal close took =>
      obtain ⟨d, hstep, rfl⟩ := Option.map_eq_some_iff.mp h
      have hidled := htimed.idled_eq_none (returned_of_loopStep hstep)
      exact ⟨htimed.turn hidled took d, hchecked.turn took d⟩

end Runs

/-! ## The timers -/

/-- The timers of a loop.  It does not outlive the last client by more than the idle timeout and
its own turns; what the timers have ended was due; and while it waits, it has sent a
heartbeat within the last interval, has read a frame within the keepalive timeout and one
interval, and is woken within an interval. -/
structure OnTime {ι : Type} (lib : ImageLib ι) (idle : Nat) (c : ClockedLoop) : Prop where
  alive : c.now ≤ c.lastActivity + idle + c.busy
  idled : ∀ time, c.idled = some time → c.lastActivity + idle ≤ time
  expired : ∀ expiry ∈ c.expiries, expiry.heard + keepaliveTimeout < expiry.time
  beats : c.Waits idle → c.now < c.lastBeat + heartbeatInterval
  heard : c.Waits idle → c.now < c.lastRecvAt + keepaliveTimeout + heartbeatInterval
  wakes : c.Waits idle → ∃ d c', 0 < d ∧ d ≤ heartbeatInterval ∧
    timedStep lib idle c (.wait d) = some c' ∧ ¬ c'.Waits idle

section Timers

variable {ι : Type} {lib : ImageLib ι} {idle : Nat} {c c' : ClockedLoop}

/-- A waiting loop is woken by the next tick or by the idle timeout. -/
theorem wait_ends (h : c.Waits idle) : ∃ d c', 0 < d ∧ d ≤ heartbeatInterval ∧
    timedStep lib idle c (.wait d) = some c' ∧ ¬ c'.Waits idle := by
  have hahead := c.now_lt_next
  have hnear := c.next_le_now
  obtain ⟨-, -, -, -, -, hidle⟩ := id h
  have hle : c.now ≤ min c.ticker.next (c.lastActivity + idle) := by omega
  refine ⟨min c.ticker.next (c.lastActivity + idle) - c.now, _, by omega, by omega,
    if_pos ⟨h, by omega, by omega⟩, ?_⟩
  rintro ⟨-, -, -, hpending, -, hearly⟩
  change c.now + (min c.ticker.next (c.lastActivity + idle) - c.now) < c.lastActivity + idle
    at hearly
  rw [Ticker.pending_pass_of_le] at hpending
  · cases hpending
  · change c.ticker.next ≤ c.now + (min c.ticker.next (c.lastActivity + idle) - c.now)
    omega

/-- Clocks in order keep the times. -/
theorem onTime_of_timed (htimed : c.Timed idle) (hchecked : c.Checked) : OnTime lib idle c where
  alive := htimed.alive
  idled time htime := (htimed.idled time htime).2.1
  expired := htimed.expired
  beats h := c.now_lt_next.trans_le (htimed.beaten h.2.2.2.1)
  heard h := c.now_lt_next.trans_le (hchecked h.2.2.2.1)
  wakes := wait_ends

theorem timed_start (idle : Nat) (d : DaemonLoop) {gap : Nat} (hgap : gap ≤ keepaliveTimeout) :
    (ClockedLoop.start d gap).Timed idle ∧ (ClockedLoop.start d gap).Checked := by
  refine ⟨⟨Nat.zero_le _, fun _ => Nat.le_refl _, ?_, by simp [ClockedLoop.start], ?_⟩, ?_⟩
  · change gap ≤ gap + idle + 0
    omega
  · intro time htime
    cases htime
  · intro _
    change gap + heartbeatInterval ≤ 0 + keepaliveTimeout + heartbeatInterval
    omega

/-- The daemons of a run with a clock are those of a run without one. -/
theorem loop_of_timed {actions : List TimedAction}
    (h : (timedMachine lib idle).run c actions = some c') :
    ∃ turns, (loopMachine lib).run c.daemon turns = some c'.daemon := by
  induction actions generalizing c with
  | nil =>
      obtain rfl := Option.some.inj h
      exact ⟨[], rfl⟩
  | cons action actions ih =>
      obtain ⟨mid, hstep, hrest⟩ := (timedMachine lib idle).run_cons_eq_some h
      obtain ⟨turns, hturns⟩ := ih hrest
      rcases timedStep_loop hstep with hsame | ⟨turn, hturn⟩
      · exact ⟨turns, hsame ▸ hturns⟩
      · exact ⟨turn :: turns, by rwa [(loopMachine lib).run_cons_of_step hturn]⟩

/-- The timers of `run_daemon`, over every run with a clock, however long the turns take and
whatever peers and clients do meanwhile.  The daemon is one that the loop can reach without
a clock, and it is on time: a keepalive timeout has come after more than 90 seconds without a
frame, a peer that has been silent for 120 seconds is not waited for, a peer that is waited
for is sent a heartbeat every 30 seconds, and beside its turns a daemon has at most `idle`
left from its last client on. -/
theorem loop_runs_on_time {config : ConnectionConfig} {conn : NewConnection} {d : DaemonLoop}
    (hstart : startLoop config conn = some d) {gap : Nat} (hgap : gap ≤ keepaliveTimeout)
    {actions : List TimedAction}
    (hrun : (timedMachine lib idle).run (.start d gap) actions = some c) :
    Reachable lib c.daemon ∧ OnTime lib idle c := by
  obtain ⟨turns, hturns⟩ := loop_of_timed hrun
  have htimed := (timedMachine lib idle).invariant
    (fun _ _ _ hc hstep => timed_step hc hstep) (timed_start idle d hgap) hrun
  exact ⟨⟨config, conn, d, turns, hstart, hturns⟩, onTime_of_timed htimed.1 htimed.2⟩

/-- A peer that falls silent: three ticks pass, and the fourth connects again. -/
def silentActions : List TimedAction :=
  let attempts : Attempts := fun _ => .ok (sampleConn [])
  let tick : TimedAction := .heartbeatTick attempts none 0 5 3
  [.wait 30000, tick, .wait 29995, tick, .wait 29995, tick, .wait 29995, tick]

theorem loop_runs_on_time_silent :
    ∃ c, (timedMachine sampleImages (idleTimeoutOf none)).run (.start sampleDaemon 0)
        silentActions = some c ∧ c.expiries = [⟨120000, 0⟩] ∧
      OnTime sampleImages (idleTimeoutOf none) c := by
  have hexpiries : ((timedMachine sampleImages (idleTimeoutOf none)).run (.start sampleDaemon 0)
      silentActions).map ClockedLoop.expiries = some [⟨120000, 0⟩] := by decide +kernel
  obtain ⟨c, hrun, hc⟩ := Option.map_eq_some_iff.mp hexpiries
  exact ⟨c, hrun, hc, (loop_runs_on_time startLoop_sample (Nat.zero_le _) hrun).2⟩

end Timers

end RustdeskCli.Daemon
