import RustdeskCli.Daemon.Loop
set_option autoImplicit false

/-!
# Daemon: runs of a session (`src/session.rs`, `src/daemon.rs`)

A session is changed by `Session::dispatch` and, while it is connected, by a reconnect
that succeeds.  The three fields belong together: a session is connected exactly when it
has a configuration, and knows its peer only then.
-/

namespace RustdeskCli.Daemon

open RustdeskCli.Foundation
open RustdeskCli.Session

/-- What happens to a session: a command is dispatched, or the daemon reconnects. -/
inductive SessionEvent where
  | dispatch (cmd : SessionCommand)
  | reconnect (attempts : Attempts) (connType : ConnType) (serviceId : Option Text)

/-- The session between operations.  Only a reconnect that succeeds is a step, and only from
a connected session. -/
def sessionMachine : Machine Session SessionEvent where
  step s
    | .dispatch cmd => some (s.dispatch cmd).2
    | .reconnect attempts connType serviceId =>
        if s.state = .connected then
          match reconnectStream attempts s connType serviceId with
          | (.ok _, s') => some s'
          | (.error _, _) => none
        else none

/-- The messages a dispatch hands on to the peer. -/
def emitted : Except Error (SessionResponse × List ProtocolMessage) → List ProtocolMessage
  | .ok (_, messages) => messages
  | .error _ => []

/-- The result says that the command was carried out. -/
def succeeded : Except Error (SessionResponse × List ProtocolMessage) → Bool
  | .ok (resp, _) => resp.success
  | .error _ => false

/-- The fields of a session fit each other. -/
structure Consistent (s : Session) : Prop where
  settled : s.state ≠ .connecting
  config_iff : s.config.isSome = true ↔ s.state = .connected
  peer_connected : s.peerInfo.isSome = true → s.state = .connected

/-- A command that is not carried out, and every command but `Connect` and `Disconnect`,
changes nothing, and an error sends nothing. -/
structure Atomic (s : Session) (cmd : SessionCommand) : Prop where
  failure : succeeded (s.dispatch cmd).1 = false → (s.dispatch cmd).2 = s
  other : (∀ peerId password server, cmd ≠ .connect peerId password server) →
    cmd ≠ .disconnect → (s.dispatch cmd).2 = s
  silent : ∀ e, (s.dispatch cmd).1 = .error e → emitted (s.dispatch cmd).1 = []

/-! ## One step -/

theorem ifConnected_eq (s : Session) (resp : SessionResponse) (messages : List ProtocolMessage)
    (next : Session) :
    s.ifConnected resp messages next =
      if s.state = .connected then (.ok (resp, messages), next)
      else (.error Session.noActiveSession, s) := by
  unfold Session.ifConnected Session.requireConnected
  by_cases hstate : s.state = .connected
  · simp [hstate]
  · simp [hstate, Session.noActiveSession]

/-- What a dispatch does to the session: nothing, or it is a `Connect` of a session that was
not connected or a `Disconnect` of one that was, and has succeeded. -/
theorem dispatch_session (s : Session) (cmd : SessionCommand) :
    (s.dispatch cmd).2 = s ∨
      (succeeded (s.dispatch cmd).1 = true ∧
        ((∃ peerId password server, cmd = .connect peerId password server ∧
            (s.dispatch cmd).2 =
              { s with state := .connected, config := some ⟨peerId, password, server⟩ }) ∨
          (cmd = .disconnect ∧ (s.dispatch cmd).2 = Session.new))) := by
  have hsame : ∀ resp messages, (s.ifConnected resp messages s).2 = s := by
    intro resp messages
    rw [ifConnected_eq]
    split <;> rfl
  cases cmd with
  | connect peerId password server =>
      rw [Session.dispatch_connect]
      split
      · exact .inl rfl
      · exact .inr ⟨rfl, .inl ⟨peerId, password, server, rfl, rfl⟩⟩
  | disconnect =>
      rw [Session.dispatch, ifConnected_eq]
      split
      · exact .inr ⟨rfl, .inr ⟨rfl, rfl⟩⟩
      · exact .inl rfl
  | status => exact .inl rfl
  | _ => exact .inl (hsame _ _)

theorem atomic_dispatch (s : Session) (cmd : SessionCommand) : Atomic s cmd := by
  constructor
  · intro hfailed
    obtain hsame | ⟨hdone, -⟩ := dispatch_session s cmd
    · exact hsame
    · rw [hfailed] at hdone
      cases hdone
  · intro hconnect hdisconnect
    obtain hsame | ⟨-, ⟨peerId, password, server, hcmd, -⟩ | ⟨hcmd, -⟩⟩ := dispatch_session s cmd
    · exact hsame
    · exact absurd hcmd (hconnect peerId password server)
    · exact absurd hcmd hdisconnect
  · intro e he
    rw [he]
    rfl

theorem consistent_new : Consistent Session.new where
  settled := by decide
  config_iff := by decide
  peer_connected := by decide

theorem consistent_dispatch {s : Session} (h : Consistent s) (cmd : SessionCommand) :
    Consistent (s.dispatch cmd).2 := by
  obtain hsame | ⟨-, ⟨peerId, password, server, -, hnext⟩ | ⟨-, hnext⟩⟩ := dispatch_session s cmd
  · rw [hsame]
    exact h
  · rw [hnext]
    exact ⟨by simp, by simp, fun _ => rfl⟩
  · rw [hnext]
    exact consistent_new

/-- A reconnect keeps the configuration. -/
theorem reconnectStream_session {attempts : Attempts} {s s' : Session} {connType : ConnType}
    {serviceId : Option Text} {stream : Stream}
    (h : reconnectStream attempts s connType serviceId = (.ok stream, s')) :
    s'.state = .connected ∧ s'.config = s.config := by
  unfold reconnectStream at h
  split at h
  · cases h
  · split at h
    · cases h
    · obtain ⟨-, rfl⟩ := Prod.mk.inj h
      exact ⟨rfl, rfl⟩

theorem consistent_step {s s' : Session} {event : SessionEvent} (h : Consistent s)
    (hstep : sessionMachine.step s event = some s') : Consistent s' := by
  cases event with
  | dispatch cmd =>
      obtain rfl := Option.some.inj hstep
      exact consistent_dispatch h cmd
  | reconnect attempts connType serviceId =>
      simp only [sessionMachine] at hstep
      split at hstep
      · rename_i hconnected
        split at hstep
        · rename_i stream next hreconnect
          obtain rfl := Option.some.inj hstep
          obtain ⟨hstate, hconfig⟩ := reconnectStream_session hreconnect
          refine ⟨?_, ?_, fun _ => hstate⟩
          · rw [hstate]
            decide
          · rw [hconfig, hstate, h.config_iff]
            exact iff_of_true hconnected rfl
        · cases hstep
      · cases hstep

/-! ## Runs -/

/-- Whatever is dispatched, and however often the daemon reconnects, the session is
consistent between operations and the next command is atomic. -/
theorem session_consistent_and_atomic {events : List SessionEvent} {s : Session}
    (h : sessionMachine.run Session.new events = some s) :
    Consistent s ∧ ∀ cmd, Atomic s cmd := by
  constructor
  · exact sessionMachine.invariant (fun _ _ _ => consistent_step) consistent_new h
  · exact atomic_dispatch s

/-- A session that is connected and reconnected once. -/
theorem session_consistent_reconnected :
    ∃ s, sessionMachine.run Session.new
          [.dispatch (.connect "123".toList none none),
            .reconnect (fun _ => .ok (sampleConn [])) .defaultConn none,
            .dispatch (.type "a".toList)] = some s ∧
        (Consistent s ∧ ∀ cmd, Atomic s cmd) := by
  have hrun : sessionMachine.run Session.new
      [.dispatch (.connect "123".toList none none),
        .reconnect (fun _ => .ok (sampleConn [])) .defaultConn none,
        .dispatch (.type "a".toList)] =
      some ⟨.connected, some ⟨"123".toList, none, none⟩, some (sampleConn []).peerInfo⟩ := rfl
  exact ⟨_, hrun, session_consistent_and_atomic hrun⟩

end RustdeskCli.Daemon
