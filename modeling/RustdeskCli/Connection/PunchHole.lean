import RustdeskCli.Connection.Relay
set_option autoImplicit false

/-!
# Connection: the TCP exchange that asks for a hole (`src/rendezvous.rs`)

`punch_hole_via_tcp_with_conn_type` parks a `PunchHoleResponse` and waits on for a
`RelayResponse`.  When the deadline ends the wait the parked response is returned; when
the server closes the connection it is not, and `connect_with_mode` goes on as if there
had been none.
-/

namespace RustdeskCli.Connection

open RustdeskCli.Foundation
open RustdeskCli.Session
open RustdeskCli.Daemon

/-! ## The parked response -/

/-- The frames are such that the loop reads on: responses that it parks, registrations, and
at most one key exchange, which is completed. -/
def Expected (env : PunchEnv) : Bool → List RendezvousUnion → Prop
  | _, [] => True
  | encrypted, .punchHoleResponse _ :: frames => Expected env encrypted frames
  | encrypted, .registerPeerResponse :: frames => Expected env encrypted frames
  | encrypted, .keyExchange keys :: frames =>
      encrypted = false ∧ env.completeKeyExchange keys = .ok () ∧ env.resend = .ok () ∧
        Expected env true frames
  | _, .relayResponse _ :: _ => False
  | _, .other _ :: _ => False

/-- The `PunchHoleResponse`s among the frames. -/
def punchHoleResponses (frames : List RendezvousUnion) : List PunchHoleResponse :=
  frames.filterMap fun
    | .punchHoleResponse resp => some resp
    | _ => none

/-- The deadline ends the exchange.  When nothing more comes, that is the deadline too. -/
def DeadlineEnds (ending : List PunchWait) : Prop :=
  ending = [] ∨ ending.head? = some .elapsed

/-- The server has closed the connection: a read fails, or the answer to a key exchange or
the second request does not get through. -/
def ServerEnds (env : PunchEnv) (ending : List PunchWait) : Prop :=
  (∃ e, ending.head? = some (.failed e)) ∨
    ∃ keys, ending.head? = some (.message (.keyExchange keys)) ∧
      ¬ (env.completeKeyExchange keys = .ok () ∧ env.resend = .ok ())

/-- The loop reads the frames it expects and parks the last response. -/
theorem punchLoop_expected (env : PunchEnv) (seconds : Text) (ending : List PunchWait) :
    ∀ (frames : List RendezvousUnion) (st : PunchState),
      st.resentAfterKeyExchange = st.encrypted → Expected env st.encrypted frames →
      ∃ st', st'.punchResponse = (punchHoleResponses frames).getLast?.or st.punchResponse ∧
        (punchLoop env seconds (frames.map .message ++ ending) st).1 =
          (punchLoop env seconds ending st').1 := by
  intro frames
  induction frames with
  | nil => intro st _ _; exact ⟨st, rfl, rfl⟩
  | cons frame frames ih =>
      intro st hflags hexpected
      cases frame with
      | punchHoleResponse resp =>
          obtain ⟨st', hparked, hloop⟩ := ih { st with punchResponse := some resp } hflags hexpected
          refine ⟨st', ?_, hloop⟩
          rw [hparked]
          have hcons : punchHoleResponses (.punchHoleResponse resp :: frames) =
              resp :: punchHoleResponses frames := rfl
          rw [hcons, List.getLast?_cons]
          cases (punchHoleResponses frames).getLast? <;> rfl
      | relayResponse resp => exact absurd hexpected id
      | keyExchange keys =>
          obtain ⟨hplain, hcomplete, hresend, hrest⟩ := hexpected
          obtain ⟨st', hparked, hloop⟩ := ih
            { st with encrypted := true, resentAfterKeyExchange := true } rfl hrest
          refine ⟨st', hparked, ?_⟩
          rw [List.map_cons, List.cons_append, punchLoop]
          simp only [hflags, hplain, hcomplete, hresend, Bool.or_self, Bool.false_eq_true, if_false]
          exact hloop
      | registerPeerResponse =>
          obtain ⟨st', hparked, hloop⟩ := ih st hflags hexpected
          exact ⟨st', hparked, hloop⟩
      | other debug => exact absurd hexpected id

/-- A server that ends the exchange ends it with an error. -/
theorem punchLoop_serverEnds {env : PunchEnv} {ending : List PunchWait}
    (h : ServerEnds env ending) (seconds : Text) (st : PunchState) :
    ∃ e, (punchLoop env seconds ending st).1 = .error e := by
  rcases h with ⟨e, hhead⟩ | ⟨keys, hhead, hfails⟩
  · obtain ⟨rest, rfl⟩ := List.head?_eq_some_iff.mp hhead
    exact ⟨_, rfl⟩
  · obtain ⟨rest, rfl⟩ := List.head?_eq_some_iff.mp hhead
    rw [punchLoop]
    split
    · exact ⟨_, rfl⟩
    · rcases hcomplete : env.completeKeyExchange keys with e | _
      · exact ⟨_, rfl⟩
      · rcases hresend : env.resend with e | _
        · exact ⟨_, rfl⟩
        · exact absurd ⟨hcomplete, hresend⟩ hfails

/-- What the loop returns when its frames are expected and then the deadline or the server
ends the exchange. -/
theorem punchLoop_ends {env : PunchEnv} {frames : List RendezvousUnion}
    {ending : List PunchWait} {resp : PunchHoleResponse} (hexpected : Expected env false frames)
    (hlast : (punchHoleResponses frames).getLast? = some resp)
    (hending : DeadlineEnds ending ∨ ServerEnds env ending) (seconds : Text) :
    (DeadlineEnds ending ∧
        (punchLoop env seconds (frames.map .message ++ ending) ⟨none, false, false⟩).1 =
          .ok (.punchHole resp)) ∨
      (¬ DeadlineEnds ending ∧
        ∃ e, (punchLoop env seconds (frames.map .message ++ ending) ⟨none, false, false⟩).1 =
          .error e) := by
  obtain ⟨st', hparked, hloop⟩ := punchLoop_expected env seconds ending frames
    ⟨none, false, false⟩ rfl hexpected
  rw [hloop]
  rw [hlast, Option.some_or] at hparked
  rcases hending with hdeadline | hserver
  · refine .inl ⟨hdeadline, ?_⟩
    rcases hdeadline with rfl | hhead
    · simp [punchLoop, punchTimeout, hparked]
    · obtain ⟨rest, rfl⟩ := List.head?_eq_some_iff.mp hhead
      simp [punchLoop, punchTimeout, hparked]
  · refine .inr ⟨?_, punchLoop_serverEnds hserver seconds st'⟩
    rintro (rfl | hhead)
    · simp [ServerEnds] at hserver
    · simp [ServerEnds, hhead] at hserver

/-- A `PunchHoleResponse` that has been received is returned, and a failure it carries is
reported, exactly when the deadline ends the exchange. -/
theorem punchHole_returned_iff {env : PunchEnv} (serverAddr targetId licenceKey : Text)
    (connType : ConnType) (seconds : Text) {port : UInt16} {frames : List RendezvousUnion}
    {ending : List PunchWait} {resp : PunchHoleResponse} (hport : env.localPort = .ok port)
    (hconnect : env.connect = .ok ()) (hsend : env.send = .ok ())
    (hwaits : env.waits = frames.map .message ++ ending) (hexpected : Expected env false frames)
    (hlast : (punchHoleResponses frames).getLast? = some resp)
    (hending : DeadlineEnds ending ∨ ServerEnds env ending) :
    ((punchHoleViaTcp env serverAddr targetId licenceKey connType seconds).1 =
        .ok (.punchHole resp) ↔ DeadlineEnds ending) ∧
      ∀ (config : ConnectionConfig) (e : Error), checkPunchHoleFailure resp = .error e →
        (relayHint config
            (punchHoleViaTcp env serverAddr targetId licenceKey connType seconds).1 = .error e ↔
          DeadlineEnds ending) := by
  have hresult : (punchHoleViaTcp env serverAddr targetId licenceKey connType seconds).1 =
      (punchLoop env seconds (frames.map .message ++ ending) ⟨none, false, false⟩).1 := by
    rw [punchHoleViaTcp, hport, hconnect, hsend, hwaits]
  rw [hresult]
  rcases punchLoop_ends hexpected hlast hending seconds with
    ⟨hdeadline, hloop⟩ | ⟨hclosed, e, hloop⟩
  · rw [hloop]
    refine ⟨iff_of_true rfl hdeadline, fun config e hfailure => iff_of_true ?_ hdeadline⟩
    simp [relayHint, hfailure]
  · rw [hloop]
    exact ⟨iff_of_false (by simp) hclosed,
      fun config e hfailure => iff_of_false (by simp [relayHint]) hclosed⟩

/-- A server that reports a licence mismatch, and what comes then. -/
def mismatchEnv (ending : List PunchWait) : PunchEnv where
  localPort := .ok 0
  connect := .ok ()
  send := .ok ()
  waits := .message (.punchHoleResponse ⟨[], 3, [], []⟩) :: ending
  completeKeyExchange := fun _ => .ok ()
  resend := .ok ()

/-- The mismatch is reported when the deadline comes. -/
theorem punchHole_returned_mismatch :
    (punchHoleViaTcp (mismatchEnv [.elapsed]) ['h'] ['1'] ['k'] .defaultConn ['3']).1 =
      .ok (.punchHole ⟨[], 3, [], []⟩) :=
  (punchHole_returned_iff ['h'] ['1'] ['k'] .defaultConn ['3'] rfl rfl rfl
    (show (mismatchEnv [.elapsed]).waits =
      [RendezvousUnion.punchHoleResponse ⟨[], 3, [], []⟩].map .message ++ [.elapsed] from rfl)
    trivial rfl (.inl (.inr rfl))).1.mpr (.inr rfl)

/-- A server that reports a licence mismatch and closes the connection: the response is not
returned, and the connection goes on to the relay as if there had been none. -/
theorem punchHole_lost_mismatch :
    checkPunchHoleFailure ⟨[], 3, [], []⟩ =
        .error (.msg "punch hole failed: license mismatch between client and server".toList) ∧
      (punchHoleViaTcp (mismatchEnv [.failed (.msg "connection closed".toList)]) ['h'] ['1'] ['k']
        .defaultConn ['3']).1 ≠ .ok (.punchHole ⟨[], 3, [], []⟩) ∧
      ∀ config, relayHint config (punchHoleViaTcp
        (mismatchEnv [.failed (.msg "connection closed".toList)]) ['h'] ['1'] ['k'] .defaultConn
        ['3']).1 = .ok (none, none) := by
  refine ⟨rfl, ?_, fun config => rfl⟩
  intro h
  cases h

end RustdeskCli.Connection
