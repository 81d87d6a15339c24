import RustdeskCli.Connection.KeyExchange
import RustdeskCli.Connection.PunchHole
import RustdeskCli.Foundation.Machine
set_option autoImplicit false

/-!
# Connection: the upgrade of the rendezvous connection (`src/rendezvous.rs`)

In the middle of `punch_hole_via_tcp_with_conn_type` the server may ask for encryption.
The plain transport is then taken out of its variable and given to the key exchange, which
gives an encrypted stream for the other variable, or an error; the request is sent a second
time.  Three `expect` calls rely on the plain transport being there.

Here the function is a machine: its two variables, what it has done on the connection, and
a turn of its loop for each step.  `punchLoop` is the same loop without the connection.
-/

namespace RustdeskCli.Connection

open RustdeskCli.Foundation
open RustdeskCli.Session
open RustdeskCli.Daemon

/-! ## The loop and its variables -/

/-- Whether a frame goes over the plain transport or the encrypted stream. -/
inductive Channel where
  | plain
  | encrypted
  deriving DecidableEq, Repr

/-- What is done on the connection. -/
inductive Wire where
  /-- the `PunchHoleRequest` is written -/
  | request (channel : Channel) (bytes : Bytes)
  /-- the key exchange writes its answer, in clear -/
  | keyExchangeResponse (bytes : Bytes)
  /-- the key exchange is completed -/
  | upgraded
  /-- a wait for a frame ends -/
  | waited (channel : Channel) (wait : PunchWait)
  deriving DecidableEq, Repr

/-- How the function ends. -/
inductive Outcome where
  | returned (result : Except Error PunchRelayResponse)
  | panicked (message : Text)

/-- One turn of the loop: it finds that its time is up, or it waits. -/
inductive Turn where
  | expired
  | waited (wait : PunchWait)
  deriving DecidableEq, Repr

/-- What the function is given, and how sending goes.  The key exchange is
`complete_tcp_key_exchange`: it takes the transport, writes its answer, and gives the
encrypted stream or an error. -/
structure UpgradeEnv (T E : Type) where
  requestBytes : Bytes
  seconds : Text
  send : Except Error Unit
  completeTcpKeyExchange : T → List Bytes → List Bytes × Except Error E
  resend : Except Error Unit

/-- The variables of the function, and what it has done. -/
structure Upgrade (T E : Type) where
  transport : Option T
  encrypted : Option E
  punchResponse : Option PunchHoleResponse
  resentAfterKeyExchange : Bool
  wire : List Wire
  outcome : Option Outcome

section Loop

variable {T E : Type}

/-- The variables without the connection. -/
def Upgrade.punchState (st : Upgrade T E) : PunchState :=
  ⟨st.punchResponse, st.encrypted.isSome, st.resentAfterKeyExchange⟩

/-- `return`. -/
def Upgrade.finish (st : Upgrade T E) (result : Except Error PunchRelayResponse) : Upgrade T E :=
  { st with outcome := some (.returned result) }

/-- An `expect` that fails. -/
def Upgrade.fails (st : Upgrade T E) (message : Text) : Upgrade T E :=
  { st with outcome := some (.panicked message) }

/-- What is done on the connection next. -/
def Upgrade.does (st : Upgrade T E) (ops : List Wire) : Upgrade T E :=
  { st with wire := st.wire ++ ops }

/-- The error of a second `KeyExchange`. -/
def repeatedKeyExchange : Error :=
  .msg "unexpected repeated TCP KeyExchange from rendezvous server".toList

/-- The function up to its loop, once the connection is there. -/
def Upgrade.start (env : UpgradeEnv T E) (transport : T) : Upgrade T E :=
  let st : Upgrade T E := ⟨some transport, none, none, false, [], none⟩
  match st.transport with
  | none => st.fails "plain TCP transport should exist before KeyExchange".toList
  | some _ =>
      let st := st.does [.request .plain env.requestBytes]
      match env.send with
      | .ok () => st
      | .error e => st.finish (.error e)

/-- Where the next frame is read from; the error is the message of the `expect`. -/
def Upgrade.channel (st : Upgrade T E) : Except Text Channel :=
  match st.encrypted with
  | some _ => .ok .encrypted
  | none =>
      match st.transport with
      | some _ => .ok .plain
      | none => .error "plain TCP transport should exist before KeyExchange".toList

/-- A `KeyExchange` that is not the second. -/
def Upgrade.exchangeKeys (env : UpgradeEnv T E) (st : Upgrade T E) (keys : List Bytes) :
    Upgrade T E :=
  match st.transport with
  | none => st.fails "plain TCP transport should exist when KeyExchange starts".toList
  | some transport =>
      -- `take`
      let st := { st with transport := none }
      match env.completeTcpKeyExchange transport keys with
      | (written, .error e) =>
          (st.does (written.map .keyExchangeResponse)).finish
            (.error (e.context "completing TCP rendezvous KeyExchange".toList))
      | (written, .ok stream) =>
          let st := { st with encrypted := some stream }.does
            (written.map Wire.keyExchangeResponse ++
              [Wire.upgraded, Wire.request .encrypted env.requestBytes])
          match env.resend with
          | .error e =>
              st.finish (.error (e.context "sending encrypted PunchHoleRequest over TCP".toList))
          | .ok () => { st with resentAfterKeyExchange := true }

/-- What the loop does with the end of a wait. -/
def Upgrade.handle (env : UpgradeEnv T E) (st : Upgrade T E) : PunchWait → Upgrade T E
  | .elapsed => st.finish (punchTimeout env.seconds st.punchState)
  | .failed e => st.finish (.error (e.context "reading rendezvous response over TCP".toList))
  | .undecodable e =>
      st.finish (.error (e.context "decode rendezvous response from TCP".toList))
  | .message (.punchHoleResponse resp) => { st with punchResponse := some resp }
  | .message (.relayResponse resp) => st.finish (.ok (.relay resp))
  | .message (.keyExchange keys) =>
      if st.encrypted.isSome || st.resentAfterKeyExchange then
        st.finish (.error repeatedKeyExchange)
      else st.exchangeKeys env keys
  | .message .registerPeerResponse => st
  | .message (.other debug) =>
      st.finish (.error (.msg
        ("unexpected rendezvous response to TCP PunchHoleRequest: ".toList ++ debug)))

/-- One turn of the loop. -/
def Upgrade.turn (env : UpgradeEnv T E) (st : Upgrade T E) : Turn → Upgrade T E
  | .expired => st.finish (punchTimeout env.seconds st.punchState)
  | .waited wait =>
      match st.channel with
      | .error message => st.fails message
      | .ok channel => (st.does [.waited channel wait]).handle env wait

/-- The function, turn by turn, until it ends. -/
def upgradeMachine (env : UpgradeEnv T E) : Machine (Upgrade T E) Turn where
  step st turn :=
    match st.outcome with
    | some _ => none
    | none => some (st.turn env turn)

end Loop

/-! ## What stays true -/

/-- The channel an operation uses. -/
def Wire.channel : Wire → Option Channel
  | .request channel _ => some channel
  | .keyExchangeResponse _ => some .plain
  | .upgraded => none
  | .waited channel _ => some channel

/-- The requests written, each with its channel. -/
def requests (wire : List Wire) : List (Channel × Bytes) :=
  wire.filterMap fun
    | .request channel bytes => some (channel, bytes)
    | _ => none

/-- A `KeyExchange` has been received. -/
def isKeyExchange : Wire → Bool
  | .waited _ (.message (.keyExchange _)) => true
  | _ => false

/-- How many `KeyExchange`s have been received. -/
def keyExchanges (wire : List Wire) : Nat := wire.countP isKeyExchange

theorem keyExchanges_append (xs ys : List Wire) :
    keyExchanges (xs ++ ys) = keyExchanges xs + keyExchanges ys := List.countP_append

/-- What may follow the first request in clear. -/
inductive InClear : Wire → Prop where
  | waited (wait : PunchWait) : InClear (.waited .plain wait)
  | response (bytes : Bytes) : InClear (.keyExchangeResponse bytes)

/-- What may follow the second request. -/
inductive Sealed : Wire → Prop where
  | waited (wait : PunchWait) : Sealed (.waited .encrypted wait)

/-- What has been done on the connection, before the upgrade and after it. -/
inductive OnWire (bytes : Bytes) : Bool → List Wire → Prop where
  | plain {clear : List Wire} (hclear : ∀ op ∈ clear, InClear op) :
      OnWire bytes false (.request .plain bytes :: clear)
  | encrypted {clear sealed : List Wire} (hclear : ∀ op ∈ clear, InClear op)
      (hsealed : ∀ op ∈ sealed, Sealed op) :
      OnWire bytes true
        (.request .plain bytes :: (clear ++ .upgraded :: .request .encrypted bytes :: sealed))

/-- The channel the next frame is read from. -/
def channelOf (encrypted : Bool) : Channel := if encrypted then .encrypted else .plain

theorem OnWire.wait {bytes : Bytes} {encrypted : Bool} {wire : List Wire}
    (h : OnWire bytes encrypted wire) (wait : PunchWait) :
    OnWire bytes encrypted (wire ++ [.waited (channelOf encrypted) wait]) := by
  cases h with
  | @plain clear hclear =>
      refine .plain (List.forall_mem_append.mpr ⟨hclear, ?_⟩)
      exact List.forall_mem_singleton.mpr (.waited wait)
  | @encrypted clear sealed hclear hsealed =>
      rw [List.cons_append, List.append_assoc, List.cons_append, List.cons_append]
      refine .encrypted hclear (List.forall_mem_append.mpr ⟨hsealed, ?_⟩)
      exact List.forall_mem_singleton.mpr (.waited wait)

/-- The answer of a key exchange goes out in clear. -/
theorem OnWire.respond {bytes : Bytes} {wire : List Wire} (h : OnWire bytes false wire)
    (written : List Bytes) :
    OnWire bytes false (wire ++ written.map .keyExchangeResponse) := by
  cases h with
  | @plain clear hclear =>
      refine .plain (List.forall_mem_append.mpr ⟨hclear, ?_⟩)
      intro op hop
      obtain ⟨bytes, _, rfl⟩ := List.mem_map.mp hop
      exact .response bytes

/-- A completed key exchange is followed by the second request. -/
theorem OnWire.upgrade {bytes : Bytes} {wire : List Wire} (h : OnWire bytes false wire) :
    OnWire bytes true (wire ++ [.upgraded, .request .encrypted bytes]) := by
  cases h with
  | plain hclear => exact .encrypted hclear (by simp)

section Invariant

variable {T E : Type} {env : UpgradeEnv T E} {transport : T} {st : Upgrade T E}

/-- While the loop runs, one of the two variables is filled and the other is not, and a key
exchange has been received exactly when it is the encrypted one. -/
structure Upgrade.Running (transport : T) (st : Upgrade T E) : Prop where
  ownership : st.transport = if st.encrypted.isSome then none else some transport
  resent : st.resentAfterKeyExchange = st.encrypted.isSome
  received : keyExchanges st.wire = if st.encrypted.isSome then 1 else 0

/-- What holds of every state the function gets to. -/
structure Upgrade.Inv (env : UpgradeEnv T E) (transport : T) (st : Upgrade T E) : Prop where
  onWire : OnWire env.requestBytes st.encrypted.isSome st.wire
  running : st.outcome = none → st.Running transport
  no_panic : ∀ message, st.outcome ≠ some (.panicked message)
  repeated : 2 ≤ keyExchanges st.wire →
    st.outcome = some (.returned (.error repeatedKeyExchange))

theorem Upgrade.Inv.finish (hwire : OnWire env.requestBytes st.encrypted.isSome st.wire)
    (hfew : keyExchanges st.wire < 2) (result : Except Error PunchRelayResponse) :
    (st.finish result).Inv env transport where
  onWire := hwire
  running := by simp [Upgrade.finish]
  no_panic := by simp [Upgrade.finish]
  repeated := fun h => absurd h (by simp [Upgrade.finish]; omega)

theorem Upgrade.Running.few (h : st.Running transport) : keyExchanges st.wire < 2 := by
  rw [h.received]
  split <;> omega

theorem Upgrade.Running.channel_eq (h : st.Running transport) :
    st.channel = .ok (channelOf st.encrypted.isSome) := by
  have hown := h.ownership
  unfold Upgrade.channel
  cases hencrypted : st.encrypted with
  | some stream => rfl
  | none =>
      rw [hencrypted] at hown
      simp only [hown]
      rfl

/-- The first state. -/
theorem Upgrade.inv_start (env : UpgradeEnv T E) (transport : T) :
    (Upgrade.start env transport).Inv env transport := by
  have hwire : OnWire env.requestBytes false [.request .plain env.requestBytes] :=
    .plain (by simp)
  unfold Upgrade.start
  simp only
  cases env.send with
  | error e => exact .finish hwire (by simp [Upgrade.does, keyExchanges, isKeyExchange]) _
  | ok _ =>
      refine ⟨hwire, fun _ => ⟨rfl, rfl, rfl⟩, ?_, ?_⟩
      · intro message h
        cases h
      · intro h
        exact absurd h (by simp [Upgrade.does, keyExchanges, isKeyExchange])

/-- The key exchange, when the `KeyExchange` has just been received and is the first. -/
theorem Upgrade.inv_exchangeKeys (hwire : OnWire env.requestBytes false st.wire)
    (hplain : st.encrypted = none) (htransport : st.transport = some transport)
    (hreceived : keyExchanges st.wire = 1) (houtcome : st.outcome = none) (keys : List Bytes) :
    (st.exchangeKeys env keys).Inv env transport := by
  have hwritten : ∀ written : List Bytes,
      keyExchanges (st.wire ++ written.map .keyExchangeResponse) = 1 := by
    intro written
    rw [keyExchanges_append, hreceived]
    simp [keyExchanges, isKeyExchange]
  unfold Upgrade.exchangeKeys
  simp only [htransport]
  rcases env.completeTcpKeyExchange transport keys with ⟨written, e | stream⟩
  · refine .finish ?_ ?_ _
    · simpa [Upgrade.does, hplain] using hwire.respond written
    · simp only [Upgrade.does, hwritten]
      omega
  · have hupgraded := (hwire.respond written).upgrade
    rw [List.append_assoc] at hupgraded
    have hcount : keyExchanges (st.wire ++ (written.map Wire.keyExchangeResponse ++
        [.upgraded, .request .encrypted env.requestBytes])) = 1 := by
      rw [← List.append_assoc, keyExchanges_append, hwritten]
      rfl
    simp only
    cases env.resend with
    | error e => exact .finish hupgraded (by simp only [Upgrade.does, hcount]; omega) _
    | ok _ =>
        refine ⟨hupgraded, fun _ => ⟨rfl, rfl, hcount⟩, ?_, ?_⟩
        · intro message h
          exact absurd (houtcome.symm.trans h) (by simp)
        · intro h
          simp only [Upgrade.does, hcount] at h
          omega

/-- The end of a wait that is no `KeyExchange` keeps the loop's variables as they are. -/
theorem Upgrade.Running.does_wait (h : st.Running transport) {channel : Channel}
    {wait : PunchWait} (hwait : isKeyExchange (.waited channel wait) = false) :
    (st.does [.waited channel wait]).Running transport where
  ownership := h.ownership
  resent := h.resent
  received := by
    rw [Upgrade.does, keyExchanges_append, h.received]
    simp [keyExchanges, hwait]

/-- Every turn keeps the invariant. -/
theorem Upgrade.inv_turn (h : st.Inv env transport) (houtcome : st.outcome = none) (turn : Turn) :
    (st.turn env turn).Inv env transport := by
  have hrunning := h.running houtcome
  cases turn with
  | expired => exact .finish h.onWire hrunning.few _
  | waited wait =>
      rw [Upgrade.turn, hrunning.channel_eq]
      have hwire := h.onWire.wait wait
      have hkeeps {st' : Upgrade T E} (hst' : st'.outcome = none)
          (hwire' : OnWire env.requestBytes st'.encrypted.isSome st'.wire)
          (hrunning' : st'.Running transport) : st'.Inv env transport := by
        refine ⟨hwire', fun _ => hrunning', by simp [hst'], fun hmany => ?_⟩
        exact absurd hmany (by have := hrunning'.few; omega)
      rcases wait with _ | e | e | (resp | resp | keys | _ | debug)
      case message.punchHoleResponse =>
        have hnext : (st.does [.waited (channelOf st.encrypted.isSome)
            (.message (.punchHoleResponse resp))]).Running transport := hrunning.does_wait rfl
        exact hkeeps houtcome hwire ⟨hnext.ownership, hnext.resent, hnext.received⟩
      case message.registerPeerResponse => exact hkeeps houtcome hwire (hrunning.does_wait rfl)
      case message.keyExchange =>
        have hcount : keyExchanges (st.wire ++ [.waited (channelOf st.encrypted.isSome)
            (.message (.keyExchange keys))]) = keyExchanges st.wire + 1 := keyExchanges_append _ _
        rw [hrunning.received] at hcount
        simp only [Upgrade.handle]
        rcases Option.eq_none_or_eq_some st.encrypted with hencrypted | ⟨stream, hencrypted⟩
        · have hresent := hrunning.resent
          have hown := hrunning.ownership
          rw [hencrypted] at hresent hown hcount hwire
          rw [if_neg (by simp [Upgrade.does, hencrypted, hresent]), hencrypted]
          refine inv_exchangeKeys ?_ ?_ ?_ ?_ ?_ keys
          · exact hwire
          · exact hencrypted
          · exact hown
          · exact hcount
          · exact houtcome
        · -- the second one
          rw [if_pos (by simp [Upgrade.does, hencrypted])]
          exact ⟨hwire, by simp [Upgrade.finish], by simp [Upgrade.finish], fun _ => rfl⟩
      all_goals exact .finish hwire (hrunning.does_wait rfl).few _

/-- The invariant holds of every state the function gets to. -/
theorem upgradeMachine_inv {turns : List Turn} {final : Upgrade T E}
    (hrun : (upgradeMachine env).run (.start env transport) turns = some final) :
    final.Inv env transport := by
  refine (upgradeMachine env).invariant ?_ (Upgrade.inv_start env transport) hrun
  intro st turn st' hinv hstep
  unfold upgradeMachine at hstep
  simp only at hstep
  split at hstep
  · cases hstep
  · rename_i houtcome
    rw [← Option.some.inj hstep]
    exact Upgrade.inv_turn hinv houtcome turn

end Invariant

/-! ## The loop without the connection -/

/-- How the turn ends its wait. -/
def Turn.wait : Turn → PunchWait
  | .expired => .elapsed
  | .waited wait => wait

/-- The frame asks for a key exchange. -/
def asksForKeys : RendezvousUnion → Bool
  | .keyExchange _ => true
  | _ => false

theorem expected_cons (env : PunchEnv) (encrypted : Bool) (frame : RendezvousUnion)
    (frames : List RendezvousUnion) :
    Expected env encrypted (frame :: frames) ↔
      Expected env encrypted [frame] ∧ Expected env (encrypted || asksForKeys frame) frames := by
  cases frame <;> simp [Expected, asksForKeys, and_assoc]

section Refinement

variable {T E : Type}

/-- The same run for the loop without the connection. -/
def UpgradeEnv.punchEnv (env : UpgradeEnv T E) (transport : T) (port : UInt16)
    (waits : List PunchWait) : PunchEnv where
  localPort := .ok port
  connect := .ok ()
  send := env.send
  waits := waits
  completeKeyExchange := fun keys => (env.completeTcpKeyExchange transport keys).2.map fun _ => ()
  resend := env.resend

variable {env : UpgradeEnv T E} {transport : T} {st : Upgrade T E}

/-- The turn goes on with the loop, as `punchLoop` does. -/
def GoesOn (env : UpgradeEnv T E) (penv : PunchEnv) (st : Upgrade T E) (turn : Turn) : Prop :=
  ∃ frame, turn = .waited (.message frame) ∧ Expected penv st.encrypted.isSome [frame] ∧
    (st.turn env turn).outcome = none ∧
    (st.turn env turn).encrypted.isSome = (st.encrypted.isSome || asksForKeys frame) ∧
    ∀ waits, (punchLoop penv env.seconds (turn.wait :: waits) st.punchState).1 =
      (punchLoop penv env.seconds waits (st.turn env turn).punchState).1

/-- The turn ends the function, as it ends `punchLoop`. -/
def Ends (env : UpgradeEnv T E) (penv : PunchEnv) (st : Upgrade T E) (turn : Turn) : Prop :=
  (∀ frame, turn = .waited (.message frame) → ¬ Expected penv st.encrypted.isSome [frame]) ∧
    ∃ result, (st.turn env turn).outcome = some (.returned result) ∧
      ∀ waits, (punchLoop penv env.seconds (turn.wait :: waits) st.punchState).1 = result

/-- A turn does to the loop what the same wait does to `punchLoop`. -/
theorem Upgrade.turn_cases (h : st.Running transport) (houtcome : st.outcome = none)
    (port : UInt16) (waits : List PunchWait) (turn : Turn) :
    GoesOn env (env.punchEnv transport port waits) st turn ∨
      Ends env (env.punchEnv transport port waits) st turn := by
  cases turn with
  | expired => exact .inr ⟨by simp, _, rfl, fun _ => rfl⟩
  | waited wait =>
      have hturn : st.turn env (.waited wait) =
          (st.does [.waited (channelOf st.encrypted.isSome) wait]).handle env wait := by
        rw [Upgrade.turn, h.channel_eq]
      rcases wait with _ | e | e | (resp | resp | keys | _ | debug)
      case elapsed => exact .inr ⟨by simp, _, by rw [hturn]; rfl, fun _ => rfl⟩
      case failed => exact .inr ⟨by simp, _, by rw [hturn]; rfl, fun _ => rfl⟩
      case undecodable => exact .inr ⟨by simp, _, by rw [hturn]; rfl, fun _ => rfl⟩
      case message.punchHoleResponse =>
        refine .inl ⟨_, rfl, trivial, ?_⟩
        rw [hturn]
        exact ⟨houtcome, (Bool.or_false _).symm, fun _ => rfl⟩
      case message.registerPeerResponse =>
        refine .inl ⟨_, rfl, trivial, ?_⟩
        rw [hturn]
        exact ⟨houtcome, (Bool.or_false _).symm, fun _ => rfl⟩
      case message.relayResponse =>
        exact .inr ⟨by simp [Expected], _, by rw [hturn]; rfl, fun _ => rfl⟩
      case message.other =>
        exact .inr ⟨by simp [Expected], _, by rw [hturn]; rfl, fun _ => rfl⟩
      case message.keyExchange =>
        rcases Option.eq_none_or_eq_some st.encrypted with hplain | ⟨stream, hencrypted⟩
        · have hresent := h.resent
          have hown := h.ownership
          rw [hplain] at hresent hown
          have hkeys : st.turn env (.waited (.message (.keyExchange keys))) =
              (st.does [.waited (channelOf st.encrypted.isSome)
                (.message (.keyExchange keys))]).exchangeKeys env keys := by
            rw [hturn, Upgrade.handle, if_neg (by simp [Upgrade.does, hplain, hresent])]
          have hstate : (st.punchState.encrypted || st.punchState.resentAfterKeyExchange) =
              false := by
            simp [Upgrade.punchState, hplain, hresent]
          have hown' : (st.does [.waited (channelOf st.encrypted.isSome)
              (.message (.keyExchange keys))]).transport = some transport := hown
          rw [GoesOn, Ends, hkeys, Upgrade.exchangeKeys]
          simp only [hown', Turn.wait, punchLoop, hstate, UpgradeEnv.punchEnv]
          rcases hcomplete : env.completeTcpKeyExchange transport keys with ⟨written, e | stream⟩
          · refine .inr ⟨?_, _, rfl, fun waits => ?_⟩
            · simp [Expected, hcomplete, Except.map]
            · simp [Except.map]
          · cases hresend : env.resend with
            | error e =>
                refine .inr ⟨?_, _, rfl, fun waits => ?_⟩
                · simp [Expected]
                · simp [Except.map]
            | ok _ =>
                refine .inl ⟨_, rfl, ?_, houtcome, ?_, fun waits => ?_⟩
                · simp [Expected, hplain, hcomplete, Except.map]
                · simp [Upgrade.does, asksForKeys]
                · simp [Except.map, Upgrade.punchState, Upgrade.does]
        · -- the second one
          refine .inr ⟨by simp [Expected, hencrypted], .error repeatedKeyExchange, ?_, ?_⟩
          · rw [hturn, Upgrade.handle, if_pos (by simp [Upgrade.does, hencrypted])]
            rfl
          · intro waits
            rw [Turn.wait, punchLoop, if_pos (by simp [Upgrade.punchState, hencrypted])]
            rfl

theorem upgradeMachine_step {turn : Turn} (houtcome : st.outcome = none) :
    (upgradeMachine env).step st turn = some (st.turn env turn) := by
  simp [upgradeMachine, houtcome]

/-- Once the function has ended there are no more turns. -/
theorem upgradeMachine_ended {turns : List Turn} {final : Upgrade T E} {outcome : Outcome}
    (houtcome : st.outcome = some outcome) (hrun : (upgradeMachine env).run st turns = some final) :
    turns = [] ∧ final = st := by
  cases turns with
  | nil => exact ⟨rfl, (Option.some.inj hrun).symm⟩
  | cons turn turns =>
      obtain ⟨st', hstep, _⟩ := (upgradeMachine env).run_cons_eq_some hrun
      simp [upgradeMachine, houtcome] at hstep

/-- What the function returns is what `punchLoop` gives for the same waits. -/
theorem upgradeMachine_returns (port : UInt16) (waits : List PunchWait) {turns : List Turn}
    {final : Upgrade T E} {result : Except Error PunchRelayResponse}
    (hinv : st.Inv env transport) (houtcome : st.outcome = none)
    (hrun : (upgradeMachine env).run st turns = some final)
    (hresult : final.outcome = some (.returned result)) (rest : List Turn) :
    (punchLoop (env.punchEnv transport port waits) env.seconds ((turns ++ rest).map Turn.wait)
      st.punchState).1 = result := by
  induction turns generalizing st with
  | nil =>
      rw [← Option.some.inj hrun, houtcome] at hresult
      cases hresult
  | cons turn turns ih =>
      obtain ⟨st', hstep, hrest⟩ := (upgradeMachine env).run_cons_eq_some hrun
      rw [upgradeMachine_step houtcome] at hstep
      have hst' := Option.some.inj hstep
      rcases Upgrade.turn_cases (hinv.running houtcome) houtcome port waits turn with
        ⟨frame, _, _, hnone, _, hloop⟩ | ⟨_, result', hended, hloop⟩
      · rw [hst'] at hnone hloop
        rw [List.cons_append, List.map_cons, hloop]
        exact ih (hst' ▸ Upgrade.inv_turn hinv houtcome turn) hnone hrest
      · rw [hst'] at hended
        obtain ⟨rfl, rfl⟩ := upgradeMachine_ended hended hrest
        rw [hended] at hresult
        rw [List.cons_append, List.map_cons, hloop]
        cases hresult
        rfl

/-- The function is still waiting exactly when it has met only frames it expects. -/
theorem upgradeMachine_waits_iff (port : UInt16) (waits : List PunchWait) (turns : List Turn)
    (hinv : st.Inv env transport) (houtcome : st.outcome = none) :
    (∃ final, (upgradeMachine env).run st turns = some final ∧ final.outcome = none) ↔
      ∃ frames, turns = frames.map (fun frame => .waited (.message frame)) ∧
        Expected (env.punchEnv transport port waits) st.encrypted.isSome frames := by
  induction turns generalizing st with
  | nil =>
      refine iff_of_true ⟨st, rfl, houtcome⟩ ⟨[], rfl, ?_⟩
      simp [Expected]
  | cons turn turns ih =>
      have hstep : (upgradeMachine env).step st turn = some (st.turn env turn) :=
        upgradeMachine_step houtcome
      rw [(upgradeMachine env).run_cons_of_step hstep]
      rcases Upgrade.turn_cases (hinv.running houtcome) houtcome port waits turn with
        ⟨frame, rfl, hframe, hnone, hencrypted, _⟩ | ⟨hunexpected, result, hended, _⟩
      · rw [ih (Upgrade.inv_turn hinv houtcome _) hnone, hencrypted]
        constructor
        · rintro ⟨frames, rfl, hframes⟩
          exact ⟨frame :: frames, rfl, (expected_cons _ _ _ _).mpr ⟨hframe, hframes⟩⟩
        · rintro ⟨frames, hturns, hframes⟩
          cases frames with
          | nil => cases hturns
          | cons other frames =>
              obtain ⟨hhead, htail⟩ := List.cons.inj hturns
              cases hhead
              exact ⟨frames, htail, ((expected_cons _ _ _ _).mp hframes).2⟩
      · refine iff_of_false ?_ ?_
        · rintro ⟨final, hrun, hnone⟩
          obtain ⟨rfl, rfl⟩ := upgradeMachine_ended hended hrun
          rw [hended] at hnone
          cases hnone
        · rintro ⟨frames, hturns, hframes⟩
          cases frames with
          | nil => cases hturns
          | cons other frames =>
              obtain ⟨hhead, _⟩ := List.cons.inj hturns
              exact hunexpected other hhead ((expected_cons _ _ _ _).mp hframes).1

end Refinement

/-! ## The exchange -/

section Exchange

variable {T E : Type} {env : UpgradeEnv T E} {transport : T}

theorem InClear.channel_eq {op : Wire} (h : InClear op) : op.channel = some .plain := by
  cases h <;> rfl

theorem Sealed.channel_eq {op : Wire} (h : Sealed op) : op.channel = some .encrypted := by
  cases h
  rfl

/-- The upgrade itself is on neither channel. -/
theorem upgraded_notMem {ops : List Wire} {channel : Channel}
    (h : ∀ op ∈ ops, op.channel = some channel) : Wire.upgraded ∉ ops := by
  intro hmem
  cases h _ hmem

theorem requests_of_inClear {clear : List Wire} (h : ∀ op ∈ clear, InClear op) :
    requests clear = [] := by
  refine List.filterMap_eq_nil_iff.mpr fun op hop => ?_
  cases h op hop <;> rfl

theorem requests_of_sealed {ops : List Wire} (h : ∀ op ∈ ops, Sealed op) : requests ops = [] := by
  refine List.filterMap_eq_nil_iff.mpr fun op hop => ?_
  cases h op hop
  rfl

/-- The two requests, and the channels before and after the upgrade. -/
theorem OnWire.requests_eq {bytes : Bytes} {encrypted : Bool} {wire : List Wire}
    (h : OnWire bytes encrypted wire) :
    requests wire = (.plain, bytes) ::
        (if Wire.upgraded ∈ wire then [(.encrypted, bytes)] else []) ∧
      ∀ before after, wire = before ++ .upgraded :: after →
        (∀ op ∈ before, op.channel = some .plain) ∧
          ∀ op ∈ after, op.channel = some .encrypted := by
  have hinClear : ∀ {clear : List Wire}, (∀ op ∈ clear, InClear op) →
      ∀ op ∈ Wire.request .plain bytes :: clear, op.channel = some .plain := fun hclear =>
    List.forall_mem_cons.mpr ⟨rfl, fun op hop => (hclear op hop).channel_eq⟩
  cases h with
  | @plain clear hclear =>
      have hnone := upgraded_notMem (hinClear hclear)
      constructor
      · have hparts : requests (.request .plain bytes :: clear) =
            (.plain, bytes) :: requests clear := rfl
        rw [if_neg hnone, hparts, requests_of_inClear hclear]
      · intro before after hwire
        exact absurd (by rw [hwire]; simp) hnone
  | @encrypted clear sealed hclear hsealed =>
      have hsealed' : ∀ op ∈ Wire.request .encrypted bytes :: sealed,
          op.channel = some .encrypted :=
        List.forall_mem_cons.mpr ⟨rfl, fun op hop => (hsealed op hop).channel_eq⟩
      constructor
      · have hparts : requests (.request .plain bytes ::
            (clear ++ .upgraded :: .request .encrypted bytes :: sealed)) =
            (.plain, bytes) :: (requests clear ++ (.encrypted, bytes) :: requests sealed) := by
          simp [requests]
        rw [if_pos (by simp), hparts, requests_of_inClear hclear, requests_of_sealed hsealed]
        rfl
      · intro before after hwire
        rw [← List.cons_append, List.append_cons_inj_of_notMem (upgraded_notMem (hinClear hclear))
          (upgraded_notMem hsealed')] at hwire
        obtain ⟨rfl, _, rfl⟩ := hwire
        exact ⟨hinClear hclear, hsealed'⟩

/-- A turn that is taken starts with the loop still running. -/
theorem outcome_of_step {st final : Upgrade T E} {turn : Turn}
    (h : (upgradeMachine env).step st turn = some final) :
    st.outcome = none ∧ final = st.turn env turn := by
  cases houtcome : st.outcome with
  | none =>
      rw [upgradeMachine_step houtcome] at h
      exact ⟨rfl, (Option.some.inj h).symm⟩
  | some outcome => simp [upgradeMachine, houtcome] at h

/-- A `RelayResponse` is returned exactly when the function is still waiting for it. -/
theorem relay_returned_iff (env : UpgradeEnv T E) (transport : T) (before : List Turn)
    (resp : RelayResponse) :
    (∃ final, (upgradeMachine env).run (.start env transport)
        (before ++ [.waited (.message (.relayResponse resp))]) = some final ∧
        final.outcome = some (.returned (.ok (.relay resp)))) ↔
      env.send = .ok () ∧ ∃ frames, before = frames.map (fun frame => .waited (.message frame)) ∧
        Expected (env.punchEnv transport 0 []) false frames := by
  have hinv := Upgrade.inv_start env transport
  cases hsend : env.send with
  | error e =>
      have hended : (Upgrade.start env transport).outcome = some (.returned (.error e)) := by
        simp [Upgrade.start, hsend, Upgrade.finish]
      refine iff_of_false ?_ (fun h => by cases h.1)
      rintro ⟨final, hrun, _⟩
      have hnil := (upgradeMachine_ended hended hrun).1
      simp at hnil
  | ok _ =>
      have hstart : (Upgrade.start env transport).outcome = none := by
        simp [Upgrade.start, hsend, Upgrade.does]
      have hplain : (Upgrade.start env transport).encrypted.isSome = false := by
        simp [Upgrade.start, hsend, Upgrade.does]
      have hwaits := upgradeMachine_waits_iff 0 [] before hinv hstart
      rw [hplain] at hwaits
      rw [← hwaits, (upgradeMachine env).run_append]
      constructor
      · rintro ⟨final, hrun, _⟩
        obtain ⟨mid, hmid, hlast⟩ := Option.bind_eq_some_iff.mp hrun
        obtain ⟨st', hstep, _⟩ := (upgradeMachine env).run_cons_eq_some hlast
        exact ⟨rfl, mid, hmid, (outcome_of_step hstep).1⟩
      · rintro ⟨_, mid, hmid, houtcome⟩
        have hrunning := (upgradeMachine_inv hmid).running houtcome
        refine ⟨mid.turn env (.waited (.message (.relayResponse resp))), ?_, ?_⟩
        · rw [hmid, Option.bind_some,
            (upgradeMachine env).run_cons_of_step (upgradeMachine_step houtcome)]
          rfl
        · rw [Upgrade.turn, hrunning.channel_eq]
          rfl

/-- For every sequence of frames and timeouts, no `expect` fails and one of the two variables
is filled while the loop runs; the request is written in clear and, when a key exchange has
been completed, a second time encrypted; after that nothing is written or read in clear; a
second `KeyExchange` ends in an error; and a `RelayResponse` is returned exactly when only
frames came before it with which the loop goes on. -/
theorem punchHole_upgrade (env : UpgradeEnv T E) (transport : T) :
    (∀ (turns : List Turn) (final : Upgrade T E),
      (upgradeMachine env).run (.start env transport) turns = some final →
      (∀ message, final.outcome ≠ some (.panicked message)) ∧
        (final.outcome = none → (final.transport.isSome = true ↔ final.encrypted = none)) ∧
        requests final.wire = (.plain, env.requestBytes) ::
          (if Wire.upgraded ∈ final.wire then [(.encrypted, env.requestBytes)] else []) ∧
        (∀ before after, final.wire = before ++ .upgraded :: after →
          (∀ op ∈ before, op.channel = some .plain) ∧
            ∀ op ∈ after, op.channel = some .encrypted) ∧
        (2 ≤ keyExchanges final.wire →
          final.outcome = some (.returned (.error repeatedKeyExchange)))) ∧
      ∀ (before : List Turn) (resp : RelayResponse),
        (∃ final, (upgradeMachine env).run (.start env transport)
            (before ++ [.waited (.message (.relayResponse resp))]) = some final ∧
            final.outcome = some (.returned (.ok (.relay resp)))) ↔
          env.send = .ok () ∧
            ∃ frames, before = frames.map (fun frame => .waited (.message frame)) ∧
              Expected (env.punchEnv transport 0 []) false frames := by
  refine ⟨?_, ?_⟩
  · intro turns final hrun
    have hinv := upgradeMachine_inv hrun
    obtain ⟨hrequests, hchannels⟩ := hinv.onWire.requests_eq
    refine ⟨hinv.no_panic, ?_, hrequests, hchannels, hinv.repeated⟩
    intro houtcome
    rw [(hinv.running houtcome).ownership]
    cases final.encrypted <;> simp
  · intro before resp
    exact relay_returned_iff env transport before resp

/-- What the function returns is what the model without the connection gives, whatever would
have come after it. -/
theorem punchHoleViaTcp_eq_upgrade (env : UpgradeEnv T E) (transport : T) {turns : List Turn}
    {final : Upgrade T E} {result : Except Error PunchRelayResponse}
    (hrun : (upgradeMachine env).run (.start env transport) turns = some final)
    (hresult : final.outcome = some (.returned result)) (rest : List Turn) (port : UInt16)
    (serverAddr targetId licenceKey : Text) (connType : ConnType) :
    (punchHoleViaTcp (env.punchEnv transport port ((turns ++ rest).map Turn.wait)) serverAddr
      targetId licenceKey connType env.seconds).1 = result := by
  have hinv := Upgrade.inv_start env transport
  cases hsend : env.send with
  | error e =>
      have hended : (Upgrade.start env transport).outcome = some (.returned (.error e)) := by
        simp [Upgrade.start, hsend, Upgrade.finish]
      obtain ⟨rfl, rfl⟩ := upgradeMachine_ended hended hrun
      rw [hended] at hresult
      cases hresult
      simp [punchHoleViaTcp, UpgradeEnv.punchEnv, hsend]
  | ok _ =>
      have hstart : (Upgrade.start env transport).outcome = none := by
        simp [Upgrade.start, hsend, Upgrade.does]
      have hstate : (Upgrade.start env transport).punchState = ⟨none, false, false⟩ := by
        simp [Upgrade.start, hsend, Upgrade.does, Upgrade.punchState]
      have hloop := upgradeMachine_returns port ((turns ++ rest).map Turn.wait) hinv hstart hrun
        hresult rest
      rw [hstate] at hloop
      have hsend' : (env.punchEnv transport port ((turns ++ rest).map Turn.wait)).send =
          .ok () := hsend
      unfold punchHoleViaTcp
      rw [hsend']
      exact hloop

end Exchange

/-! ## The key exchange of the upgrade -/

section KeyExchange

variable {T Key : Type}

/-- What `complete_tcp_key_exchange` is given beside the transport and the keys: the
third-party functions, `encode_rendezvous_message` of its answer, how sending that goes, and
the key of the server. -/
structure TcpKeyExchange (Key : Type) where
  keys : ServerKeys Key
  keyExchange : Bytes → Except Error KeyExchangeResult
  encodeAnswer : List Bytes → Bytes
  send : Except Error Unit
  serverKey : Text

/-- `complete_tcp_key_exchange` on a transport: what it writes, and the stream. -/
def TcpKeyExchange.complete (exchange : TcpKeyExchange Key) (_transport : T)
    (payloads : List Bytes) : List Bytes × Except Error Crypto.EncryptedStream :=
  -- a send that fails may have written the answer too
  ((completeTcpKeyExchange exchange.keys exchange.keyExchange (.ok ()) exchange.serverKey
      payloads).toOption.toList.map fun answer => exchange.encodeAnswer answer.1,
    (completeTcpKeyExchange exchange.keys exchange.keyExchange exchange.send exchange.serverKey
      payloads).map Prod.snd)

/-- An upgrade with this key exchange. -/
def TcpKeyExchange.upgradeEnv (exchange : TcpKeyExchange Key) (requestBytes : Bytes)
    (seconds : Text) (send resend : Except Error Unit) : UpgradeEnv T Crypto.EncryptedStream where
  requestBytes := requestBytes
  seconds := seconds
  send := send
  completeTcpKeyExchange := exchange.complete
  resend := resend

/-- The server has asked for encryption with these keys and got the answer to them; the
session key is the one that was agreed on with the first of them. -/
def TcpKeyExchange.AgreedOn (exchange : TcpKeyExchange Key) (wire : List Wire)
    (stream : Crypto.EncryptedStream) : Prop :=
  ∃ payloads payload k result, payloads.head? = some payload ∧
    .waited .plain (.message (.keyExchange payloads)) ∈ wire ∧
    verifyRendezvousServerKey exchange.keys exchange.serverKey payload = .ok k ∧
    exchange.keyExchange k = .ok result ∧
    .keyExchangeResponse (exchange.encodeAnswer [result.ephemeralPk, result.sealedKey]) ∈ wire ∧
    stream = .new result.sessionKey

/-- The stream of the function, once there is one, is agreed on. -/
def Upgrade.Agreed (exchange : TcpKeyExchange Key) (st : Upgrade T Crypto.EncryptedStream) :
    Prop :=
  ∀ stream, st.encrypted = some stream → exchange.AgreedOn st.wire stream

variable {exchange : TcpKeyExchange Key}

theorem TcpKeyExchange.AgreedOn.does {wire : List Wire} {stream : Crypto.EncryptedStream}
    (h : exchange.AgreedOn wire stream) (ops : List Wire) :
    exchange.AgreedOn (wire ++ ops) stream := by
  obtain ⟨payloads, payload, k, result, hhead, hasked, hverified, hresult, hanswer, hstream⟩ := h
  exact ⟨payloads, payload, k, result, hhead, List.mem_append_left _ hasked, hverified, hresult,
    List.mem_append_left _ hanswer, hstream⟩

theorem TcpKeyExchange.complete_ok (transport : T) {payloads written : List Bytes}
    {stream : Crypto.EncryptedStream}
    (h : exchange.complete transport payloads = (written, .ok stream)) :
    ∃ payload k result, payloads.head? = some payload ∧
      verifyRendezvousServerKey exchange.keys exchange.serverKey payload = .ok k ∧
      exchange.keyExchange k = .ok result ∧
      written = [exchange.encodeAnswer [result.ephemeralPk, result.sealedKey]] ∧
      stream = .new result.sessionKey := by
  obtain ⟨hwritten, hstream⟩ := Prod.mk.inj h
  cases hcomplete : completeTcpKeyExchange exchange.keys exchange.keyExchange exchange.send
      exchange.serverKey payloads with
  | error e =>
      rw [hcomplete] at hstream
      cases hstream
  | ok done =>
      rw [hcomplete] at hstream
      obtain rfl := Except.ok.inj hstream
      obtain ⟨payload, k, result, hhead, hverified, hresult, hanswer, hstream'⟩ :=
        completeTcpKeyExchange_ok exchange.keys hcomplete
      refine ⟨payload, k, result, hhead, hverified, hresult, ?_, hstream'⟩
      rw [← hwritten]
      simp [completeTcpKeyExchange, hhead, hverified, hresult, Except.toOption]

section Turns

variable {requestBytes : Bytes} {seconds : Text} {send resend : Except Error Unit}
variable {st : Upgrade T Crypto.EncryptedStream}

/-- The stream that a key exchange gives is the one it has agreed on. -/
theorem Upgrade.exchangeKeys_agreed {payloads : List Bytes} (hplain : st.encrypted = none)
    (hasked : .waited .plain (.message (.keyExchange payloads)) ∈ st.wire) :
    (st.exchangeKeys (exchange.upgradeEnv requestBytes seconds send resend)
      payloads).Agreed exchange := by
  intro stream hstream
  unfold Upgrade.exchangeKeys at hstream ⊢
  cases htransport : st.transport with
  | none =>
      simp [htransport, Upgrade.fails, hplain] at hstream
  | some transport =>
      rw [htransport] at hstream
      dsimp only at hstream ⊢
      rcases hcomplete : (exchange.upgradeEnv requestBytes seconds send
        resend).completeTcpKeyExchange transport payloads with ⟨written, e | made⟩
      · rw [hcomplete] at hstream
        simp [Upgrade.finish, Upgrade.does, hplain] at hstream
      · rw [hcomplete] at hstream
        obtain ⟨payload, k, result, hhead, hverified, hresult, rfl, hmade⟩ :=
          TcpKeyExchange.complete_ok transport hcomplete
        have hmade' : made = stream := by
          dsimp only at hstream
          split at hstream <;> exact Option.some.inj hstream
        have hwire : exchange.AgreedOn (st.wire ++ ([Wire.keyExchangeResponse
            (exchange.encodeAnswer [result.ephemeralPk, result.sealedKey])] ++
              [.upgraded, .request .encrypted requestBytes])) stream :=
          ⟨payloads, payload, k, result, hhead, List.mem_append_left _ hasked, hverified, hresult,
            by simp, hmade'.symm.trans hmade⟩
        dsimp only
        split <;> exact hwire

/-- The stream of a turn is the one before it, or the one that its key exchange has agreed
on. -/
theorem Upgrade.turn_agreed (h : st.Agreed exchange) (turn : Turn) :
    (st.turn (exchange.upgradeEnv requestBytes seconds send resend) turn).Agreed exchange := by
  intro stream hstream
  cases turn with
  | expired => exact h stream hstream
  | waited wait =>
      unfold Upgrade.turn at hstream ⊢
      cases hchannel : st.channel with
      | error message =>
          rw [hchannel] at hstream
          exact h stream hstream
      | ok channel =>
          rw [hchannel] at hstream
          dsimp only at hstream ⊢
          have hdoes : st.encrypted = some stream →
              exchange.AgreedOn (st.does [.waited channel wait]).wire stream :=
            fun hsome => (h stream hsome).does _
          rcases wait with _ | e | e | (resp | resp | payloads | _ | debug)
          case message.keyExchange =>
            unfold Upgrade.handle at hstream ⊢
            dsimp only at hstream ⊢
            split at hstream
            · rename_i hrepeated
              rw [if_pos hrepeated]
              exact hdoes hstream
            · rename_i hfirst
              rw [if_neg hfirst]
              have hplain : st.encrypted = none := by
                cases hencrypted : st.encrypted with
                | none => rfl
                | some _ => simp [Upgrade.does, hencrypted] at hfirst
              obtain rfl : channel = .plain := by
                unfold Upgrade.channel at hchannel
                rw [hplain] at hchannel
                dsimp only at hchannel
                split at hchannel <;> cases hchannel
                rfl
              have hplain' : (st.does
                  [.waited .plain (.message (.keyExchange payloads))]).encrypted = none := hplain
              have hasked : .waited .plain (.message (.keyExchange payloads)) ∈
                  (st.does [.waited .plain (.message (.keyExchange payloads))]).wire :=
                List.mem_append_right _ List.mem_cons_self
              exact exchangeKeys_agreed hplain' hasked stream hstream
          all_goals exact hdoes hstream

end Turns

/-- Whenever the function reads and writes encrypted, it does so under the key that it has
agreed on with the server: the first key of a `KeyExchange` that it has received in clear and
answered. -/
theorem upgraded_stream_is_agreed (exchange : TcpKeyExchange Key) (requestBytes : Bytes)
    (seconds : Text) (send resend : Except Error Unit) (transport : T) (turns : List Turn)
    (final : Upgrade T Crypto.EncryptedStream)
    (hrun : (upgradeMachine (exchange.upgradeEnv requestBytes seconds send resend)).run
      (.start (exchange.upgradeEnv requestBytes seconds send resend) transport) turns = some final)
    (stream : Crypto.EncryptedStream) (hstream : final.encrypted = some stream) :
    exchange.AgreedOn final.wire stream := by
  have hagreed : final.Agreed exchange := by
    refine (upgradeMachine _).invariant ?_ ?_ hrun
    · intro st turn st' hinv hstep
      obtain ⟨_, rfl⟩ := outcome_of_step hstep
      exact Upgrade.turn_agreed hinv turn
    · intro stream hstart
      unfold Upgrade.start at hstart
      dsimp only at hstart
      split at hstart <;> cases hstart
  exact hagreed stream hstream

end KeyExchange

/-- A server whose key exchange can be completed. -/
def upgradingEnv : UpgradeEnv Unit Unit where
  requestBytes := [1]
  seconds := ['3']
  send := .ok ()
  completeTcpKeyExchange := fun _ _ => ([[9]], .ok ())
  resend := .ok ()

/-- A key exchange and then a `RelayResponse`: the request is written twice, and the response
is returned. -/
theorem punchHole_upgrade_relay :
    ∃ final, (upgradeMachine upgradingEnv).run (.start upgradingEnv ())
        [.waited (.message (.keyExchange [])), .waited (.message (.relayResponse ⟨[], [], []⟩))] =
          some final ∧
      requests final.wire = [(.plain, [1]), (.encrypted, [1])] ∧
      final.outcome = some (.returned (.ok (.relay ⟨[], [], []⟩))) := by
  obtain ⟨final, hrun, houtcome⟩ := ((punchHole_upgrade upgradingEnv ()).2
    [.waited (.message (.keyExchange []))] ⟨[], [], []⟩).mpr
      ⟨rfl, [.keyExchange []], rfl, rfl, rfl, rfl, trivial⟩
  refine ⟨final, hrun, ?_, houtcome⟩
  rw [((punchHole_upgrade upgradingEnv ()).1 _ final hrun).2.2.1, if_pos]
  · rfl
  · rw [← Option.some.inj hrun]
    decide

end RustdeskCli.Connection
