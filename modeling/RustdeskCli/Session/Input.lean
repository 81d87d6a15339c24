import RustdeskCli.Foundation.Machine
import RustdeskCli.Session.Command
set_option autoImplicit false
set_option linter.dupNamespace false

/-!
# Session: what dispatch presses and releases (`src/session.rs`)

The key and mouse events of `Session::dispatch`, replayed on a keyboard and a mouse.  The
replay is strict: a key is pressed only when it is up and released only when it is down,
and so is a mouse button or the wheel; a movement leaves the buttons as they are.  Every
command leaves the keyboard and the mouse as it found them, so does every sequence of
commands.

`i32::abs` panics at the smallest value in a build with overflow checks and wraps there in
one without; `dispatch` reaches it in `Scroll`.
-/

namespace RustdeskCli.Session

open RustdeskCli.Foundation

/-! ## The keyboard and the mouse -/

/-- A key, as a `KeyEvent` names it. -/
structure Key where
  keyCode : Option UInt32
  characters : Option Text
  deriving DecidableEq, Repr

/-- The key of an event. -/
def KeyEvent.key (event : KeyEvent) : Key := ⟨event.keyCode, event.characters⟩

/-- What is held down on the remote machine: keys, and buttons as a mask. -/
structure InputState where
  keysDown : List Key
  mask : UInt32
  deriving DecidableEq, Repr

namespace InputState

/-- Nothing is held down. -/
def idle : InputState := ⟨[], 0⟩

/-- One message; `none` when it presses what is down or releases what is up. -/
def replay (st : InputState) : ProtocolMessage → Option InputState
  | .keyEvent event =>
      if event.down then
        if event.key ∈ st.keysDown then none
        else some { st with keysDown := event.key :: st.keysDown }
      else if event.key ∈ st.keysDown then
        some { st with keysDown := st.keysDown.erase event.key }
      else none
  | .mouseEvent event =>
      if event.isMove then if event.mask = st.mask then some st else none
      else if (event.mask = 0) ↔ (st.mask = 0) then none
      else some { st with mask := event.mask }
  | .disconnect => some st

/-- Messages one after the other. -/
def replayAll (st : InputState) : List ProtocolMessage → Option InputState
  | [] => some st
  | message :: messages => (st.replay message).bind fun next => next.replayAll messages

theorem replayAll_append (st : InputState) (xs ys : List ProtocolMessage) :
    st.replayAll (xs ++ ys) = (st.replayAll xs).bind fun next => next.replayAll ys := by
  induction xs generalizing st with
  | nil => rfl
  | cons message xs ih =>
      rw [List.cons_append, replayAll, replayAll, Option.bind_assoc]
      congr 1
      funext next
      exact ih next

end InputState

/-- The messages take a keyboard and a mouse with nothing held down back to that. -/
def Balanced (messages : List ProtocolMessage) : Prop :=
  InputState.idle.replayAll messages = some .idle

/-! ## What one command emits -/

theorem balanced_nil : Balanced [] := rfl

theorem Balanced.append {xs ys : List ProtocolMessage} (hx : Balanced xs) (hy : Balanced ys) :
    Balanced (xs ++ ys) := by
  rw [Balanced, InputState.replayAll_append, hx]
  exact hy

theorem Balanced.flatten {parts : List (List ProtocolMessage)} (h : ∀ part ∈ parts, Balanced part) :
    Balanced parts.flatten := by
  induction parts with
  | nil => exact balanced_nil
  | cons part parts ih =>
      rw [List.flatten_cons]
      exact (h part List.mem_cons_self).append (ih fun p hp => h p (List.mem_cons_of_mem _ hp))

theorem balanced_keyPair (characters : Text) : Balanced (Session.keyPair characters) := by
  simp [Balanced, Session.keyPair, InputState.replayAll, InputState.replay, InputState.idle,
    KeyEvent.key]

theorem balanced_maskPair (x y : Int32) {mask : UInt32} (hmask : mask ≠ 0) :
    Balanced (Session.maskPair x y mask) := by
  simp [Balanced, Session.maskPair, InputState.replayAll, InputState.replay, InputState.idle,
    hmask]

theorem buttonMask_ne_zero (button : Text) : MouseEvent.buttonMask button ≠ 0 := by
  unfold MouseEvent.buttonMask
  split
  · decide
  · split <;> decide

theorem balanced_typeMessages (text : Text) : Balanced (Session.typeMessages text) := by
  rw [Session.typeMessages, List.flatMap_def]
  apply Balanced.flatten
  intro part hpart
  obtain ⟨c, -, rfl⟩ := List.mem_map.mp hpart
  exact balanced_keyPair [c]

theorem balanced_clickMessages (x y : Int32) (button : Text) (double : Bool) :
    Balanced (Session.clickMessages x y button double) := by
  have hpair := balanced_maskPair x y (buttonMask_ne_zero button)
  rw [Session.clickMessages]
  cases double with
  | false => exact hpair
  | true => exact hpair.append hpair

/-- The button stays down while the mouse moves. -/
theorem balanced_dragMessages (x y x2 y2 : Int32) (button : Text) :
    Balanced (Session.dragMessages x y x2 y2 button) := by
  simp [Balanced, Session.dragMessages, InputState.replayAll, InputState.replay, InputState.idle,
    buttonMask_ne_zero]

theorem balanced_scrollMessages (x y delta : Int32) :
    Balanced (Session.scrollMessages x y delta) := by
  have hmask : (if delta ≥ 0 then MouseEvent.scrollUp else MouseEvent.scrollDown) ≠ 0 := by
    split <;> decide
  rw [Session.scrollMessages]
  apply Balanced.flatten
  intro part hpart
  rw [List.eq_of_mem_replicate hpart]
  exact balanced_maskPair x y hmask

namespace Session

/-- Everything `dispatch` emits for one command is balanced. -/
theorem dispatch_balanced {s s' : Session} {cmd : SessionCommand} {resp : SessionResponse}
    {messages : List ProtocolMessage} (h : s.dispatch cmd = (.ok (resp, messages), s')) :
    Balanced messages := by
  cases cmd with
  | connect peerId password server =>
      rw [dispatch_connect] at h
      split at h <;> cases h <;> exact balanced_nil
  | status =>
      cases h
      exact balanced_nil
  | disconnect =>
      obtain ⟨-, -, rfl, -⟩ := ifConnected_ok h
      rfl
  | type text =>
      obtain ⟨-, -, rfl, -⟩ := ifConnected_ok h
      exact balanced_typeMessages text
  | key key =>
      obtain ⟨-, -, rfl, -⟩ := ifConnected_ok h
      exact balanced_keyPair key
  | click x y button double =>
      obtain ⟨-, -, rfl, -⟩ := ifConnected_ok h
      exact balanced_clickMessages x y button double
  | drag x y x2 y2 button =>
      obtain ⟨-, -, rfl, -⟩ := ifConnected_ok h
      exact balanced_dragMessages x y x2 y2 button
  | scroll x y delta =>
      obtain ⟨-, -, rfl, -⟩ := ifConnected_ok h
      exact balanced_scrollMessages x y delta
  | move x y =>
      obtain ⟨-, -, rfl, -⟩ := ifConnected_ok h
      rfl
  | _ =>
      obtain ⟨-, -, rfl, -⟩ := ifConnected_ok h
      exact balanced_nil

/-- A session that is not connected emits nothing. -/
theorem dispatch_silent {s s' : Session} {cmd : SessionCommand} {resp : SessionResponse}
    {messages : List ProtocolMessage} (hstate : s.state ≠ .connected)
    (h : s.dispatch cmd = (.ok (resp, messages), s')) : messages = [] := by
  cases cmd with
  | connect peerId password server =>
      rw [dispatch_connect] at h
      split at h <;> cases h <;> rfl
  | status =>
      cases h
      rfl
  | _ => exact absurd (ifConnected_ok h).1 hstate

/-! ## Builds with and without overflow checks -/

/-- `Session::dispatch` in a build with or without overflow checks; `none` when `i32::abs`
panics. -/
def dispatchIn (overflowChecks : Bool) (s : Session) (cmd : SessionCommand) :
    Option (Except Error (SessionResponse × List ProtocolMessage) × Session) :=
  match cmd with
  | .scroll _ _ delta =>
      if overflowChecks ∧ s.state = .connected ∧ delta = Int32.minValue then none
      else some (s.dispatch cmd)
  | _ => some (s.dispatch cmd)

/-- The messages a command emits. -/
def emits (overflowChecks : Bool) (s : Session) (cmd : SessionCommand) : List ProtocolMessage :=
  match s.dispatchIn overflowChecks cmd with
  | some (.ok (_, messages), _) => messages
  | _ => []

/-- A session and all it has emitted, command by command.  A run in which `dispatch` panics
ends before that command. -/
def inputMachine (overflowChecks : Bool) :
    Machine (Session × List ProtocolMessage) SessionCommand where
  step st cmd := (st.1.dispatchIn overflowChecks cmd).map fun answer =>
    (answer.2, st.2 ++ st.1.emits overflowChecks cmd)

/-- A command that does not panic is dispatched as it is. -/
theorem dispatchIn_eq_some {overflowChecks : Bool} {s : Session} {cmd : SessionCommand}
    {answer : Except Error (SessionResponse × List ProtocolMessage) × Session}
    (h : s.dispatchIn overflowChecks cmd = some answer) : s.dispatch cmd = answer := by
  unfold dispatchIn at h
  split at h
  · split at h
    · cases h
    · exact Option.some.inj h
  · exact Option.some.inj h

theorem emits_balanced (overflowChecks : Bool) (s : Session) (cmd : SessionCommand) :
    Balanced (s.emits overflowChecks cmd) := by
  unfold emits
  split
  · rename_i h
    exact dispatch_balanced (dispatchIn_eq_some h)
  · exact balanced_nil

theorem emits_of_not_connected (overflowChecks : Bool) {s : Session} (cmd : SessionCommand)
    (hstate : s.state ≠ .connected) : s.emits overflowChecks cmd = [] := by
  unfold emits
  split
  · rename_i h
    exact dispatch_silent hstate (dispatchIn_eq_some h)
  · rfl

theorem ifConnected_of_connected {s : Session} (hstate : s.state = .connected)
    (resp : SessionResponse) (messages : List ProtocolMessage) (next : Session) :
    s.ifConnected resp messages next = (.ok (resp, messages), next) := by
  simp [ifConnected, requireConnected, hstate]

end Session

/-! ## Whole runs -/

/-- The characters that are pressed, in order. -/
def pressed (messages : List ProtocolMessage) : List Text :=
  messages.filterMap fun
    | .keyEvent event => if event.down then event.characters else none
    | _ => none

theorem pressed_typeMessages (text : Text) :
    pressed (Session.typeMessages text) = text.map fun c => [c] := by
  induction text with
  | nil => rfl
  | cons c text ih =>
      rw [Session.typeMessages, List.flatMap_cons, pressed, List.filterMap_append]
      exact congrArg ([c] :: ·) ih

/-- In every run from a new session, whatever was emitted so far replays without a press of
what is down or a release of what is up, and leaves nothing held down.  Typing presses the
characters of its text in order, and a session that is not connected emits nothing. -/
theorem input_events_balanced (overflowChecks : Bool) (cmds : List SessionCommand) (s : Session)
    (emitted : List ProtocolMessage)
    (h : (Session.inputMachine overflowChecks).run (.new, []) cmds = some (s, emitted)) :
    InputState.idle.replayAll emitted = some .idle ∧
      (s.state = .connected → ∀ text,
        pressed (s.emits overflowChecks (.type text)) = text.map fun c => [c]) ∧
      (s.state ≠ .connected → ∀ cmd, s.emits overflowChecks cmd = []) := by
  refine ⟨?_, ?_, ?_⟩
  · have hstep : ∀ st cmd next, Balanced st.2 →
        (Session.inputMachine overflowChecks).step st cmd = some next → Balanced next.2 := by
      intro st cmd next hst hnext
      obtain ⟨answer, -, rfl⟩ := Option.map_eq_some_iff.mp hnext
      exact hst.append (st.1.emits_balanced overflowChecks cmd)
    exact (Session.inputMachine overflowChecks).invariant hstep balanced_nil h
  · intro hstate text
    have htype : s.emits overflowChecks (.type text) = Session.typeMessages text := by
      simp only [Session.emits, Session.dispatchIn, Session.dispatch,
        Session.ifConnected_of_connected hstate]
    rw [htype, pressed_typeMessages]
  · intro hstate cmd
    exact Session.emits_of_not_connected overflowChecks cmd hstate

/-- A session that connects and clicks twice. -/
theorem input_events_balanced_click :
    ∃ s, (Session.inputMachine true).run (.new, [])
        [.connect ['p'] none none, .click 10 20 "left".toList true] =
        some (s, Session.clickMessages 10 20 "left".toList true) ∧ s.state = .connected ∧
      InputState.idle.replayAll (Session.clickMessages 10 20 "left".toList true) = some .idle ∧
      pressed (s.emits true (.type ['h', 'i'])) = [['h'], ['i']] := by
  have hrun : (Session.inputMachine true).run (.new, [])
      [.connect ['p'] none none, .click 10 20 "left".toList true] =
      some (⟨.connected, some ⟨['p'], none, none⟩, none⟩,
        Session.clickMessages 10 20 "left".toList true) := by rfl
  obtain ⟨hbalanced, htyped, -⟩ := input_events_balanced true _ _ _ hrun
  exact ⟨_, hrun, rfl, hbalanced, htyped rfl ['h', 'i']⟩

/-! ## The wheel -/

/-- `Scroll` emits one pair of events for each unit of its delta: the wheel, up or down, and
its release, both at the given point.  It succeeds and leaves the session as it was. -/
def ScrollsByUnits (overflowChecks : Bool) (s : Session) (x y delta : Int32) : Prop :=
  ∃ resp, s.dispatchIn overflowChecks (.scroll x y delta) =
    some (.ok (resp, (List.replicate delta.toInt.natAbs
      [.mouseEvent ⟨x, y, if 0 ≤ delta.toInt then MouseEvent.scrollUp else MouseEvent.scrollDown,
          false⟩,
        .mouseEvent ⟨x, y, 0, false⟩]).flatten), s)

theorem notches_eq_natAbs {delta : Int32} (h : delta ≠ Int32.minValue) :
    Session.notches delta = delta.toInt.natAbs := by
  rw [Session.notches, Session.toInt_abs, if_neg h]
  exact Int.toNat_natCast _

theorem scrollsByUnits_of_ne {overflowChecks : Bool} {s : Session} (hstate : s.state = .connected)
    (x y : Int32) {delta : Int32} (h : delta ≠ Int32.minValue) :
    ScrollsByUnits overflowChecks s x y delta := by
  have hsign : delta ≥ 0 ↔ 0 ≤ delta.toInt := Int32.le_iff_toInt_le
  refine ⟨.ok ("Scrolled ".toList ++ i32Text delta ++ " at ".toList ++ pointText x y), ?_⟩
  rw [Session.dispatchIn, if_neg (fun hpanic => h hpanic.2.2), Session.dispatch,
    Session.ifConnected_of_connected hstate, Session.scrollMessages, notches_eq_natAbs h]
  simp only [hsign]
  rfl

/-- At the smallest delta `abs` panics, or is negative, so that no notch is left. -/
theorem not_scrollsByUnits_minValue (overflowChecks : Bool) {s : Session}
    (hstate : s.state = .connected) (x y : Int32) :
    ¬ScrollsByUnits overflowChecks s x y Int32.minValue := by
  rintro ⟨resp, h⟩
  cases overflowChecks with
  | true =>
      rw [Session.dispatchIn, if_pos ⟨rfl, hstate, rfl⟩] at h
      cases h
  | false =>
      rw [Session.dispatchIn, if_neg (by simp), Session.dispatch,
        Session.ifConnected_of_connected hstate, Session.scrollMessages,
        (Session.notches_eq_zero _).mpr (.inr rfl)] at h
      have hmessages := (Prod.mk.inj (Except.ok.inj (Prod.mk.inj (Option.some.inj h)).1)).2
      have hnone := List.flatten_eq_nil_iff.mp hmessages.symm _
        (List.mem_replicate.mpr ⟨by decide, rfl⟩)
      cases hnone

/-- `Scroll` emits one notch per unit, in either build, for every delta but the smallest. -/
theorem scroll_one_notch_per_unit_iff (overflowChecks : Bool) (s : Session)
    (hstate : s.state = .connected) (x y delta : Int32) :
    ScrollsByUnits overflowChecks s x y delta ↔ delta ≠ Int32.minValue := by
  constructor
  · rintro h rfl
    exact not_scrollsByUnits_minValue overflowChecks hstate x y h
  · intro h
    exact scrollsByUnits_of_ne hstate x y h

/-- A connected session. -/
def connectedSession : Session := ⟨.connected, some ⟨['p'], none, none⟩, none⟩

/-- Three units down. -/
theorem scroll_one_notch_per_unit_three :
    connectedSession.state = .connected ∧ ScrollsByUnits true connectedSession 50 75 (-3) :=
  ⟨rfl, (scroll_one_notch_per_unit_iff true connectedSession rfl 50 75 (-3)).mpr (by decide)⟩

/-- The smallest delta, in a build with overflow checks and in one without. -/
theorem scroll_minValue_loses_notches :
    connectedSession.state = .connected ∧
      connectedSession.dispatchIn true (.scroll 0 0 Int32.minValue) = none ∧
      connectedSession.emits false (.scroll 0 0 Int32.minValue) = [] ∧
      ¬ScrollsByUnits true connectedSession 0 0 Int32.minValue ∧
      ¬ScrollsByUnits false connectedSession 0 0 Int32.minValue :=
  ⟨rfl, rfl, rfl, not_scrollsByUnits_minValue true rfl 0 0,
    not_scrollsByUnits_minValue false rfl 0 0⟩

end RustdeskCli.Session
