import RustdeskCli.Session.Response
set_option autoImplicit false
set_option linter.dupNamespace false

/-!
# Session: commands and their dispatch (`src/session.rs`, `src/protocol.rs`)

The commands the CLI sends to the daemon, the control-plane state the daemon keeps of
its session, and `Session::dispatch`, which answers a command and lists the protocol
messages that carry it out.  Coordinates and wheel deltas are machine integers:
`dispatch` counts wheel notches with `i32::abs`, which wraps at the smallest value.
-/

namespace RustdeskCli.Session

open RustdeskCli.Foundation

/-! ## What is said to the peer -/

/-- `KeyModifiers`. -/
structure KeyModifiers where
  shift : Bool
  ctrl : Bool
  alt : Bool
  metaKey : Bool
  deriving DecidableEq, Repr

/-- `KeyModifiers::default`. -/
def KeyModifiers.default : KeyModifiers := ⟨false, false, false, false⟩

/-- `KeyEvent`. -/
structure KeyEvent where
  keyCode : Option UInt32
  characters : Option Text
  down : Bool
  modifiers : KeyModifiers
  deriving DecidableEq, Repr

/-- `MouseEvent`. -/
structure MouseEvent where
  x : Int32
  y : Int32
  mask : UInt32
  isMove : Bool
  deriving DecidableEq, Repr

namespace MouseEvent

/-- `BUTTON_LEFT`. -/
def buttonLeft : UInt32 := 1

/-- `BUTTON_RIGHT`. -/
def buttonRight : UInt32 := 2

/-- `BUTTON_MIDDLE`. -/
def buttonMiddle : UInt32 := 4

/-- `SCROLL_UP`. -/
def scrollUp : UInt32 := 8

/-- `SCROLL_DOWN`. -/
def scrollDown : UInt32 := 16

/-- `MouseEvent::button_mask`. -/
def buttonMask (button : Text) : UInt32 :=
  if button = "right".toList then buttonRight
  else if button = "middle".toList then buttonMiddle
  else buttonLeft

end MouseEvent

/-- `ProtocolMessage`, with the messages `dispatch` produces. -/
inductive ProtocolMessage where
  | keyEvent (event : KeyEvent)
  | mouseEvent (event : MouseEvent)
  | disconnect
  deriving DecidableEq, Repr

/-! ## The state of a session -/

/-- `ConnectionState`. -/
inductive ConnectionState where
  | disconnected
  | connecting
  | connected
  deriving DecidableEq, Repr

/-- The name `serde` gives a `ConnectionState`. -/
def ConnectionState.name : ConnectionState → Text
  | .disconnected => "Disconnected".toList
  | .connecting => "Connecting".toList
  | .connected => "Connected".toList

/-- `protocol::ConnectionConfig`. -/
structure ConnectionConfig where
  peerId : Text
  password : Option Text
  server : Option Text
  deriving DecidableEq, Repr

/-- `DisplayInfo`. -/
structure DisplayInfo where
  x : Int32
  y : Int32
  width : Int32
  height : Int32
  name : Text
  online : Bool
  cursorEmbedded : Bool
  deriving DecidableEq, Repr

/-- The fields of a display as JSON. -/
def DisplayInfo.fields (d : DisplayInfo) : List (String × Json) :=
  [("x", .int d.x.toInt), ("y", .int d.y.toInt), ("width", .int d.width.toInt),
    ("height", .int d.height.toInt), ("name", .str d.name), ("online", .bool d.online),
    ("cursor_embedded", .bool d.cursorEmbedded)]

/-- `PeerInfoState`. -/
structure PeerInfoState where
  peerId : Text
  username : Text
  hostname : Text
  displays : List DisplayInfo
  deriving DecidableEq, Repr

/-- `PeerInfoState` as JSON. -/
def PeerInfoState.json (info : PeerInfoState) : Json :=
  .obj [("peer_id", .str info.peerId), ("username", .str info.username),
    ("hostname", .str info.hostname), ("displays", .arr (info.displays.map (.obj ·.fields)))]

/-- `Session`. -/
structure Session where
  state : ConnectionState
  config : Option ConnectionConfig
  peerInfo : Option PeerInfoState
  deriving DecidableEq, Repr

/-- `Session::new`. -/
def Session.new : Session := ⟨.disconnected, none, none⟩

/-! ## Commands -/

/-- `CaptureRegion`. -/
structure CaptureRegion where
  x : UInt32
  y : UInt32
  w : UInt32
  h : UInt32
  deriving DecidableEq, Repr

/-- `SessionCommand`. -/
inductive SessionCommand where
  | connect (peerId : Text) (password server : Option Text)
  | disconnect
  | shell
  | exec (command : Text) (timeout : Option UInt64)
  | push (localPath remotePath : Text)
  | clipboardGet
  | clipboardSet (text : Text)
  | capture (output : Text) (format : Option Text) (quality : Option UInt8)
      (region : Option CaptureRegion) (display : Option Int32) (timeoutSecs : Option UInt64)
  | type (text : Text)
  | key (key : Text)
  | click (x y : Int32) (button : Text) (double : Bool)
  | drag (x y x2 y2 : Int32) (button : Text)
  | scroll (x y delta : Int32)
  | move (x y : Int32)
  | status
  | displays
  deriving DecidableEq, Repr

/-- The commands that stand for keyboard and mouse input. -/
def SessionCommand.isInput : SessionCommand → Bool
  | .type _ | .key _ | .click .. | .drag .. | .scroll .. | .move .. => true
  | _ => false

/-- The decimal text of an `i32`. -/
def i32Text (n : Int32) : Text := (toString n.toInt).toList

/-- `({x}, {y})`. -/
def pointText (x y : Int32) : Text :=
  "(".toList ++ i32Text x ++ ", ".toList ++ i32Text y ++ ")".toList

/-- `str::len`: the length in bytes. -/
def byteLen (text : Text) : Nat := (String.ofList text).utf8ByteSize

/-! ## Dispatch -/

namespace Session

/-- `require_connected`. -/
def requireConnected (s : Session) : Except Error Unit :=
  if s.state ≠ .connected then
    .error (.msg "No active session. Run `rustdesk-cli connect` first.".toList)
  else .ok ()

/-- What every command but `Connect` and `Status` does first: refuse unless connected. -/
def ifConnected (s : Session) (resp : SessionResponse) (messages : List ProtocolMessage)
    (next : Session) : Except Error (SessionResponse × List ProtocolMessage) × Session :=
  match s.requireConnected with
  | .error e => (.error e, s)
  | .ok () => (.ok (resp, messages), next)

/-- Press and release of one text. -/
def keyPair (characters : Text) : List ProtocolMessage :=
  [.keyEvent ⟨none, some characters, true, .default⟩,
    .keyEvent ⟨none, some characters, false, .default⟩]

/-- Two mouse events at one point that do not move: a mask, and its release. -/
def maskPair (x y : Int32) (mask : UInt32) : List ProtocolMessage :=
  [.mouseEvent ⟨x, y, mask, false⟩, .mouseEvent ⟨x, y, 0, false⟩]

/-- The messages of `Type`: every character is pressed and released. -/
def typeMessages (text : Text) : List ProtocolMessage := text.flatMap fun ch => keyPair [ch]

/-- The messages of `Click`. -/
def clickMessages (x y : Int32) (button : Text) (double : Bool) : List ProtocolMessage :=
  let clickPair := maskPair x y (MouseEvent.buttonMask button)
  if double then clickPair ++ clickPair else clickPair

/-- The messages of `Drag`. -/
def dragMessages (x y x2 y2 : Int32) (button : Text) : List ProtocolMessage :=
  let mask := MouseEvent.buttonMask button
  [.mouseEvent ⟨x, y, mask, false⟩, .mouseEvent ⟨x2, y2, mask, true⟩,
    .mouseEvent ⟨x2, y2, 0, false⟩]

/-- How often `for _ in 0..delta.abs()` runs its body. -/
def notches (delta : Int32) : Nat := delta.abs.toInt.toNat

/-- The messages of `Scroll`: a wheel event and its release for each notch. -/
def scrollMessages (x y delta : Int32) : List ProtocolMessage :=
  let mask := if delta ≥ 0 then MouseEvent.scrollUp else MouseEvent.scrollDown
  (List.replicate (notches delta) (maskPair x y mask)).flatten

/-- The display list of `Displays`, each display with its index. -/
def displaysJson (displays : List DisplayInfo) : List Json :=
  displays.zipIdx.map fun (d, idx) => .obj (("idx", .int idx) :: d.fields)

/-- A value, or `null`. -/
def orNull {α : Type} (f : α → Json) : Option α → Json
  | some a => f a
  | none => .null

/-- `Session::dispatch`: the answer for the CLI and the messages for the peer.  `Connect`
is a stub that only changes the state. -/
def dispatch (s : Session) :
    SessionCommand → Except Error (SessionResponse × List ProtocolMessage) × Session
  | .connect peerId password server =>
      if s.state = .connected then (.ok (.error "Already connected".toList, []), s)
      else
        (.ok (.ok ("Connected to ".toList ++ peerId), []),
          { s with state := .connected, config := some ⟨peerId, password, server⟩ })
  | .disconnect =>
      let peerId := (s.config.map ConnectionConfig.peerId).getD []
      s.ifConnected (.ok ("Disconnected from ".toList ++ peerId)) [.disconnect]
        ⟨.disconnected, none, none⟩
  | .shell =>
      s.ifConnected (.okWithData "Opened remote shell".toList
        (.obj [("mode", .str "interactive".toList)])) [] s
  | .exec command _ =>
      s.ifConnected (.okWithData ("Executed `".toList ++ command ++ "`".toList)
        (.obj [("command", .str command), ("stdout", .str "stub exec output".toList),
          ("stderr", .str []), ("exit_code", .int 0)])) [] s
  | .push localPath remotePath =>
      s.ifConnected (.okWithData
        ("Pushed `".toList ++ localPath ++ "` to `".toList ++ remotePath ++ "`".toList)
        (.obj [("local_path", .str localPath), ("remote_path", .str remotePath)])) [] s
  | .clipboardGet =>
      s.ifConnected (.okWithData "Clipboard text retrieved".toList
        (.obj [("text", .str "stub clipboard text".toList)])) [] s
  | .clipboardSet text =>
      s.ifConnected (.okWithData "Clipboard text updated".toList
        (.obj [("chars", .int text.length), ("redacted", .bool true)])) [] s
  | .capture output _ _ _ _ _ =>
      s.ifConnected (.ok ("Screenshot saved to ".toList ++ output)) [] s
  | .type text =>
      s.ifConnected
        (.ok ("Typed ".toList ++ (toString (byteLen text)).toList ++ " characters".toList))
        (typeMessages text) s
  | .key key => s.ifConnected (.ok "Key sent".toList) (keyPair key) s
  | .click x y button double =>
      s.ifConnected (.ok (button ++ " click at ".toList ++ pointText x y))
        (clickMessages x y button double) s
  | .drag x y x2 y2 button =>
      s.ifConnected
        (.ok (button ++ " drag from ".toList ++ pointText x y ++ " to ".toList ++ pointText x2 y2))
        (dragMessages x y x2 y2 button) s
  | .scroll x y delta =>
      s.ifConnected (.ok ("Scrolled ".toList ++ i32Text delta ++ " at ".toList ++ pointText x y))
        (scrollMessages x y delta) s
  | .move x y =>
      s.ifConnected (.ok ("Moved to ".toList ++ pointText x y)) [.mouseEvent ⟨x, y, 0, true⟩] s
  | .status =>
      (.ok (.okWithData "Status".toList
        (.obj [("state", .str s.state.name), ("peer_id", orNull (.str ·.peerId) s.config),
          ("peer_info", orNull PeerInfoState.json s.peerInfo)]), []), s)
  | .displays =>
      let displays := displaysJson ((s.peerInfo.map PeerInfoState.displays).getD [])
      s.ifConnected (.okWithData ((toString displays.length).toList ++ " display(s)".toList)
        (.obj [("displays", .arr displays)])) [] s

theorem dispatch_connect (s : Session) (peerId : Text) (password server : Option Text) :
    s.dispatch (.connect peerId password server) =
      if s.state = .connected then (.ok (.error "Already connected".toList, []), s)
      else
        (.ok (.ok ("Connected to ".toList ++ peerId), []),
          { s with state := .connected, config := some ⟨peerId, password, server⟩ }) := rfl

/-- The notches of a scroll are the size of its delta, except that the smallest `i32` has no
positive counterpart. -/
theorem toInt_abs (delta : Int32) :
    delta.abs.toInt =
      if delta = Int32.minValue then Int32.minValue.toInt else delta.toInt.natAbs := by
  have habs : delta.abs.toInt = delta.toBitVec.abs.toInt := rfl
  have hmin : delta.toBitVec = BitVec.intMin 32 ↔ delta = Int32.minValue := by
    rw [← Int32.toBitVec_inj]
    rfl
  rw [habs, BitVec.toInt_abs_eq_natAbs]
  simp only [hmin]
  rfl

theorem notches_eq_zero (delta : Int32) :
    notches delta = 0 ↔ delta = 0 ∨ delta = Int32.minValue := by
  have hzero : delta = 0 ↔ delta.toInt = 0 := by
    rw [← Int32.toInt_inj]
    rfl
  unfold notches
  rw [toInt_abs]
  split
  · rename_i hmin
    simp [hmin]
  · rename_i hmin
    simp [hmin, hzero]

/-- A command that needs a connection is refused or answered as written. -/
theorem ifConnected_ok {s next s' : Session} {resp resp' : SessionResponse}
    {messages messages' : List ProtocolMessage}
    (h : s.ifConnected resp messages next = (.ok (resp', messages'), s')) :
    s.state = .connected ∧ resp' = resp ∧ messages' = messages ∧ s' = next := by
  unfold ifConnected requireConnected at h
  split at h
  · cases h
  · rename_i hconnected
    split at hconnected
    · cases hconnected
    · rename_i hstate
      obtain ⟨hok, rfl⟩ := Prod.mk.inj h
      obtain ⟨rfl, rfl⟩ := Prod.mk.inj (Except.ok.inj hok)
      exact ⟨by simpa using hstate, rfl, rfl, rfl⟩

/-- The error of `require_connected`. -/
def noActiveSession : Error := .msg "No active session. Run `rustdesk-cli connect` first.".toList

theorem ifConnected_error {s next s' : Session} {resp : SessionResponse}
    {messages : List ProtocolMessage} {e : Error}
    (h : s.ifConnected resp messages next = (.error e, s')) : e = noActiveSession := by
  unfold ifConnected requireConnected at h
  split at h
  · rename_i hrefused
    split at hrefused
    · rw [← Except.error.inj (Prod.mk.inj h).1, ← Except.error.inj hrefused]
      rfl
    · cases hrefused
  · cases h

/-- `dispatch` refuses a command for one reason only. -/
theorem dispatch_error {s s' : Session} {cmd : SessionCommand} {e : Error}
    (h : s.dispatch cmd = (.error e, s')) : e = noActiveSession := by
  cases cmd with
  | connect peerId password server =>
      rw [dispatch_connect] at h
      split at h <;> cases h
  | status => cases h
  | _ => exact ifConnected_error h

end Session

end RustdeskCli.Session
