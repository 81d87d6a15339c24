import RustdeskCli.Capture.Screenshot
import RustdeskCli.Cli.Streaming
set_option autoImplicit false

/-!
# Cli: what the commands print (`src/main.rs`)

The values of the command line and the response of each command.  The stand-alone
commands and the batch share these functions; every response made here says success.
-/

namespace RustdeskCli.Cli

open RustdeskCli.Foundation
open RustdeskCli.Session
open RustdeskCli.Capture

/-- `EXIT_SESSION`. -/
def exitSession : Int := 2

/-- `EXIT_PERMISSION`. -/
def exitPermission : Int := 4

/-- `DEFAULT_WIDTH`. -/
def defaultWidth : Int32 := 1920

/-- `DEFAULT_HEIGHT`. -/
def defaultHeight : Int32 := 1080

/-! ## Numbers -/

/-- The digits of a text as a number, unless it is empty or has another character. -/
def parseDigits (digits : Text) : Option Nat :=
  if digits ≠ [] ∧ digits.all Char.isDigit then some (Text.digitsValue digits) else none

/-- `str::parse::<i32>`. -/
def parseInt32 (text : Text) : Option Int32 :=
  let value : Option Int :=
    match text with
    | '-' :: digits => (parseDigits digits).map fun n => -n
    | '+' :: digits => (parseDigits digits).map fun n => n
    | digits => (parseDigits digits).map fun n => n
  value.bind fun n => if -2 ^ 31 ≤ n ∧ n < 2 ^ 31 then some (Int32.ofInt n) else none

/-- `str::parse::<u64>`. -/
def parseUInt64 (text : Text) : Option UInt64 :=
  let value :=
    match text with
    | '+' :: digits => parseDigits digits
    | digits => parseDigits digits
  value.bind fun n => if n < 2 ^ 64 then some (UInt64.ofNat n) else none

/-- A number is read as it is written. -/
theorem parseDigits_toDigits (n : Nat) : parseDigits (Nat.toDigits 10 n) = some n := by
  have hdigits : (Nat.toDigits 10 n).all Char.isDigit = true := by
    rw [List.all_eq_true]
    intro c hc
    exact Nat.isDigit_of_mem_toDigits (by omega) (by omega) hc
  have hvalue : Text.digitsValue (Nat.toDigits 10 n) = n := Nat.ofDigitChars_ten_toDigits
  rw [parseDigits, if_pos ⟨Nat.toDigits_ne_nil, hdigits⟩, hvalue]

/-- The first character of a number is a digit. -/
theorem toDigits_eq_cons (n : Nat) :
    ∃ c rest, Nat.toDigits 10 n = c :: rest ∧ c.isDigit = true := by
  cases h : Nat.toDigits 10 n with
  | nil => exact absurd h Nat.toDigits_ne_nil
  | cons c rest =>
      have hmem : c ∈ Nat.toDigits 10 n := by
        rw [h]
        exact List.mem_cons_self
      exact ⟨c, rest, rfl, Nat.isDigit_of_mem_toDigits (by omega) (by omega) hmem⟩

/-! ## Values of the command line -/

/-- `CaptureFormat`. -/
inductive CaptureFormat where
  | png
  | jpg
  deriving DecidableEq, Repr

/-- `CaptureFormat::as_str`. -/
def CaptureFormat.asStr : CaptureFormat → Text
  | .png => "png".toList
  | .jpg => "jpg".toList

/-- `Modifier`. -/
inductive Modifier where
  | ctrl
  | shift
  | alt
  | metaKey
  deriving DecidableEq, Repr

/-- `Modifier::as_str`. -/
def Modifier.asStr : Modifier → Text
  | .ctrl => "ctrl".toList
  | .shift => "shift".toList
  | .alt => "alt".toList
  | .metaKey => "meta".toList

/-- `MouseButton`. -/
inductive MouseButton where
  | left
  | right
  | middle
  deriving DecidableEq, Repr

/-- `MouseButton::as_str`. -/
def MouseButton.asStr : MouseButton → Text
  | .left => "left".toList
  | .right => "right".toList
  | .middle => "middle".toList

/-- `Region`: what `Region::from_str` accepts. -/
structure Region where
  x : Int32
  y : Int32
  w : Int32
  h : Int32
  w_pos : 0 < w
  h_pos : 0 < h
  deriving DecidableEq, Repr

namespace Region

/-- `Region::from_str`. -/
def fromStr (value : Text) : Except Text Region :=
  match value.splitOn ',' with
  | [x, y, w, h] =>
      match parseInt32 x with
      | none => .error "invalid region x coordinate".toList
      | some x =>
          match parseInt32 y with
          | none => .error "invalid region y coordinate".toList
          | some y =>
              match parseInt32 w with
              | none => .error "invalid region width".toList
              | some w =>
                  match parseInt32 h with
                  | none => .error "invalid region height".toList
                  | some h =>
                      if hpos : 0 < w ∧ 0 < h then .ok ⟨x, y, w, h, hpos.1, hpos.2⟩
                      else .error "region width and height must be positive".toList
  | _ => .error "region must be in x,y,w,h format".toList

/-- `Region::to_json`. -/
def toJson (r : Region) : Json :=
  .obj [("x", .int r.x.toInt), ("y", .int r.y.toInt), ("w", .int r.w.toInt), ("h", .int r.h.toInt)]

/-- `Region::as_text`. -/
def asText (r : Region) : Text :=
  i32Text r.x ++ ",".toList ++ i32Text r.y ++ ",".toList ++ i32Text r.w ++ ",".toList ++ i32Text r.h

/-- `Region::to_capture_region`. -/
def toCaptureRegion (r : Region) : CaptureRegion :=
  ⟨r.x.toUInt32, r.y.toUInt32, r.w.toUInt32, r.h.toUInt32⟩

end Region

/-- `infer_format`. -/
def inferFormat (file : Text) : CaptureFormat :=
  let ext := (file.reverse.takeWhile (· ≠ '.')).reverse
  if eqIgnoreAsciiCase ext "jpg".toList || eqIgnoreAsciiCase ext "jpeg".toList then .jpg else .png

/-! ## Responses -/

/-- A response that says success. -/
def successResponse (command : Text) (text : Text) (fields : List (String × Json)) : Response where
  text := text
  json := .obj ([("ok", .bool true), ("command", .str command)] ++ fields)
  exitCode := exitSuccess

@[simp] theorem successResponse_exitCode (command text : Text) (fields : List (String × Json)) :
    (successResponse command text fields).exitCode = exitSuccess := rfl

/-- `connect_response`. -/
def connectResponse (id : Text) (server : Option Text) : Response :=
  successResponse "connect".toList
    ("connected id=".toList ++ id ++
      (match server with
        | some server => " server=".toList ++ server
        | none => []) ++
      " width=".toList ++ i32Text defaultWidth ++ " height=".toList ++ i32Text defaultHeight)
    [("id", .str id), ("server", Session.orNull .str server), ("connected", .bool true),
      ("width", .int defaultWidth.toInt), ("height", .int defaultHeight.toInt)]

/-- `disconnect_response`. -/
def disconnectResponse (wasConnected : Bool) : Response :=
  successResponse "disconnect".toList "disconnected".toList [("was_connected", .bool wasConnected)]

/-- `shell_response`. -/
def shellResponse : Response :=
  successResponse "shell".toList "shell mode=interactive".toList
    [("mode", .str "interactive".toList)]

/-- `clipboard_get_response`. -/
def clipboardGetResponse (text : Text) : Response :=
  successResponse "clipboard".toList ("clipboard text=".toList ++ text)
    [("action", .str "get".toList), ("text", .str text)]

/-- `clipboard_set_response`. -/
def clipboardSetResponse (text : Text) : Response :=
  successResponse "clipboard".toList
    ("clipboard_set chars=".toList ++ (toString text.length).toList)
    [("action", .str "set".toList), ("chars", .int text.length), ("redacted", .bool true)]

/-- `status_response`. -/
def statusResponse : Response :=
  successResponse "status".toList "disconnected".toList [("connected", .bool false)]

/-- `status_connected_response`. -/
def statusConnectedResponse (peerId : Text) : Response :=
  successResponse "status".toList
    ("connected id=".toList ++ peerId ++ " width=".toList ++ i32Text defaultWidth ++
      " height=".toList ++ i32Text defaultHeight)
    [("connected", .bool true), ("id", .str peerId), ("width", .int defaultWidth.toInt),
      ("height", .int defaultHeight.toInt)]

/-- The text of a `bool`. -/
def boolText (b : Bool) : Text := if b then "true".toList else "false".toList

/-- What both texts of a display begin with. -/
def displayText (d : Json) : Text :=
  "display ".toList ++ (d.index "idx").render ++ " ".toList ++ (d.index "width").render ++
    "x".toList ++ (d.index "height").render ++ " at (".toList ++ (d.index "x").render ++
    ",".toList ++ (d.index "y").render ++ ") name=".toList ++ ((d.index "name").asStr).getD []

/-- A list of displays, with the text of each. -/
def displayListResponse (text : Json → Text) (displays : List Json) : Response :=
  successResponse "displays".toList
    (if displays.isEmpty then "no displays".toList else Text.joinLines (displays.map text))
    [("displays", .arr displays)]

/-- The response of the stand-alone `displays`. -/
def displaysShortResponse (displays : List Json) : Response :=
  displayListResponse displayText displays

/-- `displays_response`, which the batch uses: it also says which displays are online. -/
def displaysResponse (displays : List Json) : Response :=
  displayListResponse
    (fun d => displayText d ++
      " online=".toList ++ boolText (((d.index "online").asBool).getD false) ++
      " cursor_embedded=".toList ++ boolText (((d.index "cursor_embedded").asBool).getD false))
    displays

/-- `fake_capture_bytes`. -/
def fakeCaptureBytes (format : CaptureFormat) (width height : Int32) : Nat :=
  let pixels := width.toInt.toNat * height.toInt.toNat
  match format with
  | .png => pixels / 8 + 8193
  | .jpg => pixels / 12 + 4821

/-- `fake_capture_payload`. -/
def fakeCapturePayload : CaptureFormat → Bytes
  | .png =>
      [0x89, 0x50, 0x4E, 0x47, 0x0D, 0x0A, 0x1A, 0x0A, 0x00, 0x00, 0x00, 0x0D, 0x49, 0x48, 0x44,
        0x52, 0x00, 0x00, 0x00, 0x01, 0x00, 0x00, 0x00, 0x01, 0x08, 0x06, 0x00, 0x00, 0x00, 0x1F,
        0x15, 0xC4, 0x89, 0x00, 0x00, 0x00, 0x0D, 0x49, 0x44, 0x41, 0x54, 0x78, 0x9C, 0x63, 0xF8,
        0xCF, 0xC0, 0xF0, 0x1F, 0x00, 0x05, 0x00, 0x01, 0xFF, 0x89, 0x99, 0x3D, 0x1D, 0x00, 0x00,
        0x00, 0x00, 0x49, 0x45, 0x4E, 0x44, 0xAE, 0x42, 0x60, 0x82]
  | .jpg =>
      [0xFF, 0xD8, 0xFF, 0xE0, 0x00, 0x10, 0x4A, 0x46, 0x49, 0x46, 0x00, 0x01, 0x01, 0x01, 0x00,
        0x48, 0x00, 0x48, 0x00, 0x00, 0xFF, 0xD9]

/-- The fields that `capture_response` and `capture_result_response` add at the end. -/
def captureTail (display : Option Int32) (timeout : UInt64) : List (String × Json) :=
  (match display with
    | some display => [("display", .int display.toInt)]
    | none => []) ++ [("timeout", .int timeout.toNat)]

/-- `capture_response`. -/
def captureResponse (file : Text) (format : CaptureFormat) (region : Option Region)
    (display : Option Int32) (timeout : UInt64) : Response :=
  let (width, height) :=
    match region with
    | some region => (region.w, region.h)
    | none => (defaultWidth, defaultHeight)
  let bytes := fakeCaptureBytes format width height
  successResponse "capture".toList
    ("captured file=".toList ++ file ++ " format=".toList ++ format.asStr ++ " width=".toList ++
      i32Text width ++ " height=".toList ++ i32Text height ++ " bytes=".toList ++
      (toString bytes).toList ++
      (match region with
        | some region => " region=".toList ++ region.asText
        | none => []) ++
      (match display with
        | some display => " display=".toList ++ i32Text display
        | none => []) ++
      " timeout=".toList ++ (toString timeout.toNat).toList)
    ([("file", .str file), ("format", .str format.asStr), ("width", .int width.toInt),
        ("height", .int height.toInt), ("bytes", .int bytes)] ++
      (match region with
        | some region => [("region", region.toJson)]
        | none => []) ++
      captureTail display timeout)

/-- `capture_result_response`. -/
def captureResultResponse (file : Option Text) (format : CaptureFormat) (region : Option Region)
    (display : Option Int32) (timeout : UInt64) (bytes : Nat) : Response :=
  successResponse "capture".toList
    (match file with
      | some file => "captured file=".toList ++ file ++ " format=".toList ++ format.asStr ++
          " bytes=".toList ++ (toString bytes).toList
      | none => "captured stdout format=".toList ++ format.asStr ++ " bytes=".toList ++
          (toString bytes).toList)
    ([("format", .str format.asStr), ("bytes", .int bytes)] ++
      (match file with
        | some file => [("file", .str file)]
        | none => []) ++
      (match region with
        | some region => [("region", region.toJson)]
        | none => []) ++
      captureTail display timeout)

/-- `type_response`. -/
def typeResponse (text : Text) : Response :=
  successResponse "type".toList ("typed chars=".toList ++ (toString text.length).toList)
    [("chars", .int text.length), ("redacted", .bool true)]

/-- `key_response`. -/
def keyResponse (key : Text) (modifiers : List Modifier) : Response :=
  let names := modifiers.map Modifier.asStr
  successResponse "key".toList
    (if names.isEmpty then "key key=".toList ++ key
      else "key key=".toList ++ key ++ " modifiers=".toList ++ ",".toList.intercalate names)
    [("key", .str key), ("modifiers", .arr (names.map .str))]

/-- `click_response`. -/
def clickResponse (button : MouseButton) (x y : Int32) (double : Bool) : Response :=
  successResponse "click".toList
    ("clicked button=".toList ++ button.asStr ++ " x=".toList ++ i32Text x ++ " y=".toList ++
      i32Text y ++ " double=".toList ++ boolText double)
    [("button", .str button.asStr), ("x", .int x.toInt), ("y", .int y.toInt),
      ("double", .bool double)]

/-- `scroll_response`. -/
def scrollResponse (x y delta : Int32) : Response :=
  successResponse "scroll".toList
    ("scrolled x=".toList ++ i32Text x ++ " y=".toList ++ i32Text y ++ " delta=".toList ++
      i32Text delta)
    [("x", .int x.toInt), ("y", .int y.toInt), ("delta", .int delta.toInt)]

/-- `move_response`. -/
def moveResponse (x y : Int32) : Response :=
  successResponse "move".toList ("moved x=".toList ++ i32Text x ++ " y=".toList ++ i32Text y)
    [("x", .int x.toInt), ("y", .int y.toInt)]

/-- `drag_response`. -/
def dragResponse (x1 y1 x2 y2 : Int32) : Response :=
  successResponse "drag".toList
    ("dragged x1=".toList ++ i32Text x1 ++ " y1=".toList ++ i32Text y1 ++ " x2=".toList ++
      i32Text x2 ++ " y2=".toList ++ i32Text y2)
    [("x1", .int x1.toInt), ("y1", .int y1.toInt), ("x2", .int x2.toInt), ("y2", .int y2.toInt),
      ("button", .str "left".toList)]

end RustdeskCli.Cli
