import RustdeskCli.Daemon.Stream
set_option autoImplicit false

/-!
# Capture: screenshots (`src/capture.rs`)

A screenshot is requested on the stream and waited for, cropped and encoded as asked,
and handed to the client as base64 inside JSON.  Decoding and encoding images is the
work of a library, which is a parameter here.
-/

namespace RustdeskCli.Capture

open RustdeskCli.Foundation
open RustdeskCli.Session
open RustdeskCli.Terminal
open RustdeskCli.Exec
open RustdeskCli.Daemon

/-- `CaptureOptions`. -/
structure CaptureOptions where
  format : Option Text
  quality : Option UInt8
  region : Option CaptureRegion
  display : Option Int32
  deriving DecidableEq, Repr

/-! ## Images -/

/-- The image library, with images of type `ι`. -/
structure ImageLib (ι : Type) where
  loadFromMemory : Bytes → Except Error ι
  dimensions : ι → UInt32 × UInt32
  cropImm : ι → CaptureRegion → ι
  writeJpeg : ι → UInt8 → Except Error Bytes
  writePng : ι → Except Error Bytes

/-- `str::eq_ignore_ascii_case`. -/
def eqIgnoreAsciiCase (a b : Text) : Bool := a.map Char.toLower = b.map Char.toLower

/-- The decimal text of a `u32`. -/
def u32Text (n : UInt32) : Text := (toString n.toNat).toList

/-- The error of a region outside of the image. -/
def regionError (region : CaptureRegion) (width height : UInt32) : Error :=
  .msg ("capture region ".toList ++ u32Text region.x ++ ",".toList ++ u32Text region.y ++
    ",".toList ++ u32Text region.w ++ ",".toList ++ u32Text region.h ++
    " exceeds image bounds ".toList ++ u32Text width ++ "x".toList ++ u32Text height)

section Image

variable {ι : Type} (lib : ImageLib ι)

/-- `crop_image`. -/
def cropImage (image : ι) (region : CaptureRegion) : Except Error ι :=
  let (width, height) := lib.dimensions image
  if region.x.toNat + region.w.toNat ≥ 2 ^ 32 then
    .error (.msg "capture region x overflow".toList)
  else if region.y.toNat + region.h.toNat ≥ 2 ^ 32 then
    .error (.msg "capture region y overflow".toList)
  else if region.x + region.w > width ∨ region.y + region.h > height then
    .error (regionError region width height)
  else .ok (lib.cropImm image region)

/-- `encode_image`. -/
def encodeImage (image : ι) (options : CaptureOptions) : Except Error Bytes :=
  let format := options.format.getD "png".toList
  if eqIgnoreAsciiCase format "jpg".toList || eqIgnoreAsciiCase format "jpeg".toList then
    (lib.writeJpeg image (options.quality.getD 90)).mapError
      (·.context "encoding screenshot as JPEG".toList)
  else (lib.writePng image).mapError (·.context "encoding screenshot as PNG".toList)

/-- `process_screenshot_bytes`: without region, quality or another format than PNG the
bytes are handed on as they are. -/
def processScreenshotBytes (bytes : Bytes) (options : CaptureOptions) : Except Error Bytes :=
  let needsProcessing :=
    options.region.isSome ||
      options.format.any (fun format => !eqIgnoreAsciiCase format "png".toList) ||
      options.quality.isSome
  if !needsProcessing then .ok bytes
  else
    match lib.loadFromMemory bytes with
    | .error e => .error (e.context "decoding screenshot image".toList)
    | .ok image =>
        match options.region with
        | none => encodeImage lib image options
        | some region =>
            match cropImage lib image region with
            | .error e => .error e
            | .ok image => encodeImage lib image options

/-! ## The request -/

/-- The receive loop of `request_screenshot_with_sid`; `none` when the caller's timer ends
it. -/
def recvScreenshot (sid : Text) (options : CaptureOptions) :
    List Event → Stream → Option (Except Error Bytes) × Stream
  | [], s =>
      (s.lost.map fun e => .error (e.context "waiting for ScreenshotResponse".toList),
        { s with inbox := [] })
  | .line _ :: inbox, s => recvScreenshot sid options inbox s
  | .elapsed _ :: inbox, s => (none, { s with inbox := inbox })
  | .frame (.failed e) :: inbox, s =>
      (some (.error (e.context "waiting for ScreenshotResponse".toList)),
        { s with inbox := inbox })
  | .frame (.undecodable e) :: inbox, s =>
      (some (.error (e.context "decoding screenshot Message".toList)), { s with inbox := inbox })
  | .frame (.message (.screenshotResponse response)) :: inbox, s =>
      if response.sid ≠ sid then recvScreenshot sid options inbox s
      else if response.msg ≠ [] then
        (some (.error (.msg ("screenshot failed: ".toList ++ response.msg))),
          { s with inbox := inbox })
      else (some (processScreenshotBytes lib response.data options), { s with inbox := inbox })
  | .frame _ :: inbox, s => recvScreenshot sid options inbox s

/-- `request_screenshot`, with the session id it makes up; `none` when the caller's timer
ends it. -/
def requestScreenshot (sid : Text) (options : CaptureOptions) (s : Stream) :
    Option (Except Error Bytes) × Stream :=
  match s.send (.screenshotRequest (options.display.getD 0) sid) with
  | (.error e, s) => (some (.error (e.context "sending ScreenshotRequest".toList)), s)
  | (.ok (), s) => recvScreenshot lib sid options s.inbox s

/-- `request_screenshot_with_sid`; `none` when the caller's timer ends it. -/
def requestScreenshotWithSid (display : Int32) (sid : Text) (options : CaptureOptions)
    (s : Stream) : Option (Except Error Bytes) × Stream :=
  match s.send (.screenshotRequest display sid) with
  | (.error e, s) => (some (.error (e.context "sending ScreenshotRequest".toList)), s)
  | (.ok (), s) => recvScreenshot lib sid options s.inbox s

theorem requestScreenshot_eq (sid : Text) (options : CaptureOptions) (s : Stream) :
    requestScreenshot lib sid options s =
      requestScreenshotWithSid lib (options.display.getD 0) sid options s := rfl

end Image

/-! ## Base64 -/

/-- `ALPHABET`. -/
def alphabet : Text :=
  "ABCDEFGHIJKLMNOPQRSTUVWXYZabcdefghijklmnopqrstuvwxyz0123456789+/".toList

/-- The letter of six bits. -/
def letter (bits : UInt8) : Char := alphabet.getD bits.toNat '='

/-- `base64_encode`, three bytes at a time. -/
def base64Encode : Bytes → Text
  | [] => []
  | [b0] => [letter (b0 >>> 2), letter ((b0 &&& 0x03) <<< 4), '=', '=']
  | [b0, b1] =>
      [letter (b0 >>> 2), letter (((b0 &&& 0x03) <<< 4) ||| (b1 >>> 4)),
        letter ((b1 &&& 0x0f) <<< 2), '=']
  | b0 :: b1 :: b2 :: rest =>
      letter (b0 >>> 2) :: letter (((b0 &&& 0x03) <<< 4) ||| (b1 >>> 4)) ::
        letter (((b1 &&& 0x0f) <<< 2) ||| (b2 >>> 6)) :: letter (b2 &&& 0x3f) :: base64Encode rest

/-- `val`: the six bits of a letter. -/
def letterValue (c : UInt8) : Except Error UInt8 :=
  if 65 ≤ c ∧ c ≤ 90 then .ok (c - 65)
  else if 97 ≤ c ∧ c ≤ 122 then .ok (c - 97 + 26)
  else if 48 ≤ c ∧ c ≤ 57 then .ok (c - 48 + 52)
  else if c = 43 then .ok 62
  else if c = 47 then .ok 63
  else .error (.msg ("invalid base64 character: ".toList ++ [Char.ofNat c.toNat]))

/-- The six bits of a letter that may be padding. -/
def letterOrPad (c : UInt8) : Except Error UInt8 := if c = 61 then .ok 0 else letterValue c

/-- What one group of four letters stands for. -/
def base64Group (a b c d : UInt8) : Except Error Bytes := do
  let pad := ([d, c, b, a].takeWhile (· = 61)).length
  let c0 ← letterValue a
  let c1 ← letterValue b
  let c2 ← letterOrPad c
  let c3 ← letterOrPad d
  let n := (c0.toUInt32 <<< 18) ||| (c1.toUInt32 <<< 12) ||| (c2.toUInt32 <<< 6) ||| c3.toUInt32
  return [((n >>> 16) &&& 0xff).toUInt8] ++
    (if pad < 2 then [((n >>> 8) &&& 0xff).toUInt8] else []) ++
    (if pad < 1 then [(n &&& 0xff).toUInt8] else [])

/-- The loop of `base64_decode`. -/
def base64Groups : Bytes → Except Error Bytes
  | a :: b :: c :: d :: rest => do
      let head ← base64Group a b c d
      let tail ← base64Groups rest
      return head ++ tail
  | _ => .ok []

/-- `base64_decode`. -/
def base64Decode (input : Text) : Except Error Bytes :=
  let bytes := textBytes input
  if bytes.length % 4 ≠ 0 then .error (.msg "invalid base64 length".toList)
  else base64Groups bytes

/-! ## What a request does to the stream -/

/-- The message asks for a screenshot. -/
def IsScreenshotRequest (m : Outgoing) : Prop := ∃ display sid, m = .screenshotRequest display sid

/-- Waiting for the screenshot sends nothing. -/
theorem recvScreenshot_stream {ι : Type} (lib : ImageLib ι) (sid : Text)
    (options : CaptureOptions) (inbox : List Event) (s : Stream) :
    ∃ left, (recvScreenshot lib sid options inbox s).2 = { s with inbox := left } := by
  fun_induction recvScreenshot lib sid options inbox s with
  | case1 => exact ⟨[], rfl⟩
  | case2 _ _ _ ih => exact ih
  | case3 => exact ⟨_, rfl⟩
  | case4 => exact ⟨_, rfl⟩
  | case5 => exact ⟨_, rfl⟩
  | case6 _ _ _ _ ih => exact ih
  | case7 => exact ⟨_, rfl⟩
  | case8 => exact ⟨_, rfl⟩
  | case9 _ _ _ _ _ _ ih => exact ih

/-- A request for a screenshot sends the request and nothing else. -/
theorem requestScreenshot_extends {ι : Type} (lib : ImageLib ι) (sid : Text)
    (options : CaptureOptions) (s : Stream) :
    s.Extends IsScreenshotRequest (requestScreenshot lib sid options s).2 := by
  have hsend := s.send_extends (P := IsScreenshotRequest)
    (m := .screenshotRequest (options.display.getD 0) sid) ⟨_, _, rfl⟩
  unfold requestScreenshot
  split <;> rename_i h <;> rw [h] at hsend
  · exact hsend
  · rename_i s₁
    obtain ⟨left, hleft⟩ := recvScreenshot_stream lib sid options s₁.inbox s₁
    rw [hleft]
    exact ⟨hsend.login, hsend.lost, hsend.sent⟩

end RustdeskCli.Capture
