import RustdeskCli.Cli.CarriedOut
import RustdeskCli.Cli.Served
import RustdeskCli.Connection.Base64
set_option autoImplicit false

/-!
# Cli: from the peer's screen to a file (`src/main.rs`, `src/daemon.rs`, `src/capture.rs`)

A screenshot comes from the peer as an image, is cropped and encoded by the daemon, goes in
base64 inside a JSON line to the client, and is written to a file or to the standard output.
Here that way is followed as a whole, from the command line to the bytes that are written.
-/

namespace RustdeskCli.Cli

open RustdeskCli.Foundation
open RustdeskCli.Session
open RustdeskCli.Daemon
open RustdeskCli.Capture

/-! ## The daemon's side -/

section Screen

variable {ι : Type} {lib : ImageLib ι} {sid : Text} {options : CaptureOptions}

/-- Among these events, the peer's first answer to the screenshot request `sid` has this data. -/
def Screened (sid : Text) (events : List Event) (data : Bytes) : Prop :=
  ∃ before response after,
    events = before ++ .frame (.message (.screenshotResponse response)) :: after ∧
      (∀ other, .frame (.message (.screenshotResponse other)) ∈ before → other.sid ≠ sid) ∧
      response.sid = sid ∧ response.msg = [] ∧ response.data = data

/-- An event in front that is no answer to the request. -/
theorem Screened.cons {events : List Event} {data : Bytes} {event : Event}
    (hevent : ∀ other, event = .frame (.message (.screenshotResponse other)) → other.sid ≠ sid)
    (h : Screened sid events data) : Screened sid (event :: events) data := by
  obtain ⟨before, response, after, rfl, hbefore, hanswer⟩ := h
  refine ⟨event :: before, response, after, rfl, ?_, hanswer⟩
  intro other hother
  rcases List.mem_cons.mp hother with heq | hmem
  · exact hevent other heq.symm
  · exact hbefore other hmem

/-- The receive loop returns an image only for an answer to its request. -/
theorem screened_of_recv {inbox : List Event} {s : Stream} {bytes : Bytes}
    (h : (recvScreenshot lib sid options inbox s).1 = some (.ok bytes)) :
    ∃ data, Screened sid inbox data ∧ processScreenshotBytes lib data options = .ok bytes := by
  induction inbox with
  | nil =>
      rw [recvScreenshot] at h
      cases hlost : s.lost with
      | none => simp [hlost] at h
      | some e => simp [hlost] at h
  | cons event inbox ih =>
      have hlater (hevent : ∀ other, event = .frame (.message (.screenshotResponse other)) →
          other.sid ≠ sid) (hrest : (recvScreenshot lib sid options inbox s).1 = some (.ok bytes)) :
          ∃ data, Screened sid (event :: inbox) data ∧
            processScreenshotBytes lib data options = .ok bytes := by
        obtain ⟨data, hscreened, hbytes⟩ := ih hrest
        exact ⟨data, hscreened.cons hevent, hbytes⟩
      rcases event with (_ | m | e | e) | timer | line
      · exact hlater (fun other heq => nomatch heq) h
      · cases m with
        | screenshotResponse response =>
            rw [recvScreenshot] at h
            split at h
            · rename_i hsid
              refine hlater ?_ h
              rintro other ⟨⟩
              exact hsid
            · rename_i hsid
              split at h
              · cases h
              · rename_i hmsg
                exact ⟨response.data, ⟨[], response, inbox, rfl, by simp, not_not.mp hsid,
                  not_not.mp hmsg, rfl⟩, Option.some.inj h⟩
        | _ => exact hlater (fun other heq => nomatch heq) h
      · cases h
      · cases h
      · cases h
      · exact hlater (fun other heq => nomatch heq) h

/-- The daemon's answer with an image. -/
def capturedResponse (bytes : Bytes) : SessionResponse :=
  .okWithData "Screenshot captured".toList
    (.obj [("bytes_b64", .str (base64Encode bytes)), ("bytes", .int bytes.length),
      ("format", .str "png".toList)])

/-- A capture command that succeeds answers with an image of the peer. -/
theorem runCommand_capture {env : CommandEnv} {wakes : List Stream.Wake} {d d' : DaemonLoop}
    {uds uds' : Uds} {resp : SessionResponse} {output : Text} {format : Option Text}
    {quality : Option UInt8} {region : Option CaptureRegion} {display : Option Int32}
    {timeoutSecs : Option UInt64}
    (h : d.runCommand lib (.capture output format quality region display timeoutSecs) env wakes
      uds = some (.ok resp, d', uds')) :
    ∃ data bytes, resp = capturedResponse bytes ∧
      Screened (screenshotSid env) (d.encrypted.schedule wakes).inbox data ∧
      processScreenshotBytes lib data ⟨format, quality, region, display⟩ = .ok bytes := by
  rw [DaemonLoop.runCommand_eq] at h
  have hdone := (Prod.mk.inj (Option.some.inj h)).1
  unfold executeDaemonCommand at hdone
  simp only at hdone
  split at hdone
  · cases hdone
  · cases hdone
  · rename_i bytes s' hshot
    unfold requestScreenshot at hshot
    split at hshot
    · cases hshot
    · rename_i s₁ hsend
      have hinbox := (d.encrypted.schedule wakes).send_inbox
        (.screenshotRequest (display.getD 0) (screenshotSid env))
      rw [hsend] at hinbox
      obtain ⟨data, hscreened, hbytes⟩ := screened_of_recv (congrArg Prod.fst hshot)
      exact ⟨data, bytes, (Except.ok.inj hdone).symm, hinbox ▸ hscreened, hbytes⟩

/-- The peer's answer to the screenshot request of a run of the command has this data. -/
def Captured (lib : ImageLib ι) (req : Request) (cmd : SessionCommand) (d : DaemonLoop)
    (data : Bytes) : Prop :=
  ∃ env wakes run uds, RunsOn lib req cmd d env wakes run uds ∧
    Screened (screenshotSid env) (run.encrypted.schedule wakes).inbox data

/-- A capture that is carried out ends with an image of the peer. -/
theorem captured_of_carriedOut {req : Request} {d : DaemonLoop} {output : Text}
    {format : Option Text} {quality : Option UInt8} {region : Option CaptureRegion}
    {display : Option Int32} {timeoutSecs : Option UInt64} {partials : List SessionResponse}
    {final : SessionResponse}
    (h : CarriedOut lib req (.capture output format quality region display timeoutSecs) d partials
      final) :
    ∃ data bytes, final = capturedResponse bytes ∧
      Captured lib req (.capture output format quality region display timeoutSecs) d data ∧
      processScreenshotBytes lib data ⟨format, quality, region, display⟩ = .ok bytes := by
  obtain ⟨env, wakes, run, uds, run', uds', hon, hresult, _⟩ := h
  replace hresult : run.runCommand lib
      (.capture output format quality region display timeoutSecs) env wakes uds =
    some (.ok final, run', uds') := hresult
  obtain ⟨data, bytes, hfinal, hscreened, hbytes⟩ := runCommand_capture hresult
  exact ⟨data, bytes, hfinal, ⟨env, wakes, run, uds, hon, hscreened⟩, hbytes⟩

end Screen

/-! ## The client's side -/

/-- What was encoded is decoded to itself. -/
theorem base64Decode_encode (bytes : Bytes) : base64Decode (base64Encode bytes) = .ok bytes := by
  unfold base64Decode
  simp only [Connection.length_base64Encode, Nat.mul_mod_right, ne_eq, not_true_eq_false, if_false]
  exact Connection.base64Groups_encode bytes

/-- The image is found in the answer as it arrives. -/
theorem payload_of_captured (bytes : Bytes) :
    ∃ data, (capturedResponse bytes).received.data = some data ∧
      (data.get "bytes_b64").bind Json.asStr = some (base64Encode bytes) := by
  have hkeys : ([("bytes_b64", Json.str (base64Encode bytes)), ("bytes", .int bytes.length),
      ("format", .str "png".toList)].map Prod.fst).Nodup := by
    show ["bytes_b64", "bytes", "format"].Nodup
    decide
  have hget : (capturedResponse bytes).received.data.bind (Json.get "bytes_b64") =
      some (.str (base64Encode bytes)) := SessionResponse.received_get hkeys "bytes_b64"
  obtain ⟨data, hdata, hpayload⟩ := Option.bind_eq_some_iff.mp hget
  exact ⟨data, hdata, by rw [hpayload]; rfl⟩

/-! ## The image that is written -/

section Encoding

variable {ι : Type} {lib : ImageLib ι}

/-- The part of an image that a region names; all of it without one. -/
def cropTo (lib : ImageLib ι) (region : Option CaptureRegion) (image : ι) : Except Error ι :=
  region.elim (.ok image) (cropImage lib image)

/-- An image in one of the two formats. -/
def CaptureFormat.encode (lib : ImageLib ι) (quality : UInt8) (image : ι) :
    CaptureFormat → Except Error Bytes
  | .png => lib.writePng image
  | .jpg => lib.writeJpeg image quality

theorem encodeImage_of_format {format : CaptureFormat} {quality : UInt8} {image : ι}
    {region : Option CaptureRegion} {display : Option Int32} {bytes : Bytes}
    (h : encodeImage lib image ⟨some format.asStr, some quality, region, display⟩ = .ok bytes) :
    format.encode lib quality image = .ok bytes := by
  have hok {e : Except Error Bytes} {f : Error → Error} (he : e.mapError f = .ok bytes) :
      e = .ok bytes := by
    cases e with
    | ok made => exact he
    | error e => cases he
  cases format with
  | png => exact hok h
  | jpg => exact hok h

/-- A client names a quality whatever the format, so the peer's image is always decoded,
cropped and encoded anew. -/
theorem processed_of_quality {format : CaptureFormat} {quality : UInt8} {data bytes : Bytes}
    {region : Option CaptureRegion} {display : Option Int32}
    (h : processScreenshotBytes lib data ⟨some format.asStr, some quality, region, display⟩ =
      .ok bytes) :
    ∃ image shown, lib.loadFromMemory data = .ok image ∧ cropTo lib region image = .ok shown ∧
      format.encode lib quality shown = .ok bytes := by
  unfold processScreenshotBytes at h
  simp only [Option.isSome_some, Bool.or_true, Bool.not_true, Bool.false_eq_true, if_false] at h
  split at h
  · cases h
  · rename_i image hload
    cases region with
    | none => exact ⟨image, image, hload, rfl, encodeImage_of_format h⟩
    | some region =>
        simp only at h
        split at h
        · cases h
        · rename_i shown hcrop
          exact ⟨image, shown, hload, hcrop, encodeImage_of_format h⟩

end Encoding

section Client

variable {ι : Type} {lib : ImageLib ι}
variable {commands : Codec SessionCommand Error} {responses : Codec SessionResponse Error}

/-- What `capture` prints after it has written an image. -/
def captureEmitted (json : Bool) (file : Option Text) (display : Option Int32)
    (format : Option CaptureFormat) (timeout : UInt64) (region : Option Region) (bytes : Bytes) :
    Emitted :=
  if file.isNone && !json then .image
  else
    .response (captureResultResponse file (responseFormat file format) region display timeout
      bytes.length)

/-- The client writes the image that the answer carries, or fails. -/
theorem captureSuccess_captured {json : Bool} {env : Env} {file : Option Text}
    {display : Option Int32} {format : Option CaptureFormat} {timeout : UInt64}
    {region : Option Region} {bytes : Bytes}
    {sent : List (SessionCommand × Except Error SessionResponse)}
    (h : (Outcome.mk (captureSuccess json env file display format timeout region
      (capturedResponse bytes).received) sent).exitCode = exitSuccess) :
    env.write file bytes = .ok () ∧
      captureSuccess json env file display format timeout region (capturedResponse bytes).received =
        captureEmitted json file display format timeout region bytes := by
  obtain ⟨data, hdata, hpayload⟩ := payload_of_captured bytes
  unfold captureSuccess at h ⊢
  simp only [hdata, hpayload, Option.getD_some, base64Decode_encode] at h ⊢
  unfold writeCaptureOutput at h ⊢
  cases hwrite : env.write file bytes with
  | error e =>
      rw [hwrite] at h
      exact absurd h exitConnection_ne
  | ok done =>
      exact ⟨rfl, rfl⟩

/-- A `capture` that succeeds over a daemon has written an image of the peer: the first answer to
the screenshot request of one of its runs, cropped to the region, in the format and quality of
the command line.  What it prints counts the bytes that were written. -/
theorem capture_writes_screenshot (hcommands : commands.Lawful id)
    (hresponses : responses.Lawful SessionResponse.received) (json : Bool) (env : Env)
    (d : DaemonLoop) (req : Request)
    (hdaemon : env.daemon = daemonOver lib commands responses d req)
    (file : Option Text) (display : Option Int32) (format : Option CaptureFormat)
    (quality : UInt8) (timeout : UInt64) (region : Option Region)
    (hsuccess : (runCapture json env file display format quality timeout region).exitCode =
      exitSuccess) :
    ∃ data image shown bytes,
      Captured lib req (captureCommand file display format quality timeout region) d data ∧
      lib.loadFromMemory data = .ok image ∧
      cropTo lib (region.map Region.toCaptureRegion) image = .ok shown ∧
      (responseFormat file format).encode lib quality shown = .ok bytes ∧
      env.write file bytes = .ok () ∧
      (runCapture json env file display format quality timeout region).emitted =
        captureEmitted json file display format timeout region bytes := by
  have hshell : captureCommand file display format quality timeout region ≠ .shell := nofun
  have hasked : runCapture json env file display format quality timeout region =
      ask env.daemon (captureCommand file display format quality timeout region) "capture".toList
        "capture failed".toList (captureSuccess json env file display format timeout region) := by
    unfold runCapture
    rw [hdaemon]
    rfl
  rw [hasked] at hsuccess ⊢
  unfold ask answerEmitted at hsuccess ⊢
  simp only at hsuccess ⊢
  cases hresp : sendToDaemon env.daemon
      (captureCommand file display format quality timeout region) with
  | error e =>
      rw [hresp] at hsuccess
      exact absurd hsuccess exitConnection_ne
  | ok resp =>
      rw [hresp] at hsuccess
      cases htold : resp.success with
      | false =>
          simp only [htold, Bool.false_eq_true, if_false] at hsuccess
          exact absurd hsuccess exitConnection_ne
      | true =>
          simp only [htold, if_true] at hsuccess ⊢
          rw [hdaemon] at hresp
          obtain ⟨final, rfl, hcarried⟩ :=
            carriedOut_of_sendToDaemon hcommands hresponses hshell rfl hresp htold
          obtain ⟨data, bytes, rfl, hcaptured, hbytes⟩ := captured_of_carriedOut hcarried
          obtain ⟨image, shown, hload, hcrop, hencode⟩ := processed_of_quality hbytes
          obtain ⟨hwrite, hemitted⟩ := captureSuccess_captured hsuccess
          exact ⟨data, image, shown, bytes, hcaptured, hload, hcrop, hencode, hwrite, hemitted⟩

end Client

/-- An image library whose images are their bytes; a byte in front tells the format. -/
def markedImages : ImageLib Bytes where
  loadFromMemory bytes := .ok bytes
  dimensions _ := (0, 0)
  cropImm image _ := image
  writeJpeg image _ := .ok (0xFF :: image)
  writePng image := .ok (0x89 :: image)

/-- The daemon when its peer has sent a screenshot of three bytes. -/
def capturedDaemon : DaemonLoop :=
  { sampleDaemon with
    encrypted := { sampleDaemon.encrypted with
      inbox := [.frame (.message (.screenshotResponse
        ⟨"rustdesk-cli-100-0".toList, [], [1, 2, 3]⟩))] } }

/-- A client of that daemon whose writes all succeed. -/
def capturedEnv : Env where
  candidates := []
  console := ⟨false, .ok (), .ok []⟩
  daemon := daemonOver markedImages commandCodec responseCodec capturedDaemon
    (sampleRequest (.ok .status) [] (.error (.msg "refused".toList)))
  write _ _ := .ok ()

/-- The screenshot of three bytes ends up in a file, as a PNG. -/
theorem capture_writes_screenshot_png :
    ∃ data bytes,
      Captured markedImages (sampleRequest (.ok .status) [] (.error (.msg "refused".toList)))
        (captureCommand (some "a.png".toList) none none 90 10 none) capturedDaemon data ∧
      bytes = 0x89 :: data ∧
      (runCapture false capturedEnv (some "a.png".toList) none none 90 10 none).emitted =
        captureEmitted false (some "a.png".toList) none none 10 none bytes := by
  obtain ⟨data, image, shown, bytes, hcaptured, hload, hcrop, hencode, _, hemitted⟩ :=
    capture_writes_screenshot commandCodec_lawful responseCodec_lawful false capturedEnv
      capturedDaemon _ rfl (some "a.png".toList) none none 90 10 none (by decide +kernel)
  obtain rfl : data = image := Except.ok.inj hload
  obtain rfl : data = shown := Except.ok.inj hcrop
  have hformat : responseFormat (some "a.png".toList) none = .png := by decide
  rw [hformat] at hencode
  exact ⟨data, bytes, hcaptured, (Except.ok.inj hencode).symm, hemitted⟩

end RustdeskCli.Cli
