import RustdeskCli.Foundation.Records
import RustdeskCli.Session.Command
import RustdeskCli.Session.JsonText
set_option autoImplicit false
set_option linter.dupNamespace false

/-!
# Session: what goes over the socket (`src/session.rs`)

The forms `#[derive(Serialize, Deserialize)]` gives to a `SessionCommand` and to a
`SessionResponse`: a command is an object with the name of its variant, or the name alone
when the variant has no fields; what is optional is `null`.  A value in a response is a map
whose keys are in order, so it arrives in that form, and a `null` does not arrive at all.
-/

namespace RustdeskCli.Session

open RustdeskCli.Foundation

/-! ## Values as maps -/

namespace Json

/-- A field put among others in the order of the keys, unless its key is there already. -/
def insertNew (key : String) (value : Json) : List (String × Json) → List (String × Json)
  | [] => [(key, value)]
  | (other, old) :: fields =>
      if key = other then (other, old) :: fields
      else if key < other then (key, value) :: (other, old) :: fields
      else (other, old) :: insertNew key value fields

mutual

/-- A `Value`, with its objects as the maps they are: of two fields with one key the later one
is left. -/
def canonical : Json → Json
  | .arr elems => .arr (canonicalElems elems)
  | .obj fields => .obj (canonicalFields fields)
  | value => value

def canonicalElems : List Json → List Json
  | [] => []
  | elem :: elems => canonical elem :: canonicalElems elems

def canonicalFields : List (String × Json) → List (String × Json)
  | [] => []
  | (key, value) :: fields => insertNew key (canonical value) (canonicalFields fields)

end

theorem lookup_insertNew_of_ne {key other : String} (h : key ≠ other) (value : Json)
    (fields : List (String × Json)) :
    (insertNew other value fields).lookup key = fields.lookup key := by
  have hne : (key == other) = false := beq_false_of_ne h
  induction fields with
  | nil => simp [insertNew, List.lookup_cons, hne]
  | cons field fields ih =>
      obtain ⟨first, old⟩ := field
      rw [insertNew]
      split
      · rfl
      · split
        · simp [List.lookup_cons, hne]
        · rw [List.lookup_cons, List.lookup_cons, ih]

theorem lookup_insertNew_self {key : String} (value : Json) {fields : List (String × Json)}
    (h : fields.lookup key = none) : (insertNew key value fields).lookup key = some value := by
  induction fields with
  | nil => simp [insertNew]
  | cons field fields ih =>
      obtain ⟨first, old⟩ := field
      have hne : key ≠ first := by
        rintro rfl
        simp at h
      rw [insertNew, if_neg hne]
      split
      · simp
      · rw [List.lookup_cons, beq_false_of_ne hne] at h ⊢
        exact ih h

theorem lookup_canonicalFields_of_not_mem {key : String} {fields : List (String × Json)}
    (h : key ∉ fields.map Prod.fst) : (canonicalFields fields).lookup key = none := by
  induction fields with
  | nil => rfl
  | cons field fields ih =>
      obtain ⟨first, value⟩ := field
      simp only [List.map_cons, List.mem_cons, not_or] at h
      rw [canonicalFields, lookup_insertNew_of_ne h.1, ih h.2]

/-- Where no key is there twice, the map has the values of the object. -/
theorem lookup_canonicalFields {fields : List (String × Json)} (h : (fields.map Prod.fst).Nodup)
    (key : String) : (canonicalFields fields).lookup key = (fields.lookup key).map canonical := by
  induction fields with
  | nil => rfl
  | cons field fields ih =>
      obtain ⟨first, value⟩ := field
      obtain ⟨hfirst, hrest⟩ := List.nodup_cons.mp h
      rw [canonicalFields, List.lookup_cons]
      by_cases hkey : key = first
      · subst hkey
        rw [lookup_insertNew_self _ (lookup_canonicalFields_of_not_mem hfirst)]
        simp
      · rw [lookup_insertNew_of_ne hkey, ih hrest, beq_false_of_ne hkey]

end Json

/-! ## Fields -/

section Fields

variable {α : Type}

/-- An optional field. -/
def optOf (read : Json → Option α) : Json → Option (Option α)
  | .null => some none
  | value => (read value).map some

/-- An `i32`. -/
def int32Of : Json → Option Int32
  | .int n => if -(2 ^ 31) ≤ n ∧ n < 2 ^ 31 then some (.ofInt n) else none
  | _ => none

/-- A `u8`. -/
def uint8Of : Json → Option UInt8
  | .int (.ofNat n) => if n < 2 ^ 8 then some (.ofNat n) else none
  | _ => none

/-- A `u32`. -/
def uint32Of : Json → Option UInt32
  | .int (.ofNat n) => if n < 2 ^ 32 then some (.ofNat n) else none
  | _ => none

/-- A `u64`. -/
def uint64Of : Json → Option UInt64
  | .int (.ofNat n) => if n < 2 ^ 64 then some (.ofNat n) else none
  | _ => none

@[simp] theorem int32Of_int (n : Int32) : int32Of (.int n.toInt) = some n := by
  rw [int32Of, if_pos ⟨n.le_toInt, n.toInt_lt⟩, Int32.ofInt_toInt]

@[simp] theorem uint8Of_int (n : UInt8) : uint8Of (.int n.toNat) = some n := by
  show (if n.toNat < 2 ^ 8 then some (UInt8.ofNat n.toNat) else none) = some n
  rw [if_pos n.toNat_lt, UInt8.ofNat_toNat]

@[simp] theorem uint32Of_int (n : UInt32) : uint32Of (.int n.toNat) = some n := by
  show (if n.toNat < 2 ^ 32 then some (UInt32.ofNat n.toNat) else none) = some n
  rw [if_pos n.toNat_lt, UInt32.ofNat_toNat]

@[simp] theorem uint64Of_int (n : UInt64) : uint64Of (.int n.toNat) = some n := by
  show (if n.toNat < 2 ^ 64 then some (UInt64.ofNat n.toNat) else none) = some n
  rw [if_pos n.toNat_lt, UInt64.ofNat_toNat]

/-- What is optional is written as itself or as `null`. -/
theorem optOf_orNull {read : Json → Option α} {write : α → Json}
    (hread : ∀ a, read (write a) = some a) (hnull : ∀ a, write a ≠ .null) (a : Option α) :
    optOf read (Session.orNull write a) = some a := by
  cases a with
  | none => rfl
  | some a =>
      show optOf read (write a) = _
      have ha := hread a
      cases h : write a with
      | null => exact absurd h (hnull a)
      | _ =>
          rw [h] at ha
          simp [optOf, ha]

end Fields

/-! ## Commands -/

/-- `CaptureRegion` as JSON. -/
def CaptureRegion.json (r : CaptureRegion) : Json :=
  .obj [("x", .int r.x.toNat), ("y", .int r.y.toNat), ("w", .int r.w.toNat), ("h", .int r.h.toNat)]

/-- `CaptureRegion` from JSON. -/
def CaptureRegion.ofJson (value : Json) : Option CaptureRegion := do
  let x ← (value.get "x").bind uint32Of
  let y ← (value.get "y").bind uint32Of
  let w ← (value.get "w").bind uint32Of
  let h ← (value.get "h").bind uint32Of
  some ⟨x, y, w, h⟩

theorem CaptureRegion.ofJson_json (r : CaptureRegion) : ofJson r.json = some r := by
  simp [ofJson, json, Json.get, List.lookup_cons]

namespace SessionCommand

/-- The name of a command's variant, and its fields where it has any. -/
def form : SessionCommand → String × Option (List (String × Json))
  | .connect peerId password server =>
      ("Connect", some [("peer_id", .str peerId), ("password", Session.orNull .str password),
        ("server", Session.orNull .str server)])
  | .disconnect => ("Disconnect", none)
  | .shell => ("Shell", none)
  | .exec command timeout =>
      ("Exec", some [("command", .str command),
        ("timeout", Session.orNull (fun n : UInt64 => .int n.toNat) timeout)])
  | .push localPath remotePath =>
      ("Push", some [("local_path", .str localPath), ("remote_path", .str remotePath)])
  | .clipboardGet => ("ClipboardGet", none)
  | .clipboardSet text => ("ClipboardSet", some [("text", .str text)])
  | .capture output format quality region display timeoutSecs =>
      ("Capture", some [("output", .str output), ("format", Session.orNull .str format),
        ("quality", Session.orNull (fun n : UInt8 => .int n.toNat) quality),
        ("region", Session.orNull CaptureRegion.json region),
        ("display", Session.orNull (fun n : Int32 => .int n.toInt) display),
        ("timeout_secs", Session.orNull (fun n : UInt64 => .int n.toNat) timeoutSecs)])
  | .type text => ("Type", some [("text", .str text)])
  | .key name => ("Key", some [("key", .str name)])
  | .click x y button double =>
      ("Click", some [("x", .int x.toInt), ("y", .int y.toInt), ("button", .str button),
        ("double", .bool double)])
  | .drag x y x2 y2 button =>
      ("Drag", some [("x", .int x.toInt), ("y", .int y.toInt), ("x2", .int x2.toInt),
        ("y2", .int y2.toInt), ("button", .str button)])
  | .scroll x y delta =>
      ("Scroll", some [("x", .int x.toInt), ("y", .int y.toInt), ("delta", .int delta.toInt)])
  | .move x y => ("Move", some [("x", .int x.toInt), ("y", .int y.toInt)])
  | .status => ("Status", none)
  | .displays => ("Displays", none)

/-- `Serialize` for `SessionCommand`. -/
def json (cmd : SessionCommand) : Json :=
  match cmd.form with
  | (variant, none) => .str variant.toList
  | (variant, some fields) => .obj [(variant, .obj fields)]

/-- The variants without fields. -/
def ofName (variant : String) : Option SessionCommand :=
  match variant with
  | "Disconnect" => some .disconnect
  | "Shell" => some .shell
  | "ClipboardGet" => some .clipboardGet
  | "Status" => some .status
  | "Displays" => some .displays
  | _ => none

/-- The variants with fields. -/
def ofFields (variant : String) (body : Json) : Option SessionCommand :=
  let text := fun key => (body.get key).bind Json.asStr
  let int := fun key => (body.get key).bind int32Of
  match variant with
  | "Connect" => do
      let peerId ← text "peer_id"
      let password ← optOf Json.asStr (body.index "password")
      let server ← optOf Json.asStr (body.index "server")
      some (.connect peerId password server)
  | "Exec" => do
      let command ← text "command"
      let timeout ← optOf uint64Of (body.index "timeout")
      some (.exec command timeout)
  | "Push" => do
      let localPath ← text "local_path"
      let remotePath ← text "remote_path"
      some (.push localPath remotePath)
  | "ClipboardSet" => (text "text").map .clipboardSet
  | "Capture" => do
      let output ← text "output"
      let format ← optOf Json.asStr (body.index "format")
      let quality ← optOf uint8Of (body.index "quality")
      let region ← optOf CaptureRegion.ofJson (body.index "region")
      let display ← optOf int32Of (body.index "display")
      let timeoutSecs ← optOf uint64Of (body.index "timeout_secs")
      some (.capture output format quality region display timeoutSecs)
  | "Type" => (text "text").map .type
  | "Key" => (text "key").map .key
  | "Click" => do
      let x ← int "x"
      let y ← int "y"
      let button ← text "button"
      let double ← (body.get "double").bind Json.asBool
      some (.click x y button double)
  | "Drag" => do
      let x ← int "x"
      let y ← int "y"
      let x2 ← int "x2"
      let y2 ← int "y2"
      let button ← text "button"
      some (.drag x y x2 y2 button)
  | "Scroll" => do
      let x ← int "x"
      let y ← int "y"
      let delta ← int "delta"
      some (.scroll x y delta)
  | "Move" => do
      let x ← int "x"
      let y ← int "y"
      some (.move x y)
  | _ => none

/-- `Deserialize` for `SessionCommand`. -/
def ofJson : Json → Option SessionCommand
  | .str variant => ofName (String.ofList variant)
  | .obj [(variant, body)] => ofFields variant body
  | _ => none

/-- A command is read back from its form. -/
theorem ofJson_json (cmd : SessionCommand) : ofJson cmd.json = some cmd := by
  have htext : ∀ t : Option Text, optOf Json.asStr (Session.orNull .str t) = some t :=
    optOf_orNull (fun _ => rfl) (by simp)
  have hint : ∀ n : Option Int32,
      optOf int32Of (Session.orNull (fun n : Int32 => .int n.toInt) n) = some n :=
    optOf_orNull int32Of_int (by simp)
  have hsecs : ∀ n : Option UInt64,
      optOf uint64Of (Session.orNull (fun n : UInt64 => .int n.toNat) n) = some n :=
    optOf_orNull uint64Of_int (by simp)
  have hquality : ∀ n : Option UInt8,
      optOf uint8Of (Session.orNull (fun n : UInt8 => .int n.toNat) n) = some n :=
    optOf_orNull uint8Of_int (by simp)
  have hregion : ∀ r : Option CaptureRegion,
      optOf CaptureRegion.ofJson (Session.orNull CaptureRegion.json r) = some r :=
    optOf_orNull CaptureRegion.ofJson_json (by simp [CaptureRegion.json])
  cases cmd with
  | disconnect | shell | clipboardGet | status | displays => rfl
  | _ =>
      simp [json, form, ofJson, ofFields, Json.get, Json.index, Json.asStr, Json.asBool,
        List.lookup_cons, htext, hint, hsecs, hquality, hregion]

end SessionCommand

/-! ## Responses -/

namespace Json

/-- An optional value: `null` is none. -/
def unlessNull : Json → Option Json
  | .null => none
  | value => some value

end Json

namespace SessionResponse

/-- `Serialize` for `SessionResponse`. -/
def json (r : SessionResponse) : Json :=
  .obj [("success", .bool r.success), ("message", Session.orNull .str r.message),
    ("data", Session.orNull Json.canonical r.data)]

/-- `Deserialize` for `SessionResponse`. -/
def ofJson (value : Json) : Option SessionResponse := do
  let success ← (value.get "success").bind Json.asBool
  let message ← optOf Json.asStr (value.index "message")
  some ⟨success, message, (value.index "data").unlessNull⟩

/-- A response as it arrives. -/
def received (r : SessionResponse) : SessionResponse :=
  ⟨r.success, r.message, r.data.bind fun data => data.canonical.unlessNull⟩

theorem ofJson_json (r : SessionResponse) : ofJson r.json = some r.received := by
  have htext : ∀ t : Option Text, optOf Json.asStr (Session.orNull .str t) = some t :=
    optOf_orNull (fun _ => rfl) (by simp)
  have hmessage := htext r.message
  have hdata : (Session.orNull Json.canonical r.data).unlessNull = r.received.data := by
    unfold received
    cases r.data <;> rfl
  simp only [ofJson, json, Json.get, Json.index, List.lookup_cons, Option.bind_some, Json.asBool,
    Option.bind_eq_bind, Option.getD_some, String.reduceBEq]
  rw [hmessage, hdata]
  rfl

/-- What is in an object without repeated keys arrives under its key. -/
theorem received_get {success : Bool} {message : Option Text} {fields : List (String × Json)}
    (hkeys : (fields.map Prod.fst).Nodup) (key : String) :
    (received ⟨success, message, some (.obj fields)⟩).data.bind (Json.get key) =
      (fields.lookup key).map Json.canonical :=
  Json.lookup_canonicalFields hkeys key

end SessionResponse

/-! ## Codecs -/

/-- Values of a type in their JSON form.  What is wrong with a text that is refused is not told
here. -/
def jsonCodec {α : Type} (toJson : α → Json) (ofJson : Json → Option α) : Codec α Error where
  write a := (toJson a).write
  read text :=
    match (Json.read text).bind ofJson with
    | some a => .ok a
    | none => .error (.msg "invalid JSON".toList)

/-- Values whose form is an object or a string make a lawful codec. -/
theorem jsonCodec_lawful {α : Type} {toJson : α → Json} {ofJson : Json → Option α}
    {received : α → α}
    (hform : ∀ a, (∃ fields, toJson a = .obj fields) ∨ ∃ text, toJson a = .str text)
    (hread : ∀ a, ofJson (toJson a) = some (received a)) :
    (jsonCodec toJson ofJson).Lawful received := by
  have hwhole : ∀ a, Json.read (toJson a).write = some (toJson a) := by
    intro a
    refine Json.read_write fun n hn => ?_
    rcases hform a with ⟨fields, h⟩ | ⟨text, h⟩ <;> rw [hn] at h <;> cases h
  refine ⟨fun a => Json.lf_not_mem_write _, fun a => Json.trimmed_write (hform a), ?_, ?_, ?_⟩
  · intro a hnil
    have hempty := hwhole a
    rw [show (toJson a).write = [] from hnil] at hempty
    cases hempty
  · intro a
    unfold jsonCodec
    simp only
    rw [hwhole, Option.bind_some, hread]
  · intro a front hfront hne
    unfold jsonCodec
    simp only
    rw [Json.read_front (hwhole a) hfront hne, Option.bind_none]
    exact ⟨_, rfl⟩

/-- The commands on the wire. -/
def commandCodec : Codec SessionCommand Error :=
  jsonCodec SessionCommand.json SessionCommand.ofJson

/-- The responses on the wire. -/
def responseCodec : Codec SessionResponse Error :=
  jsonCodec SessionResponse.json SessionResponse.ofJson

theorem commandCodec_lawful : commandCodec.Lawful id := by
  refine jsonCodec_lawful (fun cmd => ?_) SessionCommand.ofJson_json
  unfold SessionCommand.json
  split
  · exact .inr ⟨_, rfl⟩
  · exact .inl ⟨_, rfl⟩

theorem responseCodec_lawful : responseCodec.Lawful SessionResponse.received :=
  jsonCodec_lawful (fun _ => .inl ⟨_, rfl⟩) SessionResponse.ofJson_json

example : String.ofList (commandCodec.write (.exec "ls".toList (some 30))) =
    "\x7b\"Exec\":\x7b\"command\":\"ls\",\"timeout\":30\x7d\x7d" := by decide +kernel

end RustdeskCli.Session
