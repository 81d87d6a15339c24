import RustdeskCli.Cli.Responses
set_option autoImplicit false

/-!
# Cli: batches (`src/main.rs`)

`do` reads its arguments as a sequence of commands, each begun by its verb.  The parser
walks along the tokens with an index; here it is handed the tokens that are left and
returns those after the step.  What a step answers is made up by `step_to_response` from
the arguments of the step alone.
-/

namespace RustdeskCli.Cli

open RustdeskCli.Foundation
open RustdeskCli.Session
open RustdeskCli.Capture

/-- `BatchStep`. -/
structure BatchStep where
  command : Text
  args : List Text
  deriving DecidableEq, Repr

/-- `BatchResponse`. -/
structure BatchResponse where
  lines : List Text
  json : Json
  exitCode : Int

/-! ## Arguments of a step -/

/-- The verbs of `is_step_command`. -/
def stepCommands : List Text :=
  ["connect".toList, "disconnect".toList, "shell".toList, "exec".toList, "clipboard".toList,
    "status".toList, "displays".toList, "capture".toList, "type".toList, "key".toList,
    "click".toList, "scroll".toList, "move".toList, "drag".toList]

/-- `is_step_command`. -/
def isStepCommand (token : Text) : Bool := stepCommands.contains token

/-- What `starts_with("--")` tells apart. -/
def isFlag (token : Text) : Bool := "--".toList.isPrefixOf token

/-- `flag_value`: the argument after the first that is the flag. -/
def flagValue (flag : Text) : List Text → Option Text
  | first :: second :: args =>
      if first = flag then some second else flagValue flag (second :: args)
  | _ => none

theorem flagValue_cons_of_ne {flag first : Text} (args : List Text) (h : first ≠ flag) :
    flagValue flag (first :: args) = flagValue flag args := by
  cases args with
  | nil => rfl
  | cons second args => rw [flagValue, if_neg h]

/-- `flag_present`. -/
def flagPresent (flag : Text) (args : List Text) : Bool := args.any (· = flag)

/-- The loop of `first_non_flag_arg`. -/
def firstNonFlagFrom : Bool → List Text → Option Text
  | _, [] => none
  | true, _ :: args => firstNonFlagFrom false args
  | false, arg :: args => if isFlag arg then firstNonFlagFrom true args else some arg

/-- `first_non_flag_arg`: every flag hides the argument after it. -/
def firstNonFlagArg (args : List Text) : Option Text := firstNonFlagFrom false args

/-- The loop of `positional_args`. -/
def positionalsFrom : Bool → List Text → List Text
  | _, [] => []
  | true, _ :: args => positionalsFrom false args
  | false, arg :: args =>
      if isFlag arg then positionalsFrom true args else arg :: positionalsFrom false args

/-- `positional_args`. -/
def positionalArgs (args : List Text) : List Text := positionalsFrom false args

/-- `parse_capture_format`. -/
def parseCaptureFormat (value : Text) : Option CaptureFormat :=
  if value = "png".toList then some .png
  else if value = "jpg".toList ∨ value = "jpeg".toList then some .jpg
  else none

/-- `parse_mouse_button`. -/
def parseMouseButton (value : Text) : Option MouseButton :=
  if value = "left".toList then some .left
  else if value = "right".toList then some .right
  else if value = "middle".toList then some .middle
  else none

/-- One item of `parse_modifier_list`, which does not know `meta`. -/
def parseModifier (item : Text) : Option Modifier :=
  if item = "ctrl".toList then some .ctrl
  else if item = "shift".toList then some .shift
  else if item = "alt".toList then some .alt
  else none

/-- `parse_modifier_list`. -/
def parseModifierList (value : Text) : List Modifier := (value.splitOn ',').filterMap parseModifier

/-! ## Parsing -/

/-- What the parser of a step returns: the arguments, and the tokens after the step. -/
abbrev StepParse := Except Text (List Text × List Text)

/-- A step with a fixed number of arguments. -/
def parseFixedStep (count : Nat) (message : Text) (tokens : List Text) : StepParse :=
  if tokens.length < count then .error message else .ok (tokens.take count, tokens.drop count)

/-- What `parse_click_step` returns when its loop is over. -/
def finishClick (args : List Text) (positional : Nat) (tokens : List Text) : StepParse :=
  if positional < 2 then .error "click requires x and y".toList else .ok (args, tokens)

/-- The loop of `parse_click_step`. -/
def parseClickFrom (args : List Text) (positional : Nat) : List Text → StepParse
  | [] => finishClick args positional []
  | token :: tokens =>
      if positional ≥ 2 ∧ isStepCommand token then finishClick args positional (token :: tokens)
      else if token = "--button".toList then
        match tokens with
        | [] => .error "click flag --button requires a value".toList
        | value :: tokens => parseClickFrom (args ++ [token, value]) positional tokens
      else if token = "--double".toList then parseClickFrom (args ++ [token]) positional tokens
      else if isFlag token then
        .error ("unsupported click flag '".toList ++ token ++ "'".toList)
      else if positional + 1 ≥ 2 ∧ tokens.head?.any isStepCommand then
        finishClick (args ++ [token]) (positional + 1) tokens
      else parseClickFrom (args ++ [token]) (positional + 1) tokens

/-- `parse_click_step`. -/
def parseClickStep (tokens : List Text) : StepParse := parseClickFrom [] 0 tokens

section Flagged

variable (valueFlags : List Text) (requiredPositionals : Nat)

/-- What `parse_flagged_step` returns when its loop is over. -/
def finishFlagged (args : List Text) (positional : Nat) (tokens : List Text) : StepParse :=
  if positional < requiredPositionals then .error "missing required positional argument".toList
  else .ok (args, tokens)

/-- The loop of `parse_flagged_step`. -/
def parseFlaggedFrom (args : List Text) (positional : Nat) : List Text → StepParse
  | [] => finishFlagged requiredPositionals args positional []
  | token :: tokens =>
      if positional ≥ requiredPositionals ∧ isStepCommand token then
        finishFlagged requiredPositionals args positional (token :: tokens)
      else if valueFlags.contains token then
        match tokens with
        | [] => .error ("flag '".toList ++ token ++ "' requires a value".toList)
        | value :: tokens => parseFlaggedFrom (args ++ [token, value]) positional tokens
      else if isFlag token then .error ("unsupported flag '".toList ++ token ++ "'".toList)
      else parseFlaggedFrom (args ++ [token]) (positional + 1) tokens

/-- `parse_flagged_step`. -/
def parseFlaggedStep (tokens : List Text) : StepParse :=
  parseFlaggedFrom valueFlags requiredPositionals [] 0 tokens

end Flagged

/-- A step that is parsed with flags, one of which it must have. -/
def requireFlag (flag message : Text) (parsed : StepParse) : StepParse :=
  match parsed with
  | .error e => .error e
  | .ok (args, tokens) =>
      if (flagValue flag args).isNone then .error message else .ok (args, tokens)

/-- `parse_clipboard_step`. -/
def parseClipboardStep : List Text → StepParse
  | [] => .error "clipboard requires an action".toList
  | action :: tokens =>
      if action = "get".toList then .ok ([action], tokens)
      else if action = "set".toList then
        (requireFlag "--text".toList "clipboard set requires --text <TEXT>".toList
          (parseFlaggedStep ["--text".toList] 0 tokens)).map
          fun (args, tokens) => (action :: args, tokens)
      else .error ("unknown clipboard action '".toList ++ action ++ "'".toList)

/-- How `parse_batch_steps` reads the arguments of a step, by its verb. -/
def stepParsers : List (Text × (List Text → StepParse)) :=
  [("disconnect".toList, parseFixedStep 0 []),
    ("status".toList, parseFixedStep 0 []),
    ("displays".toList, parseFixedStep 0 []),
    ("shell".toList, parseFixedStep 0 []),
    ("type".toList, parseFixedStep 1 "type requires one text argument".toList),
    ("scroll".toList, parseFixedStep 3 "scroll requires x y delta".toList),
    ("move".toList, parseFixedStep 2 "move requires x and y".toList),
    ("drag".toList, parseFixedStep 4 "drag requires x1 y1 x2 y2".toList),
    ("click".toList, parseClickStep),
    ("clipboard".toList, parseClipboardStep),
    ("connect".toList,
      parseFlaggedStep ["--password".toList, "--server".toList, "--timeout".toList] 1),
    ("exec".toList, fun tokens =>
      requireFlag "--command".toList "exec requires --command <CMD>".toList
        (parseFlaggedStep ["--command".toList] 0 tokens)),
    ("key".toList, parseFlaggedStep ["--modifiers".toList] 1),
    ("capture".toList,
      parseFlaggedStep ["--display".toList, "--format".toList, "--quality".toList,
        "--region".toList, "--timeout".toList] 0)]

/-- The error of a verb that is none. -/
def unknownBatchCommand (command : Text) : Text :=
  "unknown batch command '".toList ++ command ++ "'".toList

/-- The arguments of one step of `parse_batch_steps`. -/
def parseStepArgs (command : Text) (tokens : List Text) : StepParse :=
  match stepParsers.lookup command with
  | some parse => parse tokens
  | none => .error (unknownBatchCommand command)

/-! ## A step is cut off the front of the tokens -/

/-- What a parser has read and what it has left are its tokens. -/
def Splits (parse : List Text → StepParse) : Prop :=
  ∀ tokens args rest, parse tokens = .ok (args, rest) → args ++ rest = tokens

theorem parseFixedStep_splits (count : Nat) (message : Text) :
    Splits (parseFixedStep count message) := by
  intro tokens args rest h
  unfold parseFixedStep at h
  split at h
  · cases h
  · obtain ⟨rfl, rfl⟩ := Prod.mk.inj (Except.ok.inj h)
    exact List.take_append_drop count tokens

theorem finishClick_ok {args : List Text} {positional : Nat} {tokens args' rest : List Text}
    (h : finishClick args positional tokens = .ok (args', rest)) :
    args' = args ∧ rest = tokens := by
  unfold finishClick at h
  split at h
  · cases h
  · obtain ⟨rfl, rfl⟩ := Prod.mk.inj (Except.ok.inj h)
    exact ⟨rfl, rfl⟩

theorem parseClickFrom_append {args : List Text} {positional : Nat}
    {tokens args' rest : List Text}
    (h : parseClickFrom args positional tokens = .ok (args', rest)) :
    args' ++ rest = args ++ tokens := by
  fun_induction parseClickFrom args positional tokens with
  | case1 =>
      obtain ⟨rfl, rfl⟩ := finishClick_ok h
      rfl
  | case2 =>
      obtain ⟨rfl, rfl⟩ := finishClick_ok h
      rfl
  | case3 => cases h
  | case4 _ _ _ _ _ ih => rw [ih h, List.append_assoc]; rfl
  | case5 _ _ _ _ _ ih => rw [ih h, List.append_assoc]; rfl
  | case6 => cases h
  | case7 =>
      obtain ⟨rfl, rfl⟩ := finishClick_ok h
      rw [List.append_assoc]
      rfl
  | case8 _ _ _ _ _ _ _ _ _ ih => rw [ih h, List.append_assoc]; rfl

theorem finishFlagged_ok {requiredPositionals : Nat} {args : List Text} {positional : Nat}
    {tokens args' rest : List Text}
    (h : finishFlagged requiredPositionals args positional tokens = .ok (args', rest)) :
    args' = args ∧ rest = tokens := by
  unfold finishFlagged at h
  split at h
  · cases h
  · obtain ⟨rfl, rfl⟩ := Prod.mk.inj (Except.ok.inj h)
    exact ⟨rfl, rfl⟩

theorem parseFlaggedFrom_append {valueFlags : List Text} {requiredPositionals : Nat}
    {args : List Text} {positional : Nat} {tokens args' rest : List Text}
    (h : parseFlaggedFrom valueFlags requiredPositionals args positional tokens =
      .ok (args', rest)) : args' ++ rest = args ++ tokens := by
  fun_induction parseFlaggedFrom valueFlags requiredPositionals args positional tokens with
  | case1 =>
      obtain ⟨rfl, rfl⟩ := finishFlagged_ok h
      rfl
  | case2 =>
      obtain ⟨rfl, rfl⟩ := finishFlagged_ok h
      rfl
  | case3 => cases h
  | case4 _ _ _ _ _ _ _ ih => rw [ih h, List.append_assoc]; rfl
  | case5 => cases h
  | case6 _ _ _ _ _ _ _ ih => rw [ih h, List.append_assoc]; rfl

theorem parseFlaggedStep_splits (valueFlags : List Text) (requiredPositionals : Nat) :
    Splits (parseFlaggedStep valueFlags requiredPositionals) := by
  intro tokens args rest h
  exact parseFlaggedFrom_append h

theorem requireFlag_ok {flag message : Text} {parsed : StepParse} {args rest : List Text}
    (h : requireFlag flag message parsed = .ok (args, rest)) : parsed = .ok (args, rest) := by
  unfold requireFlag at h
  split at h
  · cases h
  · split at h
    · cases h
    · exact h

theorem parseClipboardStep_splits : Splits parseClipboardStep := by
  intro tokens args rest h
  cases tokens with
  | nil => cases h
  | cons action tokens =>
      rw [parseClipboardStep] at h
      split at h
      · obtain ⟨rfl, rfl⟩ := Prod.mk.inj (Except.ok.inj h)
        rfl
      · split at h
        · cases hparsed : requireFlag "--text".toList "clipboard set requires --text <TEXT>".toList
              (parseFlaggedStep ["--text".toList] 0 tokens) with
          | error e =>
              rw [hparsed] at h
              cases h
          | ok parsed =>
              rw [hparsed] at h
              obtain ⟨rfl, rfl⟩ := Prod.mk.inj (Except.ok.inj h)
              rw [List.cons_append, parseFlaggedStep_splits _ _ _ _ _ (requireFlag_ok hparsed)]
        · cases h

theorem stepParsers_splits : ∀ entry ∈ stepParsers, Splits entry.2 := by
  have hnone : Splits (parseFixedStep 0 []) := parseFixedStep_splits 0 []
  unfold stepParsers
  simp only [List.forall_mem_cons]
  refine ⟨hnone, hnone, hnone, hnone, parseFixedStep_splits 1 _, parseFixedStep_splits 3 _,
    parseFixedStep_splits 2 _, parseFixedStep_splits 4 _, ?_, parseClipboardStep_splits,
    parseFlaggedStep_splits _ 1, ?_, parseFlaggedStep_splits _ 1, parseFlaggedStep_splits _ 0,
    by intro _ h; cases h⟩
  · intro tokens args rest h
    exact parseClickFrom_append h
  · intro tokens args rest h
    exact parseFlaggedStep_splits _ _ _ _ _ (requireFlag_ok h)

/-- The arguments of a step and the tokens after it are the tokens after its verb. -/
theorem parseStepArgs_splits (command : Text) : Splits (parseStepArgs command) := by
  intro tokens args rest h
  unfold parseStepArgs at h
  split at h
  · rename_i parse hparse
    obtain ⟨before, after, heq, -⟩ := List.lookup_eq_some_iff.mp hparse
    have hmem : (command, parse) ∈ stepParsers := by
      rw [heq]
      exact List.mem_append_right before List.mem_cons_self
    exact stepParsers_splits _ hmem tokens args rest h
  · cases h

/-- `parse_batch_steps`. -/
def parseBatchSteps : List Text → Except Text (List BatchStep)
  | [] => .ok []
  | command :: tokens =>
      if isStepCommand command then
        match _h : parseStepArgs command tokens with
        | .error e => .error e
        | .ok (args, rest) =>
            match parseBatchSteps rest with
            | .error e => .error e
            | .ok steps => .ok (⟨command, args⟩ :: steps)
      else .error (unknownBatchCommand command)
termination_by tokens => tokens.length
decreasing_by
  rw [← parseStepArgs_splits command tokens args rest _h]
  simp only [List.length_cons, List.length_append]
  omega

/-- A step in front of the others. -/
theorem parseBatchSteps_step {command : Text} {tokens args rest : List Text}
    (hcommand : isStepCommand command = true)
    (hargs : parseStepArgs command tokens = .ok (args, rest)) :
    parseBatchSteps (command :: tokens) =
      (parseBatchSteps rest).map fun steps => ⟨command, args⟩ :: steps := by
  rw [parseBatchSteps, if_pos hcommand]
  split
  · rename_i e herror
    rw [hargs] at herror
    cases herror
  · rename_i args' rest' hok
    rw [hargs] at hok
    obtain ⟨rfl, rfl⟩ := Prod.mk.inj (Except.ok.inj hok)
    cases parseBatchSteps rest with
    | error e => rfl
    | ok steps => rfl

/-! ## Responses -/

/-- `args.get(i).and_then(parse::<i32>).unwrap_or(0)`. -/
def coordinate (args : List Text) (i : Nat) : Int32 := ((args[i]?).bind parseInt32).getD 0

/-- The values `step_to_response` reads for a `capture`. -/
structure CaptureArgs where
  file : Text
  format : CaptureFormat
  region : Option Region
  display : Option Int32
  timeout : UInt64

/-- How `step_to_response` reads the arguments of a `capture`. -/
def CaptureArgs.ofArgs (args : List Text) : CaptureArgs :=
  let file := (firstNonFlagArg args).getD "screenshot.png".toList
  { file
    format := ((flagValue "--format".toList args).bind parseCaptureFormat).getD (inferFormat file)
    region := (flagValue "--region".toList args).bind fun raw => (Region.fromStr raw).toOption
    display := (flagValue "--display".toList args).bind parseInt32
    timeout := ((flagValue "--timeout".toList args).bind parseUInt64).getD 10 }

/-- How `step_to_response` answers a `clipboard`. -/
def clipboardStepResponse (args : List Text) : Response :=
  let action := (firstNonFlagArg args).getD "get".toList
  if action = "get".toList then clipboardGetResponse "stub clipboard text".toList
  else if action = "set".toList then
    clipboardSetResponse ((flagValue "--text".toList args).getD [])
  else
    { text := "unknown clipboard action".toList
      json := .obj [("ok", .bool false), ("command", .str "clipboard".toList),
        ("error", .obj [("code", .str "connection_error".toList),
          ("message", .str "unknown clipboard action".toList)])]
      exitCode := exitConnection }

/-- `step_to_response`. -/
def stepToResponse (step : BatchStep) : Response :=
  let args := step.args
  if step.command = "connect".toList then
    connectResponse ((firstNonFlagArg args).getD "unknown".toList)
      (flagValue "--server".toList args)
  else if step.command = "disconnect".toList then disconnectResponse false
  else if step.command = "shell".toList then shellResponse
  else if step.command = "exec".toList then
    execResponse ((flagValue "--command".toList args).getD []) "stub exec output".toList [] 0
  else if step.command = "clipboard".toList then clipboardStepResponse args
  else if step.command = "status".toList then statusResponse
  else if step.command = "displays".toList then displaysResponse []
  else if step.command = "capture".toList then
    let capture := CaptureArgs.ofArgs args
    captureResponse capture.file capture.format capture.region capture.display capture.timeout
  else if step.command = "type".toList then typeResponse (args.head?.getD [])
  else if step.command = "key".toList then
    keyResponse ((firstNonFlagArg args).getD "enter".toList)
      (((flagValue "--modifiers".toList args).map parseModifierList).getD [])
  else if step.command = "click".toList then
    let coords := positionalArgs args
    clickResponse (((flagValue "--button".toList args).bind parseMouseButton).getD .left)
      (coordinate coords 0) (coordinate coords 1) (flagPresent "--double".toList args)
  else if step.command = "scroll".toList then
    scrollResponse (coordinate args 0) (coordinate args 1) (coordinate args 2)
  else if step.command = "move".toList then moveResponse (coordinate args 0) (coordinate args 1)
  else if step.command = "drag".toList then
    dragResponse (coordinate args 0) (coordinate args 1) (coordinate args 2) (coordinate args 3)
  else
    { text := "unknown command ".toList ++ step.command
      json := .obj [("ok", .bool false), ("command", .str step.command),
        ("error", .obj [("code", .str "connection_error".toList),
          ("message", .str "unknown batch command".toList)])]
      exitCode := exitConnection }

/-- The JSON of a step with its place in the batch. -/
def withIndex (index : Nat) : Json → Json
  | .obj fields => .obj (fields ++ [("index", .int index)])
  | json => json

/-- `do_response`. -/
def doResponse (steps : List BatchStep) : BatchResponse :=
  let results := steps.zipIdx.map fun (step, index) => (index + 1, stepToResponse step)
  { lines := results.map (fun (number, result) =>
        (toString number).toList ++ " ".toList ++ result.text) ++
      ["ok steps=".toList ++ (toString steps.length).toList]
    json := .obj [("ok", .bool true), ("command", .str "do".toList),
      ("steps", .arr (results.map fun (number, result) => withIndex number result.json))]
    exitCode := exitSuccess }

/-- `batch_error_response`. -/
def batchErrorResponse (message : Text) : BatchResponse where
  lines := ["connection error: ".toList ++ message]
  json := .obj [("ok", .bool false), ("command", .str "do".toList),
    ("error", .obj [("code", .str "connection_error".toList), ("message", .str message)])]
  exitCode := exitConnection

end RustdeskCli.Cli
