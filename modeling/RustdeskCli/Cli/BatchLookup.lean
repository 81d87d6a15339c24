import RustdeskCli.Cli.BatchParsing
set_option autoImplicit false

/-!
# Cli: how the steps of a batch are read again (`src/main.rs`)

`parse_flagged_step` walks along the tokens of a step and takes each flag together with the
token behind it.  It hands on the tokens alone; `flag_value` and `first_non_flag_arg` then
look through them once more.  The second skips what stands behind a flag, as the parser
does.  The first looks at every pair of neighbours, and so may find a flag where the parser
read the value of another one.

The batch reports success for every step.  No step that was parsed gets another answer.
-/

namespace RustdeskCli.Cli

open RustdeskCli.Foundation
open RustdeskCli.Session

/-! ## What the parser makes of the tokens -/

/-- One part of a step with flags. -/
inductive StepItem where
  | flag (name value : Text)
  | positional (token : Text)
  deriving DecidableEq, Repr

/-- The tokens of a part. -/
def StepItem.tokens : StepItem → List Text
  | .flag name value => [name, value]
  | .positional token => [token]

/-- The tokens of all parts. -/
def itemTokens (items : List StepItem) : List Text := items.flatMap StepItem.tokens

theorem itemTokens_eq_cons (item : StepItem) (items : List StepItem) :
    ∃ first more, itemTokens (item :: items) = first :: more := by
  cases item with
  | flag name value => exact ⟨name, value :: itemTokens items, rfl⟩
  | positional token => exact ⟨token, itemTokens items, rfl⟩

section Reading

variable (valueFlags : List Text) (requiredPositionals : Nat)

/-- What the loop of `parse_flagged_step` takes each token for. -/
def stepItemsFrom (positional : Nat) : List Text → List StepItem
  | [] => []
  | token :: tokens =>
      if positional ≥ requiredPositionals ∧ isStepCommand token then []
      else if valueFlags.contains token then
        match tokens with
        | [] => []
        | value :: tokens => .flag token value :: stepItemsFrom positional tokens
      else if isFlag token then []
      else .positional token :: stepItemsFrom (positional + 1) tokens

/-- What `parse_flagged_step` takes each token for. -/
def stepItems (tokens : List Text) : List StepItem :=
  stepItemsFrom valueFlags requiredPositionals 0 tokens

end Reading

/-- The value the parser paired with the first `flag` it recognised. -/
def pairedValue (flag : Text) (items : List StepItem) : Option Text :=
  items.findSome? fun
    | .flag name value => if name = flag then some value else none
    | .positional _ => none

/-- The first token the parser counted as positional. -/
def firstPositional (items : List StepItem) : Option Text :=
  items.findSome? fun
    | .flag _ _ => none
    | .positional token => some token

/-- What stands behind the first `flag` that the parser took for the value of another flag,
in front of every `flag` it recognised. -/
def behindMistaken (flag : Text) : List StepItem → Option Text
  | [] => none
  | .flag name value :: items =>
      if name = flag then none
      else if value = flag then (itemTokens items).head?
      else behindMistaken flag items
  | .positional _ :: items => behindMistaken flag items

/-- The arguments are the tokens of the parts. -/
theorem parseFlaggedFrom_items {valueFlags : List Text} {requiredPositionals : Nat}
    {args : List Text} {positional : Nat} {tokens args' rest : List Text}
    (h : parseFlaggedFrom valueFlags requiredPositionals args positional tokens =
      .ok (args', rest)) :
    args' =
      args ++ itemTokens (stepItemsFrom valueFlags requiredPositionals positional tokens) := by
  fun_induction parseFlaggedFrom valueFlags requiredPositionals args positional tokens with
  | case1 =>
      obtain ⟨rfl, rfl⟩ := finishFlagged_ok h
      rw [stepItemsFrom]
      exact (List.append_nil _).symm
  | case2 args positional token tokens hverb =>
      obtain ⟨rfl, rfl⟩ := finishFlagged_ok h
      unfold stepItemsFrom
      rw [if_pos hverb]
      exact (List.append_nil _).symm
  | case3 => cases h
  | case4 args positional token hverb hvalue value tokens ih =>
      rw [ih h, stepItemsFrom, if_neg hverb, if_pos hvalue]
      simp only [itemTokens, List.flatMap_cons, StepItem.tokens, List.append_assoc]
  | case5 => cases h
  | case6 args positional token tokens hverb hvalue hflag ih =>
      rw [ih h]
      conv_rhs => unfold stepItemsFrom
      rw [if_neg hverb, if_neg hvalue, if_neg hflag]
      simp only [itemTokens, List.flatMap_cons, StepItem.tokens, List.append_assoc]

theorem parseFlaggedStep_items {valueFlags : List Text} {requiredPositionals : Nat}
    {tokens args rest : List Text}
    (h : parseFlaggedStep valueFlags requiredPositionals tokens = .ok (args, rest)) :
    args = itemTokens (stepItems valueFlags requiredPositionals tokens) :=
  parseFlaggedFrom_items h

/-- Every flag is one of the parser's, and no positional looks like a flag. -/
def WellRead (valueFlags : List Text) (items : List StepItem) : Prop :=
  ∀ item ∈ items,
    match item with
    | .flag name _ => name ∈ valueFlags
    | .positional token => isFlag token = false

theorem stepItemsFrom_wellRead (valueFlags : List Text) (requiredPositionals positional : Nat)
    (tokens : List Text) :
    WellRead valueFlags (stepItemsFrom valueFlags requiredPositionals positional tokens) := by
  fun_induction stepItemsFrom valueFlags requiredPositionals positional tokens with
  | case1 =>
      intro _ hmem
      cases hmem
  | case2 =>
      intro _ hmem
      cases hmem
  | case3 =>
      intro _ hmem
      cases hmem
  | case4 positional token hverb hvalue value tokens ih =>
      exact List.forall_mem_cons.mpr ⟨List.contains_iff_mem.mp hvalue, ih⟩
  | case5 =>
      intro _ hmem
      cases hmem
  | case6 positional token tokens hverb hvalue hflag ih =>
      exact List.forall_mem_cons.mpr ⟨by simpa using hflag, ih⟩

/-! ## Looking for the first positional -/

/-- `first_non_flag_arg` reads the tokens as the parser did. -/
theorem firstNonFlagArg_items {valueFlags : List Text} (hflags : ∀ flag ∈ valueFlags, isFlag flag)
    {items : List StepItem} (hitems : WellRead valueFlags items) :
    firstNonFlagArg (itemTokens items) = firstPositional items := by
  induction items with
  | nil => rfl
  | cons item items ih =>
      obtain ⟨hitem, hrest⟩ := List.forall_mem_cons.mp hitems
      cases item with
      | flag name value =>
          have hname : isFlag name = true := hflags name hitem
          calc firstNonFlagArg (itemTokens (.flag name value :: items))
              = firstNonFlagArg (itemTokens items) := by
                simp [firstNonFlagArg, itemTokens, StepItem.tokens, firstNonFlagFrom, hname]
            _ = firstPositional items := ih hrest
      | positional token =>
          have htoken : isFlag token = false := hitem
          simp [firstNonFlagArg, itemTokens, StepItem.tokens, firstNonFlagFrom, htoken,
            firstPositional]

/-! ## Looking for a flag -/

/-- `flag_value` finds what stands behind a mistaken flag, and otherwise what the parser
paired with the flag. -/
theorem flagValue_items {valueFlags : List Text} {flag : Text} (hflag : isFlag flag = true)
    {items : List StepItem} (hitems : WellRead valueFlags items) :
    flagValue flag (itemTokens items) =
      (behindMistaken flag items).or (pairedValue flag items) := by
  induction items with
  | nil => rfl
  | cons item items ih =>
      obtain ⟨hitem, hrest⟩ := List.forall_mem_cons.mp hitems
      cases item with
      | flag name value =>
          have htokens : itemTokens (.flag name value :: items) =
              name :: value :: itemTokens items := rfl
          rw [htokens]
          by_cases hname : name = flag
          · simp [flagValue, behindMistaken, pairedValue, hname]
          · rw [flagValue_cons_of_ne _ hname]
            by_cases hvalue : value = flag
            · cases items with
              | nil =>
                  -- the mistaken flag is the last token, and nothing is found
                  simp [flagValue, behindMistaken, pairedValue, itemTokens, hname, hvalue]
              | cons next items =>
                  obtain ⟨first, more, hbehind⟩ := itemTokens_eq_cons next items
                  simp [flagValue, behindMistaken, hname, hvalue, hbehind]
            · rw [flagValue_cons_of_ne _ hvalue, ih hrest]
              simp [behindMistaken, pairedValue, hname, hvalue]
      | positional token =>
          have htoken : token ≠ flag := by
            rintro rfl
            rw [hitem] at hflag
            cases hflag
          have htokens : itemTokens (.positional token :: items) = token :: itemTokens items := rfl
          rw [htokens, flagValue_cons_of_ne _ htoken, ih hrest]
          simp [behindMistaken, pairedValue]

/-! ## The steps with flags -/

/-- The steps `parse_batch_steps` reads with `parse_flagged_step`. -/
inductive FlaggedStep where
  | connect
  | exec
  | key
  | capture
  | clipboardSet
  deriving DecidableEq, Repr

namespace FlaggedStep

/-- The verb of the step. -/
def verb : FlaggedStep → Text
  | connect => "connect".toList
  | exec => "exec".toList
  | key => "key".toList
  | capture => "capture".toList
  | clipboardSet => "clipboard".toList

/-- What is read in front of the flags: the action of `clipboard`. -/
def lead : FlaggedStep → List Text
  | clipboardSet => ["set".toList]
  | _ => []

/-- The `value_flags` of the step. -/
def valueFlags : FlaggedStep → List Text
  | connect => ["--password".toList, "--server".toList, "--timeout".toList]
  | exec => ["--command".toList]
  | key => ["--modifiers".toList]
  | capture =>
      ["--display".toList, "--format".toList, "--quality".toList, "--region".toList,
        "--timeout".toList]
  | clipboardSet => ["--text".toList]

/-- The `required_positionals` of the step. -/
def requiredPositionals : FlaggedStep → Nat
  | connect => 1
  | exec => 0
  | key => 1
  | capture => 0
  | clipboardSet => 0

/-- `parse_flagged_step` as the step calls it. -/
def parse (step : FlaggedStep) (tokens : List Text) : StepParse :=
  parseFlaggedStep step.valueFlags step.requiredPositionals tokens

/-- What the parser takes the tokens of the step for. -/
def items (step : FlaggedStep) (tokens : List Text) : List StepItem :=
  step.lead.map .positional ++ stepItems step.valueFlags step.requiredPositionals tokens

theorem isFlag_valueFlags (step : FlaggedStep) : ∀ flag ∈ step.valueFlags, isFlag flag = true := by
  cases step <;> decide

/-- A step of the batch is read by `parse_flagged_step`, behind its lead. -/
theorem parse_of_parseStepArgs {step : FlaggedStep} {tokens stepArgs rest : List Text}
    (h : parseStepArgs step.verb (step.lead ++ tokens) = .ok (stepArgs, rest)) :
    ∃ args, step.parse tokens = .ok (args, rest) ∧ stepArgs = step.lead ++ args := by
  cases step with
  | connect => exact ⟨stepArgs, h, rfl⟩
  | key => exact ⟨stepArgs, h, rfl⟩
  | capture => exact ⟨stepArgs, h, rfl⟩
  | exec => exact ⟨stepArgs, requireFlag_ok h, rfl⟩
  | clipboardSet =>
      have hset : parseClipboardStep ("set".toList :: tokens) =
          (requireFlag "--text".toList "clipboard set requires --text <TEXT>".toList
            (parseFlaggedStep ["--text".toList] 0 tokens)).map
            fun parsed => ("set".toList :: parsed.1, parsed.2) := rfl
      have h' : parseClipboardStep ("set".toList :: tokens) = .ok (stepArgs, rest) := h
      rw [hset] at h'
      cases hparsed : requireFlag "--text".toList "clipboard set requires --text <TEXT>".toList
          (parseFlaggedStep ["--text".toList] 0 tokens) with
      | error e =>
          rw [hparsed] at h'
          cases h'
      | ok parsed =>
          rw [hparsed] at h'
          obtain ⟨rfl, rfl⟩ := Prod.mk.inj (Except.ok.inj h')
          exact ⟨parsed.1, requireFlag_ok hparsed, rfl⟩

end FlaggedStep

/-- `flag_value` and `first_non_flag_arg` give of the arguments what the parser took them
for. -/
def LookupAgrees (items : List StepItem) (args : List Text) (flag : Text) : Prop :=
  flagValue flag args = pairedValue flag items ∧ firstNonFlagArg args = firstPositional items

/-- Where the flag was taken for the value of another flag, what stands behind it happens to be
what the parser paired with the flag. -/
def NotMistaken (items : List StepItem) (flag : Text) : Prop :=
  ∀ token, behindMistaken flag items = some token → pairedValue flag items = some token

theorem lookupAgrees_iff {valueFlags : List Text} (hflags : ∀ flag ∈ valueFlags, isFlag flag)
    {items : List StepItem} (hitems : WellRead valueFlags items) {flag : Text}
    (hflag : flag ∈ valueFlags) :
    LookupAgrees items (itemTokens items) flag ↔ NotMistaken items flag := by
  have hpositional := firstNonFlagArg_items hflags hitems
  have hvalue := flagValue_items (hflags flag hflag) hitems
  unfold LookupAgrees NotMistaken
  rw [hvalue, and_iff_left hpositional]
  cases hmistaken : behindMistaken flag items with
  | none => simp
  | some token => simp [eq_comm]

/-- The parts of a step, its lead included, are read well. -/
theorem FlaggedStep.items_wellRead (step : FlaggedStep) (tokens : List Text) :
    WellRead step.valueFlags (step.items tokens) := by
  have hlead : WellRead step.valueFlags (step.lead.map .positional) := by
    intro item hitem
    cases step with
    | clipboardSet =>
        rw [List.mem_singleton.mp hitem]
        rfl
    | _ => cases hitem
  have htokens : WellRead step.valueFlags
      (stepItems step.valueFlags step.requiredPositionals tokens) :=
    stepItemsFrom_wellRead _ _ 0 tokens
  intro item hitem
  rcases List.mem_append.mp hitem with hmem | hmem
  · exact hlead item hmem
  · exact htokens item hmem

theorem FlaggedStep.itemTokens_items {step : FlaggedStep} {tokens args rest : List Text}
    (h : step.parse tokens = .ok (args, rest)) :
    itemTokens (step.items tokens) = step.lead ++ args := by
  have hlead : itemTokens (step.lead.map .positional) = step.lead := by
    cases step <;> rfl
  rw [FlaggedStep.items, itemTokens, List.flatMap_append, parseFlaggedStep_items h]
  exact congrArg (· ++ _) hlead

/-- For every step read with flags, the lookups agree with the parser on a flag exactly when
the flag was not mistaken: on what `parse_flagged_step` returns, and on the arguments of the
step that the batch makes of it. -/
theorem flag_lookup_agrees_iff (step : FlaggedStep) (tokens args rest : List Text)
    (h : step.parse tokens = .ok (args, rest)) (flag : Text) (hflag : flag ∈ step.valueFlags) :
    (LookupAgrees (stepItems step.valueFlags step.requiredPositionals tokens) args flag ↔
      NotMistaken (stepItems step.valueFlags step.requiredPositionals tokens) flag) ∧
      (LookupAgrees (step.items tokens) (step.lead ++ args) flag ↔
        NotMistaken (step.items tokens) flag) ∧
      ∀ stepArgs left, parseStepArgs step.verb (step.lead ++ tokens) = .ok (stepArgs, left) →
        stepArgs = step.lead ++ args := by
  refine ⟨?_, ?_, ?_⟩
  · rw [parseFlaggedStep_items h]
    exact lookupAgrees_iff step.isFlag_valueFlags (stepItemsFrom_wellRead _ _ 0 tokens) hflag
  · rw [← FlaggedStep.itemTokens_items h]
    exact lookupAgrees_iff step.isFlag_valueFlags (step.items_wellRead tokens) hflag
  · intro stepArgs left hstep
    obtain ⟨args', hargs', rfl⟩ := FlaggedStep.parse_of_parseStepArgs hstep
    rw [h] at hargs'
    rw [(Prod.mk.inj (Except.ok.inj hargs')).1]

/-- A password that is no flag, in front of a server. -/
theorem flag_lookup_agrees_server :
    LookupAgrees (FlaggedStep.connect.items
        ["--password".toList, "p".toList, "--server".toList, "h".toList, "1".toList])
      ["--password".toList, "p".toList, "--server".toList, "h".toList, "1".toList]
      "--server".toList := by
  refine (flag_lookup_agrees_iff .connect
    ["--password".toList, "p".toList, "--server".toList, "h".toList, "1".toList] _ [] rfl
    "--server".toList (by decide)).2.1.mpr ?_
  intro token htoken
  cases htoken

/-- A password that is the name of a flag: the parser recognises no server, and `flag_value`
finds one. -/
theorem flag_lookup_mistakes_password :
    FlaggedStep.connect.parse ["--password".toList, "--server".toList, "1".toList] =
        .ok (["--password".toList, "--server".toList, "1".toList], []) ∧
      "--server".toList ∈ FlaggedStep.connect.valueFlags ∧
      pairedValue "--server".toList (FlaggedStep.connect.items
        ["--password".toList, "--server".toList, "1".toList]) = none ∧
      flagValue "--server".toList ["--password".toList, "--server".toList, "1".toList] =
        some "1".toList ∧
      ¬LookupAgrees (FlaggedStep.connect.items
          ["--password".toList, "--server".toList, "1".toList])
        ["--password".toList, "--server".toList, "1".toList] "--server".toList := by
  refine ⟨rfl, by decide, rfl, rfl, ?_⟩
  rintro ⟨hvalue, -⟩
  cases hvalue

/-! ## No parsed step fails -/

/-- Every step of a batch was read off some tokens by the parser of its verb. -/
theorem parseBatchSteps_args {tokens : List Text} {steps : List BatchStep}
    (h : parseBatchSteps tokens = .ok steps) :
    ∀ step ∈ steps, isStepCommand step.command = true ∧
      ∃ following rest, parseStepArgs step.command following = .ok (step.args, rest) := by
  fun_induction parseBatchSteps tokens generalizing steps with
  | case1 =>
      cases h
      intro _ hmem
      cases hmem
  | case2 => cases h
  | case3 => cases h
  | case4 command tokens hcommand args rest hargs steps' hrest ih =>
      cases h
      exact List.forall_mem_cons.mpr ⟨⟨hcommand, tokens, rest, hargs⟩, ih hrest⟩
  | case5 => cases h

/-- The action of a `clipboard` step is one of the two that are known. -/
theorem parseClipboardStep_action {tokens args rest : List Text}
    (h : parseClipboardStep tokens = .ok (args, rest)) :
    firstNonFlagArg args = some "get".toList ∨ firstNonFlagArg args = some "set".toList := by
  cases tokens with
  | nil => cases h
  | cons action tokens =>
      rw [parseClipboardStep] at h
      split at h
      · rename_i hget
        obtain ⟨rfl, rfl⟩ := Prod.mk.inj (Except.ok.inj h)
        rw [hget]
        exact .inl rfl
      · split at h
        · rename_i hset
          cases hparsed : requireFlag "--text".toList "clipboard set requires --text <TEXT>".toList
              (parseFlaggedStep ["--text".toList] 0 tokens) with
          | error e =>
              rw [hparsed] at h
              cases h
          | ok parsed =>
              rw [hparsed] at h
              obtain ⟨rfl, rfl⟩ := Prod.mk.inj (Except.ok.inj h)
              rw [hset]
              exact .inr rfl
        · cases h

/-- `"ok"` of a JSON object. -/
def okField (json : Json) : Option Bool := (json.get "ok").bind Json.asBool

/-- The response says success, in its exit code and in its JSON. -/
def Response.Succeeds (response : Response) : Prop :=
  response.exitCode = exitSuccess ∧ okField response.json = some true

theorem clipboardStepResponse_succeeds {args : List Text}
    (h : firstNonFlagArg args = some "get".toList ∨ firstNonFlagArg args = some "set".toList) :
    (clipboardStepResponse args).Succeeds := by
  unfold clipboardStepResponse
  rcases h with h | h <;> rw [h] <;> exact ⟨rfl, rfl⟩

/-- A step with a known verb, and with a known action where the verb is `clipboard`, is
answered with success. -/
theorem stepToResponse_succeeds {step : BatchStep} (hcommand : isStepCommand step.command = true)
    (hclipboard : step.command = "clipboard".toList →
      firstNonFlagArg step.args = some "get".toList ∨
        firstNonFlagArg step.args = some "set".toList) :
    (stepToResponse step).Succeeds := by
  obtain ⟨command, args⟩ := step
  simp only [isStepCommand, List.contains_iff_mem, stepCommands, List.mem_cons,
    List.not_mem_nil, or_false] at hcommand
  rcases hcommand with rfl | rfl | rfl | rfl | rfl | rfl | rfl | rfl | rfl | rfl | rfl | rfl |
    rfl | rfl
  case inr.inr.inr.inr.inl => exact clipboardStepResponse_succeeds (hclipboard rfl)
  all_goals exact ⟨rfl, rfl⟩

/-- The JSON of a step keeps its verdict when its place is added. -/
theorem okField_withIndex {json : Json} (index : Nat) (h : okField json = some true) :
    okField (withIndex index json) = some true := by
  cases json with
  | obj fields =>
      cases hlookup : fields.lookup "ok" with
      | none => simp [okField, Json.get, hlookup] at h
      | some value =>
          have hsame : (fields ++ [("index", Json.int index)]).lookup "ok" = some value := by
            rw [List.lookup_append, hlookup]
            rfl
          simpa [okField, Json.get, withIndex, hlookup, hsame] using h
  | _ => exact h

/-- Every step of a batch that was parsed is answered with success: its verb is known, and so
is the action of a `clipboard`.  So the verdict of the batch is that of its steps, each of
them is reported with success, and the number it reports is the number of steps that
succeeded. -/
theorem parsed_batch_succeeds {tokens : List Text} {steps : List BatchStep}
    (h : parseBatchSteps tokens = .ok steps) :
    (∀ step ∈ steps, (stepToResponse step).exitCode = 0 ∧
      okField (stepToResponse step).json = some true ∧ isStepCommand step.command = true ∧
      (step.command = "clipboard".toList →
        firstNonFlagArg step.args = some "get".toList ∨
          firstNonFlagArg step.args = some "set".toList)) ∧
      (doResponse steps).exitCode = 0 ∧ okField (doResponse steps).json = some true ∧
      (∃ results, ((doResponse steps).json.get "steps").bind Json.asArray = some results ∧
        results.length = steps.length ∧ ∀ result ∈ results, okField result = some true) ∧
      (doResponse steps).lines.getLast? = some ("ok steps=".toList ++
        (toString (steps.countP fun step => (stepToResponse step).exitCode = 0)).toList) := by
  have hstep : ∀ step ∈ steps, (stepToResponse step).Succeeds ∧
      isStepCommand step.command = true ∧
      (step.command = "clipboard".toList →
        firstNonFlagArg step.args = some "get".toList ∨
          firstNonFlagArg step.args = some "set".toList) := by
    intro step hmem
    obtain ⟨hcommand, following, rest, hargs⟩ := parseBatchSteps_args h step hmem
    have hclipboard : step.command = "clipboard".toList →
        firstNonFlagArg step.args = some "get".toList ∨
          firstNonFlagArg step.args = some "set".toList := by
      intro hverb
      rw [hverb] at hargs
      exact parseClipboardStep_action hargs
    exact ⟨stepToResponse_succeeds hcommand hclipboard, hcommand, hclipboard⟩
  refine ⟨?_, rfl, rfl, ⟨_, rfl, ?_, ?_⟩, ?_⟩
  · intro step hmem
    obtain ⟨⟨hexit, hok⟩, hknown⟩ := hstep step hmem
    exact ⟨hexit, hok, hknown⟩
  · simp
  · intro result hmem
    simp only [List.map_map, List.mem_map, Function.comp] at hmem
    obtain ⟨⟨step, index⟩, hindexed, rfl⟩ := hmem
    exact okField_withIndex _ (hstep step (List.fst_mem_of_mem_zipIdx hindexed)).1.2
  · have hcount : steps.countP (fun step => (stepToResponse step).exitCode = 0) = steps.length := by
      rw [List.countP_eq_length]
      intro step hmem
      exact decide_eq_true (hstep step hmem).1.1
    rw [hcount, doResponse]
    simp

/-- The three steps of a batch that was parsed. -/
theorem parsed_batch_succeeds_sample :
    (∀ step ∈ sampleSteps, (stepToResponse step).exitCode = 0) ∧
      (doResponse sampleSteps).exitCode = 0 ∧
      (doResponse sampleSteps).lines.getLast? = some ("ok steps=".toList ++
        (toString (sampleSteps.countP fun step => (stepToResponse step).exitCode = 0)).toList) := by
  obtain ⟨hsteps, hexit, _, _, hcount⟩ := parsed_batch_succeeds parseBatchSteps_sample
  exact ⟨fun step hmem => (hsteps step hmem).1, hexit, hcount⟩

end RustdeskCli.Cli
