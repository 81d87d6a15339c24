import RustdeskCli.Cli.Batch
set_option autoImplicit false

/-!
# Cli: how a batch is read (`src/main.rs`)

`parse_batch_steps` cuts its tokens into steps.  Two facts about the cut: the steps put
back together are the tokens, and a further step behind them moves no seam.  The second
is a property of each step parser, `Seamless`: what follows the step may begin with a
verb only, and the parser stops in front of it.
-/

namespace RustdeskCli.Cli

open RustdeskCli.Foundation

/-! ## Nothing is lost -/

/-- The tokens a step was read from. -/
def BatchStep.tokens (step : BatchStep) : List Text := step.command :: step.args

/-- The steps, written one after the other, are the tokens they were read from, and each
begins with a known verb. -/
theorem parseBatchSteps_loses_nothing {tokens : List Text} {steps : List BatchStep}
    (h : parseBatchSteps tokens = .ok steps) :
    steps.flatMap BatchStep.tokens = tokens ∧
      ∀ step ∈ steps, isStepCommand step.command = true := by
  fun_induction parseBatchSteps tokens generalizing steps with
  | case1 =>
      cases h
      exact ⟨rfl, by intro _ hmem; cases hmem⟩
  | case2 => cases h
  | case3 => cases h
  | case4 command tokens hcommand args rest hargs steps' hrest ih =>
      cases h
      obtain ⟨htokens, hverbs⟩ := ih hrest
      have hsplit : args ++ rest = tokens := parseStepArgs_splits command tokens args rest hargs
      constructor
      · rw [List.flatMap_cons, htokens, BatchStep.tokens, List.cons_append, hsplit]
      · exact List.forall_mem_cons.mpr ⟨hcommand, hverbs⟩
  | case5 => cases h

/-- The tokens of a batch of three steps; the text of the second is the name of a verb. -/
def sampleTokens : List Text :=
  ["click".toList, "10".toList, "20".toList, "--button".toList, "right".toList,
    "clipboard".toList, "set".toList, "--text".toList, "move".toList, "type".toList, "hi".toList]

/-- Its steps. -/
def sampleSteps : List BatchStep :=
  [⟨"click".toList, ["10".toList, "20".toList, "--button".toList, "right".toList]⟩,
    ⟨"clipboard".toList, ["set".toList, "--text".toList, "move".toList]⟩,
    ⟨"type".toList, ["hi".toList]⟩]

theorem parseBatchSteps_sample : parseBatchSteps sampleTokens = .ok sampleSteps := by
  have hclick : parseStepArgs "click".toList sampleTokens.tail =
      .ok (["10".toList, "20".toList, "--button".toList, "right".toList],
        sampleTokens.drop 5) := by rfl
  have hclipboard : parseStepArgs "clipboard".toList (sampleTokens.drop 6) =
      .ok (["set".toList, "--text".toList, "move".toList], sampleTokens.drop 9) := by rfl
  have htype : parseStepArgs "type".toList (sampleTokens.drop 10) = .ok (["hi".toList], []) := by
    rfl
  have hnil : parseBatchSteps [] = .ok [] := by rw [parseBatchSteps]
  have hlast : parseBatchSteps (sampleTokens.drop 9) = .ok (sampleSteps.drop 2) := by
    rw [show sampleTokens.drop 9 = "type".toList :: sampleTokens.drop 10 from rfl,
      parseBatchSteps_step rfl htype, hnil]
    rfl
  have hrest : parseBatchSteps (sampleTokens.drop 5) = .ok (sampleSteps.drop 1) := by
    rw [show sampleTokens.drop 5 = "clipboard".toList :: sampleTokens.drop 6 from rfl,
      parseBatchSteps_step rfl hclipboard, hlast]
    rfl
  rw [show sampleTokens = "click".toList :: sampleTokens.tail from rfl,
    parseBatchSteps_step rfl hclick, hrest]
  rfl

theorem parseBatchSteps_loses_nothing_sample :
    sampleSteps.flatMap BatchStep.tokens = sampleTokens ∧
      ∀ step ∈ sampleSteps, isStepCommand step.command = true :=
  parseBatchSteps_loses_nothing parseBatchSteps_sample

/-! ## Seams -/

/-- What may follow a step: nothing, or tokens that begin with a verb. -/
def StartsStep (tokens : List Text) : Prop := ∀ verb ∈ tokens.head?, isStepCommand verb = true

theorem startsStep_nil : StartsStep [] := by
  intro verb hmem
  cases hmem

/-- A parser that reads the same step when further steps follow. -/
def Seamless (parse : List Text → StepParse) : Prop :=
  ∀ tokens args rest more, StartsStep more → parse tokens = .ok (args, rest) →
    parse (tokens ++ more) = .ok (args, rest ++ more)

theorem parseFixedStep_seamless (count : Nat) (message : Text) :
    Seamless (parseFixedStep count message) := by
  intro tokens args rest more _ h
  unfold parseFixedStep at h
  split at h
  · cases h
  · rename_i hlength
    obtain ⟨rfl, rfl⟩ := Prod.mk.inj (Except.ok.inj h)
    have hle : count ≤ tokens.length := Nat.le_of_not_lt hlength
    have hnot : ¬(tokens ++ more).length < count := by
      rw [List.length_append]
      omega
    rw [parseFixedStep, if_neg hnot, List.take_append_of_le_length hle,
      List.drop_append_of_le_length hle]

/-! ### The click loop -/

/-- With both coordinates read, the loop ends in front of a verb. -/
theorem parseClickFrom_startsStep (args : List Text) {positional : Nat} {tokens : List Text}
    (hpositional : 2 ≤ positional) (htokens : StartsStep tokens) :
    parseClickFrom args positional tokens = .ok (args, tokens) := by
  have hfinish : ∀ rest, finishClick args positional rest = .ok (args, rest) := by
    intro rest
    rw [finishClick, if_neg (Nat.not_lt.mpr hpositional)]
  cases tokens with
  | nil => rw [parseClickFrom, hfinish]
  | cons verb rest =>
      unfold parseClickFrom
      rw [if_pos ⟨hpositional, htokens verb rfl⟩, hfinish]

theorem parseClickFrom_button (args : List Text) (positional : Nat) (value : Text)
    (tokens : List Text) :
    parseClickFrom args positional ("--button".toList :: value :: tokens) =
      parseClickFrom (args ++ ["--button".toList, value]) positional tokens := by
  have hverb : ¬(positional ≥ 2 ∧ isStepCommand "--button".toList = true) := by
    intro h
    exact absurd h.2 (by decide)
  rw [parseClickFrom, if_neg hverb, if_pos rfl]

theorem parseClickFrom_double (args : List Text) (positional : Nat) (tokens : List Text) :
    parseClickFrom args positional ("--double".toList :: tokens) =
      parseClickFrom (args ++ ["--double".toList]) positional tokens := by
  have hverb : ¬(positional ≥ 2 ∧ isStepCommand "--double".toList = true) := by
    intro h
    exact absurd h.2 (by decide)
  have hbutton : "--double".toList ≠ "--button".toList := by decide
  conv_lhs => unfold parseClickFrom
  rw [if_neg hverb, if_neg hbutton, if_pos rfl]

/-- The second look for a verb, behind a coordinate, decides nothing the first one would
not. -/
theorem parseClickFrom_positional {args : List Text} {positional : Nat} {token : Text}
    {tokens : List Text} (hverb : ¬(positional ≥ 2 ∧ isStepCommand token = true))
    (hbutton : token ≠ "--button".toList) (hdouble : token ≠ "--double".toList)
    (hflag : ¬isFlag token = true) :
    parseClickFrom args positional (token :: tokens) =
      parseClickFrom (args ++ [token]) (positional + 1) tokens := by
  conv_lhs => unfold parseClickFrom
  rw [if_neg hverb, if_neg hbutton, if_neg hdouble, if_neg hflag]
  split
  · rename_i hstop
    obtain ⟨hpositional, hhead⟩ := hstop
    have hstarts : StartsStep tokens := by
      intro verb hmem
      rw [Option.mem_def] at hmem
      rw [hmem] at hhead
      exact hhead
    rw [parseClickFrom_startsStep _ hpositional hstarts, finishClick,
      if_neg (Nat.not_lt.mpr hpositional)]
  · rfl

theorem finishClick_positional {args : List Text} {positional : Nat}
    {tokens args' rest : List Text}
    (h : finishClick args positional tokens = .ok (args', rest)) : 2 ≤ positional := by
  unfold finishClick at h
  split at h
  · cases h
  · omega

theorem parseClickFrom_seamless {args : List Text} {positional : Nat}
    {tokens args' rest more : List Text} (hmore : StartsStep more)
    (h : parseClickFrom args positional tokens = .ok (args', rest)) :
    parseClickFrom args positional (tokens ++ more) = .ok (args', rest ++ more) := by
  fun_induction parseClickFrom args positional tokens with
  | case1 args positional =>
      have hpositional := finishClick_positional h
      obtain ⟨rfl, rfl⟩ := finishClick_ok h
      exact parseClickFrom_startsStep _ hpositional hmore
  | case2 args positional token tokens hverb =>
      obtain ⟨rfl, rfl⟩ := finishClick_ok h
      apply parseClickFrom_startsStep _ hverb.1
      intro verb hmem
      cases hmem
      exact hverb.2
  | case3 => cases h
  | case4 args positional value tokens _ ih =>
      rw [List.cons_append, List.cons_append, parseClickFrom_button]
      exact ih h
  | case5 args positional tokens _ _ ih =>
      rw [List.cons_append, parseClickFrom_double]
      exact ih h
  | case6 => cases h
  | case7 args positional token tokens hverb hbutton hdouble hflag hstop =>
      -- the loop stops in front of a verb that is there already
      obtain ⟨rfl, rfl⟩ := finishClick_ok h
      rw [List.cons_append, parseClickFrom_positional hverb hbutton hdouble hflag]
      apply parseClickFrom_startsStep _ hstop.1
      cases hrest : rest with
      | nil => exact hmore
      | cons verb rest' =>
          intro first hmem
          cases hmem
          rw [hrest] at hstop
          exact hstop.2
  | case8 args positional token tokens hverb hbutton hdouble hflag hstop ih =>
      rw [List.cons_append, parseClickFrom_positional hverb hbutton hdouble hflag]
      exact ih h

/-! ### Steps with flags -/

/-- With its positionals read, the loop ends in front of a verb. -/
theorem parseFlaggedFrom_startsStep (valueFlags : List Text) {requiredPositionals : Nat}
    (args : List Text) {positional : Nat} {tokens : List Text}
    (hpositional : requiredPositionals ≤ positional) (htokens : StartsStep tokens) :
    parseFlaggedFrom valueFlags requiredPositionals args positional tokens =
      .ok (args, tokens) := by
  have hfinish : ∀ rest,
      finishFlagged requiredPositionals args positional rest = .ok (args, rest) := by
    intro rest
    rw [finishFlagged, if_neg (Nat.not_lt.mpr hpositional)]
  cases tokens with
  | nil => rw [parseFlaggedFrom, hfinish]
  | cons verb rest =>
      unfold parseFlaggedFrom
      rw [if_pos ⟨hpositional, htokens verb rfl⟩, hfinish]

theorem parseFlaggedFrom_value {valueFlags : List Text} {requiredPositionals : Nat}
    {args : List Text} {positional : Nat} {token : Text} (value : Text) (tokens : List Text)
    (hverb : ¬(positional ≥ requiredPositionals ∧ isStepCommand token = true))
    (hvalue : valueFlags.contains token = true) :
    parseFlaggedFrom valueFlags requiredPositionals args positional (token :: value :: tokens) =
      parseFlaggedFrom valueFlags requiredPositionals (args ++ [token, value]) positional
        tokens := by
  rw [parseFlaggedFrom, if_neg hverb, if_pos hvalue]

theorem parseFlaggedFrom_positional {valueFlags : List Text} {requiredPositionals : Nat}
    {args : List Text} {positional : Nat} {token : Text} (tokens : List Text)
    (hverb : ¬(positional ≥ requiredPositionals ∧ isStepCommand token = true))
    (hvalue : ¬valueFlags.contains token = true) (hflag : ¬isFlag token = true) :
    parseFlaggedFrom valueFlags requiredPositionals args positional (token :: tokens) =
      parseFlaggedFrom valueFlags requiredPositionals (args ++ [token]) (positional + 1)
        tokens := by
  conv_lhs => unfold parseFlaggedFrom
  rw [if_neg hverb, if_neg hvalue, if_neg hflag]

theorem finishFlagged_positional {requiredPositionals : Nat} {args : List Text}
    {positional : Nat} {tokens args' rest : List Text}
    (h : finishFlagged requiredPositionals args positional tokens = .ok (args', rest)) :
    requiredPositionals ≤ positional := by
  unfold finishFlagged at h
  split at h
  · cases h
  · omega

theorem parseFlaggedFrom_seamless {valueFlags : List Text} {requiredPositionals : Nat}
    {args : List Text} {positional : Nat} {tokens args' rest more : List Text}
    (hmore : StartsStep more)
    (h : parseFlaggedFrom valueFlags requiredPositionals args positional tokens =
      .ok (args', rest)) :
    parseFlaggedFrom valueFlags requiredPositionals args positional (tokens ++ more) =
      .ok (args', rest ++ more) := by
  fun_induction parseFlaggedFrom valueFlags requiredPositionals args positional tokens with
  | case1 args positional =>
      have hpositional := finishFlagged_positional h
      obtain ⟨rfl, rfl⟩ := finishFlagged_ok h
      exact parseFlaggedFrom_startsStep _ _ hpositional hmore
  | case2 args positional token tokens hverb =>
      obtain ⟨rfl, rfl⟩ := finishFlagged_ok h
      apply parseFlaggedFrom_startsStep _ _ hverb.1
      intro verb hmem
      cases hmem
      exact hverb.2
  | case3 => cases h
  | case4 args positional token hverb hvalue value tokens ih =>
      rw [List.cons_append, List.cons_append, parseFlaggedFrom_value _ _ hverb hvalue]
      exact ih h
  | case5 => cases h
  | case6 args positional token tokens hverb hvalue hflag ih =>
      rw [List.cons_append, parseFlaggedFrom_positional _ hverb hvalue hflag]
      exact ih h

theorem parseFlaggedStep_seamless (valueFlags : List Text) (requiredPositionals : Nat) :
    Seamless (parseFlaggedStep valueFlags requiredPositionals) := by
  intro tokens args rest more hmore h
  exact parseFlaggedFrom_seamless hmore h

/-- The flag is looked for in the arguments of the step alone. -/
theorem requireFlag_seamless (flag message : Text) {parse : List Text → StepParse}
    (hparse : Seamless parse) :
    Seamless fun tokens => requireFlag flag message (parse tokens) := by
  intro tokens args rest more hmore h
  have hok := requireFlag_ok h
  simp only [requireFlag, hok] at h
  simp only [requireFlag, hparse tokens args rest more hmore hok]
  split at h
  · cases h
  · rename_i hsome
    rw [if_neg hsome]

theorem parseClipboardStep_seamless : Seamless parseClipboardStep := by
  intro tokens args rest more hmore h
  cases tokens with
  | nil => cases h
  | cons action tokens =>
      rw [parseClipboardStep] at h
      rw [List.cons_append, parseClipboardStep]
      split at h
      · rename_i hget
        rw [if_pos hget]
        obtain ⟨rfl, rfl⟩ := Prod.mk.inj (Except.ok.inj h)
        rfl
      · rename_i hget
        rw [if_neg hget]
        split at h
        · rename_i hset
          rw [if_pos hset]
          cases hparsed : requireFlag "--text".toList "clipboard set requires --text <TEXT>".toList
              (parseFlaggedStep ["--text".toList] 0 tokens) with
          | error e =>
              rw [hparsed] at h
              cases h
          | ok parsed =>
              rw [hparsed] at h
              obtain ⟨rfl, rfl⟩ := Prod.mk.inj (Except.ok.inj h)
              have hmoreParsed := requireFlag_seamless "--text".toList
                "clipboard set requires --text <TEXT>".toList
                (parseFlaggedStep_seamless ["--text".toList] 0)
                tokens parsed.1 parsed.2 more hmore hparsed
              simp only at hmoreParsed
              rw [hmoreParsed]
              rfl
        · cases h

/-! ### All verbs -/

theorem stepParsers_seamless : ∀ entry ∈ stepParsers, Seamless entry.2 := by
  have hnone : Seamless (parseFixedStep 0 []) := parseFixedStep_seamless 0 []
  unfold stepParsers
  simp only [List.forall_mem_cons]
  refine ⟨hnone, hnone, hnone, hnone, parseFixedStep_seamless 1 _, parseFixedStep_seamless 3 _,
    parseFixedStep_seamless 2 _, parseFixedStep_seamless 4 _, ?_, parseClipboardStep_seamless,
    parseFlaggedStep_seamless _ 1, ?_, parseFlaggedStep_seamless _ 1,
    parseFlaggedStep_seamless _ 0, by intro _ h; cases h⟩
  · intro tokens args rest more hmore h
    exact parseClickFrom_seamless hmore h
  · exact requireFlag_seamless _ _ (parseFlaggedStep_seamless _ 0)

theorem parseStepArgs_seamless (command : Text) : Seamless (parseStepArgs command) := by
  intro tokens args rest more hmore h
  unfold parseStepArgs at h ⊢
  split at h
  · rename_i parse hparse
    obtain ⟨before, after, heq, -⟩ := List.lookup_eq_some_iff.mp hparse
    have hmem : (command, parse) ∈ stepParsers := by
      rw [heq]
      exact List.mem_append_right before List.mem_cons_self
    exact stepParsers_seamless _ hmem tokens args rest more hmore h
  · cases h

/-- Further steps behind a batch that parses are read as they are read alone, and their
error is the error of the whole. -/
theorem parseBatchSteps_append {tokens more : List Text} {steps : List BatchStep}
    (hmore : StartsStep more) (h : parseBatchSteps tokens = .ok steps) :
    parseBatchSteps (tokens ++ more) = (parseBatchSteps more).map fun rest => steps ++ rest := by
  fun_induction parseBatchSteps tokens generalizing steps with
  | case1 =>
      cases h
      cases hrest : parseBatchSteps more with
      | error e => rw [List.nil_append, hrest]; rfl
      | ok rest => rw [List.nil_append, hrest]; rfl
  | case2 => cases h
  | case3 => cases h
  | case4 command tokens hcommand args rest hargs steps' hrest ih =>
      cases h
      have hstep := parseStepArgs_seamless command tokens args rest more hmore hargs
      rw [List.cons_append, parseBatchSteps_step hcommand hstep, ih hrest]
      cases parseBatchSteps more with
      | error e => rfl
      | ok others => rfl
  | case5 => cases h

/-- Behind three steps, one more is read as it is alone, and a verb without its argument is the
error it is alone. -/
theorem parseBatchSteps_append_sample :
    parseBatchSteps (sampleTokens ++ ["move".toList, "1".toList, "2".toList]) =
        .ok (sampleSteps ++ [⟨"move".toList, ["1".toList, "2".toList]⟩]) ∧
      parseBatchSteps (sampleTokens ++ ["type".toList]) =
        .error "type requires one text argument".toList := by
  have hstarts : ∀ more : List Text, (more.head?.all isStepCommand) = true → StartsStep more := by
    intro more hmore verb hmem
    rw [hmem] at hmore
    exact hmore
  have hmove : parseBatchSteps ["move".toList, "1".toList, "2".toList] =
      .ok [⟨"move".toList, ["1".toList, "2".toList]⟩] := by
    have hargs : parseStepArgs "move".toList ["1".toList, "2".toList] =
        .ok (["1".toList, "2".toList], []) := by rfl
    rw [parseBatchSteps_step rfl hargs, parseBatchSteps]
    rfl
  have htype : parseBatchSteps ["type".toList] =
      .error "type requires one text argument".toList := by
    have hargs : parseStepArgs "type".toList [] =
        .error "type requires one text argument".toList := by rfl
    have hverb : isStepCommand "type".toList = true := rfl
    unfold parseBatchSteps
    rw [if_pos hverb]
    split
    · rename_i herror
      rw [hargs] at herror
      rw [Except.error.inj herror]
    · rename_i hok
      rw [hargs] at hok
      cases hok
  rw [parseBatchSteps_append (hstarts _ rfl) parseBatchSteps_sample,
    parseBatchSteps_append (hstarts _ rfl) parseBatchSteps_sample, hmove, htype]
  exact ⟨rfl, rfl⟩

end RustdeskCli.Cli
