import RustdeskCli.Cli.BatchParsing
set_option autoImplicit false

/-!
# Cli: what a step of a batch means (`src/main.rs`)

A stand-alone command has its values parsed by the declared argument types; a step of a
batch carries its tokens, and `step_to_response` reads them again.  Here a typed command
is written out as tokens, in every order of its flags, and the response of the step is
compared with the response of the command.
-/

namespace RustdeskCli.Cli

open RustdeskCli.Foundation
open RustdeskCli.Session

/-! ## Numbers as tokens -/

/-- How an `i32` is written: its digits, behind a minus sign when it is negative. -/
theorem i32Text_eq (n : Int32) :
    i32Text n =
      if 0 ≤ n.toInt then Nat.toDigits 10 n.toInt.toNat
      else '-' :: Nat.toDigits 10 (-n.toInt).toNat := by
  rw [i32Text, Int.toString_eq_repr, Int.repr_eq_if]
  split
  · exact Nat.toList_repr
  · rw [String.toList_append, Nat.toList_repr]
    rfl

/-- The bounds of an `i32` are those `parse` checks. -/
theorem int32_in_range (n : Int32) :
    (if -2 ^ 31 ≤ n.toInt ∧ n.toInt < 2 ^ 31 then some (Int32.ofInt n.toInt) else none) =
      some n := by
  rw [if_pos ⟨n.le_toInt, n.toInt_lt⟩, Int32.ofInt_toInt]

theorem parseInt32_i32Text (n : Int32) : parseInt32 (i32Text n) = some n := by
  rw [i32Text_eq]
  split
  · rename_i hnonneg
    obtain ⟨m, hm⟩ := Int.eq_ofNat_of_zero_le hnonneg
    obtain ⟨c, rest, heq, hdigit⟩ := toDigits_eq_cons m
    have hparse := parseDigits_toDigits m
    have hvalue : some (m : Int) = some n.toInt := congrArg some hm.symm
    rw [heq] at hparse
    rw [hm, Int.toNat_natCast, heq, parseInt32, hparse]
    · exact (congrArg (Option.bind · _) hvalue).trans (int32_in_range n)
    · intro digits h
      rw [(List.cons.inj h).1] at hdigit
      exact absurd hdigit (by decide)
    · intro digits h
      rw [(List.cons.inj h).1] at hdigit
      exact absurd hdigit (by decide)
  · rename_i hneg
    have hnat : -(((-n.toInt).toNat : Nat) : Int) = n.toInt := by omega
    have hvalue : some (-(((-n.toInt).toNat : Nat) : Int)) = some n.toInt := congrArg some hnat
    rw [parseInt32, parseDigits_toDigits]
    exact (congrArg (Option.bind · _) hvalue).trans (int32_in_range n)

/-- No number looks like a flag. -/
theorem isFlag_i32Text (n : Int32) : ¬isFlag (i32Text n) = true := by
  have hdigits : ∀ m, ¬"-".toList.isPrefixOf (Nat.toDigits 10 m) = true := by
    intro m h
    obtain ⟨c, rest, heq, hdigit⟩ := toDigits_eq_cons m
    rw [heq] at h
    have hc : '-' = c := by simpa using h
    rw [← hc] at hdigit
    exact absurd hdigit (by decide)
  rw [isFlag, i32Text_eq]
  split
  · intro h
    apply hdigits n.toInt.toNat
    rw [List.isPrefixOf_iff_prefix] at h ⊢
    exact (List.prefix_append "-".toList "-".toList).trans h
  · intro h
    apply hdigits (-n.toInt).toNat
    simpa using h

/-! ## Typed commands and their tokens -/

/-- The values of a command of the input kinds, as the argument parser hands them on. -/
inductive InputCommand where
  | click (button : MouseButton) (double : Bool) (x y : Int32)
  | key (name : Text) (notFlag : ¬isFlag name = true) (modifiers : List Modifier)
  | type (text : Text)
  | scroll (x y delta : Int32)
  | move (x y : Int32)
  | drag (x1 y1 x2 y2 : Int32)

/-- The response of the stand-alone command. -/
def InputCommand.response : InputCommand → Response
  | .click button double x y => clickResponse button x y double
  | .key name _ modifiers => keyResponse name modifiers
  | .type text => typeResponse text
  | .scroll x y delta => scrollResponse x y delta
  | .move x y => moveResponse x y
  | .drag x1 y1 x2 y2 => dragResponse x1 y1 x2 y2

/-- The flags of `click`. -/
inductive ClickFlag where
  | button
  | double
  deriving DecidableEq, Repr

/-- A flag of `click` with its value. -/
def ClickFlag.tokens (button : MouseButton) : ClickFlag → List Text
  | .button => ["--button".toList, button.asStr]
  | .double => ["--double".toList]

/-- The flags of `click`, one after the other. -/
def clickFlagTokens (button : MouseButton) (flags : List ClickFlag) : List Text :=
  flags.flatMap (ClickFlag.tokens button)

/-- The value of `--modifiers`. -/
def modifiersToken (modifiers : List Modifier) : Text :=
  ",".toList.intercalate (modifiers.map Modifier.asStr)

/-- The ways to write a typed command: each flag at most once and on either side of the
positionals, `--button` may be left out for the default, no `--modifiers` without any. -/
inductive Printing : InputCommand → Type where
  | click {button : MouseButton} {double : Bool} {x y : Int32} (before after : List ClickFlag)
      (once : (before ++ after).Nodup) (doubleFlag : .double ∈ before ++ after ↔ double = true)
      (buttonFlag : .button ∈ before ++ after ∨ button = .left) :
      Printing (.click button double x y)
  | plainKey {name : Text} {notFlag : ¬isFlag name = true} : Printing (.key name notFlag [])
  | keyFirst {name : Text} {notFlag : ¬isFlag name = true} {modifiers : List Modifier}
      (some : modifiers ≠ []) : Printing (.key name notFlag modifiers)
  | keyLast {name : Text} {notFlag : ¬isFlag name = true} {modifiers : List Modifier}
      (some : modifiers ≠ []) : Printing (.key name notFlag modifiers)
  | type {text : Text} : Printing (.type text)
  | scroll {x y delta : Int32} : Printing (.scroll x y delta)
  | move {x y : Int32} : Printing (.move x y)
  | drag {x1 y1 x2 y2 : Int32} : Printing (.drag x1 y1 x2 y2)

/-- The step a typed command is written as. -/
def Printing.step : {command : InputCommand} → Printing command → BatchStep
  | .click button _ x y, .click before after _ _ _ =>
      ⟨"click".toList, clickFlagTokens button before ++
        (i32Text x :: i32Text y :: clickFlagTokens button after)⟩
  | .key name _ _, .plainKey => ⟨"key".toList, [name]⟩
  | .key name _ modifiers, .keyFirst _ =>
      ⟨"key".toList, [name, "--modifiers".toList, modifiersToken modifiers]⟩
  | .key name _ modifiers, .keyLast _ =>
      ⟨"key".toList, ["--modifiers".toList, modifiersToken modifiers, name]⟩
  | .type text, .type => ⟨"type".toList, [text]⟩
  | .scroll x y delta, .scroll => ⟨"scroll".toList, [i32Text x, i32Text y, i32Text delta]⟩
  | .move x y, .move => ⟨"move".toList, [i32Text x, i32Text y]⟩
  | .drag x1 y1 x2 y2, .drag =>
      ⟨"drag".toList, [i32Text x1, i32Text y1, i32Text x2, i32Text y2]⟩

/-- The tokens a typed command is written as. -/
def Printing.tokens {command : InputCommand} (printing : Printing command) : List Text :=
  printing.step.tokens

/-! ## The tokens are read as one step -/

theorem parseClickFrom_flags (button : MouseButton) (flags : List ClickFlag) (args : List Text)
    (positional : Nat) (tokens : List Text) :
    parseClickFrom args positional (clickFlagTokens button flags ++ tokens) =
      parseClickFrom (args ++ clickFlagTokens button flags) positional tokens := by
  induction flags generalizing args with
  | nil => simp [clickFlagTokens]
  | cons flag flags ih =>
      cases flag with
      | button =>
          have hstep : clickFlagTokens button (.button :: flags) ++ tokens =
              "--button".toList :: button.asStr :: (clickFlagTokens button flags ++ tokens) := rfl
          rw [hstep, parseClickFrom_button, ih, List.append_assoc]
          rfl
      | double =>
          have hstep : clickFlagTokens button (.double :: flags) ++ tokens =
              "--double".toList :: (clickFlagTokens button flags ++ tokens) := rfl
          rw [hstep, parseClickFrom_double, ih, List.append_assoc]
          rfl

/-- A coordinate is no flag, and is not taken for a verb before both are read. -/
theorem parseClickFrom_coordinate (args : List Text) {positional : Nat} (n : Int32)
    (tokens : List Text) (hpositional : positional < 2) :
    parseClickFrom args positional (i32Text n :: tokens) =
      parseClickFrom (args ++ [i32Text n]) (positional + 1) tokens := by
  have hflag := isFlag_i32Text n
  apply parseClickFrom_positional
  · intro h
    omega
  · intro h
    rw [h] at hflag
    exact hflag rfl
  · intro h
    rw [h] at hflag
    exact hflag rfl
  · exact hflag

theorem parseClickStep_printed (button : MouseButton) (before after : List ClickFlag)
    (x y : Int32) :
    parseClickStep (clickFlagTokens button before ++
        (i32Text x :: i32Text y :: clickFlagTokens button after)) =
      .ok (clickFlagTokens button before ++
        (i32Text x :: i32Text y :: clickFlagTokens button after), []) := by
  rw [parseClickStep, parseClickFrom_flags, parseClickFrom_coordinate _ _ _ (by omega),
    parseClickFrom_coordinate _ _ _ (by omega)]
  have hafter := parseClickFrom_flags button after
    ([] ++ clickFlagTokens button before ++ [i32Text x] ++ [i32Text y]) (0 + 1 + 1) []
  rw [List.append_nil] at hafter
  rw [hafter, parseClickFrom_startsStep _ (by omega) startsStep_nil]
  simp

theorem parseFlaggedFrom_modifiers (args : List Text) {positional : Nat} (value : Text)
    (tokens : List Text) :
    parseFlaggedFrom ["--modifiers".toList] 1 args positional
        ("--modifiers".toList :: value :: tokens) =
      parseFlaggedFrom ["--modifiers".toList] 1 (args ++ ["--modifiers".toList, value])
        positional tokens := by
  apply parseFlaggedFrom_value
  · intro h
    exact absurd h.2 (by decide)
  · rfl

/-- The name of the key may be a verb: it is the first positional. -/
theorem parseFlaggedFrom_name (args : List Text) (name : Text) (tokens : List Text)
    (hname : ¬isFlag name = true) :
    parseFlaggedFrom ["--modifiers".toList] 1 args 0 (name :: tokens) =
      parseFlaggedFrom ["--modifiers".toList] 1 (args ++ [name]) 1 tokens := by
  apply parseFlaggedFrom_positional
  · intro h
    omega
  · intro h
    have heq : name = "--modifiers".toList := by simpa using h
    rw [heq] at hname
    exact hname rfl
  · exact hname

theorem Printing.parseStepArgs_step {command : InputCommand} (printing : Printing command) :
    parseStepArgs printing.step.command printing.step.args = .ok (printing.step.args, []) := by
  have hend : ∀ args : List Text,
      parseFlaggedFrom ["--modifiers".toList] 1 args 1 [] = .ok (args, []) := by
    intro args
    exact parseFlaggedFrom_startsStep _ args (by omega) startsStep_nil
  cases printing with
  | @click button double x y before after =>
      exact parseClickStep_printed button before after x y
  | @plainKey name notFlag =>
      calc parseStepArgs "key".toList [name]
          = parseFlaggedFrom ["--modifiers".toList] 1 [] 0 [name] := rfl
        _ = .ok ([name], []) := by
          rw [parseFlaggedFrom_name _ _ _ notFlag, hend]
          rfl
  | @keyFirst name notFlag modifiers =>
      calc parseStepArgs "key".toList [name, "--modifiers".toList, modifiersToken modifiers]
          = parseFlaggedFrom ["--modifiers".toList] 1 [] 0
              [name, "--modifiers".toList, modifiersToken modifiers] := rfl
        _ = .ok ([name, "--modifiers".toList, modifiersToken modifiers], []) := by
          rw [parseFlaggedFrom_name _ _ _ notFlag, parseFlaggedFrom_modifiers, hend]
          rfl
  | @keyLast name notFlag modifiers =>
      calc parseStepArgs "key".toList ["--modifiers".toList, modifiersToken modifiers, name]
          = parseFlaggedFrom ["--modifiers".toList] 1 [] 0
              ["--modifiers".toList, modifiersToken modifiers, name] := rfl
        _ = .ok (["--modifiers".toList, modifiersToken modifiers, name], []) := by
          rw [parseFlaggedFrom_modifiers, parseFlaggedFrom_name _ _ _ notFlag, hend]
          rfl
  | type => rfl
  | scroll => rfl
  | move => rfl
  | drag => rfl

theorem Printing.isStepCommand_step {command : InputCommand} (printing : Printing command) :
    isStepCommand printing.step.command = true := by
  cases printing <;> rfl

/-- Every writing of a command is read as the one step it stands for. -/
theorem Printing.parseBatchSteps_tokens {command : InputCommand} (printing : Printing command) :
    parseBatchSteps printing.tokens = .ok [printing.step] := by
  rw [Printing.tokens, BatchStep.tokens,
    parseBatchSteps_step printing.isStepCommand_step printing.parseStepArgs_step, parseBatchSteps]
  rfl

/-! ## Reading the modifiers -/

theorem comma_not_mem_asStr (modifier : Modifier) : ',' ∉ modifier.asStr := by
  cases modifier <;> decide

theorem splitOn_modifiersToken {modifiers : List Modifier} (hne : modifiers ≠ []) :
    (modifiersToken modifiers).splitOn ',' = modifiers.map Modifier.asStr := by
  apply List.splitOn_intercalate
  · intro name hname
    obtain ⟨modifier, -, rfl⟩ := List.mem_map.mp hname
    exact comma_not_mem_asStr modifier
  · simpa using hne

/-- `parse_modifier_list` reads back every name but `meta`. -/
theorem parseModifierList_modifiersToken {modifiers : List Modifier} (hne : modifiers ≠ []) :
    parseModifierList (modifiersToken modifiers) = modifiers.filter (· ≠ .metaKey) := by
  have hitem : ∀ modifier : Modifier, parseModifier modifier.asStr =
      if modifier ≠ .metaKey then some modifier else none := by
    intro modifier
    cases modifier <;> rfl
  rw [parseModifierList, splitOn_modifiersToken hne, List.filterMap_map, ← List.filterMap_eq_filter]
  congr 1
  funext modifier
  rw [Function.comp_apply, hitem, Option.guard]
  simp only [decide_eq_true_eq]

theorem asStr_injective : Function.Injective Modifier.asStr := by
  intro a b h
  cases a <;> cases b <;> first | rfl | exact absurd h (by decide)

theorem keyResponse_inj {name : Text} {modifiers modifiers' : List Modifier}
    (h : keyResponse name modifiers = keyResponse name modifiers') : modifiers = modifiers' := by
  have hjson := congrArg Response.json h
  simp only [keyResponse, successResponse, Json.obj.injEq, List.append_cancel_left_eq,
    List.cons.injEq, Prod.mk.injEq, Json.arr.injEq, and_true, true_and] at hjson
  have hstr : Function.Injective Json.str := by
    intro a b hab
    exact Json.str.inj hab
  exact asStr_injective.list_map (hstr.list_map hjson)

/-- The response of a `key` step with modifiers agrees unless `meta` is among them. -/
theorem keyResponse_read_iff {name : Text} {modifiers : List Modifier} (hne : modifiers ≠ []) :
    keyResponse name (parseModifierList (modifiersToken modifiers)) = keyResponse name modifiers ↔
      .metaKey ∉ modifiers := by
  rw [parseModifierList_modifiersToken hne]
  constructor
  · intro h hmem
    have heq := keyResponse_inj h
    rw [← heq] at hmem
    simp at hmem
  · intro h
    congr 1
    rw [List.filter_eq_self]
    intro modifier hmem
    simp only [decide_eq_true_eq]
    rintro rfl
    exact h hmem

/-! ## Reading the flags of a click -/

theorem flagValue_clickFlags (button : MouseButton) (flags : List ClickFlag) (rest : List Text) :
    flagValue "--button".toList (clickFlagTokens button flags ++ rest) =
      if .button ∈ flags then some button.asStr else flagValue "--button".toList rest := by
  induction flags with
  | nil => rfl
  | cons flag flags ih =>
      cases flag with
      | button =>
          have hstep : clickFlagTokens button (.button :: flags) ++ rest =
              "--button".toList :: button.asStr :: (clickFlagTokens button flags ++ rest) := rfl
          rw [hstep, flagValue, if_pos rfl, if_pos List.mem_cons_self]
      | double =>
          have hmem : ClickFlag.button ∈ ClickFlag.double :: flags ↔ .button ∈ flags := by
            simp
          have hstep : clickFlagTokens button (.double :: flags) ++ rest =
              "--double".toList :: (clickFlagTokens button flags ++ rest) := rfl
          rw [hstep, flagValue_cons_of_ne _ (by decide), ih]
          simp only [hmem]

theorem i32Text_ne_flag {flag : Text} (hflag : isFlag flag = true) (n : Int32) :
    i32Text n ≠ flag := by
  intro h
  apply isFlag_i32Text n
  rw [h]
  exact hflag

/-- The button is read on either side of the coordinates. -/
theorem flagValue_click (button : MouseButton) (before after : List ClickFlag) (x y : Int32) :
    flagValue "--button".toList (clickFlagTokens button before ++
        (i32Text x :: i32Text y :: clickFlagTokens button after)) =
      if .button ∈ before ++ after then some button.asStr else none := by
  have hafter := flagValue_clickFlags button after []
  rw [List.append_nil] at hafter
  rw [flagValue_clickFlags, flagValue_cons_of_ne _ (i32Text_ne_flag rfl x),
    flagValue_cons_of_ne _ (i32Text_ne_flag rfl y), hafter]
  by_cases hbefore : ClickFlag.button ∈ before
  · rw [if_pos hbefore, if_pos (List.mem_append_left _ hbefore)]
  · rw [if_neg hbefore]
    simp only [List.mem_append, hbefore, false_or]
    rfl

theorem parseMouseButton_asStr (button : MouseButton) :
    parseMouseButton button.asStr = some button := by
  cases button <;> rfl

theorem double_mem_clickFlagTokens (button : MouseButton) (flags : List ClickFlag) :
    "--double".toList ∈ clickFlagTokens button flags ↔ .double ∈ flags := by
  induction flags with
  | nil => simp [clickFlagTokens]
  | cons flag flags ih =>
      have hcons : clickFlagTokens button (flag :: flags) =
          ClickFlag.tokens button flag ++ clickFlagTokens button flags := rfl
      rw [hcons, List.mem_append, ih, List.mem_cons]
      apply or_congr_left
      cases flag with
      | button => cases button <;> decide
      | double => simp [ClickFlag.tokens]

/-- `--double` is seen on either side of the coordinates. -/
theorem flagPresent_click (button : MouseButton) (before after : List ClickFlag) (x y : Int32) :
    flagPresent "--double".toList (clickFlagTokens button before ++
        (i32Text x :: i32Text y :: clickFlagTokens button after)) = true ↔
      .double ∈ before ++ after := by
  have hx : "--double".toList ≠ i32Text x := (i32Text_ne_flag rfl x).symm
  have hy : "--double".toList ≠ i32Text y := (i32Text_ne_flag rfl y).symm
  rw [flagPresent, List.any_eq_true]
  simp only [decide_eq_true_eq, exists_eq_right, List.mem_append, List.mem_cons,
    double_mem_clickFlagTokens, hx, hy, false_or]

/-! ## Reading the coordinates -/

theorem coordinate_zero (n : Int32) (args : List Text) : coordinate (i32Text n :: args) 0 = n := by
  simp [coordinate, parseInt32_i32Text]

theorem coordinate_succ (arg : Text) (args : List Text) (i : Nat) :
    coordinate (arg :: args) (i + 1) = coordinate args i := rfl

theorem positionalsFrom_number (n : Int32) (args : List Text) :
    positionalsFrom false (i32Text n :: args) = i32Text n :: positionalsFrom false args := by
  rw [positionalsFrom, if_neg (isFlag_i32Text n)]

/-- A flag with a value hides it, as it should. -/
theorem positionalsFrom_button (value : Text) (args : List Text) :
    positionalsFrom false ("--button".toList :: value :: args) = positionalsFrom false args := rfl

/-- `--double` has no value, and hides the argument after it. -/
theorem positionalsFrom_double (arg : Text) (args : List Text) :
    positionalsFrom false ("--double".toList :: arg :: args) = positionalsFrom false args := rfl

theorem positionalsFrom_flags (button : MouseButton) {flags : List ClickFlag} (rest : List Text)
    (hdouble : .double ∉ flags) :
    positionalsFrom false (clickFlagTokens button flags ++ rest) = positionalsFrom false rest := by
  induction flags with
  | nil => rfl
  | cons flag flags ih =>
      cases flag with
      | button => exact ih fun hmem => hdouble (List.mem_cons_of_mem _ hmem)
      | double => exact absurd List.mem_cons_self hdouble

/-- The coordinates are the first two positionals when nothing hides one. -/
theorem coordinates_of_not_double (button : MouseButton) {before : List ClickFlag}
    (after : List ClickFlag) (x y : Int32) (hdouble : .double ∉ before) :
    let positionals := positionalArgs (clickFlagTokens button before ++
      (i32Text x :: i32Text y :: clickFlagTokens button after))
    coordinate positionals 0 = x ∧ coordinate positionals 1 = y := by
  simp only [positionalArgs, positionalsFrom_flags button _ hdouble, positionalsFrom_number,
    coordinate_zero, coordinate_succ, and_self]

/-- What stands in front of the coordinates when `--double` does. -/
theorem double_before {before after : List ClickFlag} (once : (before ++ after).Nodup)
    (hdouble : .double ∈ before) :
    (before = [.double] ∧ .double ∉ after) ∨ (before = [.button, .double] ∧ after = []) ∨
      (before = [.double, .button] ∧ after = []) := by
  have hnotAfter : ClickFlag.double ∉ after := by
    intro hmem
    exact (List.nodup_append.mp once).2.2 _ hdouble _ hmem rfl
  have hnil : .button ∈ before → after = [] := by
    intro hbutton
    apply List.eq_nil_iff_forall_not_mem.mpr
    intro flag hmem
    cases flag with
    | button => exact (List.nodup_append.mp once).2.2 _ hbutton _ hmem rfl
    | double => exact hnotAfter hmem
  have hnodup : before.Nodup := (List.nodup_append.mp once).1
  match before, hdouble, hnodup, hnil with
  | [.double], _, _, _ => exact .inl ⟨rfl, hnotAfter⟩
  | [.button, .double], _, _, hnil => exact .inr (.inl ⟨rfl, hnil (by simp)⟩)
  | [.double, .button], _, _, hnil => exact .inr (.inr ⟨rfl, hnil (by simp)⟩)
  | first :: second :: third :: rest, _, hnodup, _ =>
      cases first <;> cases second <;> cases third <;> simp at hnodup

/-- Behind `--double` the first coordinate, or the flag in front of it, is lost: the two
numbers that are read are `y` and zero, or zero and `x`. -/
theorem coordinates_of_double (button : MouseButton) {before after : List ClickFlag}
    (x y : Int32) (once : (before ++ after).Nodup) (hdouble : .double ∈ before) :
    let positionals := positionalArgs (clickFlagTokens button before ++
      (i32Text x :: i32Text y :: clickFlagTokens button after))
    (coordinate positionals 0 = y ∧ coordinate positionals 1 = 0) ∨
      (coordinate positionals 0 = 0 ∧ coordinate positionals 1 = x) := by
  obtain ⟨rfl, hafter⟩ | ⟨rfl, rfl⟩ | ⟨rfl, rfl⟩ := double_before once hdouble
  · left
    have hrest := positionalsFrom_flags button [] hafter
    rw [List.append_nil] at hrest
    have hread : positionalArgs (clickFlagTokens button [.double] ++
        (i32Text x :: i32Text y :: clickFlagTokens button after)) = [i32Text y] := by
      calc positionalsFrom false ("--double".toList :: i32Text x ::
              i32Text y :: clickFlagTokens button after)
          = positionalsFrom false (i32Text y :: clickFlagTokens button after) :=
            positionalsFrom_double _ _
        _ = [i32Text y] := by rw [positionalsFrom_number, hrest]; rfl
    rw [hread]
    exact ⟨coordinate_zero y [], rfl⟩
  · left
    have hread : positionalArgs (clickFlagTokens button [.button, .double] ++
        (i32Text x :: i32Text y :: clickFlagTokens button [])) = [i32Text y] := by
      calc positionalsFrom false ("--button".toList :: button.asStr ::
              "--double".toList :: i32Text x :: [i32Text y])
          = positionalsFrom false [i32Text y] := by
            rw [positionalsFrom_button, positionalsFrom_double]
        _ = [i32Text y] := positionalsFrom_number y []
    rw [hread]
    exact ⟨coordinate_zero y [], rfl⟩
  · right
    have hread : positionalArgs (clickFlagTokens button [.double, .button] ++
        (i32Text x :: i32Text y :: clickFlagTokens button [])) =
          [button.asStr, i32Text x, i32Text y] := by
      calc positionalsFrom false ("--double".toList :: "--button".toList ::
              button.asStr :: i32Text x :: [i32Text y])
          = positionalsFrom false (button.asStr :: i32Text x :: [i32Text y]) :=
            positionalsFrom_double _ _
        _ = button.asStr :: positionalsFrom false (i32Text x :: [i32Text y]) := by
            cases button <;> rfl
        _ = [button.asStr, i32Text x, i32Text y] := by
            rw [positionalsFrom_number, positionalsFrom_number]; rfl
    rw [hread]
    refine ⟨?_, coordinate_zero x [i32Text y]⟩
    cases button <;> rfl

theorem clickResponse_coordinates {button : MouseButton} {double : Bool} {x y x' y' : Int32} :
    clickResponse button x y double = clickResponse button x' y' double ↔ x = x' ∧ y = y' := by
  constructor
  · intro h
    have hjson := congrArg Response.json h
    simp only [clickResponse, successResponse, Json.obj.injEq, List.append_cancel_left_eq,
      List.cons.injEq, Prod.mk.injEq, Json.int.injEq, Int32.toInt_inj, and_true, true_and] at hjson
    exact hjson
  · rintro ⟨rfl, rfl⟩
    rfl

/-! ## The step and the command -/

theorem stepToResponse_click (args : List Text) :
    stepToResponse ⟨"click".toList, args⟩ =
      clickResponse (((flagValue "--button".toList args).bind parseMouseButton).getD .left)
        (coordinate (positionalArgs args) 0) (coordinate (positionalArgs args) 1)
        (flagPresent "--double".toList args) := rfl

theorem stepToResponse_key (args : List Text) :
    stepToResponse ⟨"key".toList, args⟩ =
      keyResponse ((firstNonFlagArg args).getD "enter".toList)
        (((flagValue "--modifiers".toList args).map parseModifierList).getD []) := rfl

theorem stepToResponse_key_of_name {args : List Text} {name : Text}
    (h : firstNonFlagArg args = some name) :
    stepToResponse ⟨"key".toList, args⟩ =
      keyResponse name (((flagValue "--modifiers".toList args).map parseModifierList).getD []) :=
  (stepToResponse_key args).trans
    (congrArg (fun found : Option Text => keyResponse (found.getD "enter".toList) _) h)

/-- A click is read with its button and its `double`, and with the two numbers that the
positionals begin with. -/
theorem stepToResponse_printed_click {button : MouseButton} {double : Bool} {x y : Int32}
    {before after : List ClickFlag}
    (doubleFlag : .double ∈ before ++ after ↔ double = true)
    (buttonFlag : .button ∈ before ++ after ∨ button = .left) :
    let args := clickFlagTokens button before ++
      (i32Text x :: i32Text y :: clickFlagTokens button after)
    stepToResponse ⟨"click".toList, args⟩ =
      clickResponse button (coordinate (positionalArgs args) 0)
        (coordinate (positionalArgs args) 1) double := by
  intro args
  have hbutton : ((flagValue "--button".toList args).bind parseMouseButton).getD .left =
      button := by
    rw [flagValue_click]
    split
    · rw [Option.bind_some, parseMouseButton_asStr, Option.getD_some]
    · rename_i hnone
      exact (buttonFlag.resolve_left hnone).symm
  have hdouble : flagPresent "--double".toList args = double := by
    rw [Bool.eq_iff_iff, flagPresent_click, doubleFlag]
  rw [stepToResponse_click, hbutton, hdouble]

theorem click_printed_iff {button : MouseButton} {double : Bool} {x y : Int32}
    {before after : List ClickFlag} (once : (before ++ after).Nodup)
    (doubleFlag : .double ∈ before ++ after ↔ double = true)
    (buttonFlag : .button ∈ before ++ after ∨ button = .left) :
    stepToResponse ⟨"click".toList, clickFlagTokens button before ++
        (i32Text x :: i32Text y :: clickFlagTokens button after)⟩ =
      clickResponse button x y double ↔ (.double ∈ before → x = 0 ∧ y = 0) := by
  rw [stepToResponse_printed_click doubleFlag buttonFlag, clickResponse_coordinates]
  by_cases hdouble : ClickFlag.double ∈ before
  · obtain ⟨hfirst, hsecond⟩ | ⟨hfirst, hsecond⟩ :=
      coordinates_of_double button x y once hdouble
    all_goals
      rw [hfirst, hsecond]
      constructor
      · rintro ⟨rfl, rfl⟩ -
        exact ⟨rfl, rfl⟩
      · intro h
        obtain ⟨rfl, rfl⟩ := h hdouble
        exact ⟨rfl, rfl⟩
  · obtain ⟨hfirst, hsecond⟩ := coordinates_of_not_double button after x y hdouble
    exact iff_of_true ⟨hfirst, hsecond⟩ fun hmem => absurd hmem hdouble

/-- When a writing is read as it was meant: no `meta` among the modifiers, and no
`--double` in front of coordinates other than zero. -/
def Printing.ReadBack : {command : InputCommand} → Printing command → Prop
  | .click _ _ x y, .click before _ _ _ _ => .double ∈ before → x = 0 ∧ y = 0
  | .key _ _ modifiers, _ => .metaKey ∉ modifiers
  | _, _ => True

theorem Printing.stepToResponse_step_iff {command : InputCommand} (printing : Printing command) :
    stepToResponse printing.step = command.response ↔ printing.ReadBack := by
  cases printing with
  | click before after once doubleFlag buttonFlag =>
      exact click_printed_iff once doubleFlag buttonFlag
  | @plainKey name notFlag =>
      have hname : firstNonFlagArg [name] = some name := by
        rw [firstNonFlagArg, firstNonFlagFrom, if_neg notFlag]
      apply iff_of_true
      · exact stepToResponse_key_of_name hname
      · intro hmem
        cases hmem
  | @keyFirst name notFlag modifiers some =>
      have hname : ∀ args, firstNonFlagArg (name :: args) = Option.some name := by
        intro args
        rw [firstNonFlagArg, firstNonFlagFrom, if_neg notFlag]
      have hvalue : flagValue "--modifiers".toList
          [name, "--modifiers".toList, modifiersToken modifiers] =
            Option.some (modifiersToken modifiers) := by
        rw [flagValue_cons_of_ne _ (fun h => notFlag (by rw [h]; rfl))]
        rfl
      have hread := stepToResponse_key_of_name
        (hname ["--modifiers".toList, modifiersToken modifiers])
      rw [hvalue] at hread
      exact (Eq.congr_left hread).trans (keyResponse_read_iff some)
  | @keyLast name notFlag modifiers some =>
      have hname : firstNonFlagArg ["--modifiers".toList, modifiersToken modifiers, name] =
          Option.some name := by
        calc firstNonFlagFrom false ["--modifiers".toList, modifiersToken modifiers, name]
            = firstNonFlagFrom false [name] := rfl
          _ = Option.some name := by rw [firstNonFlagFrom, if_neg notFlag]
      exact (Eq.congr_left (stepToResponse_key_of_name hname)).trans (keyResponse_read_iff some)
  | type => exact iff_of_true rfl trivial
  | @scroll x y delta =>
      apply iff_of_true _ trivial
      calc stepToResponse ⟨"scroll".toList, [i32Text x, i32Text y, i32Text delta]⟩
          = scrollResponse (coordinate [i32Text x, i32Text y, i32Text delta] 0)
              (coordinate [i32Text x, i32Text y, i32Text delta] 1)
              (coordinate [i32Text x, i32Text y, i32Text delta] 2) := rfl
        _ = scrollResponse x y delta := by simp only [coordinate_succ, coordinate_zero]
  | @move x y =>
      apply iff_of_true _ trivial
      calc stepToResponse ⟨"move".toList, [i32Text x, i32Text y]⟩
          = moveResponse (coordinate [i32Text x, i32Text y] 0)
              (coordinate [i32Text x, i32Text y] 1) := rfl
        _ = moveResponse x y := by simp only [coordinate_succ, coordinate_zero]
  | @drag x1 y1 x2 y2 =>
      apply iff_of_true _ trivial
      calc stepToResponse ⟨"drag".toList, [i32Text x1, i32Text y1, i32Text x2, i32Text y2]⟩
          = dragResponse (coordinate [i32Text x1, i32Text y1, i32Text x2, i32Text y2] 0)
              (coordinate [i32Text x1, i32Text y1, i32Text x2, i32Text y2] 1)
              (coordinate [i32Text x1, i32Text y1, i32Text x2, i32Text y2] 2)
              (coordinate [i32Text x1, i32Text y1, i32Text x2, i32Text y2] 3) := rfl
        _ = dragResponse x1 y1 x2 y2 := by simp only [coordinate_succ, coordinate_zero]

/-- The responses of the steps of a batch. -/
def batchResponses (tokens : List Text) : Except Text (List Response) :=
  (parseBatchSteps tokens).map fun steps => steps.map stepToResponse

theorem Printing.batchResponses_tokens {command : InputCommand} (printing : Printing command) :
    batchResponses printing.tokens = .ok [stepToResponse printing.step] := by
  rw [batchResponses, printing.parseBatchSteps_tokens]
  rfl

/-- A typed command that is written out, parsed as a batch and evaluated answers what the
command answers alone exactly when the writing is read back. -/
theorem batchResponses_eq_response_iff {command : InputCommand} (printing : Printing command) :
    batchResponses printing.tokens = .ok [command.response] ↔ printing.ReadBack := by
  rw [printing.batchResponses_tokens, ← printing.stepToResponse_step_iff]
  simp

/-- A double click whose flag stands in front of its coordinates lands elsewhere. -/
theorem batchResponses_double_first_ne :
    ∃ (command : InputCommand) (printing : Printing command),
      printing.tokens = ["click".toList, "--double".toList, "10".toList, "20".toList] ∧
        batchResponses printing.tokens ≠ .ok [command.response] := by
  have hmem : ClickFlag.double ∈ [ClickFlag.double] ++ [] ↔ true = true := by decide
  let printing : Printing (.click .left true 10 20) :=
    .click [.double] [] (by decide) hmem (.inr rfl)
  refine ⟨_, printing, rfl, ?_⟩
  rw [printing.batchResponses_tokens]
  intro h
  have hstep : stepToResponse printing.step = InputCommand.response (.click .left true 10 20) := by
    simpa using h
  have hread := printing.stepToResponse_step_iff.mp hstep
  exact absurd (hread List.mem_cons_self).1 (by decide)

end RustdeskCli.Cli
