import RustdeskCli.Foundation.Lines
import RustdeskCli.Foundation.Machine
import RustdeskCli.Session.Response
set_option autoImplicit false

/-!
# Session: JSON texts

What `serde_json` writes without blanks, with the fields of an object in the order they
are given in, and a reader of such texts.  The reader is a machine with a stack: it takes
one character at a time, and the stack holds the arrays and objects that are open.  What
has been written is read back; and since the machine has nothing more to do once its value
is complete, no proper front of a text that it accepts is accepted.
-/

namespace RustdeskCli.Session

open RustdeskCli.Foundation

namespace Json

/-! ## Writing -/

mutual

/-- `serde_json::to_string`. -/
def write : Json → Text
  | .null => "null".toList
  | .bool b => if b then "true".toList else "false".toList
  | .int n => (toString n).toList
  | .str s => quote s
  | .arr elems => '[' :: writeElems [] elems
  | .obj fields => '{' :: writeFields [] fields

/-- The elements of an array and its end; `comma` stands before the first. -/
def writeElems (comma : Text) : List Json → Text
  | [] => [']']
  | elem :: elems => comma ++ write elem ++ writeElems [','] elems

/-- The fields of an object and its end. -/
def writeFields (comma : Text) : List (String × Json) → Text
  | [] => ['}']
  | (key, value) :: fields =>
      comma ++ quote key.toList ++ ':' :: write value ++ writeFields [','] fields

end

/-! ## Reading -/

/-- What is open around the place that is read: an array with its elements so far, an object
with its fields so far, and an object that waits for the value of a key. -/
inductive Open where
  | arr (elems : List Json)
  | obj (fields : List (String × Json))
  | field (fields : List (String × Json)) (key : String)

/-- What the reader expects. -/
inductive Mode where
  | value
  /-- an element, or the end of an array that has none yet -/
  | elemOrEnd
  /-- the rest of a word -/
  | word (rest : Text) (value : Json)
  | int (negative : Bool) (digits : Text)
  | str (isKey : Bool) (chars : Text)
  | escape (isKey : Bool) (chars : Text)
  /-- that many hexadecimal digits more -/
  | hex (isKey : Bool) (chars : Text) (need code : Nat)
  | key
  | keyOrEnd
  | colon (key : String)
  /-- a value has been read -/
  | after (value : Json)

/-- The reader between two characters. -/
structure Reader where
  mode : Mode
  opened : List Open

/-- The value of a hexadecimal digit. -/
def hexValue (c : Char) : Option Nat := (List.range 16).find? fun d => Nat.digitChar d = c

/-- The character a short escape stands for. -/
def unescape (c : Char) : Option Char :=
  if c = '"' then some '"'
  else if c = '\\' then some '\\'
  else if c = '/' then some '/'
  else if c = 'n' then some '\n'
  else if c = 'r' then some '\r'
  else if c = 't' then some '\t'
  else if c = 'b' then some (Char.ofNat 8)
  else if c = 'f' then some (Char.ofNat 12)
  else none

/-- The first character of a value. -/
def begin (c : Char) (opened : List Open) : Option Reader :=
  if c = '{' then some ⟨.keyOrEnd, .obj [] :: opened⟩
  else if c = '[' then some ⟨.elemOrEnd, .arr [] :: opened⟩
  else if c = '"' then some ⟨.str false [], opened⟩
  else if c = 'n' then some ⟨.word "ull".toList .null, opened⟩
  else if c = 't' then some ⟨.word "rue".toList (.bool true), opened⟩
  else if c = 'f' then some ⟨.word "alse".toList (.bool false), opened⟩
  else if c = '-' then some ⟨.int true [], opened⟩
  else if c.isDigit then some ⟨.int false [c], opened⟩
  else none

/-- The character after a value. -/
def next (value : Json) (c : Char) : List Open → Option Reader
  | .arr elems :: opened =>
      if c = ',' then some ⟨.value, .arr (elems ++ [value]) :: opened⟩
      else if c = ']' then some ⟨.after (.arr (elems ++ [value])), opened⟩
      else none
  | .field fields key :: opened =>
      if c = ',' then some ⟨.key, .obj (fields ++ [(key, value)]) :: opened⟩
      else if c = '}' then some ⟨.after (.obj (fields ++ [(key, value)])), opened⟩
      else none
  | _ => none

/-- The number that has been read. -/
def intOf (negative : Bool) (digits : Text) : Int :=
  if negative then -(Nat.ofDigitChars 10 digits 0 : Int) else Nat.ofDigitChars 10 digits 0

/-- One character. -/
def readChar (r : Reader) (c : Char) : Option Reader :=
  match r.mode with
  | .value => begin c r.opened
  | .elemOrEnd =>
      if c = ']' then
        match r.opened with
        | .arr elems :: opened => some ⟨.after (.arr elems), opened⟩
        | _ => none
      else begin c r.opened
  | .word [] _ => none
  | .word (d :: rest) value =>
      if c = d then some ⟨if rest = [] then .after value else .word rest value, r.opened⟩ else none
  | .int negative digits =>
      if c.isDigit then some ⟨.int negative (digits ++ [c]), r.opened⟩
      else if digits = [] then none
      else next (.int (intOf negative digits)) c r.opened
  | .str isKey chars =>
      if c = '"' then
        some (if isKey then ⟨.colon (String.ofList chars), r.opened⟩
          else ⟨.after (.str chars), r.opened⟩)
      else if c = '\\' then some ⟨.escape isKey chars, r.opened⟩
      else if c.toNat < 32 then none
      else some ⟨.str isKey (chars ++ [c]), r.opened⟩
  | .escape isKey chars =>
      if c = 'u' then some ⟨.hex isKey chars 4 0, r.opened⟩
      else (unescape c).map fun d => ⟨.str isKey (chars ++ [d]), r.opened⟩
  | .hex _ _ 0 _ => none
  | .hex isKey chars (need + 1) code =>
      (hexValue c).map fun d =>
        let code := 16 * code + d
        ⟨if need = 0 then .str isKey (chars ++ [Char.ofNat code]) else .hex isKey chars need code,
          r.opened⟩
  | .key => if c = '"' then some ⟨.str true [], r.opened⟩ else none
  | .keyOrEnd =>
      if c = '"' then some ⟨.str true [], r.opened⟩
      else if c = '}' then
        match r.opened with
        | .obj fields :: opened => some ⟨.after (.obj fields), opened⟩
        | _ => none
      else none
  | .colon key =>
      if c = ':' then
        match r.opened with
        | .obj fields :: opened => some ⟨.value, .field fields key :: opened⟩
        | _ => none
      else none
  | .after value => next value c r.opened

/-- The machine of the reader. -/
def reader : Machine Reader Char := ⟨readChar⟩

/-- The reader before the first character. -/
def Reader.start : Reader := ⟨.value, []⟩

/-- The value that has been read, when nothing is open any more. -/
def Reader.result (r : Reader) : Option Json :=
  match r.mode, r.opened with
  | .after value, [] => some value
  | _, _ => none

/-- `serde_json::from_str`, for a text that is an object, an array, a string or a word. -/
def read (text : Text) : Option Json := (reader.run .start text).bind Reader.result

/-- No proper front of an accepted text is accepted. -/
theorem read_front {text front : Text} {value : Json} (h : read text = some value)
    (hfront : front <+: text) (hne : front ≠ text) : read front = none := by
  obtain ⟨rest, rfl⟩ := hfront
  cases rest with
  | nil => exact absurd (List.append_nil front).symm hne
  | cons c rest =>
      unfold read at h ⊢
      rw [Machine.run_append] at h
      cases hrun : reader.run .start front with
      | none => rfl
      | some r =>
          obtain ⟨mode, opened⟩ := r
          rw [hrun] at h
          rw [Option.bind_some] at h ⊢
          unfold Reader.result
          split
          · -- a complete value takes no further character
            rename_i complete hmode hopened
            simp only at hmode hopened
            subst hmode hopened
            have hdead : reader.run ⟨.after complete, []⟩ (c :: rest) = none := rfl
            rw [hdead] at h
            cases h
          · rfl

/-! ## What is written is read -/

section RoundTrip

variable {opened : List Open}

theorem hexValue_digitChar {d : Nat} (h : d < 16) : hexValue (Nat.digitChar d) = some d := by
  have hall : ∀ d < 16, hexValue (Nat.digitChar d) = some d := by decide
  exact hall d h

/-- An escaped character is read as itself. -/
theorem run_escape (isKey : Bool) (chars : Text) (c : Char) :
    reader.run ⟨.str isKey chars, opened⟩ (escape c) =
      some ⟨.str isKey (chars ++ [c]), opened⟩ := by
  unfold escape
  split
  · rename_i hc
    subst hc
    rfl
  split
  · rename_i hc
    subst hc
    rfl
  split
  · rename_i hc
    subst hc
    rfl
  split
  · rename_i hc
    subst hc
    rfl
  split
  · rename_i hc
    subst hc
    rfl
  have hback : ∀ n, c.toNat = n → c = Char.ofNat n := fun n h => by rw [← h, Char.ofNat_toNat]
  split
  · rename_i hc
    rw [hback 8 hc]
    rfl
  split
  · rename_i hc
    rw [hback 12 hc]
    rfl
  split
  · rename_i hsmall
    have hhigh := hexValue_digitChar (d := c.toNat / 16) (by omega)
    have hlow := hexValue_digitChar (d := c.toNat % 16) (by omega)
    have hzero : hexValue '0' = some 0 := by decide
    have hcode : 16 * (16 * (16 * (16 * 0 + 0) + 0) + c.toNat / 16) + c.toNat % 16 = c.toNat := by
      omega
    show reader.run ⟨.str isKey chars, opened⟩ ['\\', 'u', '0', '0', Nat.digitChar (c.toNat / 16),
      Nat.digitChar (c.toNat % 16)] = _
    have hhex : ∀ (d : Char) (v need code : Nat), hexValue d = some v →
        reader.step ⟨.hex isKey chars (need + 1) code, opened⟩ d =
          some ⟨if need = 0 then .str isKey (chars ++ [Char.ofNat (16 * code + v)])
            else .hex isKey chars need (16 * code + v), opened⟩ := by
      intro d v need code hd
      simp only [reader, readChar, hd, Option.map_some]
    have hslash : reader.step ⟨.str isKey chars, opened⟩ '\\' =
        some ⟨.escape isKey chars, opened⟩ := rfl
    have hu : reader.step ⟨.escape isKey chars, opened⟩ 'u' =
        some ⟨.hex isKey chars 4 0, opened⟩ := rfl
    rw [reader.run_cons_of_step hslash, reader.run_cons_of_step hu,
      reader.run_cons_of_step (hhex _ _ 3 0 hzero), if_neg (by decide),
      reader.run_cons_of_step (hhex _ _ 2 _ hzero), if_neg (by decide),
      reader.run_cons_of_step (hhex _ _ 1 _ hhigh), if_neg (by decide),
      reader.run_cons_of_step (hhex _ _ 0 _ hlow), if_pos rfl, hcode, Char.ofNat_toNat,
      reader.run_nil]
  · rename_i hquote hslash _ _ _ _ _ hbig
    have hstep : reader.step ⟨.str isKey chars, opened⟩ c =
        some ⟨.str isKey (chars ++ [c]), opened⟩ := by
      simp only [reader, readChar]
      rw [if_neg hquote, if_neg hslash, if_neg hbig]
    rw [reader.run_cons_of_step hstep, reader.run_nil]

/-- So is a text in its escaped form. -/
theorem run_escaped (isKey : Bool) (chars text : Text) :
    reader.run ⟨.str isKey chars, opened⟩ (text.flatMap escape) =
      some ⟨.str isKey (chars ++ text), opened⟩ := by
  induction text generalizing chars with
  | nil => simp
  | cons c text ih =>
      rw [List.flatMap_cons, Machine.run_append, run_escape, Option.bind_some, ih]
      simp

theorem run_quote_key (text : Text) (fields : List (String × Json)) (rest : Text) :
    reader.run ⟨.key, .obj fields :: opened⟩ (quote text ++ ':' :: rest) =
      reader.run ⟨.value, .field fields (String.ofList text) :: opened⟩ rest := by
  have hopen : reader.step ⟨.key, .obj fields :: opened⟩ '"' =
      some ⟨.str true [], .obj fields :: opened⟩ := rfl
  have hclose : reader.step ⟨.str true text, .obj fields :: opened⟩ '"' =
      some ⟨.colon (String.ofList text), .obj fields :: opened⟩ := rfl
  have hcolon : reader.step ⟨.colon (String.ofList text), .obj fields :: opened⟩ ':' =
      some ⟨.value, .field fields (String.ofList text) :: opened⟩ := rfl
  show reader.run _ ('"' :: text.flatMap escape ++ ['"'] ++ ':' :: rest) = _
  rw [List.append_assoc, List.cons_append, reader.run_cons_of_step hopen, Machine.run_append,
    run_escaped, Option.bind_some, List.nil_append, List.singleton_append,
    reader.run_cons_of_step hclose, reader.run_cons_of_step hcolon]

theorem run_quote_value (text : Text) :
    reader.run ⟨.value, opened⟩ (quote text) = some ⟨.after (.str text), opened⟩ := by
  have hopen : reader.step ⟨.value, opened⟩ '"' = some ⟨.str false [], opened⟩ := rfl
  have hclose : reader.step ⟨.str false text, opened⟩ '"' = some ⟨.after (.str text), opened⟩ := rfl
  show reader.run _ ('"' :: text.flatMap escape ++ ['"']) = _
  rw [List.cons_append, reader.run_cons_of_step hopen, Machine.run_append, run_escaped,
    Option.bind_some, List.nil_append, reader.run_cons_of_step hclose, reader.run_nil]

/-! ### Numbers -/

theorem run_digits (negative : Bool) (chars digits : Text) (h : ∀ c ∈ digits, c.isDigit = true) :
    reader.run ⟨.int negative chars, opened⟩ digits =
      some ⟨.int negative (chars ++ digits), opened⟩ := by
  induction digits generalizing chars with
  | nil => simp
  | cons c digits ih =>
      have hstep : reader.step ⟨.int negative chars, opened⟩ c =
          some ⟨.int negative (chars ++ [c]), opened⟩ := by
        simp only [reader, readChar]
        rw [if_pos (h c List.mem_cons_self)]
      rw [reader.run_cons_of_step hstep, ih _ fun d hd => h d (List.mem_cons_of_mem _ hd)]
      simp

/-- A number is written as a sign and the digits of its size. -/
theorem write_int (n : Int) :
    ∃ negative digits, write (.int n) = (if negative then ['-'] else []) ++ digits ∧
      digits ≠ [] ∧ (∀ c ∈ digits, c.isDigit = true) ∧ intOf negative digits = n := by
  have hdigits : ∀ m, ∀ c ∈ Nat.toDigits 10 m, c.isDigit = true := fun m c hc =>
    Nat.isDigit_of_mem_toDigits (by decide) (by decide) hc
  cases n with
  | ofNat m =>
      refine ⟨false, Nat.toDigits 10 m, ?_, Nat.toDigits_ne_nil, hdigits m, ?_⟩
      · show (Nat.repr m).toList = _
        rw [Nat.toList_repr]
        rfl
      · simp [intOf, Nat.ofDigitChars_ten_toDigits]
  | negSucc m =>
      refine ⟨true, Nat.toDigits 10 (m + 1), ?_, Nat.toDigits_ne_nil, hdigits _, ?_⟩
      · show ("-" ++ Nat.repr (m + 1)).toList = _
        rw [String.toList_append, Nat.toList_repr]
        rfl
      · simp only [intOf, if_true, Nat.ofDigitChars_ten_toDigits]
        rfl

/-! ### Values -/

/-- The reader has read a value, or all of its digits. -/
inductive Settled (value : Json) (opened : List Open) : Reader → Prop where
  | after : Settled value opened ⟨.after value, opened⟩
  | int {negative : Bool} {digits : Text} (hvalue : value = .int (intOf negative digits))
      (hdigits : digits ≠ []) : Settled value opened ⟨.int negative digits, opened⟩

theorem Settled.step {value : Json} {r : Reader} (h : Settled value opened r) {c : Char}
    (hc : c.isDigit = false) : reader.step r c = next value c opened := by
  cases h with
  | after => rfl
  | int hvalue hdigits =>
      simp only [reader, readChar]
      rw [if_neg (by simp [hc]), if_neg hdigits, hvalue]

theorem run_write_int (n : Int) :
    ∃ r, reader.run ⟨.value, opened⟩ (write (.int n)) = some r ∧ Settled (.int n) opened r := by
  obtain ⟨negative, digits, hwrite, hne, hdigits, hvalue⟩ := write_int n
  refine ⟨⟨.int negative digits, opened⟩, ?_, .int (congrArg _ hvalue.symm) hne⟩
  rw [hwrite]
  cases negative with
  | true =>
      have hsign : reader.step ⟨.value, opened⟩ '-' = some ⟨.int true [], opened⟩ := rfl
      rw [if_pos rfl, List.singleton_append, reader.run_cons_of_step hsign,
        run_digits true [] digits hdigits, List.nil_append]
  | false =>
      cases digits with
      | nil => exact absurd rfl hne
      | cons c digits =>
          have hdigit := hdigits c List.mem_cons_self
          have hother : ∀ d : Char, d.isDigit = false → c ≠ d := by
            rintro d hd rfl
            rw [hd] at hdigit
            cases hdigit
          have hfirst : reader.step ⟨.value, opened⟩ c = some ⟨.int false [c], opened⟩ := by
            simp only [reader, readChar, begin]
            rw [if_neg (hother _ (by decide)), if_neg (hother _ (by decide)),
              if_neg (hother _ (by decide)), if_neg (hother _ (by decide)),
              if_neg (hother _ (by decide)), if_neg (hother _ (by decide)),
              if_neg (hother _ (by decide)), if_pos hdigit]
          rw [if_neg Bool.false_ne_true, List.nil_append, reader.run_cons_of_step hfirst,
            run_digits false [c] digits fun d hd => hdigits d (List.mem_cons_of_mem _ hd),
            List.singleton_append]

/-- No value begins with the end of an array. -/
theorem run_elemOrEnd (value : Json) (rest : Text) :
    reader.run ⟨.elemOrEnd, opened⟩ (write value ++ rest) =
      reader.run ⟨.value, opened⟩ (write value ++ rest) := by
  have hfirst : ∃ c chars, write value = c :: chars ∧ c ≠ ']' := by
    cases value with
    | null => exact ⟨_, _, rfl, by decide⟩
    | bool b => cases b <;> exact ⟨_, _, rfl, by decide⟩
    | int n =>
        obtain ⟨negative, digits, hwrite, hne, hdigits, -⟩ := write_int n
        cases digits with
        | nil => exact absurd rfl hne
        | cons c digits =>
            cases negative with
            | true => exact ⟨_, _, hwrite, by decide⟩
            | false =>
                refine ⟨_, _, hwrite, ?_⟩
                rintro rfl
                cases hdigits _ List.mem_cons_self
    | str text => exact ⟨_, _, rfl, by decide⟩
    | arr elems => exact ⟨_, _, by rw [write], by decide⟩
    | obj fields => exact ⟨_, _, by rw [write], by decide⟩
  obtain ⟨c, chars, hwrite, hc⟩ := hfirst
  have hstep : reader.step ⟨.elemOrEnd, opened⟩ c = reader.step ⟨.value, opened⟩ c := by
    simp only [reader, readChar]
    rw [if_neg hc]
  rw [hwrite, List.cons_append, Machine.run, Machine.run, hstep]

mutual

/-- A value is read up to its end. -/
theorem run_write : ∀ (value : Json) (opened : List Open),
    ∃ r, reader.run ⟨.value, opened⟩ (write value) = some r ∧ Settled value opened r
  | .null, _ => ⟨_, rfl, .after⟩
  | .bool true, _ => ⟨_, rfl, .after⟩
  | .bool false, _ => ⟨_, rfl, .after⟩
  | .int n, _ => run_write_int n
  | .str text, _ => ⟨_, by rw [write, run_quote_value], .after⟩
  | .arr [], _ => ⟨_, rfl, .after⟩
  | .arr (elem :: elems), opened => by
      have hopen : reader.step ⟨.value, opened⟩ '[' = some ⟨.elemOrEnd, .arr [] :: opened⟩ := rfl
      obtain ⟨r, hrun, hsettled⟩ := run_write elem (.arr [] :: opened)
      refine ⟨_, ?_, .after⟩
      rw [write, reader.run_cons_of_step hopen, writeElems, List.nil_append, run_elemOrEnd,
        Machine.run_append, hrun, Option.bind_some, run_writeElems elems hsettled]
      rfl
  | .obj [], _ => ⟨_, rfl, .after⟩
  | .obj ((key, value) :: fields), opened => by
      have hopen : reader.step ⟨.value, opened⟩ '{' = some ⟨.keyOrEnd, .obj [] :: opened⟩ := rfl
      obtain ⟨r, hrun, hsettled⟩ := run_write value (.field [] key :: opened)
      refine ⟨_, ?_, .after⟩
      have hkey : ∀ rest, reader.run ⟨.keyOrEnd, .obj [] :: opened⟩ (quote key.toList ++ rest) =
          reader.run ⟨.key, .obj [] :: opened⟩ (quote key.toList ++ rest) := fun _ => rfl
      rw [write, reader.run_cons_of_step hopen, writeFields, List.nil_append, List.append_assoc,
        hkey, List.cons_append, run_quote_key, String.ofList_toList, Machine.run_append, hrun,
        Option.bind_some, run_writeFields fields hsettled]
      rfl

/-- The further elements of an array, and its end. -/
theorem run_writeElems : ∀ (elems : List Json) {r : Reader} {value : Json} {read : List Json}
    {opened : List Open}, Settled value (.arr read :: opened) r →
      reader.run r (writeElems [','] elems) =
        some ⟨.after (.arr (read ++ value :: elems)), opened⟩
  | [], r, value, read, opened, hsettled => by
      have hend : reader.step r ']' = some ⟨.after (.arr (read ++ [value])), opened⟩ := by
        rw [hsettled.step (by decide)]
        rfl
      rw [writeElems, reader.run_cons_of_step hend, reader.run_nil]
  | elem :: elems, r, value, read, opened, hsettled => by
      have hcomma : reader.step r ',' = some ⟨.value, .arr (read ++ [value]) :: opened⟩ := by
        rw [hsettled.step (by decide)]
        rfl
      obtain ⟨r', hrun, hsettled'⟩ := run_write elem (.arr (read ++ [value]) :: opened)
      rw [writeElems, List.singleton_append, List.cons_append, reader.run_cons_of_step hcomma,
        Machine.run_append, hrun, Option.bind_some, run_writeElems elems hsettled']
      simp

/-- The further fields of an object, and its end. -/
theorem run_writeFields : ∀ (fields : List (String × Json)) {r : Reader} {value : Json}
    {read : List (String × Json)} {key : String} {opened : List Open},
      Settled value (.field read key :: opened) r →
      reader.run r (writeFields [','] fields) =
        some ⟨.after (.obj (read ++ (key, value) :: fields)), opened⟩
  | [], r, value, read, key, opened, hsettled => by
      have hend : reader.step r '}' =
          some ⟨.after (.obj (read ++ [(key, value)])), opened⟩ := by
        rw [hsettled.step (by decide)]
        rfl
      rw [writeFields, reader.run_cons_of_step hend, reader.run_nil]
  | (nextKey, next) :: fields, r, value, read, key, opened, hsettled => by
      have hcomma : reader.step r ',' =
          some ⟨.key, .obj (read ++ [(key, value)]) :: opened⟩ := by
        rw [hsettled.step (by decide)]
        rfl
      obtain ⟨r', hrun, hsettled'⟩ :=
        run_write next (.field (read ++ [(key, value)]) nextKey :: opened)
      rw [writeFields, List.append_assoc, List.append_assoc, List.singleton_append,
        reader.run_cons_of_step hcomma, List.cons_append, run_quote_key, String.ofList_toList,
        Machine.run_append, hrun, Option.bind_some, run_writeFields fields hsettled']
      simp

end

/-- A value that ends with its last character is read back. -/
theorem read_write {value : Json} (h : ∀ n, value ≠ .int n) : read (write value) = some value := by
  obtain ⟨r, hrun, hsettled⟩ := run_write value []
  rw [read, Reader.start, hrun, Option.bind_some]
  cases hsettled with
  | after => rfl
  | int hvalue hdigits => exact absurd hvalue (h _)

end RoundTrip

/-! ## One line -/

/-- A text without control characters. -/
def Printable (text : Text) : Prop := ∀ c ∈ text, 32 ≤ c.toNat

theorem Printable.append {xs ys : Text} (hx : Printable xs) (hy : Printable ys) :
    Printable (xs ++ ys) := by
  intro c hc
  rcases List.mem_append.mp hc with hc | hc
  · exact hx c hc
  · exact hy c hc

theorem Printable.cons {c : Char} {text : Text} (hc : 32 ≤ c.toNat) (h : Printable text) :
    Printable (c :: text) :=
  List.forall_mem_cons.mpr ⟨hc, h⟩

theorem printable_literal {text : Text} (h : text.all fun c => 32 ≤ c.toNat) : Printable text := by
  intro c hc
  simpa using List.all_eq_true.mp h c hc

/-- Control characters are escaped. -/
theorem printable_escape (c : Char) : Printable (escape c) := by
  unfold escape
  split
  · exact printable_literal (by decide)
  split
  · exact printable_literal (by decide)
  split
  · exact printable_literal (by decide)
  split
  · exact printable_literal (by decide)
  split
  · exact printable_literal (by decide)
  split
  · exact printable_literal (by decide)
  split
  · exact printable_literal (by decide)
  split
  · have hdigit : ∀ d < 16, 32 ≤ (Nat.digitChar d).toNat := by decide
    refine .append (printable_literal (by decide)) (.cons (hdigit _ (by omega)) ?_)
    exact .cons (hdigit _ (by omega)) (by simp [Printable])
  · rename_i hbig
    exact .cons (by omega) (by simp [Printable])

theorem printable_quote (text : Text) : Printable (quote text) := by
  refine .append (.append (printable_literal (by decide)) ?_) (printable_literal (by decide))
  intro d hd
  obtain ⟨c, _, hc⟩ := List.mem_flatMap.mp hd
  exact printable_escape c d hc

mutual

theorem printable_write : ∀ value : Json, Printable (write value)
  | .null => printable_literal (by decide)
  | .bool true => printable_literal (by decide)
  | .bool false => printable_literal (by decide)
  | .int n => by
      obtain ⟨negative, digits, hwrite, _, hdigits, _⟩ := write_int n
      rw [hwrite]
      refine .append ?_ fun c hc => ?_
      · cases negative <;> exact printable_literal (by decide)
      · exact Nat.le_trans (by decide) (Char.isDigit_iff_toNat.mp (hdigits c hc)).1
  | .str text => by
      rw [write]
      exact printable_quote text
  | .arr elems => by
      rw [write]
      exact .cons (by decide) (printable_writeElems elems (by simp [Printable]))
  | .obj fields => by
      rw [write]
      exact .cons (by decide) (printable_writeFields fields (by simp [Printable]))

theorem printable_writeElems : ∀ (elems : List Json) {comma : Text}, Printable comma →
    Printable (writeElems comma elems)
  | [], comma, _ => by
      rw [writeElems]
      exact printable_literal (by decide)
  | elem :: elems, comma, hcomma => by
      rw [writeElems]
      exact (hcomma.append (printable_write elem)).append
        (printable_writeElems elems (printable_literal (by decide)))

theorem printable_writeFields : ∀ (fields : List (String × Json)) {comma : Text},
    Printable comma → Printable (writeFields comma fields)
  | [], comma, _ => by
      rw [writeFields]
      exact printable_literal (by decide)
  | (key, value) :: fields, comma, hcomma => by
      rw [writeFields]
      refine .append (.append (hcomma.append (printable_quote _)) ?_)
        (printable_writeFields fields (printable_literal (by decide)))
      exact .cons (by decide) (printable_write value)

end

theorem lf_not_mem_write (value : Json) : '\n' ∉ write value := by
  intro hmem
  have hlf := printable_write value _ hmem
  exact absurd hlf (by decide)

theorem writeFields_end (comma : Text) (fields : List (String × Json)) :
    ∃ front, writeFields comma fields = front ++ ['}'] := by
  induction fields generalizing comma with
  | nil => exact ⟨[], by rw [writeFields]; rfl⟩
  | cons field fields ih =>
      obtain ⟨front, hfront⟩ := ih [',']
      obtain ⟨key, value⟩ := field
      exact ⟨_, by rw [writeFields, hfront, ← List.append_assoc]⟩

/-- An object and a string begin and end with a character of their own. -/
theorem trimmed_write {value : Json}
    (h : (∃ fields, value = .obj fields) ∨ ∃ text, value = .str text) :
    Text.Trimmed (write value) := by
  have hbetween : ∀ (c d : Char) (text : Text), Text.isWhitespace c = false →
      Text.isWhitespace d = false → Text.Trimmed (c :: text ++ [d]) := by
    intro c d text hc hd
    refine ⟨?_, ?_⟩
    · intro x hx
      obtain rfl : c = x := by simpa using hx
      exact hc
    · intro x hx
      rw [List.getLast?_concat] at hx
      exact Option.some.inj hx ▸ hd
  rcases h with ⟨fields, rfl⟩ | ⟨text, rfl⟩
  · obtain ⟨front, hfront⟩ := writeFields_end [] fields
    rw [write, hfront]
    exact hbetween '{' '}' front (by decide) (by decide)
  · rw [write]
    exact hbetween '"' '"' _ (by decide) (by decide)

end Json

end RustdeskCli.Session
