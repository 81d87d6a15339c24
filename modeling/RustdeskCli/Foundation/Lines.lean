import RustdeskCli.Foundation.Text
set_option autoImplicit false

/-!
# Foundation: blank texts and lines

Trimming takes blank text off both ends and nothing else.  A text that is cut at its line
feeds is put together again by `joinLines`, and what stands around one of its lines is
written out in `joinLines_around`.
-/

namespace RustdeskCli.Foundation

namespace Text

/-! ## Blank texts -/

/-- Only whitespace. -/
def Blank (text : Text) : Prop := ∀ c ∈ text, isWhitespace c = true

instance (text : Text) : Decidable (Blank text) := List.decidableBAll _ text

theorem blank_append {xs ys : Text} : Blank (xs ++ ys) ↔ Blank xs ∧ Blank ys :=
  List.forall_mem_append

theorem trim_infix (text : Text) : trim text <:+: text :=
  (List.rdropWhile_prefix _ _).isInfix.trans (List.dropWhile_suffix _).isInfix

/-- What trimming takes off is blank. -/
theorem trim_spec (text : Text) :
    ∃ front back, Blank front ∧ Blank back ∧ text = front ++ trim text ++ back := by
  refine ⟨text.takeWhile isWhitespace, (text.dropWhile isWhitespace).rtakeWhile isWhitespace,
    fun c hc => List.mem_takeWhile_imp hc, fun c hc => List.mem_rtakeWhile_imp hc, ?_⟩
  rw [trim, List.append_assoc, List.rdropWhile_append_rtakeWhile, List.takeWhile_append_dropWhile]

theorem trim_eq_nil_iff {text : Text} : trim text = [] ↔ Blank text := by
  rw [trim, List.rdropWhile_eq_nil_iff]
  constructor
  · intro h
    rw [Blank, ← List.dropWhile_eq_nil_iff]
    cases hdrop : text.dropWhile isWhitespace with
    | nil => rfl
    | cons c rest =>
        -- the first character that stays is none
        have hne : text.dropWhile isWhitespace ≠ [] := by simp [hdrop]
        have hhead := List.head_dropWhile_not isWhitespace hne
        simp only [hdrop, List.head_cons] at hhead h
        rw [h c List.mem_cons_self] at hhead
        cases hhead
  · intro h c hc
    exact h c ((List.dropWhile_sublist _).subset hc)

theorem trim_append_left {xs : Text} (h : Blank xs) (ys : Text) : trim (xs ++ ys) = trim ys := by
  rw [trim, List.dropWhile_append_of_pos h, trim]

theorem trim_append_right (xs : Text) {ys : Text} (h : Blank ys) : trim (xs ++ ys) = trim xs := by
  by_cases hxs : Blank xs
  · rw [trim_append_left hxs, trim_eq_nil_iff.mpr h, trim_eq_nil_iff.mpr hxs]
  · have hdrop : (xs ++ ys).dropWhile isWhitespace = xs.dropWhile isWhitespace ++ ys := by
      rw [List.dropWhile_append, if_neg]
      simpa [Blank] using hxs
    rw [trim, hdrop, rdropWhile_append_of_forall h, trim]

/-- What stands between two characters that stay also stays. -/
theorem mem_trim_between {xs ys zs : Text} {c d x : Char} (hc : isWhitespace c = false)
    (hd : isWhitespace d = false) (hx : x ∈ ys) : x ∈ trim (xs ++ c :: (ys ++ d :: zs)) := by
  have hdrop : (xs ++ c :: (ys ++ d :: zs)).dropWhile isWhitespace =
      (xs.dropWhile isWhitespace ++ c :: ys) ++ d :: zs := by
    rw [List.dropWhile_append]
    split
    · rename_i hempty
      rw [List.isEmpty_iff.mp hempty, List.dropWhile_cons_of_neg (by simp [hc])]
      simp
    · simp
  rw [trim, hdrop, rdropWhile_append_of_exists ⟨d, List.mem_cons_self, hd⟩]
  exact List.mem_append_left _ (List.mem_append_right _ (List.mem_cons_of_mem _ hx))

/-! ## Lines -/

theorem joinLines_splitOn (text : Text) : joinLines (text.splitOn '\n') = text :=
  List.intercalate_splitOn '\n'

/-- A line among others: each one before it ends with a line feed, each one behind it
begins with one. -/
theorem joinLines_around (before : List Text) (line : Text) (after : List Text) :
    joinLines (before ++ line :: after) =
      before.flatMap (fun l => l ++ ['\n']) ++ line ++ after.flatMap (fun l => '\n' :: l) := by
  induction before with
  | nil =>
      induction after generalizing line with
      | nil => simp [joinLines]
      | cons next after ih =>
          have hnext := ih next
          simp only [List.nil_append, List.flatMap_nil] at hnext
          rw [List.nil_append, joinLines, List.intercalate_cons_cons, ← joinLines, hnext]
          simp
  | cons first before ih =>
      rw [List.cons_append, joinLines, List.intercalate_cons_of_ne_nil (by simp), ← joinLines, ih]
      simp

theorem blank_lf : Blank ['\n'] := by decide

theorem joinLines_cons {line : Text} {rest : List Text} (h : rest ≠ []) :
    joinLines (line :: rest) = line ++ '\n' :: joinLines rest := by
  rw [joinLines, List.intercalate_cons_of_ne_nil h, List.append_assoc]
  rfl

theorem joinLines_concat {rest : List Text} (h : rest ≠ []) (line : Text) :
    joinLines (rest ++ [line]) = joinLines rest ++ '\n' :: line := by
  induction rest with
  | nil => exact absurd rfl h
  | cons first rest ih =>
      cases rest with
      | nil => simp [joinLines]
      | cons second rest =>
          have hnil : second :: rest ≠ [] := List.cons_ne_nil _ _
          rw [List.cons_append, joinLines_cons (by simp), ih hnil, joinLines_cons hnil]
          simp

/-- Blank lines in front are trimmed. -/
theorem trim_joinLines_append_left {blanks : List Text} (h : ∀ l ∈ blanks, Blank l)
    (rest : List Text) : trim (joinLines (blanks ++ rest)) = trim (joinLines rest) := by
  induction blanks with
  | nil => rfl
  | cons line blanks ih =>
      obtain ⟨hline, hblanks⟩ := List.forall_mem_cons.mp h
      rw [← ih hblanks, List.cons_append]
      by_cases hnil : blanks ++ rest = []
      · rw [hnil, joinLines, List.intercalate_singleton, trim_eq_nil_iff.mpr hline]
        rfl
      · have hfront : Blank (line ++ ['\n']) := blank_append.mpr ⟨hline, blank_lf⟩
        rw [joinLines_cons hnil, ← List.singleton_append, ← List.append_assoc,
          trim_append_left hfront]

/-- Blank lines at the end are trimmed. -/
theorem trim_joinLines_append_right (rest : List Text) {blanks : List Text}
    (h : ∀ l ∈ blanks, Blank l) : trim (joinLines (rest ++ blanks)) = trim (joinLines rest) := by
  induction blanks using List.reverseRecOn with
  | nil => rw [List.append_nil]
  | append_singleton blanks line ih =>
      obtain ⟨hblanks, hline⟩ := List.forall_mem_append.mp h
      have hblank : Blank line := hline line List.mem_cons_self
      rw [← ih hblanks, ← List.append_assoc]
      by_cases hnil : rest ++ blanks = []
      · rw [hnil, List.nil_append, joinLines, List.intercalate_singleton,
          trim_eq_nil_iff.mpr hblank]
        rfl
      · have hback : Blank ('\n' :: line) := blank_append.mpr ⟨blank_lf, hblank⟩
        rw [joinLines_concat hnil, trim_append_right _ hback]

/-- Blank lines around a line are trimmed with its ends. -/
theorem trim_joinLines_around {before : List Text} (line : Text) {after : List Text}
    (hbefore : ∀ l ∈ before, Blank l) (hafter : ∀ l ∈ after, Blank l) :
    trim (joinLines (before ++ line :: after)) = trim line := by
  have hright := trim_joinLines_append_right [line] hafter
  rw [joinLines, joinLines, List.intercalate_singleton] at hright
  rw [trim_joinLines_append_left hbefore, ← hright]
  rfl

/-- A pattern without line feeds that stands in the joined lines stands in one of them. -/
theorem infix_joinLines {pat : Text} (hne : pat ≠ []) (hlf : '\n' ∉ pat) {rest : List Text}
    (h : pat <:+: joinLines rest) : ∃ line ∈ rest, pat <:+: line := by
  induction rest with
  | nil => exact absurd (List.eq_nil_of_infix_nil h) hne
  | cons line rest ih =>
      by_cases hnil : rest = []
      · subst hnil
        rw [joinLines, List.intercalate_singleton] at h
        exact ⟨line, List.mem_cons_self, h⟩
      · rw [joinLines_cons hnil, infix_append_cons_iff hne hlf] at h
        cases h with
        | inl hin => exact ⟨line, List.mem_cons_self, hin⟩
        | inr hin =>
            obtain ⟨other, hmem, hother⟩ := ih hin
            exact ⟨other, List.mem_cons_of_mem _ hmem, hother⟩

/-! ## The characters that stay -/

/-- The characters of a text that are not whitespace. -/
def visible (text : Text) : Text := text.filter fun c => !isWhitespace c

theorem visible_append (xs ys : Text) : visible (xs ++ ys) = visible xs ++ visible ys :=
  List.filter_append xs ys

theorem visible_eq_nil_iff {text : Text} : visible text = [] ↔ Blank text := by
  rw [visible, List.filter_eq_nil_iff]
  simp only [Bool.not_eq_true', Bool.not_eq_false]
  rfl

theorem visible_trim (text : Text) : visible (trim text) = visible text := by
  obtain ⟨front, back, hfront, hback, heq⟩ := trim_spec text
  conv_rhs => rw [heq]
  rw [visible_append, visible_append, visible_eq_nil_iff.mpr hfront,
    visible_eq_nil_iff.mpr hback, List.nil_append, List.append_nil]

theorem visible_joinLines (rest : List Text) : visible (joinLines rest) = rest.flatMap visible := by
  induction rest with
  | nil => rfl
  | cons line rest ih =>
      by_cases hnil : rest = []
      · subst hnil
        simp [joinLines]
      · have hlf : visible ('\n' :: joinLines rest) = visible (joinLines rest) := rfl
        rw [joinLines_cons hnil, visible_append, hlf, ih, List.flatMap_cons]

/-! ## Trimmed texts -/

/-- No whitespace at either end. -/
def Trimmed (text : Text) : Prop :=
  (∀ c ∈ text.head?, isWhitespace c = false) ∧ (∀ c ∈ text.getLast?, isWhitespace c = false)

theorem trimmed_trim (text : Text) : Trimmed (trim text) := by
  constructor
  · intro c hc
    obtain ⟨back, hback⟩ : trim text <+: text.dropWhile isWhitespace := List.rdropWhile_prefix _ _
    have hhead : (text.dropWhile isWhitespace).head? = some c := by
      rw [← hback, List.head?_append, hc, Option.some_or]
    have hnot := List.head?_dropWhile_not isWhitespace text
    rw [hhead] at hnot
    exact hnot
  · intro c hc
    obtain ⟨hne, rfl⟩ := List.mem_getLast?_eq_getLast hc
    exact Bool.eq_false_iff.mpr (List.rdropWhile_last_not _ _ hne)

theorem trim_eq_self_iff {text : Text} : trim text = text ↔ Trimmed text := by
  constructor
  · intro h
    rw [← h]
    exact trimmed_trim text
  · rintro ⟨hhead, hlast⟩
    have hdrop : text.dropWhile isWhitespace = text := by
      cases text with
      | nil => rfl
      | cons c rest => exact List.dropWhile_cons_of_neg (by simp [hhead c rfl])
    rw [trim, hdrop, List.rdropWhile_eq_self_iff]
    intro hne
    rw [hlast _ (List.getLast?_eq_some_getLast hne)]
    exact Bool.false_ne_true

theorem blank_of_isLineEnd {text : Text} (h : ∀ c ∈ text, isLineEnd c = true) : Blank text := by
  intro c hc
  have hend := h c hc
  rw [isLineEnd, Bool.or_eq_true, decide_eq_true_eq, decide_eq_true_eq] at hend
  cases hend with
  | inl hcr => rw [hcr]; rfl
  | inr hlf => rw [hlf]; rfl

/-- Only line ends are taken off the end. -/
theorem trimEndLines_spec (text : Text) :
    ∃ ends, (∀ c ∈ ends, isLineEnd c = true) ∧ text = trimEndLines text ++ ends :=
  ⟨text.rtakeWhile isLineEnd, fun _ hc => List.mem_rtakeWhile_imp hc,
    (List.rdropWhile_append_rtakeWhile ..).symm⟩

theorem trim_trimEndLines (text : Text) : trim (trimEndLines text) = trim text := by
  obtain ⟨ends, hends, heq⟩ := trimEndLines_spec text
  conv_rhs => rw [heq]
  rw [trim_append_right _ (blank_of_isLineEnd hends)]

theorem visible_trimEndLines (text : Text) : visible (trimEndLines text) = visible text := by
  rw [← visible_trim (trimEndLines text), trim_trimEndLines, visible_trim]

/-- A pattern without line ends is not trimmed with them. -/
theorem infix_trimEndLines {pat text : Text} (hne : pat ≠ [])
    (hpat : ∀ c ∈ pat, isLineEnd c = false) (h : pat <:+: text) : pat <:+: trimEndLines text := by
  obtain ⟨ends, hends, heq⟩ := trimEndLines_spec text
  rw [heq] at h
  clear heq
  generalize trimEndLines text = kept at h ⊢
  induction ends using List.reverseRecOn with
  | nil => rwa [List.append_nil] at h
  | append_singleton ends c ih =>
      obtain ⟨hfront, hlast⟩ := List.forall_mem_append.mp hends
      have hc : c ∉ pat := by
        intro hmem
        have hend := hlast c List.mem_cons_self
        rw [hpat c hmem] at hend
        cases hend
      rw [← List.append_assoc, infix_append_cons_iff hne hc] at h
      cases h with
      | inl hin => exact ih hfront hin
      | inr hin => exact absurd (List.eq_nil_of_infix_nil hin) hne

/-! ## Carriage returns

`lines` takes the carriage return off a line that ends with one.  Putting the lines
together again leaves the text without the carriage returns in front of line feeds. -/

/-- A text without the carriage returns that stand in front of a line feed. -/
def dropCr : Text → Text
  | '\r' :: '\n' :: text => '\n' :: dropCr text
  | c :: text => c :: dropCr text
  | [] => []

theorem dropCr_cons {c : Char} (h : c ≠ '\r') (text : Text) :
    dropCr (c :: text) = c :: dropCr text := by
  rw [dropCr]
  intro rest hc
  exact absurd hc h

theorem length_dropCr_le (text : Text) : (dropCr text).length ≤ text.length := by
  fun_induction dropCr text with
  | case1 text ih => simp only [List.length_cons]; omega
  | case2 c text _ ih => simp only [List.length_cons]; omega
  | case3 => rfl

/-- Nothing is dropped exactly when no carriage return stands in front of a line feed. -/
theorem dropCr_eq_self_iff {text : Text} : dropCr text = text ↔ ¬['\r', '\n'] <:+: text := by
  fun_induction dropCr text with
  | case1 text ih =>
      apply iff_of_false
      · intro h
        have hlength := congrArg List.length h
        have hle := length_dropCr_le text
        simp only [List.length_cons] at hlength
        omega
      · exact not_not.mpr ⟨[], text, rfl⟩
  | case2 c text hcr ih =>
      have hhead : ¬['\r', '\n'] <+: c :: text := by
        rintro ⟨rest, hrest⟩
        obtain ⟨rfl, rfl⟩ := List.cons.inj hrest
        exact hcr rest rfl rfl
      rw [List.infix_cons_iff, not_or, ← ih]
      simp [hhead]
  | case3 => simp

/-- A character that is no line feed separates what is in front of it. -/
theorem dropCr_append_cons {c : Char} (h : c ≠ '\n') (xs ys : Text) :
    dropCr (xs ++ c :: ys) = dropCr xs ++ dropCr (c :: ys) := by
  fun_induction dropCr xs with
  | case1 xs ih => rw [List.cons_append, List.cons_append, dropCr, ih, List.cons_append]
  | case2 d xs hcr ih =>
      rw [List.cons_append, dropCr, ih, List.cons_append]
      intro rest hd heq
      cases xs with
      | nil => exact h (List.cons.inj heq).1
      | cons e xs => exact hcr xs hd (by rw [(List.cons.inj heq).1])
  | case3 => rfl

theorem blank_dropCr {text : Text} (h : Blank text) : Blank (dropCr text) := by
  fun_induction dropCr text with
  | case1 text ih =>
      obtain ⟨-, hrest⟩ := List.forall_mem_cons.mp h
      obtain ⟨hlf, htext⟩ := List.forall_mem_cons.mp hrest
      exact List.forall_mem_cons.mpr ⟨hlf, ih htext⟩
  | case2 c text _ ih =>
      obtain ⟨hc, htext⟩ := List.forall_mem_cons.mp h
      exact List.forall_mem_cons.mpr ⟨hc, ih htext⟩
  | case3 => exact h

theorem visible_dropCr (text : Text) : visible (dropCr text) = visible text := by
  fun_induction dropCr text with
  | case1 text ih => exact ih
  | case2 c text _ ih =>
      rw [visible, visible, List.filter_cons, List.filter_cons]
      rw [visible, visible] at ih
      rw [ih]
  | case3 => rfl

theorem dropWhile_dropCr (text : Text) :
    (dropCr text).dropWhile isWhitespace = dropCr (text.dropWhile isWhitespace) := by
  fun_induction dropCr text with
  | case1 text ih => exact ih
  | case2 c text _ ih =>
      by_cases hc : isWhitespace c = true
      · rw [List.dropWhile_cons_of_pos hc, List.dropWhile_cons_of_pos hc, ih]
      · have hcr : c ≠ '\r' := by
          rintro rfl
          exact hc rfl
        rw [List.dropWhile_cons_of_neg hc, List.dropWhile_cons_of_neg hc, dropCr_cons hcr]
  | case3 => rfl

theorem rdropWhile_dropCr (text : Text) :
    (dropCr text).rdropWhile isWhitespace = dropCr (text.rdropWhile isWhitespace) := by
  have hback : Blank (text.rtakeWhile isWhitespace) := fun _ hc => List.mem_rtakeWhile_imp hc
  have heq : text.rdropWhile isWhitespace ++ text.rtakeWhile isWhitespace = text :=
    List.rdropWhile_append_rtakeWhile ..
  by_cases hnil : text.rdropWhile isWhitespace = []
  · rw [hnil, List.nil_append] at heq
    rw [heq] at hback
    rw [hnil, List.rdropWhile_eq_nil_iff.mpr (blank_dropCr hback)]
    rfl
  · -- the last character that stays is neither a carriage return nor a line feed
    obtain ⟨front, c, hlast⟩ := List.eq_nil_or_concat (text.rdropWhile isWhitespace)
      |>.resolve_left hnil
    rw [List.concat_eq_append] at hlast
    have hc : isWhitespace c = false := by
      have hnot := List.rdropWhile_last_not isWhitespace text hnil
      simp only [hlast, List.getLast_concat] at hnot
      exact Bool.eq_false_iff.mpr hnot
    have hcr : c ≠ '\r' := by
      rintro rfl
      cases hc
    have hlf : c ≠ '\n' := by
      rintro rfl
      cases hc
    have hsplit : text = front ++ c :: text.rtakeWhile isWhitespace := by
      conv_lhs => rw [← heq, hlast]
      simp
    have hdrop : dropCr text =
        (dropCr front ++ [c]) ++ dropCr (text.rtakeWhile isWhitespace) := by
      conv_lhs => rw [hsplit, dropCr_append_cons hlf, dropCr_cons hcr]
      simp
    have hkept : dropCr (front ++ [c]) = dropCr front ++ [c] := by
      rw [dropCr_append_cons hlf, dropCr_cons hcr]
      rfl
    rw [hdrop, rdropWhile_append_of_forall (blank_dropCr hback),
      List.rdropWhile_concat_neg _ _ _ (by simp [hc]), hlast, hkept]

theorem trim_dropCr (text : Text) : trim (dropCr text) = dropCr (trim text) := by
  rw [trim, dropWhile_dropCr, rdropWhile_dropCr, trim]

/-- A line feed closes the line in front of it. -/
theorem dropCr_line {line : Text} (h : '\n' ∉ line) (text : Text) :
    dropCr (line ++ '\n' :: text) = stripCr line ++ '\n' :: dropCr text := by
  induction line with
  | nil => exact dropCr_cons (by decide) text
  | cons c line ih =>
      obtain ⟨-, hline⟩ := not_or.mp (mt List.mem_cons.mpr h)
      cases line with
      | nil =>
          by_cases hcr : c = '\r'
          · subst hcr
            rfl
          · have hstrip : stripCr [c] = [c] := by simp [stripCr, hcr]
            rw [hstrip, List.singleton_append, dropCr_cons hcr, dropCr_cons (by decide)]
            rfl
      | cons d line =>
          have hd : d ≠ '\n' := fun heq => hline (by simp [heq])
          have hcons : dropCr (c :: d :: (line ++ '\n' :: text)) =
              c :: dropCr (d :: (line ++ '\n' :: text)) := by
            rw [dropCr]
            intro rest _ heq
            exact hd (List.cons.inj heq).1
          have hstrip : stripCr (c :: d :: line) = c :: stripCr (d :: line) := by
            simp only [stripCr, List.getLast?_cons_cons, List.dropLast_cons_cons]
            split <;> rfl
          rw [List.cons_append, List.cons_append, hcons, hstrip, List.cons_append, ← ih hline]
          rfl

/-- The lines of a text, put together, are the text without those carriage returns, up to
a line feed at its end. -/
theorem joinLines_linesFrom {line : Text} (h : '\n' ∉ line) (text : Text) :
    ∃ ends, Blank ends ∧
      dropCr (line ++ text) = joinLines (linesFrom line text) ++ ends := by
  induction text generalizing line with
  | nil =>
      refine ⟨[], (by intro _ hc; cases hc), ?_⟩
      have hself : dropCr line = line := by
        rw [dropCr_eq_self_iff]
        intro hinside
        exact h (hinside.subset (by simp))
      have hjoin : joinLines (linesFrom line []) = line := by
        rw [linesFrom]
        split
        · rename_i hempty
          rw [List.isEmpty_iff.mp hempty]
          rfl
        · rw [joinLines, List.intercalate_singleton]
      rw [List.append_nil, List.append_nil, hself, hjoin]
  | cons c text ih =>
      by_cases hc : c = '\n'
      · subst hc
        obtain ⟨ends, hends, heq⟩ := ih (List.not_mem_nil (a := '\n'))
        rw [List.nil_append] at heq
        rw [dropCr_line h, linesFrom, if_pos rfl]
        by_cases hnil : linesFrom [] text = []
        · refine ⟨'\n' :: ends, blank_append.mpr ⟨blank_lf, hends⟩, ?_⟩
          rw [hnil] at heq ⊢
          rw [joinLines, List.intercalate_singleton, heq]
          rfl
        · refine ⟨ends, hends, ?_⟩
          rw [joinLines_cons hnil, heq]
          simp
      · have hline : '\n' ∉ line ++ [c] := by
          simp [h, Ne.symm hc]
        obtain ⟨ends, hends, heq⟩ := ih hline
        refine ⟨ends, hends, ?_⟩
        rw [linesFrom, if_neg hc, ← heq, List.append_assoc]
        rfl

theorem joinLines_lines (text : Text) :
    ∃ ends, Blank ends ∧ dropCr text = joinLines (lines text) ++ ends :=
  joinLines_linesFrom List.not_mem_nil text

theorem trim_joinLines_lines (text : Text) :
    trim (joinLines (lines text)) = dropCr (trim text) := by
  obtain ⟨ends, hends, heq⟩ := joinLines_lines text
  rw [← trim_dropCr, heq, trim_append_right _ hends]

theorem visible_lines (text : Text) : (lines text).flatMap visible = visible text := by
  obtain ⟨ends, hends, heq⟩ := joinLines_lines text
  rw [← visible_joinLines, ← visible_dropCr text, heq, visible_append,
    visible_eq_nil_iff.mpr hends, List.append_nil]

/-! ## Lines of a text in pieces -/

theorem linesFrom_append_lf (line xs ys : Text) :
    linesFrom line (xs ++ '\n' :: ys) = linesFrom line (xs ++ ['\n']) ++ lines ys := by
  induction xs generalizing line with
  | nil => rfl
  | cons c xs ih =>
      rw [List.cons_append, List.cons_append, linesFrom, linesFrom]
      split
      · rw [ih, List.cons_append]
      · exact ih (line ++ [c])

/-- The lines of a text that ends where a line does, and those of the rest. -/
theorem lines_append {xs : Text} (h : xs = [] ∨ ∃ front, xs = front ++ ['\n']) (ys : Text) :
    lines (xs ++ ys) = lines xs ++ lines ys := by
  obtain rfl | ⟨front, rfl⟩ := h
  · rfl
  · rw [List.append_assoc]
    exact linesFrom_append_lf [] front ys

theorem infix_of_mem_linesFrom {l line text : Text} (h : l ∈ linesFrom line text) :
    l <:+: line ++ text := by
  induction text generalizing line with
  | nil =>
      rw [linesFrom] at h
      split at h
      · cases h
      · rw [List.mem_singleton.mp h, List.append_nil]
  | cons c text ih =>
      rw [linesFrom] at h
      split at h
      · rw [List.mem_cons] at h
        cases h with
        | inl heq =>
            have hstrip : stripCr line <+: line := by
              rw [stripCr]
              split
              · exact List.dropLast_prefix line
              · exact List.prefix_refl line
            rw [heq]
            exact (hstrip.trans (List.prefix_append _ _)).isInfix
        | inr hmem =>
            have hin := ih hmem
            rw [List.nil_append] at hin
            exact hin.trans ((List.suffix_cons c text).trans (List.suffix_append _ _)).isInfix
      · have hin := ih h
        rwa [List.append_assoc] at hin

/-- A line stands in its text. -/
theorem infix_of_mem_lines {l text : Text} (h : l ∈ lines text) : l <:+: text :=
  infix_of_mem_linesFrom h

end Text

end RustdeskCli.Foundation
