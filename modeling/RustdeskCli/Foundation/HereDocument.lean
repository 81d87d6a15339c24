import RustdeskCli.Foundation.Text
set_option autoImplicit false

/-!
# Foundation: here-documents

How a shell reads the lines of a script: a command line may open here-documents, and the
lines that follow are their bodies, one document after the other, each up to the first
line that is its delimiter.  Which documents a line opens is a matter of the shell's
lexer and comes as an argument; for the lines that open theirs with a quoted word there
is `quotedDelimiters`.
-/

namespace RustdeskCli.Foundation.HereDocument

/-- What a line of a script is read as.  Documents are counted in the order they are
read. -/
inductive LineRole where
  | command
  | body (document : Nat)
  | delimiter (document : Nat)
  deriving DecidableEq, Repr

section Reading

variable {α : Type} [DecidableEq α] (opens : α → List α)

/-- The roles of the lines, with the delimiters that are still waited for and the number of
the next document. -/
def readLines : List α → Nat → List α → List LineRole
  | _, _, [] => []
  | [], n, line :: lines => .command :: readLines (opens line) n lines
  | delimiter :: pending, n, line :: lines =>
      if line = delimiter then .delimiter n :: readLines pending (n + 1) lines
      else .body n :: readLines (delimiter :: pending) n lines

/-- The roles of the lines of a script. -/
def lineRoles (script : List α) : List LineRole := readLines opens [] 0 script

/-- A document runs up to its delimiter. -/
theorem readLines_document {delimiter : α} {lines : List α} (h : delimiter ∉ lines)
    (pending : List α) (n : Nat) (rest : List α) :
    readLines opens (delimiter :: pending) n (lines ++ delimiter :: rest) =
      List.replicate lines.length (.body n) ++
        .delimiter n :: readLines opens pending (n + 1) rest := by
  induction lines with
  | nil => rw [List.nil_append, readLines, if_pos rfl]; rfl
  | cons line lines ih =>
      obtain ⟨hline, hlines⟩ := not_or.mp (mt List.mem_cons.mpr h)
      rw [List.cons_append, readLines, if_neg (Ne.symm hline), ih hlines, List.length_cons,
        List.replicate_succ, List.cons_append]

/-- A document whose delimiter does not come runs to the end. -/
theorem readLines_open_end {delimiter : α} {lines : List α} (h : delimiter ∉ lines)
    (pending : List α) (n : Nat) :
    readLines opens (delimiter :: pending) n lines = List.replicate lines.length (.body n) := by
  induction lines with
  | nil => rw [readLines]; rfl
  | cons line lines ih =>
      obtain ⟨hline, hlines⟩ := not_or.mp (mt List.mem_cons.mpr h)
      rw [readLines, if_neg (Ne.symm hline), ih hlines, List.length_cons, List.replicate_succ]

end Reading

/-- The words behind `<<` that are quoted, with the part of one that is being read. -/
def quotedDelimitersFrom : Option Text → Text → List Text
  | none, '<' :: '<' :: '\x27' :: rest => quotedDelimitersFrom (some []) rest
  | none, _ :: rest => quotedDelimitersFrom none rest
  | some word, '\x27' :: rest => word :: quotedDelimitersFrom none rest
  | some word, c :: rest => quotedDelimitersFrom (some (word ++ [c])) rest
  | _, [] => []

/-- The delimiters of the here-documents a line opens with a quoted word. -/
def quotedDelimiters (line : Text) : List Text := quotedDelimitersFrom none line

end RustdeskCli.Foundation.HereDocument
