import RustdeskCli.Daemon.Handlers
import RustdeskCli.Foundation.HereDocument
set_option autoImplicit false

/-!
# Daemon: the script of `clipboard_set` (`src/daemon.rs`)

`clipboard_set` wraps the text in a here-document and has `exec_command_inner` type it,
with the `echo` of the sentinel on the line behind.  The command line opens two documents
with the same delimiter, one for each program it tries, and one delimiter is typed.
-/

namespace RustdeskCli.Daemon

open RustdeskCli.Foundation
open RustdeskCli.Foundation.HereDocument
open RustdeskCli.Exec

/-- The word both here-documents end with. -/
def clipboardDelimiter : Text := "__RDCLI_CLIP_EOF__".toList

/-- The first line of the script. -/
def clipboardLine : Text :=
  "cat <<'__RDCLI_CLIP_EOF__' | xclip -selection clipboard 2>/dev/null || ".toList ++
    "cat <<'__RDCLI_CLIP_EOF__' | pbcopy 2>/dev/null".toList

/-- The line `exec_command_inner` adds. -/
def sentinelLine (sentinel : Text) : Text := "echo '".toList ++ sentinel ++ "'$?".toList

/-- The lines that are typed, each ended by a line feed. -/
def clipboardScript (text sentinel : Text) : List Text :=
  ((wrapped (clipboardSetCommand text) sentinel).splitOn '\n').dropLast

-- stated of any texts: a rewrite would decode the literals of the script
theorem lines_of_literals {a b b' text d d' e e' sentinel f f' : Text}
    (hb : b = b' ++ ['\n']) (hd : d = '\n' :: d') (he : e = '\n' :: e')
    (hf : f = f' ++ ['\n']) :
    (a ++ b ++ text ++ d) ++ e ++ sentinel ++ f =
      (a ++ b') ++ '\n' :: (text ++ '\n' :: (d' ++ '\n' ::
        ((e' ++ sentinel ++ f') ++ '\n' :: []))) := by
  subst hb hd he hf
  simp

theorem not_mem_around {c : Char} {a text b : Text} (ha : c ∉ a) (h : c ∉ text) (hb : c ∉ b) :
    c ∉ a ++ text ++ b := by
  rw [List.mem_append, List.mem_append, not_or, not_or]
  exact ⟨⟨ha, h⟩, hb⟩

theorem splitOn_script (text : Text) {first last sentinel : Text} (hfirst : '\n' ∉ first)
    (hlast : '\n' ∉ last) (hsentinel : '\n' ∉ sentinel) :
    ((first ++ '\n' :: (text ++ '\n' :: (last ++ '\n' :: (sentinel ++ '\n' :: [])))).splitOn
        '\n').dropLast =
      first :: (text.splitOn '\n' ++ [last, sentinel]) := by
  rw [List.splitOn_append_cons_self_of_not_mem hfirst, List.splitOn_append_cons_self,
    List.splitOn_append_cons_self_of_not_mem hlast,
    List.splitOn_append_cons_self_of_not_mem hsentinel, List.splitOn_nil]
  have hlines : first :: (text.splitOn '\n' ++ [last, sentinel, []]) =
      (first :: (text.splitOn '\n' ++ [last, sentinel])) ++ [[]] := by
    simp only [List.cons_append, List.append_assoc, List.nil_append]
  rw [hlines, List.dropLast_concat]

/-- The lines of the text stand between the first line and the delimiter. -/
theorem clipboardScript_eq (text : Text) {sentinel : Text} (h : '\n' ∉ sentinel) :
    clipboardScript text sentinel =
      clipboardLine :: (text.splitOn '\n' ++ [clipboardDelimiter, sentinelLine sentinel]) := by
  -- the line feeds of the four literals, brought out
  have hpbcopy : "cat <<'__RDCLI_CLIP_EOF__' | pbcopy 2>/dev/null\n".toList =
      "cat <<'__RDCLI_CLIP_EOF__' | pbcopy 2>/dev/null".toList ++ ['\n'] := by rfl
  have hend : "\n__RDCLI_CLIP_EOF__".toList = '\n' :: clipboardDelimiter := by rfl
  have hecho : "\necho '".toList = '\n' :: "echo '".toList := by rfl
  have hstatus : "'$?\n".toList = "'$?".toList ++ ['\n'] := by rfl
  have hwrapped : wrapped (clipboardSetCommand text) sentinel =
      clipboardLine ++ '\n' :: (text ++ '\n' :: (clipboardDelimiter ++ '\n' ::
        (sentinelLine sentinel ++ '\n' :: []))) := by
    exact lines_of_literals hpbcopy hend hecho hstatus
  have hline : '\n' ∉ clipboardLine := by decide
  have hdelimiter : '\n' ∉ clipboardDelimiter := by decide
  have hsentinel : '\n' ∉ sentinelLine sentinel := not_mem_around (by decide) h (by decide)
  unfold clipboardScript
  rw [hwrapped]
  exact splitOn_script text hline hdelimiter hsentinel

/-- The script is read as it is meant, by a shell that finds the here-documents of a line
with `opens`: the lines of the text are the body of one document and no more, none of them
is a command, and the line of the sentinel is one. -/
structure ReadAsData (opens : Text → List Text) (text sentinel : Text) : Prop where
  body : ∃ document, ∀ i,
    (lineRoles opens (clipboardScript text sentinel))[i]? = some (.body document) ↔
      1 ≤ i ∧ i < 1 + (text.splitOn '\n').length
  no_command : ∀ i, 1 ≤ i → i < 1 + (text.splitOn '\n').length →
    (lineRoles opens (clipboardScript text sentinel))[i]? ≠ some .command
  sentinel_command :
    (lineRoles opens (clipboardScript text sentinel)).getLast? = some .command

theorem sentinelLine_ne_delimiter (sentinel : Text) :
    sentinelLine sentinel ≠ clipboardDelimiter := by
  intro h
  have hhead : some 'e' = some '_' := congrArg List.head? h
  exact absurd hhead (by decide)

section Reading

variable {opens : Text → List Text}
  (hopens : opens clipboardLine = [clipboardDelimiter, clipboardDelimiter])

include hopens

/-- Without the delimiter in the text, the first document is the text and the second
swallows the line of the sentinel. -/
theorem lineRoles_of_not_mem {text sentinel : Text} (hlf : '\n' ∉ sentinel)
    (hmem : clipboardDelimiter ∉ text.splitOn '\n') :
    lineRoles opens (clipboardScript text sentinel) =
      .command :: (List.replicate (text.splitOn '\n').length (.body 0) ++
        [.delimiter 0, .body 1]) := by
  have hsentinel : clipboardDelimiter ∉ [sentinelLine sentinel] := by
    rw [List.mem_singleton]
    exact (sentinelLine_ne_delimiter sentinel).symm
  rw [lineRoles, clipboardScript_eq text hlf, readLines, hopens,
    readLines_document opens hmem, readLines_open_end opens hsentinel]
  rfl

/-- The first delimiter in the text ends the first document. -/
theorem lineRoles_of_mem {text sentinel : Text} (hlf : '\n' ∉ sentinel)
    (hmem : clipboardDelimiter ∈ text.splitOn '\n') :
    ∃ i, 1 ≤ i ∧ i < 1 + (text.splitOn '\n').length ∧
      (lineRoles opens (clipboardScript text sentinel))[i]? = some (.delimiter 0) := by
  obtain ⟨before, after, heq, hbefore⟩ := List.eq_append_cons_of_mem hmem
  refine ⟨1 + before.length, by omega, ?_, ?_⟩
  · rw [heq, List.length_append, List.length_cons]
    omega
  · rw [lineRoles, clipboardScript_eq text hlf, heq, readLines, hopens, List.append_assoc,
      List.cons_append, readLines_document opens hbefore, Nat.add_comm 1 before.length,
      List.getElem?_cons_succ, List.getElem?_append_right (by simp)]
    simp

/-- No text is read as data: either it has the delimiter among its lines, or the sentinel
ends up in the second here-document. -/
theorem not_readAsData (text : Text) (id : BitVec 128) :
    ¬ReadAsData opens text (sentinelOf id) := by
  intro h
  have hlf := (sentinelOf_isMarker id).no_lf
  by_cases hmem : clipboardDelimiter ∈ text.splitOn '\n'
  · obtain ⟨i, hlow, hhigh, hrole⟩ := lineRoles_of_mem hopens hlf hmem
    obtain ⟨document, hbody⟩ := h.body
    have hline := (hbody i).mpr ⟨hlow, hhigh⟩
    rw [hrole] at hline
    cases hline
  · have hlast := h.sentinel_command
    rw [lineRoles_of_not_mem hopens hlf hmem, List.getLast?_cons, List.getLast?_append] at hlast
    cases hlast

end Reading

/-- The documents of the first line, as they are written there. -/
theorem quotedDelimiters_clipboardLine :
    quotedDelimiters clipboardLine = [clipboardDelimiter, clipboardDelimiter] := by
  decide

theorem not_readAsData_empty :
    quotedDelimiters clipboardLine = [clipboardDelimiter, clipboardDelimiter] ∧
      ¬ReadAsData quotedDelimiters [] (sentinelOf 0) :=
  ⟨quotedDelimiters_clipboardLine, not_readAsData quotedDelimiters_clipboardLine [] 0⟩

/-- For the text `hi` the shell is left waiting for a second delimiter. -/
theorem not_readAsData_hi : ¬ReadAsData quotedDelimiters "hi".toList (sentinelOf 0) := by
  intro h
  have hmem : clipboardDelimiter ∉ "hi".toList.splitOn '\n' := by decide
  have hlast := h.sentinel_command
  rw [lineRoles_of_not_mem quotedDelimiters_clipboardLine (sentinelOf_isMarker 0).no_lf hmem]
    at hlast
  cases hlast

end RustdeskCli.Daemon
