import RustdeskCli.Foundation.ByteOffsets
import RustdeskCli.Session.Response
set_option autoImplicit false

/-!
# Transfer: the remote target of a push (`src/file_transfer.rs`)

`parse_remote_target` splits the remote path of a push into the directory and the file
name the peer is asked to create.  Paths are texts; `fileName` is `Path::file_name` on
Unix.  A local path of the system is any string of bytes, of which only the file name has
to be a text: `parseRemoteTargetAt` is the function on such paths, and agrees with the one
on texts.
-/

namespace RustdeskCli.Transfer

open RustdeskCli.Foundation
open RustdeskCli.Session

/-- The components of a path that name something: separators and `.` do not. -/
def components (path : Text) : List Text :=
  (path.splitOn '/').filter fun part => part ≠ [] ∧ part ≠ ['.']

/-- `Path::file_name`: the last component, unless it is `..`. -/
def fileName (path : Text) : Option Text :=
  match (components path).getLast? with
  | some name => if name = "..".toList then none else some name
  | none => none

/-- `RemoteTarget`. -/
structure RemoteTarget where
  dir : Text
  fileName : Text
  deriving DecidableEq, Repr

/-- `str::trim_end_matches('/')`. -/
def trimEndSlashes (path : Text) : Text := path.rdropWhile (· = '/')

/-- `str::rsplit_once('/')`: what stands before and after the last slash. -/
def rsplitOnceSlash (path : Text) : Option (Text × Text) :=
  match Text.rfind '/' path with
  | some i => some (path.take i, path.drop (i + 1))
  | none => none

/-- `parse_remote_target`. -/
def parseRemoteTarget (remotePath localPath : Text) : Except Error RemoteTarget :=
  let trimmed := Text.trim remotePath
  if trimmed = [] then .error (.msg "remote path must not be empty".toList)
  else
    match fileName localPath with
    | none => .error (.msg ("local path has no valid file name: ".toList ++ localPath))
    | some defaultName =>
        if trimmed.getLast? = some '/' then
          let dir := trimEndSlashes trimmed
          if dir = [] then .ok ⟨['/'], defaultName⟩ else .ok ⟨dir, defaultName⟩
        else
          match rsplitOnceSlash trimmed with
          | some (dir, name) =>
              let dir := if dir = [] then ['/'] else dir
              if name = [] then
                .error (.msg ("remote path has no file name: ".toList ++ remotePath))
              else .ok ⟨dir, name⟩
          | none => .ok ⟨['.'], trimmed⟩

/-! ## Local paths of the system -/

/-- The components of a path of bytes. -/
def osComponents (path : Bytes) : List Bytes :=
  (path.splitOn 0x2F).filter fun part => part ≠ [] ∧ part ≠ [0x2E]

/-- `Path::file_name` on bytes. -/
def osFileName (path : Bytes) : Option Bytes :=
  match (osComponents path).getLast? with
  | some name => if name = [0x2E, 0x2E] then none else some name
  | none => none

/-- `local_path.file_name().and_then(|name| name.to_str())`. -/
def localFileName (path : Bytes) : Option Text := (osFileName path).bind fromUtf8

/-- `parse_remote_target` with what it reads of the local path: the file name, and the path as
it is displayed. -/
def remoteTargetFor (remotePath : Text) (localName : Option Text) (display : Text) :
    Except Error RemoteTarget :=
  let trimmed := Text.trim remotePath
  if trimmed = [] then .error (.msg "remote path must not be empty".toList)
  else
    match localName with
    | none => .error (.msg ("local path has no valid file name: ".toList ++ display))
    | some defaultName =>
        if trimmed.getLast? = some '/' then
          let dir := trimEndSlashes trimmed
          if dir = [] then .ok ⟨['/'], defaultName⟩ else .ok ⟨dir, defaultName⟩
        else
          match rsplitOnceSlash trimmed with
          | some (dir, name) =>
              let dir := if dir = [] then ['/'] else dir
              if name = [] then
                .error (.msg ("remote path has no file name: ".toList ++ remotePath))
              else .ok ⟨dir, name⟩
          | none => .ok ⟨['.'], trimmed⟩

/-- `parse_remote_target` on a local path of the system. -/
def parseRemoteTargetAt (remotePath : Text) (localPath : Bytes) : Except Error RemoteTarget :=
  remoteTargetFor remotePath (localFileName localPath) (fromUtf8Lossy localPath)

theorem parseRemoteTarget_eq (remotePath localPath : Text) :
    parseRemoteTarget remotePath localPath =
      remoteTargetFor remotePath (fileName localPath) localPath := rfl

/-- The bytes of a text are split where the text is. -/
theorem splitOn_utf8 (path : Text) :
    (Text.utf8 path).splitOn 0x2F = (path.splitOn '/').map Text.utf8 := by
  induction path with
  | nil => rfl
  | cons c path ih =>
      rw [Text.utf8_cons]
      by_cases hc : c = '/'
      · have hslash : String.utf8EncodeChar '/' = [0x2F] := rfl
        rw [hc, hslash, List.singleton_append, List.splitOn_cons_eq_if_modifyHead,
          List.splitOn_cons_eq_if_modifyHead, if_pos (beq_self_eq_true _),
          if_pos (beq_self_eq_true _), ih]
        rfl
      · have hnone : (0x2F : UInt8) ∉ String.utf8EncodeChar c := by
          intro hmem
          exact hc (Text.eq_of_mem_encodeChar (c := '/') (by decide) hmem)
        obtain ⟨first, rest, heq⟩ := List.exists_cons_of_ne_nil (List.splitOn_ne_nil '/' path)
        rw [Text.splitOn_append_of_not_mem hnone, ih, List.splitOn_cons_eq_if_modifyHead,
          if_neg (by simpa using hc), heq]
        simp

theorem osComponents_utf8 (path : Text) :
    osComponents (Text.utf8 path) = (components path).map Text.utf8 := by
  have hempty : ∀ part : Text, Text.utf8 part = [] ↔ part = [] :=
    fun part => ⟨fun h => Text.utf8_injective h, fun h => by rw [h]; rfl⟩
  have hdot : ∀ part : Text, Text.utf8 part = [0x2E] ↔ part = ['.'] :=
    fun part => ⟨fun h => Text.utf8_injective h, fun h => by rw [h]; rfl⟩
  rw [osComponents, splitOn_utf8, components, List.filter_map]
  congr 1
  apply List.filter_congr
  intro part _
  simp only [Function.comp_apply, ne_eq, hempty, hdot]

theorem osFileName_utf8 (path : Text) :
    osFileName (Text.utf8 path) = (fileName path).map Text.utf8 := by
  have hup : ∀ part : Text, Text.utf8 part = [0x2E, 0x2E] ↔ part = "..".toList :=
    fun part => ⟨fun h => Text.utf8_injective h, fun h => by rw [h]; rfl⟩
  rw [osFileName, osComponents_utf8, List.getLast?_map, fileName]
  cases (components path).getLast? with
  | none => rfl
  | some name =>
      simp only [Option.map_some, hup]
      split <;> rfl

/-- On a local path that is a text the two functions agree. -/
theorem parseRemoteTargetAt_utf8 (remotePath localPath : Text) :
    parseRemoteTargetAt remotePath (Text.utf8 localPath) =
      parseRemoteTarget remotePath localPath := by
  have hname : localFileName (Text.utf8 localPath) = fileName localPath := by
    rw [localFileName, osFileName_utf8]
    cases fileName localPath with
    | none => rfl
    | some name => exact fromUtf8_eq_some_iff.mpr rfl
  rw [parseRemoteTargetAt, hname, parseRemoteTarget_eq, Text.utf8, fromUtf8Lossy_encode]

/-! ## What a path is split into -/

theorem rsplitOnceSlash_eq_some {path dir name : Text}
    (h : rsplitOnceSlash path = some (dir, name)) :
    path = dir ++ '/' :: name ∧ '/' ∉ name := by
  unfold rsplitOnceSlash at h
  split at h
  · rename_i i hfind
    obtain ⟨xs, ys, rfl, rfl, hys⟩ := Text.rfind_eq_some hfind
    simp only [List.take_left', Option.some.injEq, Prod.mk.injEq] at h
    obtain ⟨rfl, rfl⟩ := h
    simpa using hys
  · cases h

theorem rsplitOnceSlash_eq_none {path : Text} (h : rsplitOnceSlash path = none) : '/' ∉ path := by
  unfold rsplitOnceSlash at h
  split at h
  · cases h
  · rename_i hfind
    exact Text.rfind_eq_none_iff.mp hfind

/-- The four ways a path is split: a directory, which gets the local name, a bare name, a name
in the root directory, and a name in another. -/
inductive SplitsInto (localName : Text) : Text → RemoteTarget → Prop where
  | directory {path : Text} (slash : path.getLast? = some '/') :
      SplitsInto localName path
        ⟨if trimEndSlashes path = [] then ['/'] else trimEndSlashes path, localName⟩
  | bare {file : Text} (plain : '/' ∉ file) (named : file ≠ []) :
      SplitsInto localName file ⟨['.'], file⟩
  | inRoot {file : Text} (plain : '/' ∉ file) (named : file ≠ []) :
      SplitsInto localName ('/' :: file) ⟨['/'], file⟩
  | within {dir file : Text} (inside : dir ≠ []) (plain : '/' ∉ file) (named : file ≠ []) :
      SplitsInto localName (dir ++ '/' :: file) ⟨dir, file⟩

theorem remoteTargetFor_blank {remotePath : Text} (h : Text.trim remotePath = [])
    (localName : Option Text) (display : Text) :
    remoteTargetFor remotePath localName display =
      .error (.msg "remote path must not be empty".toList) := if_pos h

theorem remoteTargetFor_unnamed (remotePath display : Text) :
    ∃ e, remoteTargetFor remotePath none display = .error e := by
  unfold remoteTargetFor
  simp only
  split
  · exact ⟨_, rfl⟩
  · exact ⟨_, rfl⟩

/-- A path that is not empty is split. -/
theorem remoteTargetFor_splitsInto {remotePath : Text} (h : Text.trim remotePath ≠ [])
    (localName display : Text) :
    ∃ target, remoteTargetFor remotePath (some localName) display = .ok target ∧
      SplitsInto localName (Text.trim remotePath) target := by
  unfold remoteTargetFor
  generalize Text.trim remotePath = trimmed at h ⊢
  simp only
  rw [if_neg h]
  by_cases hlast : trimmed.getLast? = some '/'
  · rw [if_pos hlast]
    refine ⟨_, ?_, .directory hlast⟩
    split <;> rfl
  · rw [if_neg hlast]
    cases hsplit : rsplitOnceSlash trimmed with
    | none => exact ⟨_, rfl, .bare (rsplitOnceSlash_eq_none hsplit) h⟩
    | some parts =>
        obtain ⟨dir, file⟩ := parts
        obtain ⟨heq, hplain⟩ := rsplitOnceSlash_eq_some hsplit
        -- a path without a name would end with a slash
        have hnamed : file ≠ [] := by
          rintro rfl
          rw [heq] at hlast
          exact hlast List.getLast?_concat
        simp only
        rw [if_neg hnamed, heq]
        by_cases hdir : dir = []
        · rw [if_pos hdir, hdir]
          exact ⟨_, rfl, .inRoot hplain hnamed⟩
        · rw [if_neg hdir]
          exact ⟨_, rfl, .within hdir hplain hnamed⟩

/-! ## What the split denotes -/

/-- The directory and the file name of a target are the destination a path asks for, with the
local name for a path that ends with a slash. -/
structure Denotes (localName path : Text) (target : RemoteTarget) : Prop where
  fileName_ne_nil : target.fileName ≠ []
  slash_not_mem : '/' ∉ target.fileName
  dir_ne_nil : target.dir ≠ []
  /-- the path without its last slashes, or `/` when it has nothing else -/
  directory : path.getLast? = some '/' → target.fileName = localName ∧
    ∃ front slashes, path = front ++ slashes ∧ (∀ c ∈ slashes, c = '/') ∧
      front.getLast? ≠ some '/' ∧ target.dir = if front = [] then ['/'] else front
  /-- `.` is for a path without a slash, `/` for one whose only slash is the first character -/
  file : path.getLast? ≠ some '/' →
    if '/' ∉ path then target.dir = ['.'] ∧ target.fileName = path
    else if '/' ∉ path.tail then target.dir = ['/'] ∧ '/' :: target.fileName = path
    else target.dir ++ '/' :: target.fileName = path

theorem trimEndSlashes_spec (path : Text) :
    ∃ slashes, path = trimEndSlashes path ++ slashes ∧ (∀ c ∈ slashes, c = '/') ∧
      (trimEndSlashes path).getLast? ≠ some '/' := by
  refine ⟨path.rtakeWhile (· = '/'), (List.rdropWhile_append_rtakeWhile ..).symm, ?_, ?_⟩
  · intro c hc
    have htrue := List.mem_rtakeWhile_imp hc
    exact of_decide_eq_true htrue
  · intro hlast
    obtain ⟨hne, heq⟩ := List.mem_getLast?_eq_getLast hlast
    have hnot := List.rdropWhile_last_not (· = '/') path hne
    exact hnot (decide_eq_true heq.symm)

/-- A path does not end with a slash when its file name has none. -/
theorem getLast?_append_ne_slash (front : Text) {file : Text} (plain : '/' ∉ file)
    (named : file ≠ []) : (front ++ file).getLast? ≠ some '/' := by
  rw [List.getLast?_append_of_ne_nil _ named]
  intro hlast
  exact plain (List.mem_of_getLast? hlast)

/-- Each of the four ways denotes the destination. -/
theorem SplitsInto.denotes {localName path : Text} {target : RemoteTarget}
    (hname : localName ≠ []) (hplain : '/' ∉ localName) (h : SplitsInto localName path target) :
    Denotes localName path target := by
  cases h with
  | directory slash =>
      obtain ⟨slashes, heq, hslashes, hfront⟩ := trimEndSlashes_spec path
      refine ⟨hname, hplain, ?_, ?_, fun hnot => absurd slash hnot⟩
      · split
        · exact List.cons_ne_nil _ _
        · assumption
      · intro _
        exact ⟨rfl, _, slashes, heq, hslashes, hfront, rfl⟩
  | bare plain named =>
      have hlast := getLast?_append_ne_slash [] plain named
      refine ⟨named, plain, List.cons_ne_nil _ _, fun hslash => absurd hslash hlast, fun _ => ?_⟩
      rw [if_pos plain]
      exact ⟨rfl, rfl⟩
  | @inRoot file plain named =>
      have hlast := getLast?_append_ne_slash ['/'] plain named
      refine ⟨named, plain, List.cons_ne_nil _ _, fun hslash => absurd hslash hlast, fun _ => ?_⟩
      rw [if_neg (not_not.mpr List.mem_cons_self), List.tail_cons, if_pos plain]
      exact ⟨rfl, rfl⟩
  | @within dir file inside plain named =>
      have hlast : (dir ++ '/' :: file).getLast? ≠ some '/' := by
        rw [List.append_cons]
        exact getLast?_append_ne_slash (dir ++ ['/']) plain named
      have hmem : '/' ∈ dir ++ '/' :: file := List.mem_append_right _ List.mem_cons_self
      have htail : '/' ∈ (dir ++ '/' :: file).tail := by
        rw [List.tail_append_of_ne_nil inside]
        exact List.mem_append_right _ List.mem_cons_self
      refine ⟨named, plain, inside, fun hslash => absurd hslash hlast, fun _ => ?_⟩
      rw [if_neg (not_not.mpr hmem), if_neg (not_not.mpr htail)]

/-- A local file name is not empty and has no slash. -/
theorem localFileName_spec {path : Bytes} {name : Text} (h : localFileName path = some name) :
    name ≠ [] ∧ '/' ∉ name := by
  obtain ⟨bytes, hbytes, hname⟩ := Option.bind_eq_some_iff.mp h
  have hpart : bytes ∈ osComponents path := by
    unfold osFileName at hbytes
    split at hbytes
    · rename_i last hlast
      split at hbytes
      · cases hbytes
      · obtain rfl := Option.some.inj hbytes
        exact List.mem_of_getLast? hlast
    · cases hbytes
  obtain ⟨hsplit, hkept⟩ := List.mem_filter.mp hpart
  have hutf8 : Text.utf8 name = bytes := fromUtf8_eq_some_iff.mp hname
  constructor
  · rintro rfl
    exact (of_decide_eq_true hkept).1 hutf8.symm
  · intro hslash
    apply Text.not_mem_of_mem_splitOn hsplit
    rw [← hutf8]
    exact List.mem_flatMap.mpr ⟨'/', hslash, List.mem_cons_self⟩

/-- For every local path whose file name is a text, `parse_remote_target` fails exactly when
the remote path is blank, and otherwise gives the destination that was asked for. -/
theorem parse_remote_target_faithful (remotePath : Text) (localPath : Bytes) (localName : Text)
    (h : localFileName localPath = some localName) :
    ((∃ e, parseRemoteTargetAt remotePath localPath = .error e) ↔ Text.trim remotePath = []) ∧
      ∀ target, parseRemoteTargetAt remotePath localPath = .ok target →
        Denotes localName (Text.trim remotePath) target := by
  obtain ⟨hname, hplain⟩ := localFileName_spec h
  rw [parseRemoteTargetAt, h]
  by_cases hblank : Text.trim remotePath = []
  · rw [remoteTargetFor_blank hblank]
    refine ⟨iff_of_true ⟨_, rfl⟩ hblank, ?_⟩
    intro target htarget
    cases htarget
  · obtain ⟨target, htarget, hsplits⟩ :=
      remoteTargetFor_splitsInto hblank localName (fromUtf8Lossy localPath)
    rw [htarget]
    refine ⟨iff_of_false ?_ hblank, ?_⟩
    · rintro ⟨e, he⟩
      cases he
    · intro other hother
      obtain rfl := Except.ok.inj hother
      exact hsplits.denotes hname hplain

/-- `local.bin` in a directory that is no text, pushed to `/home/evas/`. -/
theorem parse_remote_target_faithful_directory :
    parseRemoteTargetAt " /home/evas/ ".toList (0xFF :: Text.utf8 "/local.bin".toList) =
        .ok ⟨"/home/evas".toList, "local.bin".toList⟩ ∧
      Denotes "local.bin".toList (Text.trim " /home/evas/ ".toList)
        ⟨"/home/evas".toList, "local.bin".toList⟩ := by
  have hname : localFileName (0xFF :: Text.utf8 "/local.bin".toList) =
      some "local.bin".toList := by
    have hos : osFileName (0xFF :: Text.utf8 "/local.bin".toList) =
        some (Text.utf8 "local.bin".toList) := by decide
    rw [localFileName, hos]
    exact fromUtf8_eq_some_iff.mpr rfl
  have htarget : parseRemoteTargetAt " /home/evas/ ".toList
      (0xFF :: Text.utf8 "/local.bin".toList) =
        .ok ⟨"/home/evas".toList, "local.bin".toList⟩ := by
    rw [parseRemoteTargetAt, hname]
    rfl
  exact ⟨htarget, (parse_remote_target_faithful _ _ _ hname).2 _ htarget⟩

end RustdeskCli.Transfer
