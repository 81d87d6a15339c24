import RustdeskCli.Foundation.ByteOffsets
import RustdeskCli.Foundation.Lines
set_option autoImplicit false

/-!
# Foundation: one record a line

A stream of records, each written as a text of one line and ended by a line feed, and
its reader, which takes a line at a time, trims it and parses what is left.  A stream can
be cut at any byte.  When no proper front of a record's text is a record itself, a reader
of the cut stream sees whole records, in order, and after them at most one line that it
refuses: a cut never makes up a record.
-/

namespace RustdeskCli.Foundation

/-! ## Pieces -/

namespace Records

section Pieces

variable {β : Type}

/-- Records one after the other, each ended by a separator. -/
def framed (sep : β) (records : List (List β)) : List β := records.flatMap (· ++ [sep])

theorem framed_cons (sep : β) (record : List β) (records : List (List β)) :
    framed sep (record :: records) = record ++ sep :: framed sep records := by
  simp [framed]

/-- A prefix of a stream is some whole records, and either these are all of them or a front
of the next one follows. -/
theorem prefix_framed {sep : β} {records : List (List β)} {received : List β}
    (h : received <+: framed sep records) :
    ∃ whole front, received = framed sep whole ++ front ∧
      ((whole = records ∧ front = []) ∨
        ∃ record rest, records = whole ++ record :: rest ∧ front <+: record) := by
  induction records generalizing received with
  | nil => exact ⟨[], [], List.prefix_nil.mp h, .inl ⟨rfl, rfl⟩⟩
  | cons record records ih =>
      rw [framed_cons] at h
      rcases Text.prefix_append_cases h with hin | ⟨tail, htail, rfl⟩
      · exact ⟨[], received, rfl, .inr ⟨record, records, rfl, hin⟩⟩
      · cases tail with
        | nil =>
            exact ⟨[], record, by simp [framed], .inr ⟨record, records, rfl, List.prefix_rfl⟩⟩
        | cons b tail =>
            obtain ⟨rfl, hrest⟩ := List.cons_prefix_cons.mp htail
            obtain ⟨whole, front, rfl, hends⟩ := ih hrest
            refine ⟨record :: whole, front, by simp [framed_cons], ?_⟩
            rcases hends with ⟨rfl, rfl⟩ | ⟨next, rest, rfl, hfront⟩
            · exact .inl ⟨rfl, rfl⟩
            · exact .inr ⟨next, rest, rfl, hfront⟩

variable [DecidableEq β]

/-- Cut after every separator; what is left at the end, if anything is, is the last piece. -/
def cutAfter (sep : β) : List β → List (List β)
  | [] => []
  | b :: rest =>
      if b = sep then [b] :: cutAfter sep rest
      else
        match cutAfter sep rest with
        | [] => [[b]]
        | piece :: pieces => (b :: piece) :: pieces

variable {sep : β}

theorem cutAfter_record {record : List β} (h : sep ∉ record) (rest : List β) :
    cutAfter sep (record ++ sep :: rest) = (record ++ [sep]) :: cutAfter sep rest := by
  induction record with
  | nil => simp [cutAfter]
  | cons b record ih =>
      have hb : b ≠ sep := fun heq => h (heq ▸ List.mem_cons_self)
      rw [List.cons_append, cutAfter, if_neg hb, ih fun hmem => h (List.mem_cons_of_mem _ hmem)]
      rfl

theorem cutAfter_of_not_mem {piece : List β} (h : sep ∉ piece) (hne : piece ≠ []) :
    cutAfter sep piece = [piece] := by
  induction piece with
  | nil => exact absurd rfl hne
  | cons b piece ih =>
      have hb : b ≠ sep := fun heq => h (heq ▸ List.mem_cons_self)
      rw [cutAfter, if_neg hb]
      cases piece with
      | nil => rfl
      | cons c piece => rw [ih (fun hmem => h (List.mem_cons_of_mem _ hmem)) (by simp)]

/-- A stream is cut back into its records. -/
theorem cutAfter_framed {records : List (List β)} (h : ∀ record ∈ records, sep ∉ record)
    (rest : List β) :
    cutAfter sep (framed sep records ++ rest) =
      records.map (· ++ [sep]) ++ cutAfter sep rest := by
  induction records with
  | nil => rfl
  | cons record records ih =>
      rw [framed_cons, List.append_assoc, List.cons_append,
        cutAfter_record (h record List.mem_cons_self),
        ih fun other hother => h other (List.mem_cons_of_mem _ hother)]
      rfl

end Pieces

end Records

/-! ## Bytes of texts -/

namespace Text

/-- The first character of some bytes is the only one they can begin with. -/
theorem encodeChar_append_inj {c d : Char} {xs ys : Bytes}
    (h : String.utf8EncodeChar c ++ xs = String.utf8EncodeChar d ++ ys) : c = d ∧ xs = ys := by
  have hread : ∀ (c : Char) (bytes : Bytes),
      (Utf8State.decode .start (String.utf8EncodeChar c ++ bytes)).2.head? = some c := by
    intro c bytes
    rw [Utf8State.decode_append, Utf8State.decode_encodeChar]
    rfl
  have hc : some c = some d := by rw [← hread c xs, h, hread d ys]
  obtain rfl := Option.some.inj hc
  exact ⟨rfl, List.append_cancel_left h⟩

/-- A text whose bytes are the first bytes of another text is a front of it. -/
theorem prefix_of_utf8_prefix {front text : Text} (h : utf8 front <+: utf8 text) :
    front <+: text := by
  induction front generalizing text with
  | nil => exact List.nil_prefix
  | cons c front ih =>
      obtain ⟨rest, hrest⟩ := h
      cases text with
      | nil =>
          rw [utf8_cons, utf8_nil, List.append_assoc] at hrest
          exact absurd (List.append_eq_nil_iff.mp hrest).1 String.utf8EncodeChar_ne_nil
      | cons d text =>
          rw [utf8_cons, utf8_cons, List.append_assoc] at hrest
          obtain ⟨rfl, hmore⟩ := encodeChar_append_inj hrest
          exact List.cons_prefix_cons.mpr ⟨rfl, ih ⟨rest, hmore⟩⟩

/-- The byte of a line feed is in the bytes of a text only if the text has one. -/
theorem lf_mem_of_mem_utf8 {text : Text} (h : 0x0A ∈ utf8 text) : '\n' ∈ text := by
  obtain ⟨c, hc, hmem⟩ := List.mem_flatMap.mp h
  exact (eq_of_mem_encodeChar (c := '\n') (by decide) hmem) ▸ hc

/-- Trimming a front of a trimmed text leaves a front of it. -/
theorem trim_prefix {front text : Text} (htext : Trimmed text) (h : front <+: text) :
    trim front <+: text := by
  have hhead : front.dropWhile isWhitespace = front := by
    cases front with
    | nil => rfl
    | cons c front =>
        obtain ⟨rest, rfl⟩ := h
        exact List.dropWhile_cons_of_neg (by simp [htext.1 c rfl])
  rw [trim, hhead]
  exact (List.rdropWhile_prefix _ _).trans h

end Text

/-! ## Codecs -/

/-- How records are written as texts, and read from them. -/
structure Codec (α ε : Type) where
  write : α → Text
  read : Text → Except ε α

/-- What a reader makes of one line. -/
inductive Record (α ε : Type) where
  | blank
  | value (a : α)
  | refused (e : ε)
  /-- no text at all -/
  | unreadable
  deriving DecidableEq

namespace Codec

variable {α ε : Type} (codec : Codec α ε)

/-- A record is a trimmed line, which is read as `received` says, and no proper front of it
is a record. -/
structure Lawful (received : α → α) : Prop where
  oneLine : ∀ a, '\n' ∉ codec.write a
  trimmed : ∀ a, Text.Trimmed (codec.write a)
  nonempty : ∀ a, codec.write a ≠ []
  reads : ∀ a, codec.read (codec.write a) = .ok (received a)
  refuses : ∀ a front, front <+: codec.write a → front ≠ codec.write a →
    ∃ e, codec.read front = .error e

/-- The bytes of a record, without the line feed. -/
def bytes (a : α) : Bytes := Text.utf8 (codec.write a)

/-- The bytes of records, each on its line. -/
def stream (as : List α) : Bytes := Records.framed 0x0A (as.map codec.bytes)

/-- What is read from one line. -/
def readLine (line : Bytes) : Record α ε :=
  match fromUtf8 line with
  | none => .unreadable
  | some text =>
      if Text.trim text = [] then .blank
      else
        match codec.read (Text.trim text) with
        | .ok a => .value a
        | .error e => .refused e

/-- What is read from a stream, line by line. -/
def records (received : Bytes) : List (Record α ε) :=
  (Records.cutAfter 0x0A received).map codec.readLine

/-- The line is none, or it is none that can be read. -/
def Broken (tail : List (Record α ε)) : Prop :=
  tail = [] ∨ tail = [.blank] ∨ tail = [.unreadable] ∨ ∃ e, tail = [.refused e]

variable {codec} {received : α → α} (hcodec : codec.Lawful received)

include hcodec

theorem lf_not_mem_bytes (a : α) : 0x0A ∉ codec.bytes a :=
  fun h => hcodec.oneLine a (Text.lf_mem_of_mem_utf8 h)

theorem readLine_text (a : α) {line : Bytes} {text : Text} (hline : fromUtf8 line = some text)
    (htext : Text.trim text = codec.write a) : codec.readLine line = .value (received a) := by
  rw [readLine, hline]
  simp only
  rw [htext, if_neg (hcodec.nonempty a), hcodec.reads a]

/-- A whole line is read as its record. -/
theorem readLine_whole (a : α) :
    codec.readLine (codec.bytes a ++ [0x0A]) = .value (received a) := by
  have hline : fromUtf8 (codec.bytes a ++ [0x0A]) = some (codec.write a ++ ['\n']) :=
    fromUtf8_eq_some_iff.mpr (Text.utf8_append (codec.write a) ['\n'])
  refine readLine_text hcodec a hline ?_
  rw [Text.trim_append_right _ (by decide), Text.trim_eq_self_iff.mpr (hcodec.trimmed a)]

/-- So is one whose line feed is missing. -/
theorem readLine_bytes (a : α) : codec.readLine (codec.bytes a) = .value (received a) :=
  readLine_text hcodec a (fromUtf8_eq_some_iff.mpr rfl)
    (Text.trim_eq_self_iff.mpr (hcodec.trimmed a))

/-- What is left of a record when it breaks off is refused, if it is a text at all. -/
theorem refuses_front (a : α) {front : Bytes} {text : Text} (htext : fromUtf8 front = some text)
    (hfront : front <+: codec.bytes a) (hne : front ≠ codec.bytes a) :
    ∃ e, codec.read (Text.trim text) = .error e := by
  have hutf8 : Text.utf8 text = front := fromUtf8_eq_some_iff.mp htext
  rw [← hutf8] at hfront hne
  have hpre := Text.prefix_of_utf8_prefix hfront
  refine hcodec.refuses a _ (Text.trim_prefix (hcodec.trimmed a) hpre) ?_
  intro heq
  -- then trimming has taken nothing, and all of the bytes are there
  have hlong := (Text.trim_infix text).length_le
  rw [heq] at hlong
  exact hne (congrArg Text.utf8 (hpre.eq_of_length (Nat.le_antisymm hpre.length_le hlong)))

/-- A proper front of a record's bytes is no record: it ends inside a character or inside the
text. -/
theorem readLine_front (a : α) {front : Bytes} (hfront : front <+: codec.bytes a)
    (hne : front ≠ codec.bytes a) :
    codec.readLine front = .blank ∨ codec.readLine front = .unreadable ∨
      ∃ e, codec.readLine front = .refused e := by
  unfold readLine
  cases htext : fromUtf8 front with
  | none => exact .inr (.inl rfl)
  | some text =>
      simp only
      split
      · exact .inl rfl
      · obtain ⟨e, he⟩ := refuses_front hcodec a htext hfront hne
        rw [he]
        exact .inr (.inr ⟨e, rfl⟩)

/-- Whole records, and what follows them, are read one after the other. -/
theorem records_stream_append (as : List α) (rest : Bytes) :
    codec.records (codec.stream as ++ rest) =
      as.map (fun a => .value (received a)) ++ codec.records rest := by
  have hlines : ∀ record ∈ as.map codec.bytes, 0x0A ∉ record := by
    intro record hrecord
    obtain ⟨a, _, rfl⟩ := List.mem_map.mp hrecord
    exact lf_not_mem_bytes hcodec a
  rw [records, stream, Records.cutAfter_framed hlines, List.map_append, List.map_map, List.map_map]
  congr 1
  exact List.map_congr_left fun a _ => readLine_whole hcodec a

theorem records_stream (as : List α) :
    codec.records (codec.stream as) = as.map fun a => .value (received a) := by
  have h := records_stream_append hcodec as []
  rwa [List.append_nil, show codec.records [] = [] from rfl, List.append_nil] at h

omit hcodec in
theorem stream_append (as bs : List α) :
    codec.stream (as ++ bs) = codec.stream as ++ codec.stream bs := by
  simp [stream, Records.framed]

omit hcodec in
theorem stream_singleton (a : α) : codec.stream [a] = codec.bytes a ++ [0x0A] := by
  simp [stream, Records.framed]

/-- A front of a record that is not all of it: nothing, or one line that cannot be read. -/
theorem records_front (a : α) {front : Bytes} (hfront : front <+: codec.bytes a)
    (hne : front ≠ codec.bytes a) : Broken (codec.records front) := by
  cases hnil : front with
  | nil => exact .inl rfl
  | cons b bytes =>
      rw [← hnil, records, Records.cutAfter_of_not_mem
        (fun hmem => lf_not_mem_bytes hcodec a (hfront.subset hmem)) (by simp [hnil])]
      rcases readLine_front hcodec a hfront hne with h | h | ⟨e, h⟩
      · exact .inr (.inl (congrArg (fun r => [r]) h))
      · exact .inr (.inr (.inl (congrArg (fun r => [r]) h)))
      · exact .inr (.inr (.inr ⟨e, congrArg (fun r => [r]) h⟩))

/-- All of a record's bytes without the line feed are the record. -/
theorem records_bytes (a : α) : codec.records (codec.bytes a) = [.value (received a)] := by
  have hne : codec.bytes a ≠ [] := by
    intro hnil
    exact hcodec.nonempty a (Text.utf8_injective hnil)
  rw [records, Records.cutAfter_of_not_mem (lf_not_mem_bytes hcodec a) hne, List.map_singleton,
    readLine_bytes hcodec a]

/-- However a stream is cut, what is read from it are its first records, as they were, and then
at most one line that cannot be read.  Exactly the records are read of which no byte but the
line feed is missing. -/
theorem records_of_prefix {as : List α} {cut : Bytes} (hcut : cut <+: codec.stream as) :
    ∃ whole rest tail, as = whole ++ rest ∧ Broken tail ∧
      codec.records cut = whole.map (fun a => .value (received a)) ++ tail ∧
      codec.stream whole <+: cut ++ [0x0A] ∧
      ∀ a ∈ rest.head?, ¬ codec.stream (whole ++ [a]) <+: cut ++ [0x0A] := by
  obtain ⟨wholeBytes, front, rfl, hends⟩ := Records.prefix_framed hcut
  rcases hends with ⟨rfl, rfl⟩ | ⟨record, restBytes, hbytes, hfront⟩
  · refine ⟨as, [], [], by simp, .inl rfl, ?_, ?_, by simp⟩
    · rw [List.append_nil, List.append_nil]
      exact records_stream hcodec as
    · rw [List.append_nil]
      exact List.prefix_append _ _
  · obtain ⟨whole, next, rfl, rfl, hnext⟩ := List.map_eq_append_iff.mp hbytes
    obtain ⟨a, rest, rfl, rfl, rfl⟩ := List.map_eq_cons_iff.mp hnext
    have hread := records_stream_append hcodec whole front
    rw [stream] at hread
    by_cases hwhole : front = codec.bytes a
    · refine ⟨whole ++ [a], rest, [], by simp, .inl rfl, ?_, ?_, ?_⟩
      · rw [hread, hwhole, records_bytes hcodec a]
        simp
      · rw [stream_append, stream_singleton, hwhole, List.append_assoc]
        exact List.prefix_rfl
      · intro b _ hlong
        have hlen := hlong.length_le
        rw [stream_append, stream_append, stream_singleton, stream_singleton, stream,
          hwhole] at hlen
        simp only [List.length_append, List.length_singleton] at hlen
        omega
    · refine ⟨whole, a :: rest, codec.records front, rfl, records_front hcodec a hfront hwhole,
        hread, ?_, ?_⟩
      · rw [List.append_assoc]
        exact List.prefix_append _ _
      · intro b hb hlong
        obtain rfl : a = b := by simpa using hb
        have hlen := hlong.length_le
        rw [stream_append, stream_singleton, stream] at hlen
        simp only [List.length_append, List.length_singleton] at hlen
        exact hwhole (hfront.eq_of_length_le (by omega))

end Codec

end RustdeskCli.Foundation
