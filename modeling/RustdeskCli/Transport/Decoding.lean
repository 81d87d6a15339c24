import RustdeskCli.Foundation.Text
import RustdeskCli.Transport.RoundTrip
set_option autoImplicit false

/-!
# Transport: the decoder and its grammar (`src/transport.rs`, `src/rendezvous.rs`)

What `recv` does with a stream that no encoder of this program need have written:
headers wider than they have to be, streams that end anywhere, lengths past the limit.
Every stream is of exactly one of three kinds.  It begins with a frame, or it begins
with a header past the limit, or it ends before a frame does; and the decoder tells
these three apart.
-/

namespace RustdeskCli.Transport

open RustdeskCli.Foundation

/-- The stream begins with a complete header that announces `n` bytes, more than the
decoder takes. -/
def AnnouncesTooMuch (stream : Bytes) (n : Nat) : Prop :=
  ∃ h rest, stream = h ++ rest ∧ IsHeader h n ∧ recvLimit < n

/-- The stream ends before a frame of the grammar does. -/
def EndsInsideFrame (stream : Bytes) : Prop :=
  ∃ frame payload, IsFrame frame payload ∧ stream <+: frame ∧ stream ≠ frame

/-! ## Three kinds of streams -/

/-- Part of a header can always be completed to a header of a frame: the bytes still to
come are the high ones. -/
theorem endsInsideFrame_of_header {b : UInt8} {more : Bytes} (h : more.length < b.toNat % 4) :
    EndsInsideFrame (b :: more) := by
  let missing := b.toNat % 4 - more.length
  let header := b :: more ++ List.replicate missing 0
  have hvalue : leValue header = leValue (b :: more) := leValue_append_zeros (b :: more) missing
  have hlength : header.length = b.toNat % 4 + 1 := by
    simp only [header, missing, List.length_append, List.length_cons, List.length_replicate]
    omega
  have hlt : leValue (b :: more) < 2 ^ 24 := by
    calc leValue (b :: more) < 256 ^ (b :: more).length := leValue_lt _
      _ ≤ 256 ^ 3 := Nat.pow_le_pow_right (by decide) (by rw [List.length_cons]; omega)
      _ = 2 ^ 24 := by norm_num
  have hlimit : leValue header / 4 ≤ recvLimit := by
    rw [hvalue, recvLimit]
    omega
  let payload : Bytes := List.replicate (leValue header / 4) 0
  have hpayload : payload.length = leValue header / 4 := List.length_replicate
  refine ⟨header ++ payload, payload, ⟨⟨header, rfl, hlength, hpayload.symm⟩, ?_⟩, ?_, ?_⟩
  · rwa [hpayload]
  · exact (List.prefix_append (b :: more) _).trans (List.prefix_append header payload)
  · intro heq
    have hcount := congrArg List.length heq
    rw [List.length_append, hlength, List.length_cons] at hcount
    omega

/-- A frame, a header past the limit, or the end before a frame is complete. -/
theorem stream_cases (stream : Bytes) :
    (∃ frame payload rest, stream = frame ++ rest ∧ IsFrame frame payload) ∨
      (∃ n, AnnouncesTooMuch stream n) ∨ EndsInsideFrame stream := by
  cases stream with
  | nil =>
      refine .inr (.inr ⟨[0], [], ⟨⟨[0], rfl, rfl, rfl⟩, Nat.zero_le _⟩, List.nil_prefix, ?_⟩)
      exact (List.cons_ne_nil 0 []).symm
  | cons b more =>
      by_cases hmore : more.length < b.toNat % 4
      · exact .inr (.inr (endsInsideFrame_of_header hmore))
      · let header := b :: more.take (b.toNat % 4)
        let rest := more.drop (b.toNat % 4)
        have hstream : b :: more = header ++ rest := by
          rw [List.cons_append, List.take_append_drop]
        have hheader : IsHeader header (leValue header / 4) := by
          refine ⟨?_, rfl⟩
          rw [List.length_cons, List.length_take_of_le (Nat.le_of_not_lt hmore)]
          rfl
        rw [hstream]
        by_cases hlimit : recvLimit < leValue header / 4
        · exact .inr (.inl ⟨_, header, rest, rfl, hheader, hlimit⟩)
        · have hle : leValue header / 4 ≤ recvLimit := Nat.le_of_not_lt hlimit
          by_cases hrest : rest.length < leValue header / 4
          · -- the payload is cut off; zeros complete it
            let payload := rest ++ List.replicate (leValue header / 4 - rest.length) 0
            have hpayload : payload.length = leValue header / 4 := by
              rw [List.length_append, List.length_replicate]
              omega
            refine .inr (.inr ⟨header ++ payload, payload, ⟨⟨header, rfl, ?_⟩, ?_⟩, ?_, ?_⟩)
            · rwa [hpayload]
            · rwa [hpayload]
            · exact (List.prefix_append_right_inj header).mpr (List.prefix_append rest _)
            · intro heq
              have hcount := congrArg List.length heq
              rw [List.length_append, List.length_append, hpayload] at hcount
              omega
          · refine .inl ⟨header ++ rest.take (leValue header / 4), rest.take (leValue header / 4),
              rest.drop (leValue header / 4), ?_, ⟨⟨header, rfl, ?_⟩, ?_⟩⟩
            · rw [List.append_assoc, List.take_append_drop]
            · rwa [List.length_take_of_le (Nat.le_of_not_lt hrest)]
            · rwa [List.length_take_of_le (Nat.le_of_not_lt hrest)]

/-! ## What the decoder makes of each -/

/-- A header that is not complete. -/
theorem recvWith_partial_header {b : UInt8} {more : Bytes} (h : more.length < b.toNat % 4)
    (tooLong : Nat → String) :
    recvWith tooLong (b :: more) = (.error .unexpectedEof, []) := by
  have hfirst : readExact 1 (b :: more) = (.ok [b], more) := by
    simp [readExact]
  have hread : (if b.toNat % 4 + 1 > 1 then readExact (b.toNat % 4 + 1 - 1) more
      else (.ok [], more)) = (.error .unexpectedEof, []) := by
    rw [if_pos (by omega), Nat.add_sub_cancel, readExact_of_length_lt h]
  rw [recvWith, hfirst]
  simp only [List.headD_cons, toNat_tag_add_one, hread]

theorem recvWith_endsInsideFrame {stream : Bytes} (h : EndsInsideFrame stream)
    (tooLong : Nat → String) : recvWith tooLong stream = (.error .unexpectedEof, []) := by
  obtain ⟨frame, payload, ⟨⟨header, rfl, H⟩, hlimit⟩, hprefix, hne⟩ := h
  rcases Text.prefix_append_cases hprefix with hinside | ⟨got, hgot, rfl⟩
  · cases stream with
    | nil => rfl
    | cons b more =>
        by_cases hwhole : b :: more = header
        · -- the header is complete, and nothing of a payload that is not empty
          have hpayload : 0 < payload.length := by
            apply List.length_pos_iff.mpr
            rintro rfl
            exact hne (by rw [hwhole, List.append_nil])
          have hnothing := recvWith_header H tooLong []
          rw [List.append_nil, if_neg (Nat.not_lt.mpr hlimit),
            readExact_of_length_lt (by simpa using hpayload)] at hnothing
          rw [hwhole, hnothing]
        · obtain ⟨b', more', rfl, hmore⟩ := H.exists_cons
          obtain ⟨rfl, hmore'⟩ := List.cons_prefix_cons.mp hinside
          apply recvWith_partial_header
          rw [← hmore]
          refine lt_of_le_of_ne hmore'.length_le ?_
          intro hlength
          exact hwhole (by rw [hmore'.eq_of_length hlength])
  · rw [recvWith_header H, if_neg (Nat.not_lt.mpr hlimit), readExact_of_length_lt]
    refine lt_of_le_of_ne hgot.length_le ?_
    intro hlength
    exact hne (by rw [hgot.eq_of_length hlength])

theorem recvWith_announcesTooMuch {stream : Bytes} {n : Nat} (h : AnnouncesTooMuch stream n)
    (tooLong : Nat → String) : (recvWith tooLong stream).1 = .error (.bail (tooLong n)) := by
  obtain ⟨header, rest, rfl, H, hlimit⟩ := h
  rw [recvWith_header H, if_pos hlimit]

/-- The decoder accepts exactly the frames of its grammar and leaves the rest of the stream.
It reports the size limit exactly behind a complete header that announces more than the
limit, with the announced length, and the end of the stream exactly where the stream ends
before a frame of the grammar does.  There is no other error. -/
theorem recv_accepts_exactly_the_grammar (c : Codec) (stream : Bytes) :
    (∀ payload rest, c.recv stream = (.ok payload, rest) ↔
      ∃ h, stream = h ++ payload ++ rest ∧ 1 ≤ h.length ∧ h.length ≤ 4 ∧
        (h.headD 0).toNat % 4 = h.length - 1 ∧ leValue h / 4 = payload.length ∧
        payload.length ≤ 64 * 1024 * 1024) ∧
      (∀ text, (c.recv stream).1 = .error (.bail text) ↔
        ∃ n, AnnouncesTooMuch stream n ∧ text = c.limitText n) ∧
      ((c.recv stream).1 = .error .unexpectedEof ↔ EndsInsideFrame stream) := by
  rw [c.recv_eq]
  refine ⟨?_, ?_, ?_⟩
  · intro payload rest
    constructor
    · intro hok
      rcases stream_cases stream with ⟨frame, sent, left, rfl, F⟩ | ⟨n, h⟩ | h
      · rw [recvWith_frame F] at hok
        obtain ⟨hpayload, rfl⟩ := Prod.mk.inj hok
        obtain rfl := Except.ok.inj hpayload
        obtain ⟨header, rfl, H⟩ := F.split
        refine ⟨header, rfl, H.length_bounds.1, H.length_bounds.2, ?_, H.value, F.limit⟩
        have := H.tag
        omega
      · have herror := recvWith_announcesTooMuch h c.limitText
        rw [hok] at herror
        cases herror
      · rw [recvWith_endsInsideFrame h] at hok
        cases hok
    · rintro ⟨header, rfl, hpos, _, htag, hvalue, hlimit⟩
      have H : IsHeader header payload.length := ⟨by omega, hvalue⟩
      exact recvWith_frame ⟨⟨header, rfl, H⟩, hlimit⟩ c.limitText rest
  · intro text
    constructor
    · intro herror
      rcases stream_cases stream with ⟨frame, sent, left, rfl, F⟩ | ⟨n, h⟩ | h
      · rw [recvWith_frame F] at herror
        cases herror
      · rw [recvWith_announcesTooMuch h] at herror
        exact ⟨n, h, (CodecError.bail.inj (Except.error.inj herror)).symm⟩
      · rw [recvWith_endsInsideFrame h] at herror
        cases herror
    · rintro ⟨n, h, rfl⟩
      exact recvWith_announcesTooMuch h c.limitText
  · constructor
    · intro herror
      rcases stream_cases stream with ⟨frame, sent, left, rfl, F⟩ | ⟨n, h⟩ | h
      · rw [recvWith_frame F] at herror
        cases herror
      · rw [recvWith_announcesTooMuch h] at herror
        cases herror
      · exact h
    · intro h
      rw [recvWith_endsInsideFrame h]

end RustdeskCli.Transport
