import RustdeskCli.Transport.RecvFuture
import RustdeskCli.Crypto.Channel
set_option autoImplicit false

/-!
# Crypto: dropped `recv` futures (`src/daemon.rs`, `src/terminal.rs`)

The daemon's `select!` loop and the timeout around `recv_terminal_response` drop a
pending `recv` and call it again later on the same stream.  The bytes the dropped
future had read are gone with its locals.  A run of this machine is any pattern of
arriving bytes, polls and drops.

A drop is harmless exactly while the future still waits for the first byte of a
frame; one dropped later shifts the frame boundary.
-/

namespace RustdeskCli.Crypto

open RustdeskCli.Foundation
open RustdeskCli.Transport

/-- One end of a connection that only reads. -/
structure Reader where
  stream : EncryptedStream
  /-- bytes the peer has written that have not arrived -/
  inFlight : Bytes
  /-- bytes that have arrived and have not been read -/
  arrived : Bytes
  /-- the current `recv`; `first` also when none has been called yet -/
  future : RecvFuture
  /-- what the completed `FramedTransport::recv` calls returned -/
  payloads : List (Except CodecError Bytes)
  /-- what the completed `EncryptedStream::recv` calls returned -/
  returned : List (Except StreamError Bytes)
  deriving DecidableEq

/-- What can happen to the reading end. -/
inductive ReadEvent where
  | arrive (n : Nat)
  | poll
  | drop
  deriving DecidableEq, Repr

namespace Reader

/-- The peer has written `bytes` and nothing has arrived. -/
def start (stream : EncryptedStream) (bytes : Bytes) : Reader :=
  ⟨stream, bytes, [], .first, [], []⟩

/-- The inner `recv` is ready, and `EncryptedStream::recv` finishes without
another await. -/
def complete (box : SecretBox) (r : Reader) (result : Except CodecError Bytes)
    (rest : Bytes) : Reader :=
  let (returned, stream) :=
    match result with
    | .error e => (.error (.transport e), r.stream)
    | .ok ciphertext => r.stream.openFrame box ciphertext
  { r with
    stream := stream
    arrived := rest
    future := .first
    payloads := r.payloads ++ [result]
    returned := r.returned ++ [returned] }

/-- One event. -/
def next (box : SecretBox) (r : Reader) : ReadEvent → Reader
  | .arrive n => { r with arrived := r.arrived ++ r.inFlight.take n, inFlight := r.inFlight.drop n }
  | .poll =>
      match r.future.poll FramedTransport.limitText r.arrived with
      | (.pending future, rest) => { r with future := future, arrived := rest }
      | (.ready result, rest) => r.complete box result rest
  | .drop => { r with future := .first }

/-- The machine of all patterns of arrivals, polls and drops. -/
def machine (box : SecretBox) : Machine Reader ReadEvent := ⟨fun r event => some (next box r event)⟩

/-- The future is dropped only while it has read nothing. -/
def DropsIdle (r : Reader) : ReadEvent → Prop
  | .drop => r.future = .first
  | _ => True

instance (r : Reader) (event : ReadEvent) : Decidable (DropsIdle r event) :=
  match event with
  | .drop => inferInstanceAs (Decidable (r.future = .first))
  | .arrive _ => inferInstanceAs (Decidable True)
  | .poll => inferInstanceAs (Decidable True)

/-- From the start of the frame that is being read, the stream goes on with `wire`. -/
def Faces (r : Reader) (wire : Bytes) : Prop :=
  ∃ consumed, RecvFuture.poll FramedTransport.limitText .first consumed = (.pending r.future, []) ∧
    consumed ++ (r.arrived ++ r.inFlight) = wire

/-- What one event does to a reader that drops only idle futures: it changes what
has arrived, or completes a `recv` with the payload of the next frame. -/
theorem next_cases (box : SecretBox) {r : Reader} {event : ReadEvent} {wire : Bytes}
    (hface : r.Faces wire) (hguard : DropsIdle r event) :
    ((next box r event).stream = r.stream ∧ (next box r event).payloads = r.payloads ∧
        (next box r event).returned = r.returned ∧ (next box r event).Faces wire) ∨
      (wire ≠ [] ∧ ∀ frame payload wire', IsFrame frame payload → wire = frame ++ wire' →
        ∃ rest, next box r event = r.complete box (.ok payload) rest ∧
          (next box r event).Faces wire') := by
  obtain ⟨consumed, hfuture, hwire⟩ := hface
  cases event with
  | arrive n =>
      refine .inl ⟨rfl, rfl, rfl, consumed, hfuture, ?_⟩
      simp only [next, List.append_assoc, List.take_append_drop]
      exact hwire
  | drop =>
      have hidle : r.future = .first := hguard
      exact .inl ⟨rfl, rfl, rfl, consumed, by rw [hfuture, hidle]; rfl, hwire⟩
  | poll =>
      -- the future goes on where a fresh one, fed the consumed bytes, would be
      have hfresh : RecvFuture.poll FramedTransport.limitText .first (consumed ++ r.arrived) =
          r.future.poll FramedTransport.limitText r.arrived := by
        rw [RecvFuture.poll_append, hfuture]
      simp only [next]
      rcases hpoll : r.future.poll FramedTransport.limitText r.arrived with
        ⟨future | result, rest⟩
      · have hrest := RecvFuture.rest_of_pending _ hpoll
        subst hrest
        refine .inl ⟨rfl, rfl, rfl, consumed ++ r.arrived, hfresh.trans hpoll, ?_⟩
        simpa using hwire
      · refine .inr ⟨?_, ?_⟩
        · rintro rfl
          have harrived : r.arrived = [] := by simp_all
          simp [harrived] at hpoll
        · intro frame payload wire' F hsplit
          have hframe := RecvFuture.poll_frame FramedTransport.limitText F wire'
          rw [← hsplit, ← hwire, ← List.append_assoc, RecvFuture.poll_append, hfresh, hpoll]
            at hframe
          simp only [Prod.mk.injEq, Progress.ready.injEq] at hframe
          refine ⟨rest, by rw [hframe.1], [], rfl, ?_⟩
          simpa [complete] using hframe.2

/-- The payloads of the frames in front of the reader have been returned in order. -/
def Framed (frames : List (Bytes × Bytes)) (r : Reader) : Prop :=
  ∃ done todo, frames = done ++ todo ∧ r.payloads = done.map (fun f => .ok f.2) ∧
    r.Faces (todo.flatMap Prod.fst)

theorem framed_next {box : SecretBox} {frames : List (Bytes × Bytes)}
    (hframes : ∀ f ∈ frames, IsFrame f.1 f.2) {r : Reader} {event : ReadEvent}
    (h : Framed frames r) (hguard : DropsIdle r event) : Framed frames (next box r event) := by
  obtain ⟨done, todo, hsplit, hpayloads, hface⟩ := h
  rcases next_cases box hface hguard with ⟨_, hsame, _, hface'⟩ | ⟨hwire, hready⟩
  · exact ⟨done, todo, hsplit, hsame.trans hpayloads, hface'⟩
  · cases todo with
    | nil => exact absurd rfl hwire
    | cons f todo =>
        have F : IsFrame f.1 f.2 := hframes f (by simp [hsplit])
        obtain ⟨rest, hnext, hface'⟩ := hready f.1 f.2 (todo.flatMap Prod.fst) F rfl
        refine ⟨done ++ [f], todo, by simp [hsplit], ?_, hface'⟩
        simp [hnext, complete, hpayloads]

/-- The plaintexts of the items in front of the reader have been returned in order. -/
def Delivered (box : SecretBox) (key : Bytes) (items : List Item) (last : UInt64)
    (r : Reader) : Prop :=
  ∃ done todo wire, items = done ++ todo ∧
    r.returned = done.map (fun item => .ok item.plaintext) ∧ r.stream.sessionKey = key ∧
    Carries box key r.stream.recvSeq todo wire last ∧ r.Faces wire

theorem delivered_next {box : SecretBox} (hbox : box.Lawful) {key : Bytes} {items : List Item}
    {last : UInt64} {r : Reader} {event : ReadEvent} (h : Delivered box key items last r)
    (hguard : DropsIdle r event) : Delivered box key items last (next box r event) := by
  obtain ⟨done, todo, wire, hsplit, hreturned, hkey, hcarries, hface⟩ := h
  rcases next_cases box hface hguard with ⟨hst, _, hsame, hface'⟩ | ⟨hwire, hready⟩
  · exact ⟨done, todo, wire, hsplit, hsame.trans hreturned, by rw [hst, hkey],
      by rw [hst]; exact hcarries, hface'⟩
  · cases hcarries with
    | nil => exact absurd rfl hwire
    | message hseal F hrest =>
        rename_i m c frame wire' todo
        obtain ⟨rest, hnext, hface'⟩ := hready frame c wire' F rfl
        rw [← hkey] at hseal
        have hopen := EncryptedStream.openFrame_of_encrypt hbox hseal
        refine ⟨done ++ [.message m], todo, wire', by simp [hsplit], ?_, ?_, ?_, hface'⟩
        · simp [hnext, complete, hopen, hreturned, Item.plaintext]
        · simp [hnext, complete, hopen, hkey]
        · simpa [hnext, complete, hopen] using hrest
    | heartbeat F hrest =>
        rename_i frame wire' todo
        obtain ⟨rest, hnext, hface'⟩ := hready frame [] wire' F rfl
        refine ⟨done ++ [.heartbeat], todo, wire', by simp [hsplit], ?_, ?_, ?_, hface'⟩
        · simp [hnext, complete, hreturned, Item.plaintext]
        · simp [hnext, complete, hkey]
        · simpa [hnext, complete] using hrest

/-- In every run that drops `recv` futures only before they have read a byte, the
completed `recv` calls return a prefix of what the peer sent: the payloads of its
frames at the transport, and, where the frames are those of an encrypted stream,
the plaintexts of its messages. -/
theorem recv_prefix_of_idle_drops {box : SecretBox} (hbox : box.Lawful)
    (stream : EncryptedStream) (frames : List (Bytes × Bytes))
    (hframes : ∀ f ∈ frames, IsFrame f.1 f.2) (events : List ReadEvent) (final : Reader)
    (hrun : (machine box).run (start stream (frames.flatMap Prod.fst)) events = some final)
    (hidle : (machine box).Meets DropsIdle (start stream (frames.flatMap Prod.fst)) events) :
    final.payloads <+: frames.map (fun f => .ok f.2) ∧
      ∀ items last,
        Carries box stream.sessionKey stream.recvSeq items (frames.flatMap Prod.fst) last →
          final.returned <+: items.map fun item => .ok item.plaintext := by
  have hface : (start stream (frames.flatMap Prod.fst)).Faces (frames.flatMap Prod.fst) :=
    ⟨[], rfl, rfl⟩
  refine ⟨?_, ?_⟩
  · have hframed : Framed frames final :=
      (machine box).invariant_of_meets
        (fun _ _ _ hinv hguard hstep => Option.some.inj hstep ▸ framed_next hframes hinv hguard)
        ⟨[], frames, rfl, rfl, hface⟩ hidle hrun
    obtain ⟨done, todo, hsplit, hpayloads, _⟩ := hframed
    rw [hpayloads, hsplit, List.map_append]
    exact List.prefix_append _ _
  · intro items last hcarries
    have hdelivered : Delivered box stream.sessionKey items last final :=
      (machine box).invariant_of_meets
        (fun _ _ _ hinv hguard hstep => Option.some.inj hstep ▸ delivered_next hbox hinv hguard)
        ⟨[], items, _, rfl, rfl, rfl, hcarries, hface⟩ hidle hrun
    obtain ⟨done, todo, _, hsplit, hreturned, _⟩ := hdelivered
    rw [hreturned, hsplit, List.map_append]
    exact List.prefix_append _ _

/-- Two frames in three pieces, with a drop before each of them is begun. -/
theorem recv_prefix_of_idle_drops_sample :
    ∃ final, (machine tagBox).run (start (.new [7]) [8, 4, 65, 0])
        [.drop, .arrive 1, .poll, .arrive 2, .poll, .drop, .arrive 1, .poll] = some final ∧
      final.payloads <+: [.ok [4, 65], .ok []] := by
  have hframes : ∀ f ∈ [([8, 4, 65], [4, 65]), (([0] : Bytes), ([] : Bytes))],
      IsFrame f.1 f.2 := by
    intro f hf
    simp only [List.mem_cons, List.not_mem_nil, or_false] at hf
    rcases hf with rfl | rfl
    · exact ⟨⟨[8], rfl, ⟨rfl, rfl⟩⟩, by decide⟩
    · exact ⟨⟨[0], rfl, ⟨rfl, rfl⟩⟩, by decide⟩
  refine ⟨_, rfl, ?_⟩
  exact (recv_prefix_of_idle_drops tagBox_lawful (.new [7]) _ hframes
    [.drop, .arrive 1, .poll, .arrive 2, .poll, .drop, .arrive 1, .poll] _ rfl
    (by decide +kernel)).1

/-- The header of a two-byte payload is read and the future dropped: the next
`recv` takes the first payload byte for a header and returns the second. -/
theorem dropped_recv_shifts_frame :
    IsFrame [8, 4, 65] [4, 65] ∧
      ∃ final, (machine tagBox).run (start (.new [7]) [8, 4, 65])
          [.arrive 1, .poll, .drop, .arrive 2, .poll] = some final ∧
        final.payloads = [.ok [65]] ∧ ¬ final.payloads <+: [.ok [4, 65]] :=
  ⟨⟨⟨[8], rfl, ⟨rfl, rfl⟩⟩, by decide⟩, _, rfl, by decide +kernel, by decide +kernel⟩

end Reader

end RustdeskCli.Crypto
