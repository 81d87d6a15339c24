import RustdeskCli.Foundation.Machine
import RustdeskCli.Crypto.EncryptedStream
set_option autoImplicit false

/-!
# Crypto: two endpoints over a reliable byte transport

Two `EncryptedStream`s with one session key, joined by a FIFO byte stream each
way.  A run interleaves successful `send`, `send_heartbeat` and completed `recv`
calls of both sides in any order.  The two directions share nothing but the two
stream records, so the invariant is stated for one direction and holds for each.

The channel is correct up to the decoder's limit: a ciphertext of more than
64 MiB is sent and then refused by the receiver.
-/

namespace RustdeskCli.Crypto

open RustdeskCli.Foundation
open RustdeskCli.Transport

/-- The two ends of a connection. -/
inductive Side where
  | client
  | peer
  deriving DecidableEq, Repr

/-- The other end. -/
def Side.other : Side → Side
  | client => peer
  | peer => client

@[simp] theorem Side.other_other (s : Side) : s.other.other = s := by cases s <;> rfl

@[simp] theorem Side.other_ne (s : Side) : s.other ≠ s := by cases s <;> simp [other]

@[simp] theorem Side.ne_other (s : Side) : s ≠ s.other := by cases s <;> simp [other]

theorem Side.eq_or_eq_other (s t : Side) : t = s ∨ t = s.other := by
  cases s <;> cases t <;> simp [other]

/-- What a side put on its stream with one call. -/
inductive Item where
  | message (plaintext : Bytes)
  | heartbeat
  deriving DecidableEq, Repr

/-- What the receiver of the item is to be given. -/
def Item.plaintext : Item → Bytes
  | message plaintext => plaintext
  | heartbeat => []

/-- Whether the item goes through the cipher. -/
def Item.isMessage : Item → Bool
  | message _ => true
  | heartbeat => false

/-- How many of the items go through the cipher. -/
def messages (items : List Item) : Nat := items.countP Item.isMessage

@[simp] theorem messages_nil : messages [] = 0 := rfl

@[simp] theorem messages_append (xs ys : List Item) :
    messages (xs ++ ys) = messages xs + messages ys := by
  simp [messages]

@[simp] theorem messages_cons_message (m : Bytes) (items : List Item) :
    messages (.message m :: items) = messages items + 1 :=
  List.countP_cons_of_pos rfl

@[simp] theorem messages_cons_heartbeat (items : List Item) :
    messages (.heartbeat :: items) = messages items :=
  List.countP_cons_of_neg (by simp [Item.isMessage])

/-! ## A byte stream that carries items

`Carries box key seq items bytes seq'`: `bytes` is the concatenation of one frame
for each item, the messages encrypted under consecutive sequence numbers after
`seq`, the last of them being `seq'`. -/

/-- The frames of `items`, sealed under the sequence numbers from `seq` to `seq'`. -/
inductive Carries (box : SecretBox) (key : Bytes) :
    UInt64 → List Item → Bytes → UInt64 → Prop
  | nil (seq : UInt64) : Carries box key seq [] [] seq
  | message {seq seq' : UInt64} {m c frame bytes : Bytes} {items : List Item} :
      box.encrypt key (EncryptedStream.makeNonce (seq + 1)) m = some c →
      IsFrame frame c →
      Carries box key (seq + 1) items bytes seq' →
      Carries box key seq (.message m :: items) (frame ++ bytes) seq'
  | heartbeat {seq seq' : UInt64} {frame bytes : Bytes} {items : List Item} :
      IsFrame frame [] →
      Carries box key seq items bytes seq' →
      Carries box key seq (.heartbeat :: items) (frame ++ bytes) seq'

namespace Carries

variable {box : SecretBox} {key : Bytes}

/-- Two carried streams in a row carry the items in a row. -/
theorem append {seq mid last : UInt64} {xs ys : List Item} {bytes more : Bytes}
    (h : Carries box key seq xs bytes mid) (h' : Carries box key mid ys more last) :
    Carries box key seq (xs ++ ys) (bytes ++ more) last := by
  induction h with
  | nil _ => exact h'
  | message hseal F _ ih =>
      rw [List.append_assoc]
      exact .message hseal F (ih h')
  | heartbeat F _ ih =>
      rw [List.append_assoc]
      exact .heartbeat F (ih h')

/-- The sequence number moves by one for each message. -/
theorem seq_eq {seq seq' : UInt64} {items : List Item} {bytes : Bytes}
    (h : Carries box key seq items bytes seq') :
    seq' = seq + UInt64.ofNat (messages items) := by
  induction h with
  | nil seq => simp
  | message _ _ _ ih =>
      rw [ih, messages_cons_message, UInt64.ofNat_add, add_assoc, add_comm 1]
      rfl
  | heartbeat _ _ ih => rw [ih, messages_cons_heartbeat]

end Carries

/-- The payloads of the complete frames at the start of a byte stream. -/
def decodeFrames : Nat → Bytes → List Bytes
  | 0, _ => []
  | fuel + 1, stream =>
      match FramedTransport.recv stream with
      | (.ok payload, rest) => payload :: decodeFrames fuel rest
      | (.error _, _) => []

/-- The number of encrypted frames in a byte stream; every frame has at least one
byte. -/
def encryptedInFlight (wire : Bytes) : Nat :=
  (decodeFrames wire.length wire).countP fun payload => !payload.isEmpty

theorem decodeFrames_frame {frame payload : Bytes} (F : IsFrame frame payload)
    (fuel : Nat) (rest : Bytes) :
    decodeFrames (fuel + 1) (frame ++ rest) = payload :: decodeFrames fuel rest := by
  simp [decodeFrames, FramedTransport.recv, recvWith_frame F]

theorem decodeFrames_nil (fuel : Nat) : decodeFrames fuel [] = [] := by
  cases fuel with
  | zero => rfl
  | succ fuel =>
      have hrecv : FramedTransport.recv [] = (.error .unexpectedEof, []) := rfl
      simp [decodeFrames, hrecv]

/-- Parsing a carried stream finds one encrypted frame for each message. -/
theorem Carries.countP_decodeFrames {box : SecretBox} (hbox : box.Lawful) {key : Bytes}
    {seq seq' : UInt64} {items : List Item} {bytes : Bytes}
    (h : Carries box key seq items bytes seq') :
    ∀ fuel, bytes.length ≤ fuel →
      (decodeFrames fuel bytes).countP (fun payload => !payload.isEmpty) = messages items := by
  induction h with
  | nil _ => intro fuel _; simp [decodeFrames_nil]
  | message hseal F _ ih =>
      intro fuel hfuel
      have hframe := F.length_pos
      rw [List.length_append] at hfuel
      obtain ⟨fuel, rfl⟩ : ∃ n, fuel = n + 1 := ⟨fuel - 1, by omega⟩
      rw [decodeFrames_frame F, List.countP_cons, ih fuel (by omega), messages_cons_message,
        hbox.isEmpty_eq_false hseal]
      rfl
  | heartbeat F _ ih =>
      intro fuel hfuel
      have hframe := F.length_pos
      rw [List.length_append] at hfuel
      obtain ⟨fuel, rfl⟩ : ∃ n, fuel = n + 1 := ⟨fuel - 1, by omega⟩
      rw [decodeFrames_frame F, List.countP_cons_of_neg (by simp),
        ih fuel (by omega), messages_cons_heartbeat]

/-- `recv` on a carried stream returns the first item, and leaves a stream that
carries the others, whatever follows it on the wire. -/
theorem Carries.recv_append {box : SecretBox} (hbox : box.Lawful) {st : EncryptedStream}
    {item : Item} {items : List Item} {bytes : Bytes} {last : UInt64}
    (h : Carries box st.sessionKey st.recvSeq (item :: items) bytes last) (more : Bytes) :
    ∃ rest, st.recv box (bytes ++ more) =
        (.ok item.plaintext,
          { st with recvSeq := st.recvSeq + UInt64.ofNat (messages [item]) }, rest ++ more) ∧
      Carries box st.sessionKey (st.recvSeq + UInt64.ofNat (messages [item])) items rest last := by
  cases h with
  | message hseal F hrest =>
      refine ⟨_, ?_, hrest⟩
      rw [List.append_assoc, st.recv_frame box F, EncryptedStream.openFrame_of_encrypt hbox hseal]
      rfl
  | heartbeat F hrest =>
      have hzero : st.recvSeq + UInt64.ofNat (messages [Item.heartbeat]) = st.recvSeq := by
        simp
      rw [hzero]
      refine ⟨_, ?_, hrest⟩
      rw [List.append_assoc, st.recv_frame box F]
      rfl

/-- `recv` on a carried stream with nothing behind it. -/
theorem Carries.recv {box : SecretBox} (hbox : box.Lawful) {st : EncryptedStream}
    {item : Item} {items : List Item} {bytes : Bytes} {last : UInt64}
    (h : Carries box st.sessionKey st.recvSeq (item :: items) bytes last) :
    ∃ rest, st.recv box bytes =
        (.ok item.plaintext,
          { st with recvSeq := st.recvSeq + UInt64.ofNat (messages [item]) }, rest) ∧
      Carries box st.sessionKey (st.recvSeq + UInt64.ofNat (messages [item])) items rest last := by
  simpa using h.recv_append hbox []

/-! ## The machine -/

/-- Both endpoints, the bytes in flight towards each side, what each side has
sent and what its `recv` calls have returned. -/
structure Channel where
  ends : Side → EncryptedStream
  wire : Side → Bytes
  sent : Side → List Item
  got : Side → List (Except StreamError Bytes)

/-- A completed call of one side. -/
inductive Call where
  | send (s : Side) (plaintext : Bytes)
  | sendHeartbeat (s : Side)
  | recv (s : Side)
  deriving DecidableEq, Repr

/-- The number of `send` calls of a side. -/
def sendsBy (s : Side) (calls : List Call) : Nat :=
  calls.countP fun
    | .send t _ => t = s
    | _ => false

namespace Channel

/-- Two streams created with the same key, nothing in flight. -/
def new (key : Bytes) : Channel :=
  ⟨fun _ => .new key, fun _ => [], fun _ => [], fun _ => []⟩

/-- Record one successful send of `item` by side `s`. -/
def pushed (ch : Channel) (s : Side) (st : EncryptedStream) (wire : Bytes) (item : Item) :
    Channel :=
  { ch with
    ends := Function.update ch.ends s st
    wire := Function.update ch.wire s.other wire
    sent := Function.update ch.sent s (ch.sent s ++ [item]) }

/-- Record one completed `recv` of side `s`. -/
def pulled (ch : Channel) (s : Side) (st : EncryptedStream) (rest : Bytes)
    (result : Except StreamError Bytes) : Channel :=
  { ch with
    ends := Function.update ch.ends s st
    wire := Function.update ch.wire s rest
    got := Function.update ch.got s (ch.got s ++ [result]) }

/-- One call.  A refused send is not part of a run, and a `recv` whose frame is
not complete yet has not returned. -/
def step (box : SecretBox) (ch : Channel) : Call → Option Channel
  | .send s m =>
      match (ch.ends s).send box m (ch.wire s.other) with
      | (.error _, _, _) => none
      | (.ok (), st, wire) => some (ch.pushed s st wire (.message m))
  | .sendHeartbeat s =>
      match (ch.ends s).sendHeartbeat (ch.wire s.other) with
      | (.error _, _, _) => none
      | (.ok (), st, wire) => some (ch.pushed s st wire .heartbeat)
  | .recv s =>
      match (ch.ends s).recv box (ch.wire s) with
      | (.error (.transport .unexpectedEof), _, _) => none
      | (result, st, rest) => some (ch.pulled s st rest result)

/-- The machine of all interleavings of both sides' calls. -/
def machine (box : SecretBox) : Machine Channel Call := ⟨step box⟩

/-- One direction in order: what side `s` has been given are the items
`delivered`, and the bytes towards it carry the items `pending`. -/
structure Link (box : SecretBox) (key : Bytes) (ch : Channel) (s : Side)
    (delivered pending : List Item) : Prop where
  sessionKey : (ch.ends s).sessionKey = key
  sent : ch.sent s.other = delivered ++ pending
  got : ch.got s = delivered.map fun item => .ok item.plaintext
  recvSeq : (ch.ends s).recvSeq = UInt64.ofNat (messages delivered)
  carries : Carries box key (ch.ends s).recvSeq pending (ch.wire s) (ch.ends s.other).sendSeq

/-- Both directions are in order. -/
def Linked (box : SecretBox) (key : Bytes) (ch : Channel) : Prop :=
  ∀ s, ∃ delivered pending, Link box key ch s delivered pending

theorem linked_new (box : SecretBox) (key : Bytes) : Linked box key (new key) := by
  intro s
  exact ⟨[], [], rfl, rfl, rfl, rfl, .nil 0⟩

/-- A successful send moves the sender's counter along the bytes it wrote, and
does not touch the other direction. -/
theorem linked_pushed {box : SecretBox} {key : Bytes} {ch : Channel} (h : Linked box key ch)
    (s : Side) {seq : UInt64} {bytes : Bytes} {item : Item}
    (hcarry : Carries box key (ch.ends s).sendSeq [item] bytes seq) :
    Linked box key
      (ch.pushed s { ch.ends s with sendSeq := seq } (ch.wire s.other ++ bytes) item) := by
  intro t
  obtain ⟨delivered, pending, L⟩ := h t
  rcases Side.eq_or_eq_other s t with rfl | rfl
  · exact ⟨delivered, pending, by simpa [pushed] using L.sessionKey,
      by simpa [pushed] using L.sent, L.got, by simpa [pushed] using L.recvSeq,
      by simpa [pushed] using L.carries⟩
  · refine ⟨delivered, pending ++ [item], by simpa [pushed] using L.sessionKey, ?_, L.got,
      by simpa [pushed] using L.recvSeq, ?_⟩
    · have := L.sent
      simp only [Side.other_other] at this
      simp [pushed, this]
    · have hold := L.carries
      simp only [Side.other_other] at hold
      simpa [pushed] using hold.append hcarry

/-- The bytes of one successful `send` within the receiver's limit. -/
theorem carries_send {box : SecretBox} (hbox : box.Lawful) {st st' : EncryptedStream}
    {m written written' : Bytes} (hsize : m.length + 16 ≤ recvLimit)
    (h : st.send box m written = (.ok (), st', written')) :
    ∃ bytes, st' = { st with sendSeq := st.sendSeq + 1 } ∧ written' = written ++ bytes ∧
      Carries box st.sessionKey st.sendSeq [.message m] bytes (st.sendSeq + 1) := by
  obtain ⟨c, header, hseal, hheader, hst, hwritten⟩ := EncryptedStream.send_ok h
  have hlen := hbox.length hseal
  have F : IsFrame (header ++ c) c := ⟨⟨header, rfl, hheader⟩, by omega⟩
  exact ⟨header ++ c, hst, hwritten, by simpa using Carries.message hseal F (.nil _)⟩

/-- The byte of a heartbeat. -/
theorem carries_heartbeat (box : SecretBox) (key : Bytes) (seq : UInt64) {header : Bytes}
    (hheader : IsHeader header 0) : Carries box key seq [.heartbeat] header seq := by
  have F : IsFrame header [] := ⟨⟨header, by simp, hheader⟩, by simp⟩
  simpa using Carries.heartbeat F (.nil seq)

/-- A side with nothing pending has an empty wire, and its `recv` has not
returned. -/
theorem step_recv_of_pending_nil {box : SecretBox} {key : Bytes} {ch : Channel} {s : Side}
    {delivered : List Item} (L : Link box key ch s delivered []) :
    step box ch (.recv s) = none := by
  have hwire : ch.wire s = [] := by
    cases hw : ch.wire s with
    | nil => rfl
    | cons b bs =>
        have := L.carries
        rw [hw] at this
        cases this
  have hrecv : (ch.ends s).recv box [] =
      (.error (.transport .unexpectedEof), ch.ends s, []) := rfl
  simp [step, hwire, hrecv]

/-- A side with something pending is given the next item. -/
theorem step_recv_of_pending_cons {box : SecretBox} (hbox : box.Lawful) {key : Bytes}
    {ch : Channel} {s : Side} {delivered pending : List Item} {item : Item}
    (L : Link box key ch s delivered (item :: pending)) :
    ∃ rest,
      step box ch (.recv s) = some (ch.pulled s
        { ch.ends s with
          recvSeq := (ch.ends s).recvSeq + UInt64.ofNat (messages [item]) }
        rest (.ok item.plaintext)) ∧
      Carries box key ((ch.ends s).recvSeq + UInt64.ofNat (messages [item])) pending rest
        (ch.ends s.other).sendSeq := by
  have hcarries := L.carries
  rw [← L.sessionKey] at hcarries
  obtain ⟨rest, hrecv, hrest⟩ := hcarries.recv hbox
  rw [L.sessionKey] at hrest
  exact ⟨rest, by simp [step, hrecv], hrest⟩

theorem linked_recv {box : SecretBox} (hbox : box.Lawful) {key : Bytes} {ch ch' : Channel}
    (h : Linked box key ch) {s : Side} (hstep : step box ch (.recv s) = some ch') :
    Linked box key ch' := by
  obtain ⟨delivered, pending, L⟩ := h s
  cases pending with
  | nil => simp [step_recv_of_pending_nil L] at hstep
  | cons item pending =>
      obtain ⟨rest, hnext, hrest⟩ := step_recv_of_pending_cons hbox L
      rw [hnext, Option.some.injEq] at hstep
      subst hstep
      intro t
      rcases Side.eq_or_eq_other s t with rfl | rfl
      · refine ⟨delivered ++ [item], pending, by simpa [pulled] using L.sessionKey,
          by simpa [pulled] using L.sent, by simp [pulled, L.got], ?_, by simpa [pulled] using hrest⟩
        simp [pulled, L.recvSeq, UInt64.ofNat_add]
      · obtain ⟨delivered', pending', L'⟩ := h s.other
        exact ⟨delivered', pending', by simpa [pulled] using L'.sessionKey,
          by simpa [pulled] using L'.sent, by simpa [pulled] using L'.got,
          by simpa [pulled] using L'.recvSeq, by simpa [pulled] using L'.carries⟩

/-- The call is within the receiver's limit: a sent plaintext leaves room for the
tag. -/
def WithinLimit : Call → Prop
  | .send _ m => m.length + 16 ≤ recvLimit
  | _ => True

instance : DecidablePred WithinLimit := fun call =>
  match call with
  | .send _ m => inferInstanceAs (Decidable (m.length + 16 ≤ recvLimit))
  | .sendHeartbeat _ => inferInstanceAs (Decidable True)
  | .recv _ => inferInstanceAs (Decidable True)

/-- One call within the limit keeps both directions in order. -/
theorem linked_step {box : SecretBox} (hbox : box.Lawful) {key : Bytes} {ch ch' : Channel}
    {call : Call} (h : Linked box key ch) (hsize : WithinLimit call)
    (hstep : step box ch call = some ch') : Linked box key ch' := by
  cases call with
  | send s m =>
      obtain ⟨_, _, L⟩ := h s
      simp only [step] at hstep
      split at hstep
      · simp at hstep
      · rename_i st wire hsend
        obtain ⟨bytes, rfl, rfl, hcarry⟩ := carries_send hbox hsize hsend
        rw [L.sessionKey] at hcarry
        rw [← Option.some.inj hstep]
        exact linked_pushed h s hcarry
  | sendHeartbeat s =>
      obtain ⟨header, hheader, hsend⟩ := (ch.ends s).sendHeartbeat_eq (ch.wire s.other)
      simp only [step, hsend, Option.some.injEq] at hstep
      rw [← hstep]
      exact linked_pushed h s (carries_heartbeat box key _ hheader)
  | recv s => exact linked_recv hbox h hstep

/-- The record of sent items grows by exactly the sends of the run. -/
theorem messages_sent_of_run (box : SecretBox) (s : Side) :
    ∀ {calls : List Call} {ch final : Channel},
      (machine box).run ch calls = some final →
      messages (final.sent s) = messages (ch.sent s) + sendsBy s calls := by
  intro calls
  induction calls with
  | nil =>
      intro ch final hrun
      simp only [Machine.run_nil, Option.some.injEq] at hrun
      simp [hrun, sendsBy]
  | cons call calls ih =>
      intro ch final hrun
      obtain ⟨ch', hstep, hrest⟩ := (machine box).run_cons_eq_some hrun
      rw [ih hrest, sendsBy, sendsBy, List.countP_cons]
      cases call with
      | send t m =>
          simp only [machine, step] at hstep
          split at hstep
          · simp at hstep
          · rw [← Option.some.inj hstep]
            by_cases hts : t = s
            · subst hts
              simp [pushed]
              omega
            · simp [pushed, hts, Function.update_of_ne (Ne.symm hts)]
      | sendHeartbeat t =>
          obtain ⟨header, _, hsend⟩ := (ch.ends t).sendHeartbeat_eq (ch.wire t.other)
          simp only [machine, step, hsend, Option.some.injEq] at hstep
          rw [← hstep]
          by_cases hts : t = s
          · subst hts
            simp [pushed]
          · simp [pushed, Function.update_of_ne (Ne.symm hts)]
      | recv t =>
          simp only [machine, step] at hstep
          split at hstep
          · simp at hstep
          · rw [← Option.some.inj hstep]
            simp [pulled]

/-- Both directions are in order after every run within the limit. -/
theorem linked_of_run {box : SecretBox} (hbox : box.Lawful) {key : Bytes}
    {calls : List Call} {ch : Channel}
    (hrun : (machine box).run (new key) calls = some ch)
    (hsize : ∀ call ∈ calls, WithinLimit call) : Linked box key ch :=
  (machine box).invariant_of_meets
    (fun _ _ _ hinv hguard hstep => linked_step hbox hinv hguard hstep)
    (linked_new box key) ((machine box).meets_of_forall hsize) hrun

/-- In order, the receiver's counter and the encrypted frames in flight add up to
the sender's counter, as long as the latter has not wrapped. -/
theorem Link.counters {box : SecretBox} (hbox : box.Lawful) {key : Bytes} {ch : Channel}
    {s : Side} {delivered pending : List Item} (L : Link box key ch s delivered pending)
    (hcount : messages (ch.sent s.other) < 2 ^ 64) :
    (ch.ends s).recvSeq.toNat + encryptedInFlight (ch.wire s) =
      (ch.ends s.other).sendSeq.toNat := by
  have hflight : encryptedInFlight (ch.wire s) = messages pending :=
    L.carries.countP_decodeFrames hbox _ (Nat.le_refl _)
  have hsplit : messages (ch.sent s.other) = messages delivered + messages pending := by
    rw [L.sent, messages_append]
  have hsend : (ch.ends s.other).sendSeq =
      UInt64.ofNat (messages delivered + messages pending) := by
    rw [L.carries.seq_eq, L.recvSeq, UInt64.ofNat_add]
  have hsize : UInt64.size = 2 ^ 64 := rfl
  rw [hflight, hsend, L.recvSeq, UInt64.toNat_ofNat_of_lt' (by omega),
    UInt64.toNat_ofNat_of_lt' (by omega)]

/-- The encrypted channel is correct for messages the decoder does not refuse.

For every interleaving of successful calls of both sides, what a side has been
given is, in order, what the other side sent; whenever something is still to come
the next `recv` returns exactly that; and the counters account for every
encrypted frame in flight. -/
theorem channel_delivers_in_order {box : SecretBox} (hbox : box.Lawful) (key : Bytes)
    (calls : List Call) (ch : Channel)
    (hrun : (machine box).run (new key) calls = some ch)
    (hsize : ∀ call ∈ calls, WithinLimit call)
    (hcount : ∀ s, sendsBy s calls < 2 ^ 64) (s : Side) :
    ch.got s =
        ((ch.sent s.other).take (ch.got s).length).map (fun item => .ok item.plaintext) ∧
      (∀ item, (ch.sent s.other)[(ch.got s).length]? = some item →
        ∃ ch', step box ch (.recv s) = some ch' ∧
          ch'.got s = ch.got s ++ [.ok item.plaintext]) ∧
      (ch.ends s).recvSeq.toNat + encryptedInFlight (ch.wire s) =
        (ch.ends s.other).sendSeq.toNat := by
  obtain ⟨delivered, pending, L⟩ := linked_of_run hbox hrun hsize s
  have hlen : (ch.got s).length = delivered.length := by rw [L.got, List.length_map]
  refine ⟨?_, ?_, ?_⟩
  · rw [hlen, L.sent, List.take_left, L.got]
  · intro item hitem
    rw [hlen, L.sent, List.getElem?_append_right (Nat.le_refl _), Nat.sub_self] at hitem
    cases pending with
    | nil => simp at hitem
    | cons next pending =>
        have : next = item := by simpa using hitem
        subst this
        obtain ⟨rest, hnext, _⟩ := step_recv_of_pending_cons hbox L
        exact ⟨_, hnext, by simp [pulled]⟩
  · refine L.counters hbox ?_
    rw [messages_sent_of_run box s.other hrun]
    simpa [new] using hcount s.other

/-- A run with a message, a heartbeat and an empty message in flight, read by the
other side. -/
def sampleCalls : List Call :=
  [.send .client [1, 2], .sendHeartbeat .client, .send .client [], .recv .peer,
    .send .peer [3], .recv .peer, .recv .peer, .recv .client]

/-- The sample run is a run within the limit, and delivers in order. -/
theorem channel_delivers_in_order_sample :
    ∃ ch, (machine tagBox).run (new [7]) sampleCalls = some ch ∧
      ch.got .peer =
        ((ch.sent .client).take (ch.got .peer).length).map (fun item => .ok item.plaintext) := by
  have hsome : ((machine tagBox).run (new [7]) sampleCalls).isSome = true := by decide +kernel
  exact ⟨_, (Option.some_get hsome).symm,
    (channel_delivers_in_order tagBox_lawful [7] sampleCalls _ (Option.some_get hsome).symm
      (by decide) (by intro s; cases s <;> decide) .peer).1⟩

/-- A successful send of a plaintext that leaves no room for the tag is refused by
any receiver with the size-limit error. -/
theorem recv_refuses_long {box : SecretBox} (hbox : box.Lawful)
    {st st' : EncryptedStream} {m bytes : Bytes} (hlong : recvLimit < m.length + 16)
    (h : st.send box m [] = (.ok (), st', bytes)) (receiver : EncryptedStream) :
    ∃ rest, receiver.recv box bytes =
      (.error (.transport (.bail (FramedTransport.limitText (m.length + 16)))), receiver, rest) := by
  obtain ⟨c, header, hseal, hheader, _, rfl⟩ := EncryptedStream.send_ok h
  have hlen := hbox.length hseal
  refine ⟨c, ?_⟩
  have hrefuse := recvWith_header hheader FramedTransport.limitText c
  rw [if_pos (by omega), hlen] at hrefuse
  simp only [List.nil_append, EncryptedStream.recv, FramedTransport.recv, hrefuse]

/-- The encoder still takes a plaintext as long as the decoder's limit. -/
theorem send_at_limit {m : Bytes} (hm : m.length = recvLimit) :
    ∃ st bytes, (EncryptedStream.new []).send tagBox m [] = (.ok (), st, bytes) := by
  have hle : recvLimit + 16 ≤ maxPayload := by decide
  rcases sendWith_eq FramedTransport.tooLargeText
      (tagOf [] (EncryptedStream.makeNonce 1) ++ m) [] with ⟨_, header, _, heq⟩ | ⟨hlt, _⟩
  · refine ⟨⟨[], 1, 0⟩, header ++ (tagOf [] (EncryptedStream.makeNonce 1) ++ m), ?_⟩
    simp only [EncryptedStream.send, EncryptedStream.new, tagBox, zero_add, FramedTransport.send,
      heq, List.nil_append]
  · rw [List.length_append, length_tagOf, hm] at hlt
    omega

/-- A plaintext as long as the decoder's limit is sent, and then refused. -/
theorem run_at_limit {m : Bytes} (hm : m.length = recvLimit) :
    ∃ ch, (machine tagBox).run (new []) [.send .client m, .recv .peer] = some ch ∧
      ch.sent .client = [.message m] ∧
      ch.got .peer =
        [.error (.transport (.bail (FramedTransport.limitText (recvLimit + 16))))] := by
  have hlong : recvLimit < m.length + 16 := by omega
  obtain ⟨st, bytes, hsend⟩ := send_at_limit hm
  obtain ⟨rest, hrecv⟩ := recv_refuses_long tagBox_lawful hlong hsend
    (EncryptedStream.new [])
  rw [hm] at hrecv
  let sent := (new []).pushed .client st bytes (.message m)
  let refused := sent.pulled .peer (.new []) rest
    (.error (.transport (.bail (FramedTransport.limitText (recvLimit + 16)))))
  have hfirst : (machine tagBox).step (new []) (.send .client m) = some sent := by
    simp only [machine, step, new, hsend, sent]
  have hends : sent.ends .peer = .new [] := rfl
  have hwire : sent.wire .peer = bytes := rfl
  have hsecond : (machine tagBox).step sent (.recv .peer) = some refused := by
    simp only [machine, step, hends, hwire, hrecv, refused]
  refine ⟨refused, ?_, rfl, rfl⟩
  rw [(machine tagBox).run_cons_of_step hfirst, (machine tagBox).run_cons_of_step hsecond,
    Machine.run_nil]

/-- 64 MiB of zeros are sent by a run of two calls under a lawful cipher, and are
not delivered: the receiver's `recv` ends with the size-limit error. -/
theorem long_message_sent_and_refused :
    tagBox.Lawful ∧
      ∃ ch, (machine tagBox).run (new [])
          [.send .client (List.replicate recvLimit 0), .recv .peer] = some ch ∧
        ch.sent .client = [.message (List.replicate recvLimit 0)] ∧
        ch.got .peer =
          [.error (.transport (.bail (FramedTransport.limitText (recvLimit + 16))))] :=
  ⟨tagBox_lawful, run_at_limit List.length_replicate⟩

end Channel

end RustdeskCli.Crypto
