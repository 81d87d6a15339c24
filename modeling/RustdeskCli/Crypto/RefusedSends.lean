import RustdeskCli.Crypto.Channel
set_option autoImplicit false

/-!
# Crypto: sends the framing layer refuses

`EncryptedStream::send` moves its counter before the cipher and the transport are
tried, and `recv` moves its own only after the transport has delivered a frame.  A
send that fails before a byte is written therefore leaves the sender one number
ahead of a peer that never saw a frame.

`Channel.attempt` takes the runs of `Channel.step` and lets a side go on after a
refused send.  One direction of the channel is looked at alone: it is aligned up
to the number of refused sends, until a message that the peer cannot read is
written; from then on it stays doomed.
-/

namespace RustdeskCli.Crypto

open RustdeskCli.Foundation
open RustdeskCli.Transport

/-- The cipher encrypts every plaintext. -/
def SecretBox.Seals (box : SecretBox) : Prop :=
  ∀ key nonce plaintext, ∃ ciphertext, box.encrypt key nonce plaintext = some ciphertext

/-- The tag binds the sequence number: a ciphertext made under one number is rejected
under every other. -/
def SecretBox.Binds (box : SecretBox) (key : Bytes) : Prop :=
  ∀ {seq seq' : UInt64} {plaintext ciphertext : Bytes}, seq ≠ seq' →
    box.encrypt key (EncryptedStream.makeNonce seq) plaintext = some ciphertext →
      box.decrypt key (EncryptedStream.makeNonce seq') ciphertext = none

/-- A framing layer that refuses a frame has written nothing, and the counter has
moved all the same. -/
theorem EncryptedStream.send_refused {box : SecretBox} (hbox : box.Lawful)
    (hseals : box.Seals) (st : EncryptedStream) {m : Bytes}
    (hlong : maxPayload < m.length + 16) (written : Bytes) :
    st.send box m written =
      (.error (.transport (.bail (FramedTransport.tooLargeText (m.length + 16)))),
        { st with sendSeq := st.sendSeq + 1 }, written) := by
  obtain ⟨c, hseal⟩ := hseals st.sessionKey (makeNonce (st.sendSeq + 1)) m
  have hlen := hbox.length hseal
  rcases sendWith_eq FramedTransport.tooLargeText c written with ⟨hle, _⟩ | ⟨_, hrefuse⟩
  · omega
  · rw [hlen] at hrefuse
    simp only [send, hseal, FramedTransport.send, hrefuse]

/-- A send the framing layer does not refuse is successful. -/
theorem EncryptedStream.send_accepted {box : SecretBox} (hbox : box.Lawful)
    (hseals : box.Seals) (st : EncryptedStream) {m : Bytes}
    (hfits : m.length + 16 ≤ maxPayload) (written : Bytes) :
    ∃ c header, box.encrypt st.sessionKey (makeNonce (st.sendSeq + 1)) m = some c ∧
      IsHeader header c.length ∧
      st.send box m written =
        (.ok (), { st with sendSeq := st.sendSeq + 1 }, written ++ (header ++ c)) := by
  obtain ⟨c, hseal⟩ := hseals st.sessionKey (makeNonce (st.sendSeq + 1)) m
  have hlen := hbox.length hseal
  rcases sendWith_eq FramedTransport.tooLargeText c written with
    ⟨_, header, hheader, haccept⟩ | ⟨hlt, _⟩
  · refine ⟨c, header, hseal, hheader, ?_⟩
    simp only [send, hseal, FramedTransport.send, haccept]
  · omega

/-- `recv` keeps the key and the send counter. -/
theorem EncryptedStream.recv_keeps {box : SecretBox} {st st' : EncryptedStream}
    {stream rest : Bytes} {result : Except StreamError Bytes}
    (h : st.recv box stream = (result, st', rest)) :
    st'.sessionKey = st.sessionKey ∧ st'.sendSeq = st.sendSeq := by
  have hopen : ∀ c, (st.openFrame box c).2.sessionKey = st.sessionKey ∧
      (st.openFrame box c).2.sendSeq = st.sendSeq := by
    intro c
    unfold openFrame
    split
    · exact ⟨rfl, rfl⟩
    · simp only
      split <;> exact ⟨rfl, rfl⟩
  unfold recv at h
  split at h
  · simp only [Prod.mk.injEq] at h
    rw [← h.2.1]
    exact ⟨rfl, rfl⟩
  · rename_i c _ _
    simp only [Prod.mk.injEq] at h
    rw [← h.2.1]
    exact hopen c

/-- The number of sends of side `s` that the framing layer refuses. -/
def refusedBy (s : Side) (calls : List Call) : Nat :=
  calls.countP fun
    | .send t m => t = s ∧ maxPayload < m.length + 16
    | _ => false

@[simp] theorem refusedBy_nil (s : Side) : refusedBy s [] = 0 := rfl

theorem refusedBy_cons (s : Side) (call : Call) (calls : List Call) :
    refusedBy s (call :: calls) = refusedBy s [call] + refusedBy s calls := by
  simp [refusedBy, List.countP_cons, Nat.add_comm]

theorem refusedBy_of_fits (s : Side) {m : Bytes} (hfits : m.length + 16 ≤ maxPayload) :
    refusedBy s [.send s m] = 0 := by
  simp [refusedBy, hfits]

theorem refusedBy_of_long (s : Side) {m : Bytes} (hlong : maxPayload < m.length + 16) :
    refusedBy s [.send s m] = 1 := by
  simp [refusedBy, hlong]

theorem refusedBy_of_other {s : Side} {call : Call} (hother : ∀ m, call ≠ .send s m) :
    refusedBy s [call] = 0 := by
  cases call with
  | send t m =>
      have hne : t ≠ s := fun ht => hother m (by rw [ht])
      simp [refusedBy, hne]
  | sendHeartbeat t => simp [refusedBy]
  | recv t => simp [refusedBy]

namespace Channel

/-- Record one failed send of side `s`: nothing was sent, but the sender's stream is
not what it was. -/
def failed (ch : Channel) (s : Side) (st : EncryptedStream) (wire : Bytes) : Channel :=
  { ch with
    ends := Function.update ch.ends s st
    wire := Function.update ch.wire s.other wire }

/-- One call, where a side goes on with its stream after a failed send. -/
def attempt (box : SecretBox) (ch : Channel) : Call → Option Channel
  | .send s m =>
      match (ch.ends s).send box m (ch.wire s.other) with
      | (.error _, st, wire) => some (ch.failed s st wire)
      | (.ok (), st, wire) => some (ch.pushed s st wire (.message m))
  | .sendHeartbeat s => step box ch (.sendHeartbeat s)
  | .recv s => step box ch (.recv s)

/-- The machine of all interleavings of both sides' calls, failed sends included. -/
def attempts (box : SecretBox) : Machine Channel Call := ⟨attempt box⟩

/-- From here side `s` can be given everything the other side has sent: after some
number of `recv` calls it has been given exactly that, in order. -/
def Delivered (box : SecretBox) (ch : Channel) (s : Side) : Prop :=
  ∃ n final, (attempts box).run ch (List.replicate n (.recv s)) = some final ∧
    final.got s = (ch.sent s.other).map fun item => .ok item.plaintext

end Channel

/-! ## One direction -/

/-- What the traffic towards one side is made of. -/
structure Direction where
  sendSeq : UInt64
  recvSeq : UInt64
  wire : Bytes
  sent : List Item
  got : List (Except StreamError Bytes)

namespace Direction

/-- What a call can do to the direction towards side `s`. -/
inductive Moves (box : SecretBox) (key : Bytes) (s : Side) (d : Direction) :
    Call → Direction → Prop
  /-- a message of the other side is written -/
  | accepted {m c header : Bytes} (fits : m.length + 16 ≤ maxPayload)
      (sealed : box.encrypt key (EncryptedStream.makeNonce (d.sendSeq + 1)) m = some c)
      (announces : IsHeader header c.length) :
      Moves box key s d (.send s.other m)
        { d with
          sendSeq := d.sendSeq + 1
          wire := d.wire ++ (header ++ c)
          sent := d.sent ++ [.message m] }
  /-- a message of the other side is refused, and its counter moves -/
  | refused {m : Bytes} (long : maxPayload < m.length + 16) :
      Moves box key s d (.send s.other m) { d with sendSeq := d.sendSeq + 1 }
  | heartbeat {header : Bytes} (announces : IsHeader header 0) :
      Moves box key s d (.sendHeartbeat s.other)
        { d with wire := d.wire ++ header, sent := d.sent ++ [.heartbeat] }
  /-- a `recv` of side `s` returns -/
  | received {st st' : EncryptedStream} {result : Except StreamError Bytes} {rest : Bytes}
      (sessionKey : st.sessionKey = key) (recvSeq : st.recvSeq = d.recvSeq)
      (recv : st.recv box d.wire = (result, st', rest))
      (returned : result ≠ .error (.transport .unexpectedEof)) :
      Moves box key s d (.recv s)
        { d with recvSeq := st'.recvSeq, wire := rest, got := d.got ++ [result] }
  /-- a call of the other direction -/
  | elsewhere {call : Call} (other : ∀ m, call ≠ .send s.other m) : Moves box key s d call d

end Direction

namespace Channel

/-- The direction towards side `s`. -/
def towards (ch : Channel) (s : Side) : Direction :=
  ⟨(ch.ends s.other).sendSeq, (ch.ends s).recvSeq, ch.wire s, ch.sent s.other, ch.got s⟩

/-- Both ends hold the session key. -/
def Keyed (key : Bytes) (ch : Channel) : Prop := ∀ s, (ch.ends s).sessionKey = key

theorem keyed_update {key : Bytes} {ch : Channel} (h : Keyed key ch) (s : Side)
    {st : EncryptedStream} (hst : st.sessionKey = key) (t : Side) :
    (Function.update ch.ends s st t).sessionKey = key := by
  by_cases hts : t = s
  · rw [hts, Function.update_self]
    exact hst
  · rw [Function.update_of_ne hts]
    exact h t

variable {box : SecretBox} {key : Bytes} {ch ch' : Channel}

/-! What a record of a call changes in a direction. -/

theorem towards_pushed_self (ch : Channel) (s : Side) (seq : UInt64) (wire : Bytes)
    (item : Item) :
    (ch.pushed s { ch.ends s with sendSeq := seq } wire item).towards s = ch.towards s := by
  simp [towards, pushed]

theorem towards_pushed_other (ch : Channel) (s : Side) (st : EncryptedStream) (wire : Bytes)
    (item : Item) :
    (ch.pushed s.other st wire item).towards s =
      { ch.towards s with
        sendSeq := st.sendSeq
        wire := wire
        sent := (ch.towards s).sent ++ [item] } := by
  simp [towards, pushed]

theorem towards_failed_self (ch : Channel) (s : Side) (seq : UInt64) :
    (ch.failed s { ch.ends s with sendSeq := seq } (ch.wire s.other)).towards s =
      ch.towards s := by
  simp [towards, failed]

theorem towards_failed_other (ch : Channel) (s : Side) (st : EncryptedStream) (wire : Bytes) :
    (ch.failed s.other st wire).towards s =
      { ch.towards s with sendSeq := st.sendSeq, wire := wire } := by
  simp [towards, failed]

theorem towards_pulled_self (ch : Channel) (s : Side) (st : EncryptedStream) (rest : Bytes)
    (result : Except StreamError Bytes) :
    (ch.pulled s st rest result).towards s =
      { ch.towards s with
        recvSeq := st.recvSeq
        wire := rest
        got := (ch.towards s).got ++ [result] } := by
  simp [towards, pulled]

theorem towards_pulled_other (ch : Channel) (s : Side) {st : EncryptedStream} (rest : Bytes)
    (result : Except StreamError Bytes) (hsend : st.sendSeq = (ch.ends s.other).sendSeq) :
    (ch.pulled s.other st rest result).towards s = ch.towards s := by
  simp [towards, pulled, hsend]

theorem attempt_send (hbox : box.Lawful) (hseals : box.Seals) (hkey : Keyed key ch)
    (s t : Side) {m : Bytes} (hstep : attempt box ch (.send t m) = some ch') :
    Direction.Moves box key s (ch.towards s) (.send t m) (ch'.towards s) ∧ Keyed key ch' := by
  rcases Nat.lt_or_ge maxPayload (m.length + 16) with hlong | hfits
  · rw [attempt, EncryptedStream.send_refused hbox hseals _ hlong, Option.some.injEq] at hstep
    subst hstep
    refine ⟨?_, keyed_update hkey t (hkey t)⟩
    rcases Side.eq_or_eq_other s t with rfl | rfl
    · rw [towards_failed_self]
      exact .elsewhere (by simp)
    · rw [towards_failed_other, Side.other_other]
      exact .refused hlong
  · obtain ⟨c, header, hseal, hheader, hsend⟩ :=
      (ch.ends t).send_accepted hbox hseals hfits (ch.wire t.other)
    rw [attempt, hsend, Option.some.injEq] at hstep
    subst hstep
    refine ⟨?_, keyed_update hkey t (hkey t)⟩
    rw [hkey t] at hseal
    rcases Side.eq_or_eq_other s t with rfl | rfl
    · rw [towards_pushed_self]
      exact .elsewhere (by simp)
    · rw [towards_pushed_other, Side.other_other]
      exact .accepted hfits hseal hheader

theorem attempt_sendHeartbeat (hkey : Keyed key ch) (s t : Side)
    (hstep : attempt box ch (.sendHeartbeat t) = some ch') :
    Direction.Moves box key s (ch.towards s) (.sendHeartbeat t) (ch'.towards s) ∧
      Keyed key ch' := by
  obtain ⟨header, hheader, hsend⟩ := (ch.ends t).sendHeartbeat_eq (ch.wire t.other)
  simp only [attempt, step, hsend, Option.some.injEq] at hstep
  subst hstep
  refine ⟨?_, keyed_update hkey t (hkey t)⟩
  rcases Side.eq_or_eq_other s t with rfl | rfl
  · rw [towards_pushed_self]
    exact .elsewhere (by simp)
  · rw [towards_pushed_other, Side.other_other]
    exact .heartbeat hheader

/-- A `recv` that returned, as a step. -/
theorem attempt_recv_eq {s : Side} {st : EncryptedStream} {rest : Bytes}
    {result : Except StreamError Bytes}
    (hrecv : (ch.ends s).recv box (ch.wire s) = (result, st, rest))
    (hreturned : result ≠ .error (.transport .unexpectedEof)) :
    attempt box ch (.recv s) = some (ch.pulled s st rest result) := by
  simp only [attempt, step, hrecv]

theorem attempt_recv (hkey : Keyed key ch) (s t : Side)
    (hstep : attempt box ch (.recv t) = some ch') :
    Direction.Moves box key s (ch.towards s) (.recv t) (ch'.towards s) ∧ Keyed key ch' := by
  obtain ⟨result, st, rest, hrecv⟩ :
      ∃ result st rest, (ch.ends t).recv box (ch.wire t) = (result, st, rest) := ⟨_, _, _, rfl⟩
  by_cases heof : result = .error (.transport .unexpectedEof)
  · simp [attempt, step, hrecv, heof] at hstep
  · rw [attempt_recv_eq hrecv heof, Option.some.injEq] at hstep
    subst hstep
    obtain ⟨hst, hsend⟩ := EncryptedStream.recv_keeps hrecv
    refine ⟨?_, keyed_update hkey t (hst.trans (hkey t))⟩
    rcases Side.eq_or_eq_other s t with rfl | rfl
    · rw [towards_pulled_self]
      exact .received (hkey t) rfl hrecv heof
    · rw [towards_pulled_other ch s rest result hsend]
      exact .elsewhere (by simp)

/-- What a call does to the direction towards side `s`. -/
theorem attempt_moves (hbox : box.Lawful) (hseals : box.Seals) (hkey : Keyed key ch)
    (s : Side) {call : Call} (hstep : attempt box ch call = some ch') :
    Direction.Moves box key s (ch.towards s) call (ch'.towards s) ∧ Keyed key ch' := by
  cases call with
  | send t m => exact attempt_send hbox hseals hkey s t hstep
  | sendHeartbeat t => exact attempt_sendHeartbeat hkey s t hstep
  | recv t => exact attempt_recv hkey s t hstep

end Channel

namespace Direction

variable {box : SecretBox} {key : Bytes} {s : Side} {d d' : Direction} {call : Call}

/-- In order but for the refused sends: what was given are the items `delivered`, the
wire carries the items `pending`, and the sender's counter is `refused` numbers past
the last of them. -/
structure Aligned (box : SecretBox) (key : Bytes) (refused : Nat)
    (delivered pending : List Item) (d : Direction) : Prop where
  sent : d.sent = delivered ++ pending
  got : d.got = delivered.map fun item => .ok item.plaintext
  carries : ∃ last, Carries box key d.recvSeq pending d.wire last ∧
    d.sendSeq = last + UInt64.ofNat refused

/-- A receiver that has counted to `seq` gets an error at the bytes `frame`, whatever
follows them. -/
def Unreadable (box : SecretBox) (key : Bytes) (seq : UInt64) (frame : Bytes) : Prop :=
  ∀ st : EncryptedStream, st.sessionKey = key → st.recvSeq = seq → ∀ rest,
    ∃ e, (st.recv box (frame ++ rest)).1 = .error e ∧ e ≠ .transport .unexpectedEof

/-- The traffic was in order up to an item whose bytes the receiver cannot read. -/
structure Blocked (box : SecretBox) (key : Bytes) (delivered pending : List Item)
    (d : Direction) : Prop where
  sent : ∃ item more, d.sent = delivered ++ pending ++ item :: more
  got : d.got = delivered.map fun item => .ok item.plaintext
  carries : ∃ bytes last frame rest, d.wire = bytes ++ (frame ++ rest) ∧
    Carries box key d.recvSeq pending bytes last ∧ Unreadable box key last frame

/-- Some `recv` has returned an error, or a later one is going to. -/
def Doomed (box : SecretBox) (key : Bytes) (d : Direction) : Prop :=
  (∃ e, .error e ∈ d.got) ∨ ∃ delivered pending, Blocked box key delivered pending d

/-! ### Frames the receiver cannot read -/

/-- A frame past the receiver's limit. -/
theorem unreadable_of_long {header c : Bytes} (hheader : IsHeader header c.length)
    (hlong : recvLimit < c.length) (seq : UInt64) :
    Unreadable box key seq (header ++ c) := by
  intro st _ _ rest
  have hrefuse := recvWith_header hheader FramedTransport.limitText (c ++ rest)
  rw [if_pos hlong] at hrefuse
  refine ⟨.transport (.bail (FramedTransport.limitText c.length)), ?_, by simp⟩
  rw [List.append_assoc, EncryptedStream.recv, FramedTransport.recv, hrefuse]

/-- A frame sealed under a number that is not the next one. -/
theorem unreadable_of_ne (hbox : box.Lawful) (hbinds : box.Binds key) {seq seq' : UInt64}
    {m c header : Bytes}
    (hseal : box.encrypt key (EncryptedStream.makeNonce (seq' + 1)) m = some c)
    (hheader : IsHeader header c.length) (hlimit : c.length ≤ recvLimit) (hne : seq' ≠ seq) :
    Unreadable box key seq (header ++ c) := by
  intro st hkey hseq rest
  have F : IsFrame (header ++ c) c := ⟨⟨header, rfl, hheader⟩, hlimit⟩
  have hreject : box.decrypt key (EncryptedStream.makeNonce (seq + 1)) c = none :=
    hbinds (fun h => hne (add_right_cancel h)) hseal
  refine ⟨.cipher "Decryption failed: invalid ciphertext or wrong key", ?_, by simp⟩
  rw [st.recv_frame box F]
  simp [EncryptedStream.openFrame, hbox.isEmpty_eq_false hseal, hkey, hseq, hreject]

/-! ### What one call keeps -/

/-- The condition on a call made after `refused` refused sends: a message that is
written fits the receiver's limit, and the counter has come round to where the peer's
is. -/
def Heard (s : Side) (refused : Nat) : Call → Prop
  | .send t m => t = s.other → m.length + 16 ≤ maxPayload →
      m.length + 16 ≤ recvLimit ∧ 2 ^ 64 ∣ refused
  | _ => True

theorem ofNat_eq_zero_iff (n : Nat) : UInt64.ofNat n = 0 ↔ 2 ^ 64 ∣ n := by
  rw [← UInt64.toNat_inj, UInt64.toNat_ofNat']
  exact (Nat.dvd_iff_mod_eq_zero).symm

/-- A `recv` is given the next pending item. -/
theorem Aligned.received (hbox : box.Lawful) {refused : Nat} {delivered pending : List Item}
    {item : Item} (h : Aligned box key refused delivered (item :: pending) d)
    {st : EncryptedStream} (hkey : st.sessionKey = key) (hseq : st.recvSeq = d.recvSeq) :
    ∃ st' rest, st.recv box d.wire = (.ok item.plaintext, st', rest) ∧
      Aligned box key refused (delivered ++ [item]) pending
        { d with
          recvSeq := st'.recvSeq
          wire := rest
          got := d.got ++ [.ok item.plaintext] } := by
  obtain ⟨last, hcarries, hsend⟩ := h.carries
  rw [← hkey, ← hseq] at hcarries
  obtain ⟨rest, hrecv, hrest⟩ := hcarries.recv hbox
  rw [hkey] at hrest
  refine ⟨_, rest, hrecv, ?_, ?_, last, hrest, hsend⟩
  · simp [h.sent]
  · simp [h.got]

/-- A message is written behind the pending items when the counter is where the peer's
will be. -/
theorem Aligned.accepted (hbox : box.Lawful) {refused : Nat} {delivered pending : List Item}
    (h : Aligned box key refused delivered pending d) (hround : 2 ^ 64 ∣ refused)
    {m c header : Bytes} (hlimit : m.length + 16 ≤ recvLimit)
    (hseal : box.encrypt key (EncryptedStream.makeNonce (d.sendSeq + 1)) m = some c)
    (hheader : IsHeader header c.length) :
    Aligned box key refused delivered (pending ++ [.message m])
      { d with
        sendSeq := d.sendSeq + 1
        wire := d.wire ++ (header ++ c)
        sent := d.sent ++ [.message m] } := by
  obtain ⟨last, hcarries, hseq⟩ := h.carries
  have hzero : UInt64.ofNat refused = 0 := (ofNat_eq_zero_iff refused).mpr hround
  have hlast : d.sendSeq = last := by rw [hseq, hzero, add_zero]
  have hlen := hbox.length hseal
  have F : IsFrame (header ++ c) c := ⟨⟨header, rfl, hheader⟩, by omega⟩
  rw [hlast] at hseal
  have hone : Carries box key last [.message m] (header ++ c) (last + 1) := by
    simpa using Carries.message hseal F (.nil (last + 1))
  refine ⟨by simp [h.sent], h.got, last + 1, hcarries.append hone, ?_⟩
  rw [hlast, hzero, add_zero]

/-- Before its next item comes, a `recv` has not returned. -/
theorem Aligned.not_received {refused : Nat} {delivered : List Item}
    (h : Aligned box key refused delivered [] d) {st st' : EncryptedStream} {rest : Bytes}
    {result : Except StreamError Bytes} (hrecv : st.recv box d.wire = (result, st', rest)) :
    result = .error (.transport .unexpectedEof) := by
  obtain ⟨last, hcarries, -⟩ := h.carries
  have hwire : d.wire = [] := by
    cases hw : d.wire with
    | nil => rfl
    | cons b bs =>
        rw [hw] at hcarries
        cases hcarries
  have hnothing : st.recv box [] = (.error (.transport .unexpectedEof), st, []) := rfl
  rw [hwire, hnothing, Prod.mk.injEq] at hrecv
  exact hrecv.1.symm

/-- Heard calls keep the direction in order but for the refused sends. -/
theorem Aligned.moves (hbox : box.Lawful) {refused : Nat} {delivered pending : List Item}
    (h : Aligned box key refused delivered pending d) (hmoves : Moves box key s d call d')
    (hheard : Heard s refused call) :
    ∃ delivered' pending',
      Aligned box key (refused + refusedBy s.other [call]) delivered' pending' d' := by
  cases hmoves with
  | accepted fits sealed announces =>
      obtain ⟨hlimit, hround⟩ := hheard rfl fits
      rw [refusedBy_of_fits s.other fits, add_zero]
      exact ⟨delivered, _, h.accepted hbox hround hlimit sealed announces⟩
  | refused long =>
      obtain ⟨last, hcarries, hseq⟩ := h.carries
      refine ⟨delivered, pending, h.sent, h.got, last, hcarries, ?_⟩
      simp only [refusedBy_of_long s.other long, UInt64.ofNat_add, hseq, add_assoc]
      rfl
  | heartbeat announces =>
      obtain ⟨last, hcarries, hseq⟩ := h.carries
      rw [refusedBy_of_other (by simp), add_zero]
      exact ⟨delivered, pending ++ [.heartbeat], by simp [h.sent], h.got, last,
        hcarries.append (Channel.carries_heartbeat box key last announces), hseq⟩
  | received sessionKey recvSeq recv returned =>
      rw [refusedBy_of_other (by simp), add_zero]
      cases pending with
      | nil => exact absurd (h.not_received recv) returned
      | cons item pending =>
          obtain ⟨st'', rest', hrecv, hnext⟩ := h.received hbox sessionKey recvSeq
          rw [hrecv, Prod.mk.injEq, Prod.mk.injEq] at recv
          obtain ⟨rfl, rfl, rfl⟩ := recv
          exact ⟨delivered ++ [item], pending, hnext⟩
  | elsewhere other =>
      rw [refusedBy_of_other other, add_zero]
      exact ⟨delivered, pending, h⟩

/-- A call that is not heard is a message the receiver cannot read. -/
theorem Aligned.blocked (hbox : box.Lawful) (hbinds : box.Binds key) {refused : Nat}
    {delivered pending : List Item} (h : Aligned box key refused delivered pending d)
    (hmoves : Moves box key s d call d') (hheard : ¬ Heard s refused call) :
    Blocked box key delivered pending d' := by
  obtain ⟨last, hcarries, hseq⟩ := h.carries
  cases hmoves with
  | @accepted m c header fits sealed announces =>
      have hlen := hbox.length sealed
      have hunreadable : Unreadable box key last (header ++ c) := by
        by_cases hlimit : m.length + 16 ≤ recvLimit
        · refine unreadable_of_ne hbox hbinds sealed announces (by omega) ?_
          intro hlast
          have hzero : UInt64.ofNat refused = 0 := by
            rw [hseq] at hlast
            simpa using hlast
          exact hheard fun _ _ => ⟨hlimit, (ofNat_eq_zero_iff refused).mp hzero⟩
        · exact unreadable_of_long announces (by omega) last
      refine ⟨⟨.message m, [], by simp [h.sent]⟩, h.got, d.wire, last, header ++ c, [], ?_,
        hcarries, hunreadable⟩
      simp
  | @refused m long => exact absurd (fun _ fits => absurd fits (by omega)) hheard
  | heartbeat _ => exact absurd trivial hheard
  | received _ _ _ _ => exact absurd trivial hheard
  | elsewhere other =>
      cases call with
      | send t m => exact absurd (fun ht _ => absurd (by rw [ht]) (other m)) hheard
      | sendHeartbeat t => exact absurd trivial hheard
      | recv t => exact absurd trivial hheard

/-- A `recv` in front of an unreadable item: it gives the next item before it, or fails. -/
theorem Blocked.received (hbox : box.Lawful) {delivered pending : List Item}
    (h : Blocked box key delivered pending d) {st st' : EncryptedStream}
    {result : Except StreamError Bytes} {rest : Bytes} (hkey : st.sessionKey = key)
    (hseq : st.recvSeq = d.recvSeq) (hrecv : st.recv box d.wire = (result, st', rest)) :
    Doomed box key { d with recvSeq := st'.recvSeq, wire := rest, got := d.got ++ [result] } := by
  obtain ⟨item, more, hsent⟩ := h.sent
  obtain ⟨bytes, last, frame, tail, hwire, hcarries, hunreadable⟩ := h.carries
  cases pending with
  | nil =>
      have hlast : last = d.recvSeq ∧ bytes = [] := by
        cases hcarries
        exact ⟨rfl, rfl⟩
      obtain ⟨e, herror, _⟩ := hunreadable st hkey (hseq.trans hlast.1.symm) tail
      rw [hwire, hlast.2, List.nil_append] at hrecv
      rw [hrecv] at herror
      simp only at herror
      exact .inl ⟨e, by simp [herror]⟩
  | cons first pending =>
      rw [← hkey, ← hseq] at hcarries
      obtain ⟨rest', hgives, hrest⟩ := hcarries.recv_append hbox (frame ++ tail)
      rw [hwire, hgives, Prod.mk.injEq, Prod.mk.injEq] at hrecv
      obtain ⟨rfl, rfl, rfl⟩ := hrecv
      rw [hkey] at hrest
      refine .inr ⟨delivered ++ [first], pending, ⟨item, more, ?_⟩, ?_, rest', last, frame, tail,
        rfl, hrest, hunreadable⟩
      · simp [hsent]
      · simp [h.got]

/-- A doomed direction stays doomed. -/
theorem Doomed.moves (hbox : box.Lawful) (h : Doomed box key d)
    (hmoves : Moves box key s d call d') : Doomed box key d' := by
  rcases h with ⟨e, herror⟩ | ⟨delivered, pending, B⟩
  · refine .inl ⟨e, ?_⟩
    cases hmoves with
    | accepted _ _ _ => exact herror
    | refused _ => exact herror
    | heartbeat _ => exact herror
    | received _ _ _ _ => exact List.mem_append_left _ herror
    | elsewhere _ => exact herror
  · obtain ⟨item, more, hsent⟩ := B.sent
    obtain ⟨bytes, last, frame, rest, hwire, hcarries, hunreadable⟩ := B.carries
    cases hmoves with
    | @accepted m c header _ _ _ =>
        refine .inr ⟨delivered, pending, ⟨item, more ++ [.message m], by simp [hsent]⟩, B.got,
          bytes, last, frame, rest ++ (header ++ c), by simp [hwire], hcarries, hunreadable⟩
    | refused _ => exact .inr ⟨delivered, pending, B.sent, B.got, B.carries⟩
    | @heartbeat header _ =>
        refine .inr ⟨delivered, pending, ⟨item, more ++ [.heartbeat], by simp [hsent]⟩, B.got,
          bytes, last, frame, rest ++ header, by simp [hwire], hcarries, hunreadable⟩
    | received sessionKey recvSeq recv _ => exact B.received hbox sessionKey recvSeq recv
    | elsewhere _ => exact .inr ⟨delivered, pending, B⟩

/-- In a doomed direction not everything sent has been given. -/
theorem Doomed.got_ne (h : Doomed box key d) :
    d.got ≠ d.sent.map fun item => .ok item.plaintext := by
  intro hgot
  rcases h with ⟨e, herror⟩ | ⟨delivered, pending, B⟩
  · rw [hgot] at herror
    simp at herror
  · obtain ⟨item, more, hsent⟩ := B.sent
    have hlen := congrArg List.length (B.got.symm.trans hgot)
    simp [hsent] at hlen

end Direction

/-! ## Runs -/

namespace Channel

open Direction

/-- Every call of the run is heard, `refused` sends having been refused before it. -/
def InStep (s : Side) : Nat → List Call → Prop
  | _, [] => True
  | refused, call :: calls =>
      Heard s refused call ∧ InStep s (refused + refusedBy s.other [call]) calls

/-- The run is in step when it writes no message that is too long for the receiver, or
that comes after refused sends. -/
theorem inStep_iff (s : Side) (calls : List Call) : ∀ refused, InStep s refused calls ↔
    ∀ before m after, calls = before ++ .send s.other m :: after →
      m.length + 16 ≤ maxPayload →
      m.length + 16 ≤ recvLimit ∧ 2 ^ 64 ∣ refused + refusedBy s.other before := by
  induction calls with
  | nil => intro refused; simp [InStep]
  | cons call calls ih =>
      intro refused
      rw [InStep, ih]
      constructor
      · rintro ⟨hhead, htail⟩ before m after hsplit hfits
        cases before with
        | nil =>
            obtain ⟨rfl, rfl⟩ := List.cons.inj hsplit
            exact hhead rfl hfits
        | cons first before =>
            obtain ⟨rfl, hrest⟩ := List.cons.inj hsplit
            rw [refusedBy_cons, ← Nat.add_assoc]
            exact htail before m after hrest hfits
      · intro hall
        refine ⟨?_, ?_⟩
        · cases call with
          | send t m =>
              rintro rfl hfits
              simpa using hall [] m calls rfl hfits
          | sendHeartbeat t => trivial
          | recv t => trivial
        · intro before m after hsplit hfits
          rw [Nat.add_assoc, ← refusedBy_cons]
          exact hall (call :: before) m after (by rw [hsplit]; rfl) hfits

variable {box : SecretBox} {key : Bytes} {s : Side}

/-- A run in step keeps the direction in order. -/
theorem aligned_of_run (hbox : box.Lawful) (hseals : box.Seals) :
    ∀ {calls : List Call} {ch final : Channel} {refused : Nat}
      {delivered pending : List Item}, Keyed key ch →
      Aligned box key refused delivered pending (ch.towards s) → InStep s refused calls →
      (attempts box).run ch calls = some final →
      Keyed key final ∧ ∃ refused' delivered' pending',
        Aligned box key refused' delivered' pending' (final.towards s) := by
  intro calls
  induction calls with
  | nil =>
      intro ch final refused delivered pending hkey haligned _ hrun
      rw [Machine.run_nil, Option.some.injEq] at hrun
      subst hrun
      exact ⟨hkey, refused, delivered, pending, haligned⟩
  | cons call calls ih =>
      intro ch final refused delivered pending hkey haligned hstep hrun
      obtain ⟨ch', hattempt, hrest⟩ := (attempts box).run_cons_eq_some hrun
      obtain ⟨hmoves, hkey'⟩ := attempt_moves hbox hseals hkey s hattempt
      obtain ⟨delivered', pending', haligned'⟩ := haligned.moves hbox hmoves hstep.1
      exact ih hkey' haligned' hstep.2 hrest

/-- A doomed direction is doomed at the end of every run. -/
theorem doomed_of_run (hbox : box.Lawful) (hseals : box.Seals) {calls : List Call}
    {ch final : Channel} (hkey : Keyed key ch) (hdoomed : Doomed box key (ch.towards s))
    (hrun : (attempts box).run ch calls = some final) :
    Keyed key final ∧ Doomed box key (final.towards s) := by
  have hstep : ∀ mid call mid', (Keyed key mid ∧ Doomed box key (mid.towards s)) →
      (attempts box).step mid call = some mid' →
      Keyed key mid' ∧ Doomed box key (mid'.towards s) := by
    rintro mid call mid' ⟨hkey, hdoomed⟩ hattempt
    obtain ⟨hmoves, hkey'⟩ := attempt_moves hbox hseals hkey s hattempt
    exact ⟨hkey', hdoomed.moves hbox hmoves⟩
  exact (attempts box).invariant hstep ⟨hkey, hdoomed⟩ hrun

/-- A run out of step dooms the direction. -/
theorem doomed_of_not_inStep (hbox : box.Lawful) (hseals : box.Seals)
    (hbinds : box.Binds key) :
    ∀ {calls : List Call} {ch final : Channel} {refused : Nat}
      {delivered pending : List Item}, Keyed key ch →
      Aligned box key refused delivered pending (ch.towards s) → ¬ InStep s refused calls →
      (attempts box).run ch calls = some final →
      Keyed key final ∧ Doomed box key (final.towards s) := by
  intro calls
  induction calls with
  | nil => intro ch final refused delivered pending _ _ hstep; exact absurd trivial hstep
  | cons call calls ih =>
      intro ch final refused delivered pending hkey haligned hstep hrun
      obtain ⟨ch', hattempt, hrest⟩ := (attempts box).run_cons_eq_some hrun
      obtain ⟨hmoves, hkey'⟩ := attempt_moves hbox hseals hkey s hattempt
      by_cases hheard : Heard s refused call
      · obtain ⟨delivered', pending', haligned'⟩ := haligned.moves hbox hmoves hheard
        exact ih hkey' haligned' (fun htail => hstep ⟨hheard, htail⟩) hrest
      · have hblocked := haligned.blocked hbox hbinds hmoves hheard
        exact doomed_of_run hbox hseals hkey' (.inr ⟨_, _, hblocked⟩) hrest

/-- In order, the side can be given everything. -/
theorem delivered_of_aligned (hbox : box.Lawful) {refused : Nat} :
    ∀ {pending delivered : List Item} {ch : Channel}, Keyed key ch →
      Aligned box key refused delivered pending (ch.towards s) → Delivered box ch s := by
  intro pending
  induction pending with
  | nil =>
      intro delivered ch _ haligned
      refine ⟨0, ch, rfl, ?_⟩
      have hsent : ch.sent s.other = delivered := by
        simpa [towards] using haligned.sent
      rw [hsent]
      exact haligned.got
  | cons item pending ih =>
      intro delivered ch hkey haligned
      obtain ⟨st, rest, hrecv, hnext⟩ := haligned.received hbox (hkey s) rfl
      have hattempt : (attempts box).step ch (.recv s) =
          some (ch.pulled s st rest (.ok item.plaintext)) := attempt_recv_eq hrecv (by simp)
      obtain ⟨_, hkey'⟩ := attempt_recv hkey s s hattempt
      rw [← towards_pulled_self] at hnext
      obtain ⟨n, final, hrun, hgot⟩ := ih hkey' hnext
      refine ⟨n + 1, final, ?_, hgot⟩
      rw [List.replicate_succ, (attempts box).run_cons_of_step hattempt]
      exact hrun

theorem sent_of_attempt_recv {ch ch' : Channel}
    (h : attempt box ch (.recv s) = some ch') : ch'.sent = ch.sent := by
  simp only [attempt, step] at h
  split at h
  · simp at h
  · rw [← Option.some.inj h]
    rfl

/-- Doomed, it cannot. -/
theorem not_delivered_of_doomed (hbox : box.Lawful) (hseals : box.Seals) {ch : Channel}
    (hkey : Keyed key ch) (hdoomed : Doomed box key (ch.towards s)) :
    ¬ Delivered box ch s := by
  rintro ⟨n, final, hrun, hgot⟩
  have hstep : ∀ mid call mid', mid.sent = ch.sent → call = .recv s →
      (attempts box).step mid call = some mid' → mid'.sent = ch.sent := by
    rintro mid call mid' hmid rfl hattempt
    exact (sent_of_attempt_recv hattempt).trans hmid
  have hsent : final.sent = ch.sent :=
    (attempts box).invariant_of_meets hstep rfl
      ((attempts box).meets_of_forall fun call hcall => List.eq_of_mem_replicate hcall) hrun
  obtain ⟨_, hend⟩ := doomed_of_run hbox hseals hkey hdoomed hrun
  refine hend.got_ne ?_
  rw [← hsent] at hgot
  exact hgot

/-- A channel in order is aligned, with no send refused. -/
theorem aligned_of_linked {ch : Channel} (h : Linked box key ch) (s : Side) :
    ∃ delivered pending, Aligned box key 0 delivered pending (ch.towards s) := by
  obtain ⟨delivered, pending, L⟩ := h s
  exact ⟨delivered, pending, L.sent, L.got, _, L.carries, by simp [towards]⟩

theorem keyed_of_linked {ch : Channel} (h : Linked box key ch) : Keyed key ch := by
  intro s
  obtain ⟨_, _, L⟩ := h s
  exact L.sessionKey

/-- When a stream survives its failed sends.

Two streams in sync, then any calls of both sides, in any order, with any number of
sends refused by the framing layer.  What one side has successfully sent is given to the
other, in order, when every message written fits the receiver's limit and has a multiple
of `2 ^ 64` refused sends before it, so none at all in practice.  Under a cipher whose
tag binds the sequence number it is given to the other only then. -/
theorem delivered_iff_no_refused_send (hbox : box.Lawful) (hseals : box.Seals)
    {ch final : Channel} {calls : List Call} (hsync : Linked box key ch)
    (hrun : (attempts box).run ch calls = some final) (s : Side) :
    ((∀ before m after, calls = before ++ .send s.other m :: after →
        m.length + 16 ≤ maxPayload →
        m.length + 16 ≤ recvLimit ∧ 2 ^ 64 ∣ refusedBy s.other before) →
      Delivered box final s) ∧
    (box.Binds key → Delivered box final s →
      ∀ before m after, calls = before ++ .send s.other m :: after →
        m.length + 16 ≤ maxPayload →
        m.length + 16 ≤ recvLimit ∧ 2 ^ 64 ∣ refusedBy s.other before) := by
  have hkey := keyed_of_linked hsync
  obtain ⟨delivered, pending, haligned⟩ := aligned_of_linked hsync s
  have hstep := inStep_iff s calls 0
  simp only [Nat.zero_add] at hstep
  rw [← hstep]
  constructor
  · intro hin
    obtain ⟨hkey', _, _, _, hend⟩ := aligned_of_run hbox hseals hkey haligned hin hrun
    exact delivered_of_aligned hbox hkey' hend
  · intro hbinds hdelivered
    by_contra hout
    obtain ⟨hkey', hend⟩ := doomed_of_not_inStep hbox hseals hbinds hkey haligned hout hrun
    exact not_delivered_of_doomed hbox hseals hkey' hend hdelivered

/-- A send is a step, whatever came of it. -/
theorem exists_attempt_send (box : SecretBox) (ch : Channel) (s : Side) (m : Bytes) :
    ∃ ch', (attempts box).step ch (.send s m) = some ch' := by
  simp only [attempts, attempt]
  split
  · exact ⟨_, rfl⟩
  · exact ⟨_, rfl⟩

end Channel

/-! ### A run with the concrete cipher -/

theorem tagBox_seals : tagBox.Seals := fun _ _ _ => ⟨_, rfl⟩

/-- The tag holds the sequence number, masked by the key. -/
theorem tagOf_makeNonce_injective (key : Bytes) :
    Function.Injective fun seq => tagOf key (EncryptedStream.makeNonce seq) := by
  intro seq seq' htag
  refine u64ToLeBytes_injective (List.ext_getElem (by simp) ?_)
  intro i hi hi'
  have hnonce : ∀ (seq : UInt64) (h : i < (u64ToLeBytes seq).length),
      (EncryptedStream.makeNonce seq)[i]? = some (u64ToLeBytes seq)[i] := by
    intro seq h
    rw [EncryptedStream.makeNonce, List.getElem?_append_left h, List.getElem?_eq_getElem h]
  have hrange : i < 16 := by
    rw [length_u64ToLeBytes] at hi
    omega
  have hbyte := congrArg (fun tag : Bytes => tag.getD i 0) htag
  simpa [tagOf, hnonce seq hi, hnonce seq' hi', hrange] using hbyte

theorem tagBox_binds (key : Bytes) : tagBox.Binds key := by
  intro seq seq' plaintext ciphertext hne hseal
  simp only [tagBox, Option.some.injEq] at hseal
  have htake : ciphertext.take 16 = tagOf key (EncryptedStream.makeNonce seq) := by
    rw [← hseal]
    exact List.take_left' (length_tagOf _ _)
  have hdiffer : tagOf key (EncryptedStream.makeNonce seq) ≠
      tagOf key (EncryptedStream.makeNonce seq') :=
    fun h => hne (tagOf_makeNonce_injective key h)
  simp [tagBox, htake, hdiffer]

namespace Channel

/-- Two sends in a row are a run. -/
theorem exists_run_sends (box : SecretBox) (ch : Channel) (s : Side) (m m' : Bytes) :
    ∃ final, (attempts box).run ch [.send s m, .send s m'] = some final := by
  obtain ⟨mid, hfirst⟩ := exists_attempt_send box ch s m
  obtain ⟨final, hsecond⟩ := exists_attempt_send box mid s m'
  refine ⟨final, ?_⟩
  rw [(attempts box).run_cons_of_step hfirst, (attempts box).run_cons_of_step hsecond,
    Machine.run_nil]

/-- A message in front of a refused one is given to the peer, a message behind it is not. -/
theorem delivered_iff_no_refused_send_order :
    (∃ final, (attempts tagBox).run (new (List.replicate 32 7))
        [.send .client [1], .send .client (List.replicate maxPayload 0)] = some final ∧
      Delivered tagBox final .peer) ∧
    ∃ final, (attempts tagBox).run (new (List.replicate 32 7))
        [.send .client (List.replicate maxPayload 0), .send .client [1]] = some final ∧
      ¬ Delivered tagBox final .peer := by
  have hlong : maxPayload < (List.replicate maxPayload (0 : UInt8)).length + 16 := by
    rw [List.length_replicate]
    omega
  -- the elaborator must not see how long the message is
  generalize List.replicate maxPayload (0 : UInt8) = m at hlong ⊢
  have hsync := linked_new tagBox (List.replicate 32 7)
  constructor
  · obtain ⟨final, hrun⟩ := exists_run_sends tagBox (new (List.replicate 32 7)) .client [1] m
    have hstep : InStep .peer 0 [.send .client [1], .send .client m] := by
      refine ⟨fun _ _ => ⟨by decide, Nat.dvd_zero _⟩, fun _ hfits => ?_, trivial⟩
      exact absurd hfits (Nat.not_le.mpr hlong)
    have hall := (inStep_iff .peer _ 0).mp hstep
    simp only [Nat.zero_add] at hall
    exact ⟨final, hrun, (delivered_iff_no_refused_send tagBox_lawful tagBox_seals hsync hrun
      .peer).1 hall⟩
  · obtain ⟨final, hrun⟩ := exists_run_sends tagBox (new (List.replicate 32 7)) .client m [1]
    refine ⟨final, hrun, fun hdelivered => ?_⟩
    have hround := ((delivered_iff_no_refused_send tagBox_lawful tagBox_seals hsync hrun
      .peer).2 (tagBox_binds _) hdelivered [.send .client m] [1] [] rfl (by decide)).2
    have hone : refusedBy Side.peer.other [.send .client m] = 1 := refusedBy_of_long _ hlong
    rw [hone] at hround
    omega

/-- A refused send, as the sender's stream and the wire show it. -/
theorem attempt_refused (key : Bytes) {m : Bytes} (hlong : maxPayload < m.length + 16) :
    (attempts tagBox).step (new key) (.send .client m) =
      some ((new key).failed .client ⟨key, 1, 0⟩ []) := by
  have hsend := EncryptedStream.send_refused tagBox_lawful tagBox_seals
    (EncryptedStream.new key) hlong []
  simp only [attempts, attempt, new, hsend]
  rfl

/-- The message after a refused send is written and cannot be opened. -/
theorem run_after_refused {m : Bytes} (hlong : maxPayload < m.length + 16) :
    ∃ final, (attempts tagBox).run (new (List.replicate 32 7))
        [.send .client m, .send .client [1], .recv .peer] = some final ∧
      final.sent .client = [.message [1]] ∧
      final.got .peer =
        [.error (.cipher "Decryption failed: invalid ciphertext or wrong key")] := by
  rw [(attempts tagBox).run_cons_of_step (attempt_refused _ hlong)]
  have hrun : ((attempts tagBox).run
      ((new (List.replicate 32 7)).failed .client ⟨List.replicate 32 7, 1, 0⟩ [])
      [.send .client [1], .recv .peer]).map (fun ch => (ch.sent .client, ch.got .peer)) =
        some ([.message [1]],
          [.error (.cipher "Decryption failed: invalid ciphertext or wrong key")]) := by
    decide +kernel
  obtain ⟨final, hfinal, hends⟩ := Option.map_eq_some_iff.mp hrun
  obtain ⟨hsent, hgot⟩ := Prod.mk.inj hends
  exact ⟨final, hfinal, hsent, hgot⟩

/-- Two streams in sync, a payload the framing layer refuses without writing a byte, and
a one-byte message that is sent successfully: the peer fails to decrypt it. -/
theorem refused_send_loses_next_message :
    tagBox.Lawful ∧ tagBox.Seals ∧
      Linked tagBox (List.replicate 32 7) (new (List.replicate 32 7)) ∧
      (EncryptedStream.new (List.replicate 32 7)).send tagBox (List.replicate maxPayload 0) [] =
        (.error (.transport (.bail (FramedTransport.tooLargeText (maxPayload + 16)))),
          ⟨List.replicate 32 7, 1, 0⟩, []) ∧
      ∃ final, (attempts tagBox).run (new (List.replicate 32 7))
          [.send .client (List.replicate maxPayload 0), .send .client [1], .recv .peer] =
            some final ∧
        final.sent .client = [.message [1]] ∧
        final.got .peer =
          [.error (.cipher "Decryption failed: invalid ciphertext or wrong key")] := by
  have hlength : (List.replicate maxPayload (0 : UInt8)).length = maxPayload :=
    List.length_replicate
  have hlong : maxPayload < (List.replicate maxPayload (0 : UInt8)).length + 16 := by omega
  refine ⟨tagBox_lawful, tagBox_seals, linked_new _ _, ?_, run_after_refused hlong⟩
  have hsend := EncryptedStream.send_refused tagBox_lawful tagBox_seals
    (EncryptedStream.new (List.replicate 32 7)) hlong []
  rw [hlength] at hsend
  exact hsend

end Channel

end RustdeskCli.Crypto
