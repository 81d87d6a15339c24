import Mathlib.Data.List.Nodup
import RustdeskCli.Crypto.Channel
set_option autoImplicit false

/-!
# Crypto: two endpoints against an active network

The same two `EncryptedStream`s, with a network between them that hands each
`recv` whatever bytes it likes: it drops, duplicates, reorders, reflects and
injects.  A run is any interleaving of `send` calls (successful or not),
heartbeats and `recv` calls on both sides.

Two results about one key shared by both sides.  Every side alone counts its
nonces, so they are all different exactly when only one side encrypts; and a
receiver gets its peer's messages in order as long as it is not handed back, at
the same position, a ciphertext of its own.
-/

namespace RustdeskCli.Crypto

open RustdeskCli.Foundation
open RustdeskCli.Transport

/-- One call of the cipher's `encrypt` under the session key. -/
structure Sealing where
  side : Side
  nonce : Bytes
  plaintext : Bytes
  /-- what the cipher returned -/
  ciphertext : Option Bytes
  deriving DecidableEq, Repr

/-- Both endpoints and the history of the session. -/
structure Network where
  ends : Side → EncryptedStream
  /-- every encryption under the session key, in order -/
  log : List Sealing
  /-- the messages a side passed to `send` -/
  sent : Side → List Bytes
  /-- the non-heartbeat frames a side received, each with the result of its `recv` -/
  opened : Side → List (Bytes × Except StreamError Bytes)

/-- A call of one side; the network chooses the bytes a `recv` finds. -/
inductive Move where
  | send (s : Side) (plaintext : Bytes)
  | sendHeartbeat (s : Side)
  | recv (s : Side) (stream : Bytes)
  deriving DecidableEq, Repr

/-- The move is a `send` of side `s`. -/
def Move.isSendBy (s : Side) : Move → Bool
  | .send t _ => t = s
  | _ => false

/-- The non-heartbeat frame that a `recv` takes from the bytes it finds. -/
def frameOf (stream : Bytes) : Option Bytes :=
  match FramedTransport.recv stream with
  | (.ok payload, _) => if payload.isEmpty then none else some payload
  | (.error _, _) => none

/-- What `recv` does, by the frame it takes. -/
theorem recv_eq (box : SecretBox) (st : EncryptedStream) (stream : Bytes) :
    (frameOf stream = none ∧ (st.recv box stream).2.1 = st) ∨
      ∃ c, frameOf stream = some c ∧ c.isEmpty = false ∧
        (st.recv box stream).1 = (st.openFrame box c).1 ∧
        (st.recv box stream).2.1 = { st with recvSeq := st.recvSeq + 1 } := by
  rcases hrecv : FramedTransport.recv stream with ⟨e | c, rest⟩
  · exact .inl ⟨by simp [frameOf, hrecv], by simp [EncryptedStream.recv, hrecv]⟩
  · cases hc : c.isEmpty with
    | true =>
        have hnil : c = [] := by simpa using hc
        exact .inl ⟨by simp [frameOf, hrecv, hc], by simp [EncryptedStream.recv, hrecv, hnil]⟩
    | false =>
        refine .inr ⟨c, by simp [frameOf, hrecv, hc], hc, by simp [EncryptedStream.recv, hrecv], ?_⟩
        simp only [EncryptedStream.recv, hrecv, EncryptedStream.openFrame, hc]
        cases box.decrypt st.sessionKey (EncryptedStream.makeNonce (st.recvSeq + 1)) c <;> rfl

namespace Network

/-- Two streams created with the same key. -/
def new (key : Bytes) : Network :=
  ⟨fun _ => .new key, [], fun _ => [], fun _ => []⟩

/-- One call.  `send` makes one encryption, under the nonce of the counter it has
just moved. -/
def next (box : SecretBox) (net : Network) : Move → Network
  | .send s m =>
      let st := ((net.ends s).send box m []).2.1
      let nonce := EncryptedStream.makeNonce st.sendSeq
      { net with
        ends := Function.update net.ends s st
        log := net.log ++ [⟨s, nonce, m, box.encrypt st.sessionKey nonce m⟩]
        sent := Function.update net.sent s (net.sent s ++ [m]) }
  | .sendHeartbeat s =>
      { net with ends := Function.update net.ends s ((net.ends s).sendHeartbeat []).2.1 }
  | .recv s stream =>
      match (net.ends s).recv box stream with
      | (result, st, _) =>
          { net with
            ends := Function.update net.ends s st
            opened := Function.update net.opened s
              (net.opened s ++ ((frameOf stream).map fun c => (c, result)).toList) }

/-- The machine of all interleavings; every call is possible in every state. -/
def machine (box : SecretBox) : Machine Network Move := ⟨fun net move => some (next box net move)⟩

/-- The nonce of the `k`-th message of a side, counted from zero. -/
def nonceAt (k : Nat) : Bytes := EncryptedStream.makeNonce (UInt64.ofNat k + 1)

/-- Messages below the wrap have different nonces. -/
theorem nonceAt_inj {j k : Nat} (hj : j < 2 ^ 64) (hk : k < 2 ^ 64)
    (h : nonceAt j = nonceAt k) : j = k := by
  have hseq := add_right_cancel (EncryptedStream.makeNonce_injective h)
  have hnat := congrArg UInt64.toNat hseq
  rwa [UInt64.toNat_ofNat_of_lt' hj, UInt64.toNat_ofNat_of_lt' hk] at hnat

/-- The encryptions of one side. -/
def sealings (net : Network) (s : Side) : List Sealing :=
  net.log.filter fun e => e.side = s

/-- The history agrees with the counters: the `k`-th message of a side was
encrypted under the `k`-th nonce, and nothing else was encrypted. -/
structure Logged (box : SecretBox) (key : Bytes) (net : Network) : Prop where
  sessionKey : ∀ s, (net.ends s).sessionKey = key
  sendSeq : ∀ s, (net.ends s).sendSeq = UInt64.ofNat (net.sent s).length
  recvSeq : ∀ s, (net.ends s).recvSeq = UInt64.ofNat (net.opened s).length
  nonces : ∀ s, (net.sealings s).map Sealing.nonce =
    (List.range (net.sent s).length).map nonceAt
  plaintexts : ∀ s, (net.sealings s).map Sealing.plaintext = net.sent s
  ciphertext : ∀ e ∈ net.log, e.ciphertext = box.encrypt key e.nonce e.plaintext

theorem logged_new (box : SecretBox) (key : Bytes) : Logged box key (new key) :=
  ⟨fun _ => rfl, fun _ => rfl, fun _ => rfl, fun _ => rfl, fun _ => rfl, by simp [new]⟩

theorem logged_send {box : SecretBox} {key : Bytes} {net : Network} (h : Logged box key net)
    (s : Side) (m : Bytes) : Logged box key (next box net (.send s m)) := by
  simp only [next, EncryptedStream.send_state]
  refine ⟨fun t => ?_, fun t => ?_, fun t => ?_, fun t => ?_, fun t => ?_, fun e he => ?_⟩
  · rcases Side.eq_or_eq_other s t with rfl | rfl <;> simpa using h.sessionKey _
  · rcases Side.eq_or_eq_other s t with rfl | rfl
    · simp [h.sendSeq, UInt64.ofNat_add]
    · simpa using h.sendSeq _
  · rcases Side.eq_or_eq_other s t with rfl | rfl <;> simpa using h.recvSeq _
  · have hold := h.nonces t
    simp only [sealings] at hold
    rcases Side.eq_or_eq_other s t with rfl | rfl
    · simp [sealings, hold, List.range_succ, nonceAt, h.sendSeq]
    · simpa [sealings] using hold
  · have hold := h.plaintexts t
    simp only [sealings] at hold
    rcases Side.eq_or_eq_other s t with rfl | rfl
    · simp [sealings, hold]
    · simpa [sealings] using hold
  · rcases List.mem_append.mp he with he | he
    · exact h.ciphertext e he
    · rw [List.mem_singleton.mp he]
      simp [h.sessionKey]

theorem logged_recv {box : SecretBox} {key : Bytes} {net : Network} (h : Logged box key net)
    (s : Side) (stream : Bytes) : Logged box key (next box net (.recv s stream)) := by
  simp only [next]
  refine ⟨fun t => ?_, fun t => ?_, fun t => ?_, h.nonces, h.plaintexts, h.ciphertext⟩
  · rcases Side.eq_or_eq_other s t with rfl | rfl
    · rcases recv_eq box (net.ends t) stream with ⟨_, hst⟩ | ⟨c, _, _, _, hst⟩ <;>
        simp [hst, h.sessionKey]
    · simpa using h.sessionKey _
  · rcases Side.eq_or_eq_other s t with rfl | rfl
    · rcases recv_eq box (net.ends t) stream with ⟨_, hst⟩ | ⟨c, _, _, _, hst⟩ <;>
        simp [hst, h.sendSeq]
    · simpa using h.sendSeq _
  · rcases Side.eq_or_eq_other s t with rfl | rfl
    · rcases recv_eq box (net.ends t) stream with ⟨hframe, hst⟩ | ⟨c, hframe, _, _, hst⟩
      · simp [hframe, hst, h.recvSeq]
      · simp [hframe, hst, h.recvSeq, UInt64.ofNat_add]
    · simpa using h.recvSeq _

/-- Every call keeps the history in agreement with the counters. -/
theorem logged_next {box : SecretBox} {key : Bytes} {net : Network} (h : Logged box key net)
    (move : Move) : Logged box key (next box net move) := by
  cases move with
  | send s m => exact logged_send h s m
  | sendHeartbeat s =>
      obtain ⟨header, _, hbeat⟩ := (net.ends s).sendHeartbeat_eq []
      have hsame : next box net (.sendHeartbeat s) = net := by
        simp [next, hbeat]
      rw [hsame]
      exact h
  | recv s stream => exact logged_recv h s stream

/-- The history agrees with the counters after every run. -/
theorem logged_of_run {box : SecretBox} {key : Bytes} {moves : List Move} {net : Network}
    (hrun : (machine box).run (new key) moves = some net) : Logged box key net :=
  (machine box).invariant
    (fun _ move _ hinv hstep => Option.some.inj hstep ▸ logged_next hinv move)
    (logged_new box key) hrun

/-! ## Nonce uniqueness -/

/-- The nonces of all encryptions under the session key, in order. -/
def nonces (net : Network) : List Bytes := net.log.map Sealing.nonce

/-- The record of sent messages grows by exactly the sends of the run. -/
theorem length_sent_of_run (box : SecretBox) (s : Side) :
    ∀ {moves : List Move} {net final : Network},
      (machine box).run net moves = some final →
      (final.sent s).length = (net.sent s).length + moves.countP (Move.isSendBy s) := by
  intro moves
  induction moves with
  | nil =>
      intro net final hrun
      simp only [Machine.run_nil, Option.some.injEq] at hrun
      simp [hrun]
  | cons move moves ih =>
      intro net final hrun
      obtain ⟨net', hstep, hrest⟩ := (machine box).run_cons_eq_some hrun
      rw [ih hrest, List.countP_cons, ← Option.some.inj hstep]
      cases move with
      | send t m =>
          by_cases hts : t = s
          · subst hts
            simp [next, Move.isSendBy]
            omega
          · simp [next, Move.isSendBy, hts, Function.update_of_ne (Ne.symm hts)]
      | sendHeartbeat t => simp [next, Move.isSendBy]
      | recv t stream => simp [next, Move.isSendBy]

/-- One side alone never reuses a nonce below the wrap. -/
theorem Logged.nodup_sealings {box : SecretBox} {key : Bytes} {net : Network}
    (h : Logged box key net) {s : Side} (hcount : (net.sent s).length < 2 ^ 64) :
    ((net.sealings s).map Sealing.nonce).Nodup := by
  rw [h.nonces]
  refine List.Nodup.map_on ?_ List.nodup_range
  intro j hj k hk heq
  rw [List.mem_range] at hj hk
  exact nonceAt_inj (by omega) (by omega) heq

/-- A side that has sent something has encrypted under the first nonce. -/
theorem Logged.first_nonce {box : SecretBox} {key : Bytes} {net : Network}
    (h : Logged box key net) {s : Side} (hsent : net.sent s ≠ []) :
    ∃ e ∈ net.log, e.side = s ∧ e.nonce = nonceAt 0 := by
  have hmem : nonceAt 0 ∈ (net.sealings s).map Sealing.nonce := by
    rw [h.nonces]
    exact List.mem_map_of_mem (List.mem_range.mpr (List.length_pos_of_ne_nil hsent))
  obtain ⟨e, he, hnonce⟩ := List.mem_map.mp hmem
  obtain ⟨hlog, hside⟩ := List.mem_filter.mp he
  exact ⟨e, hlog, by simpa using hside, hnonce⟩

/-- The nonces of the session are all different exactly when at most one side has
sent anything. -/
theorem Logged.nodup_nonces_iff {box : SecretBox} {key : Bytes} {net : Network}
    (h : Logged box key net) (hcount : ∀ s, (net.sent s).length < 2 ^ 64) :
    net.nonces.Nodup ↔ ∃ s, net.sent s = [] := by
  constructor
  · intro hnodup
    by_contra hboth
    push Not at hboth
    obtain ⟨e, he, hside, hnonce⟩ := h.first_nonce (hboth .client)
    obtain ⟨e', he', hside', hnonce'⟩ := h.first_nonce (hboth .peer)
    have heq : e = e' := List.inj_on_of_nodup_map hnodup he he' (hnonce.trans hnonce'.symm)
    rw [heq, hside'] at hside
    cases hside
  · rintro ⟨s, hs⟩
    -- the silent side has no encryptions, so the log is the other side's
    have hsilent : net.sealings s = [] := by
      have := h.plaintexts s
      rw [hs, List.map_eq_nil_iff] at this
      exact this
    have hall : net.sealings s.other = net.log := by
      rw [sealings, List.filter_eq_self]
      intro e he
      rcases Side.eq_or_eq_other s e.side with hside | hside
      · have : e ∈ net.sealings s := List.mem_filter.mpr ⟨he, by simp [hside]⟩
        rw [hsilent] at this
        cases this
      · simp [hside]
    rw [Network.nonces, ← hall]
    exact h.nodup_sealings (hcount _)

/-- No nonce is used twice under the session key exactly when the two sides do not
both send. -/
theorem nonces_nodup_iff_one_sender (box : SecretBox) (key : Bytes) (moves : List Move)
    (net : Network) (hrun : (machine box).run (new key) moves = some net)
    (hcount : ∀ s, moves.countP (Move.isSendBy s) < 2 ^ 64) :
    net.nonces.Nodup ↔ ∃ s, ∀ move ∈ moves, Move.isSendBy s move = false := by
  have hlen : ∀ s, (net.sent s).length = moves.countP (Move.isSendBy s) := by
    intro s
    simpa [new] using length_sent_of_run box s hrun
  rw [(logged_of_run hrun).nodup_nonces_iff fun s => (hlen s).symm ▸ hcount s]
  refine exists_congr fun s => ?_
  rw [← List.length_eq_zero_iff, hlen, List.countP_eq_zero]
  simp

/-- A run in which the client sends twice and the peer listens. -/
theorem nonces_nodup_iff_one_sender_sample :
    ∃ net, (machine tagBox).run (new [7]) [.send .client [1], .recv .peer [], .send .client [2]] =
        some net ∧ net.nonces.Nodup := by
  refine ⟨_, rfl, ?_⟩
  refine (nonces_nodup_iff_one_sender tagBox [7]
    [.send .client [1], .recv .peer [], .send .client [2]] _ rfl ?_).mpr ⟨.peer, by decide⟩
  intro s
  cases s <;> decide

/-- One message each way uses the first nonce twice under the one key. -/
theorem nonce_reused_by_both_sides :
    ∃ net, (machine tagBox).run (new [7]) [.send .client [1], .send .peer [2]] = some net ∧
      (∀ s, List.countP (Move.isSendBy s) [.send .client [1], .send .peer [2]] < 2 ^ 64) ∧
      ¬ net.nonces.Nodup :=
  ⟨_, rfl, by intro s; cases s <;> decide, by decide +kernel⟩

/-! ## Authenticity and order -/

/-- The encryptions made of a frame under the nonce its receiver is at. -/
def origins (net : Network) (s : Side) (c : Bytes) : List Sealing :=
  net.log.filter fun e =>
    e.nonce = EncryptedStream.makeNonce ((net.ends s).recvSeq + 1) ∧ e.ciphertext = some c

/-- The cipher is ideal in this call: what decrypts was produced by `encrypt`,
under the same key and nonce, earlier in the run. -/
def Ideal (box : SecretBox) (net : Network) : Move → Prop
  | .recv s stream =>
      ∀ c ∈ frameOf stream,
        box.decrypt (net.ends s).sessionKey
            (EncryptedStream.makeNonce ((net.ends s).recvSeq + 1)) c ≠ none →
          net.origins s c ≠ []
  | _ => True

/-- The call stays below the wrap of its counter, and a receiver is not handed a
nonempty message of its own at the position it was sent at, unless the peer made
the same ciphertext. -/
def Unreflected (net : Network) : Move → Prop
  | .send s _ => (net.ends s).sendSeq.toNat + 1 < 2 ^ 64
  | .sendHeartbeat _ => True
  | .recv s stream =>
      ∀ c ∈ frameOf stream,
        (net.ends s).recvSeq.toNat + 1 < 2 ^ 64 ∧
          ∀ e ∈ net.origins s c, e.side = s → e.plaintext ≠ [] →
            ∃ e' ∈ net.origins s c, e'.side = s.other

instance (box : SecretBox) (net : Network) (move : Move) : Decidable (Ideal box net move) :=
  match move with
  | .recv _ stream => Option.decidableForallMem (frameOf stream)
  | .send _ _ => inferInstanceAs (Decidable True)
  | .sendHeartbeat _ => inferInstanceAs (Decidable True)

instance (net : Network) (move : Move) : Decidable (Unreflected net move) :=
  match move with
  | .recv _ stream => Option.decidableForallMem (frameOf stream)
  | .send s _ => inferInstanceAs (Decidable ((net.ends s).sendSeq.toNat + 1 < 2 ^ 64))
  | .sendHeartbeat _ => inferInstanceAs (Decidable True)

/-- The session so far is authentic and in order, and below the wrap. -/
structure Authentic (box : SecretBox) (key : Bytes) (net : Network) : Prop where
  logged : Logged box key net
  sent_lt : ∀ s, (net.sent s).length < 2 ^ 64
  opened_lt : ∀ s, (net.opened s).length < 2 ^ 64
  inOrder : ∀ (s : Side) (k : Nat) (c p : Bytes),
    (net.opened s)[k]? = some (c, .ok p) → p ≠ [] → (net.sent s.other)[k]? = some p

/-- An encryption under the `k`-th nonce is of its side's `k`-th message. -/
theorem Logged.sent_of_nonce {box : SecretBox} {key : Bytes} {net : Network}
    (h : Logged box key net) {e : Sealing} (he : e ∈ net.log) {k : Nat} (hk : k < 2 ^ 64)
    (hsent : (net.sent e.side).length < 2 ^ 64) (hnonce : e.nonce = nonceAt k) :
    (net.sent e.side)[k]? = some e.plaintext := by
  have hmem : e ∈ net.sealings e.side := List.mem_filter.mpr ⟨he, by simp⟩
  obtain ⟨j, hj⟩ := List.mem_iff_getElem?.mp hmem
  have hplain : (net.sent e.side)[j]? = some e.plaintext := by
    rw [← h.plaintexts, List.getElem?_map, hj]
    rfl
  have hlt : j < (net.sent e.side).length := (List.getElem?_eq_some_iff.mp hplain).1
  have hseq : ((net.sealings e.side).map Sealing.nonce)[j]? = some e.nonce := by
    rw [List.getElem?_map, hj]
    rfl
  rw [h.nonces, List.getElem?_map, List.getElem?_range hlt, Option.map_some, hnonce,
    Option.some.injEq] at hseq
  rw [nonceAt_inj (by omega) hk hseq] at hplain
  exact hplain

theorem authentic_new (box : SecretBox) (key : Bytes) : Authentic box key (new key) :=
  ⟨logged_new box key, by simp [new], by simp [new], by simp [new]⟩

/-- The state of the receiver moves only its own `opened` record, by the frame it
took. -/
theorem opened_recv (box : SecretBox) (net : Network) (s t : Side) (stream : Bytes) :
    (next box net (.recv s stream)).opened t =
      if t = s then
        net.opened s ++
          ((frameOf stream).map fun c => (c, ((net.ends s).openFrame box c).1)).toList
      else net.opened t := by
  have hresult : (frameOf stream).map (fun c => (c, ((net.ends s).recv box stream).1)) =
      (frameOf stream).map fun c => (c, ((net.ends s).openFrame box c).1) := by
    rcases recv_eq box (net.ends s) stream with ⟨hframe, _⟩ | ⟨c, hframe, _, hres, _⟩
    · simp [hframe]
    · simp [hframe, hres]
  simp only [next, hresult, Function.update_apply]

theorem authentic_send {box : SecretBox} {key : Bytes} {net : Network}
    (h : Authentic box key net) (s : Side) (m : Bytes) (hguard : Unreflected net (.send s m)) :
    Authentic box key (next box net (.send s m)) := by
  have hlen : (net.sent s).length + 1 < 2 ^ 64 := by
    simpa [Unreflected, h.logged.sendSeq, UInt64.toNat_ofNat_of_lt' (h.sent_lt s)] using hguard
  refine ⟨logged_send h.logged s m, fun t => ?_, h.opened_lt, fun t k c p hget hp => ?_⟩
  · by_cases hts : t = s
    · subst hts
      simpa [next] using hlen
    · simpa [next, hts] using h.sent_lt t
  · have hold := h.inOrder t k c p hget hp
    by_cases hts : t.other = s
    · have hlt := (List.getElem?_eq_some_iff.mp hold).1
      subst hts
      simp only [next, Function.update_self]
      rw [List.getElem?_append_left hlt, hold]
    · simpa [next, hts] using hold

/-- What an ideal cipher opens for an unreflected receiver is the peer's message
at the same position. -/
theorem Authentic.sent_of_openFrame {box : SecretBox} (hbox : box.Lawful) {key : Bytes}
    {net : Network} (h : Authentic box key net) {s : Side} {stream c p : Bytes}
    (hideal : Ideal box net (.recv s stream)) (hguard : Unreflected net (.recv s stream))
    (hframe : frameOf stream = some c) (hc : c.isEmpty = false)
    (hopen : ((net.ends s).openFrame box c).1 = .ok p) (hp : p ≠ []) :
    (net.sent s.other)[(net.opened s).length]? = some p := by
  have hnonce : EncryptedStream.makeNonce ((net.ends s).recvSeq + 1) =
      nonceAt (net.opened s).length := by rw [nonceAt, h.logged.recvSeq]
  have hdecrypt : box.decrypt key (nonceAt (net.opened s).length) c = some p := by
    rw [← hnonce, ← h.logged.sessionKey s]
    simp only [EncryptedStream.openFrame, hc] at hopen
    cases hd : box.decrypt (net.ends s).sessionKey
        (EncryptedStream.makeNonce ((net.ends s).recvSeq + 1)) c with
    | none => simp [hd] at hopen
    | some q => simpa [hd] using hopen
  -- every encryption of this frame under this nonce is of the plaintext returned
  have horigin : ∀ e ∈ net.origins s c,
      e ∈ net.log ∧ e.nonce = nonceAt (net.opened s).length ∧ e.plaintext = p := by
    intro e he
    obtain ⟨hlog, hmatch⟩ := List.mem_filter.mp he
    obtain ⟨hn, hcipher⟩ := of_decide_eq_true hmatch
    rw [hnonce] at hn
    have hopens := hbox.opens ((h.logged.ciphertext e hlog).symm.trans hcipher)
    rw [hn, hdecrypt, Option.some.injEq] at hopens
    exact ⟨hlog, hn, hopens.symm⟩
  have hpeer : ∃ e ∈ net.origins s c, e.side = s.other := by
    have hne := hideal c hframe (by rw [hnonce, h.logged.sessionKey, hdecrypt]; simp)
    obtain ⟨e, he⟩ := List.exists_mem_of_ne_nil _ hne
    rcases Side.eq_or_eq_other s e.side with hside | hside
    · exact (hguard c hframe).2 e he hside ((horigin e he).2.2 ▸ hp)
    · exact ⟨e, he, hside⟩
  obtain ⟨e, he, hside⟩ := hpeer
  obtain ⟨hlog, hn, hplain⟩ := horigin e he
  have := h.logged.sent_of_nonce hlog (h.opened_lt s) (h.sent_lt _) hn
  rwa [hside, hplain] at this

theorem authentic_recv {box : SecretBox} (hbox : box.Lawful) {key : Bytes} {net : Network}
    (h : Authentic box key net) (s : Side) (stream : Bytes)
    (hideal : Ideal box net (.recv s stream)) (hguard : Unreflected net (.recv s stream)) :
    Authentic box key (next box net (.recv s stream)) := by
  have hsent : (next box net (.recv s stream)).sent = net.sent := rfl
  refine ⟨logged_recv h.logged s stream, h.sent_lt, fun t => ?_, fun t k c p hget hp => ?_⟩
  · rw [opened_recv]
    split
    · cases hframe : frameOf stream with
      | none => simpa [hframe] using h.opened_lt s
      | some c =>
          have hlt := (hguard c hframe).1
          rw [h.logged.recvSeq, UInt64.toNat_ofNat_of_lt' (h.opened_lt s)] at hlt
          simpa using hlt
    · exact h.opened_lt t
  · rw [opened_recv] at hget
    rw [hsent]
    split at hget
    · rename_i hts
      subst hts
      rcases recv_eq box (net.ends t) stream with ⟨hframe, _⟩ | ⟨c', hframe, hc', _, _⟩
      · exact h.inOrder t k c p (by simpa [hframe] using hget) hp
      · rw [hframe, Option.map_some, Option.toList_some] at hget
        rcases Nat.lt_trichotomy k (net.opened t).length with hk | hk | hk
        · rw [List.getElem?_append_left hk] at hget
          exact h.inOrder t k c p hget hp
        · rw [hk, List.getElem?_append_right (Nat.le_refl _), Nat.sub_self] at hget
          have hres : ((net.ends t).openFrame box c').1 = .ok p := by
            simp only [List.getElem?_cons_zero, Option.some.injEq, Prod.mk.injEq] at hget
            exact hget.2
          rw [hk]
          exact h.sent_of_openFrame hbox hideal hguard hframe hc' hres hp
        · rw [List.getElem?_eq_none (by simp; omega)] at hget
          cases hget
    · exact h.inOrder t k c p hget hp

/-- Against any network that does not reflect, whatever a side is given as its
`k`-th encrypted frame is the `k`-th message its peer passed to `send`. -/
theorem opened_is_peer_message {box : SecretBox} (hbox : box.Lawful) (key : Bytes)
    (moves : List Move) (net : Network)
    (hrun : (machine box).run (new key) moves = some net)
    (hideal : (machine box).Meets (Ideal box) (new key) moves)
    (hguard : (machine box).Meets Unreflected (new key) moves)
    (s : Side) (k : Nat) (c p : Bytes)
    (hget : (net.opened s)[k]? = some (c, .ok p)) (hp : p ≠ []) :
    (net.sent s.other)[k]? = some p := by
  have hinv : Authentic box key net := by
    refine (machine box).invariant_of_meets (G := fun net move => Ideal box net move ∧
      Unreflected net move) ?_ (authentic_new box key) (hideal.and hguard) hrun
    rintro st move st' hst ⟨hideal, hguard⟩ hstep
    rw [← Option.some.inj hstep]
    cases move with
    | send s m => exact authentic_send hst s m hguard
    | sendHeartbeat s =>
        have hlogged := logged_next hst.logged (.sendHeartbeat s)
        exact ⟨hlogged, hst.sent_lt, hst.opened_lt, hst.inOrder⟩
    | recv s stream => exact authentic_recv hbox hst s stream hideal hguard
  exact hinv.inOrder s k c p hget hp

/-- The bytes of the first `send` of a stream with the key of the samples. -/
def firstFrame (m : Bytes) : Bytes := ((EncryptedStream.new [7]).send tagBox m []).2.2

/-- One message each way, delivered, with a heartbeat before it. -/
def honestMoves : List Move :=
  [.send .client [1, 2], .send .peer [3], .recv .peer [0], .recv .peer (firstFrame [1, 2]),
    .recv .client (firstFrame [3])]

/-- In the honest run the peer is given the client's message. -/
theorem opened_is_peer_message_sample :
    ∃ net c, (machine tagBox).run (new [7]) honestMoves = some net ∧
      (net.opened .peer)[0]? = some (c, .ok [1, 2]) ∧ (net.sent .client)[0]? = some [1, 2] := by
  have hget : (((machine tagBox).run (new [7]) honestMoves).get rfl).opened .peer =
      [((firstFrame [1, 2]).drop 1, .ok [1, 2])] := by decide +kernel
  refine ⟨_, (firstFrame [1, 2]).drop 1, (Option.some_get rfl).symm, by rw [hget]; rfl, ?_⟩
  exact opened_is_peer_message tagBox_lawful [7] honestMoves _ (Option.some_get rfl).symm
    (by decide +kernel) (by decide +kernel) .peer 0 _ [1, 2] (by rw [hget]; rfl) (by decide)

/-- The client's own first frame, reflected: under an ideal cipher the client is
given its own message as the first message of a peer that has sent nothing. -/
theorem reflected_message_accepted :
    ∃ net, (machine tagBox).run (new [7])
        [.send .client [1], .recv .client (firstFrame [1])] = some net ∧
      (machine tagBox).Meets (Ideal tagBox) (new [7])
        [.send .client [1], .recv .client (firstFrame [1])] ∧
      (net.opened .client)[0]? = some ((firstFrame [1]).drop 1, .ok [1]) ∧
      (net.sent .peer)[0]? = none :=
  ⟨_, rfl, by decide +kernel, by decide +kernel, by decide +kernel⟩

end Network

end RustdeskCli.Crypto
