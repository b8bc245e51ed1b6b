import PagestoreSmgr.Compaction

/-!
# Retiring slots and dropping the connection keep the ring invariant

`prefetch_set_unused`, `prefetch_cleanup_trailing_unused`, `compact_prefetch_buffers`
and `prefetch_on_ps_disconnect` write only the ring. `RingFrame` says what they
leave alone, `Quiet` that the requests in flight are among it; each keeps `Inv` and
`Zeroed`. `prefetch_set_unused` keeps them when it is applied below `ring_receive`
or at `ring_unused`, which is how every caller applies it under a transport whose
failed `flush` and `receive` run the disconnect hook.
-/

set_option autoImplicit false

namespace PagestoreSmgr

open Backend

def Backend.conn (s : Backend) :
    Nat × Nat × Nat × XLogRecPtr × List NeonRequest × List NeonRequest × Nat :=
  (s.ringUnused, s.readaheadBufferSize, s.flushEveryNRequests, s.prefetchLsn, s.wire, s.outbuf,
    s.calls)

structure Frame (s t : Backend) : Prop where
  unused : t.ringUnused = s.ringUnused
  cap : t.readaheadBufferSize = s.readaheadBufferSize
  last : s.ringLast ≤ t.ringLast
  outside : ∀ c, (∀ p, s.ringLast ≤ p → p < s.ringUnused → s.cell p ≠ c) →
    t.prfBuffer c = s.prfBuffer c
  fresh : ∀ u, s.prfHash u = none → t.prfHash u = none

structure RingFrame (s t : Backend) extends Frame s t : Prop where
  conn : t.conn = s.conn
  sub : (t.liveIn t.ringLast t.ringUnused).Sublist (s.liveIn s.ringLast s.ringUnused)

variable {s t u : Backend}

theorem Frame.refl (s : Backend) : Frame s s := ⟨rfl, rfl, le_rfl, fun _ _ => rfl, fun _ h => h⟩

theorem Frame.trans (h₁ : Frame s t) (h₂ : Frame t u) : Frame s u where
  unused := h₂.unused.trans h₁.unused
  cap := h₂.cap.trans h₁.cap
  last := h₁.last.trans h₂.last
  outside := fun c hn => by
    have hc : ∀ p, t.cell p = s.cell p := fun p => by simp only [cell, h₁.cap]
    rw [h₂.outside c fun p hp hp' => hc p ▸ hn p (h₁.last.trans hp) (h₁.unused ▸ hp'),
      h₁.outside c hn]
  fresh := fun v hv => h₂.fresh v (h₁.fresh v hv)

theorem RingFrame.of (conn : t.conn = s.conn) (last : s.ringLast ≤ t.ringLast)
    (outside : ∀ c, (∀ p, s.ringLast ≤ p → p < s.ringUnused → s.cell p ≠ c) →
      t.prfBuffer c = s.prfBuffer c)
    (fresh : ∀ u, s.prfHash u = none → t.prfHash u = none)
    (sub : (t.liveIn t.ringLast t.ringUnused).Sublist (s.liveIn s.ringLast s.ringUnused)) :
    RingFrame s t :=
  ⟨⟨congrArg (·.1) conn, congrArg (·.2.1) conn, last, outside, fresh⟩, conn, sub⟩

theorem RingFrame.refl (s : Backend) : RingFrame s s := ⟨.refl s, rfl, List.Sublist.refl _⟩

theorem RingFrame.trans (h₁ : RingFrame s t) (h₂ : RingFrame t u) : RingFrame s u :=
  ⟨h₁.toFrame.trans h₂.toFrame, h₂.conn.trans h₁.conn, h₂.sub.trans h₁.sub⟩

structure Quiet (s t : Backend) : Prop where
  receive : t.ringReceive = s.ringReceive
  flush : t.ringFlush = s.ringFlush
  inflight : ∀ p, s.ringReceive ≤ p → p < s.ringUnused → t.slotAt p = s.slotAt p

theorem Quiet.refl (s : Backend) : Quiet s s := ⟨rfl, rfl, fun _ _ _ => rfl⟩

theorem Quiet.trans {s t u : Backend} (h₁ : Quiet s t) (h₂ : Quiet t u)
    (hU : t.ringUnused = s.ringUnused) : Quiet s u where
  receive := h₂.receive.trans h₁.receive
  flush := h₂.flush.trans h₁.flush
  inflight := fun p hp hp' => by
    rw [h₂.inflight p (h₁.receive ▸ hp) (hU ▸ hp'), h₁.inflight p hp hp']

theorem prefetchCleanupTrailingUnused_frame {s : Backend} (h : Inv₀ s) :
    RingFrame s (prefetchCleanupTrailingUnused s) ∧ Quiet s (prefetchCleanupTrailingUnused s) := by
  obtain ⟨m, heq, h₁, h₂, h₃, -⟩ :=
    prefetchCleanupTrailingUnused_eq h.order.1 (h.order.2.1.trans h.order.2.2)
  rw [heq]
  refine ⟨.of rfl h₁ (fun _ _ => rfl) (fun _ h => h) ?_, ⟨rfl, rfl, fun _ _ _ => rfl⟩⟩
  rw [s.liveIn_append h₁ (h₂.trans (h.order.2.1.trans h.order.2.2)), s.liveIn_eq_nil h₃]
  exact List.Sublist.refl _

theorem Zeroed.cleanup {s : Backend} (h : Inv₀ s) (hz : s.Zeroed) :
    (prefetchCleanupTrailingUnused s).Zeroed := by
  obtain ⟨m, heq, -⟩ := prefetchCleanupTrailingUnused_eq h.order.1 (h.order.2.1.trans h.order.2.2)
  rw [heq]; exact hz

theorem compactPrefetchBuffers_inv {s : Backend} (hs : Inv s) (hz : s.Zeroed) :
    Inv (compactPrefetchBuffers s).1 ∧ (compactPrefetchBuffers s).1.Zeroed ∧
      RingFrame s (compactPrefetchBuffers s).1 ∧ Quiet s (compactPrefetchBuffers s).1 := by
  rcases compactPrefetchBuffers_cases hs with ⟨-, he⟩ | ⟨-, t, j, n, hi, he⟩
  · rw [he]; exact ⟨hs, hz, .refl s, .refl s⟩
  · rw [he]
    have hinv := hi.inv₀ hs
    obtain ⟨hf, hq⟩ := prefetchCleanupTrailingUnused_frame hinv
    obtain ⟨-, -, hU, -⟩ := hi.ring_eq
    have hst : RingFrame s t ∧ Quiet s t := by
      obtain ⟨buf, hash, rfl⟩ := hi.frame
      exact ⟨.of rfl le_rfl hi.outside hi.fresh ((hi.liveIn_eq hs).symm ▸ List.Sublist.refl _),
        ⟨rfl, rfl, hi.above⟩⟩
    exact ⟨inv_cleanup hinv, Zeroed.cleanup hinv (hi.zeroed hz), hst.1.trans hf,
      hst.2.trans hq hU⟩

theorem Inv₀.slotAt_clear {s t : Backend} (hs : Inv₀ s) {k : Nat} (hk : s.Live k)
    (hbuf : ∀ c, t.prfBuffer c = if c = s.cell k then .empty else s.prfBuffer c)
    (hcap : t.readaheadBufferSize = s.readaheadBufferSize) {p : Nat} (hp : s.ringLast ≤ p)
    (hp' : p < s.ringUnused) : t.slotAt p = if p = k then .empty else s.slotAt p := by
  rw [slotAt, show t.cell p = s.cell p by simp only [cell, hcap], hbuf]
  simp only [hs.cell_eq_iff hp hp' hk.1 hk.2.1]
  rfl

theorem liveIn_clear {s t : Backend} {k a b : Nat} (ha : a ≤ k) (hb : k < b)
    (slot : ∀ p, a ≤ p → p < b → t.slotAt p = if p = k then .empty else s.slotAt p) :
    t.liveIn a b = s.liveIn a k ++ s.liveIn (k + 1) b := by
  have e₁ : t.liveIn a k = s.liveIn a k :=
    liveIn_congr fun p h₁ h₂ => by rw [slot p h₁ (by omega), if_neg (by omega)]
  have e₂ : t.liveIn (k + 1) b = s.liveIn (k + 1) b :=
    liveIn_congr fun p h₁ h₂ => by rw [slot p (by omega) h₂, if_neg (by omega)]
  rw [t.liveIn_append ha hb.le, t.liveIn_cons hb, slot k ha hb, if_pos rfl,
    PrefetchRequest.view_of_unused rfl, e₁, e₂]
  rfl

theorem RingFrame.clear {s t : Backend} (hs : Inv₀ s) {k : Nat} (hk : s.Live k)
    (hbuf : ∀ c, t.prfBuffer c = if c = s.cell k then .empty else s.prfBuffer c)
    (hhash : ∀ u, t.prfHash u = if u = (s.slotAt k).buftag then none else s.prfHash u)
    (hL : t.ringLast = s.ringLast) (hconn : t.conn = s.conn) : RingFrame s t := by
  have hU : t.ringUnused = s.ringUnused := congrArg (·.1) hconn
  have hcap : t.readaheadBufferSize = s.readaheadBufferSize := congrArg (·.2.1) hconn
  refine .of hconn hL.ge (fun c hn => ?_) (fun u hu => by rw [hhash, hu]; split_ifs <;> rfl) ?_
  · rw [hbuf, if_neg (Ne.symm (hn k hk.1 hk.2.1))]
  · rw [hL, hU, liveIn_clear hk.1 hk.2.1 fun p h₁ h₂ => hs.slotAt_clear hk hbuf hcap h₁ h₂,
      s.liveIn_append hk.1 hk.2.1.le, s.liveIn_cons hk.2.1]
    exact (List.Sublist.refl _).append (List.sublist_append_right _ _)

theorem Inv.clear {s t : Backend} (hs : Inv s) {k : Nat} (hk : s.Live k)
    (hbuf : ∀ c, t.prfBuffer c = if c = s.cell k then .empty else s.prfBuffer c)
    (hhash : ∀ u, t.prfHash u = if u = (s.slotAt k).buftag then none else s.prfHash u)
    (hL : t.ringLast = s.ringLast) (hconn : t.conn = s.conn)
    (hR : t.ringReceive = s.ringReceive ∧ k < s.ringReceive ∨
      t.ringReceive = s.ringReceive + 1 ∧ k = s.ringReceive)
    (hF : t.ringReceive ≤ t.ringFlush ∧ t.ringFlush ≤ t.ringUnused)
    (hi : t.nRequestsInflight = ((t.ringUnused - t.ringReceive : Nat) : Int))
    (hb : t.nResponsesBuffered = s.nResponsesBuffered - if k < s.ringReceive then 1 else 0) :
    Inv₀ t := by
  have hU : t.ringUnused = s.ringUnused := congrArg (·.1) hconn
  have hcap : t.readaheadBufferSize = s.readaheadBufferSize := congrArg (·.2.1) hconn
  have ho := hs.order
  have slot : ∀ p, s.ringLast ≤ p → p < s.ringUnused →
      t.slotAt p = if p = k then .empty else s.slotAt p := fun p =>
    hs.slotAt_clear hk hbuf hcap
  have hkR : k < t.ringReceive := by omega
  have hRU : t.ringReceive ≤ s.ringUnused := hU ▸ hF.1.trans hF.2
  have hkL := hk.1
  have received : ∀ p, t.ringLast ≤ p → p < t.ringReceive →
      (t.slotAt p).status = .received ∧ (t.slotAt p).response.isSome ∨
        (t.slotAt p).status = .unused := fun p h₁ h₂ => by
    rw [slot p (hL ▸ h₁) (by omega)]
    split_ifs with hpk
    · exact .inr rfl
    · exact hs.received p (hL ▸ h₁) (by omega)
  have hlive : t.liveIn s.ringLast t.ringReceive =
      s.liveIn s.ringLast k ++ s.liveIn (k + 1) t.ringReceive :=
    liveIn_clear hk.1 hkR fun p h₁ h₂ => slot p h₁ (by omega)
  refine ⟨⟨hL ▸ ho.1.trans (by omega), hF⟩, by rw [hL, hU, hcap]; exact hs.bound,
    fun p h₁ h₂ => ?_, received, fun c hc hn => ?_, fun p hp => ?_, hi, ?_, ?_⟩
  · rw [slot p (by omega) (hU ▸ h₂), if_neg (by omega)]
    exact hs.requested p (by omega) (hU ▸ h₂)
  · have hk' : s.cell k ≠ c := by
      have := hn k (hL ▸ hk.1) (hU ▸ hk.2.1); rwa [show t.cell k = s.cell k by simp only [cell, hcap]] at this
    rw [hbuf, if_neg (Ne.symm hk')]
    exact hs.outside c (hcap ▸ hc) fun p h₁ h₂ hpc =>
      hn p (hL ▸ h₁) (hU ▸ h₂) (by simp only [cell, hcap]; exact hpc)
  · obtain ⟨h₁, h₂, h₃⟩ := hp
    rw [slot p (hL ▸ h₁) (hU ▸ h₂)] at h₃ ⊢
    split_ifs at h₃ ⊢ with hpk
    · exact absurd rfl h₃
    · exact hs.index p ⟨hL ▸ h₁, hU ▸ h₂, h₃⟩
  · rw [hb, hs.buffered, hs.countReceived_eq, countReceived, hL,
      countP_received_eq_length t fun p h₁ h₂ => (received p (hL ▸ h₁) h₂).imp_left (·.1), hlive]
    rcases hR with ⟨hR, hkR'⟩ | ⟨hR, rfl⟩
    · rw [hR, s.liveIn_append hk.1 hkR'.le, s.liveIn_cons hkR', if_pos hkR',
        PrefetchRequest.view, if_neg hk.2.2]
      simp only [List.length_append, Option.toList_some, List.length_singleton]
      omega
    · rw [hR, if_neg (lt_irrefl _), s.liveIn_eq_nil (a := s.ringReceive + 1) fun p h₁ h₂ => by omega]
      simp
  · refine (hs.hash.retire (c := s.cell k) (t := (s.slotAt k).buftag)
      (Nat.mod_lt _ hs.cap_pos) hk.2.2 rfl).congr (funext hbuf) (funext fun u => ?_) hcap
    simp only [hhash, setCell_prfHash, hashDelete_prfHash]

theorem Zeroed.clear {s t : Backend} (hz : s.Zeroed) {c : Nat}
    (hbuf : ∀ d, t.prfBuffer d = if d = c then .empty else s.prfBuffer d)
    (hU : t.ringUnused = s.ringUnused) : t.Zeroed :=
  fun d hd => by
    rw [hbuf] at hd ⊢
    split_ifs at hd ⊢
    · exact ⟨rfl, Nat.zero_le _⟩
    · exact hU ▸ hz d hd

theorem retireTail_inv {t : Backend} (k : Nat) (ht : Inv₀ t) (hz : t.Zeroed)
    (hl : t.ringLast ≠ k → t.ringLast < t.ringReceive → (t.slotAt t.ringLast).status ≠ .unused) :
    Inv (retireTail t k) ∧ (retireTail t k).Zeroed ∧ RingFrame t (retireTail t k) ∧
      Quiet t (retireTail t k) := by
  by_cases hk : t.ringLast = k
  · simp only [retireTail, if_pos hk]
    obtain ⟨hf, hq⟩ := prefetchCleanupTrailingUnused_frame ht
    exact ⟨inv_cleanup ht, Zeroed.cleanup ht hz, hf, hq⟩
  · have hi : Inv t := ⟨ht, hl hk⟩
    simp only [retireTail, if_neg hk]
    split
    · exact compactPrefetchBuffers_inv hi hz
    · exact ⟨hi, hz, .refl t, .refl t⟩

theorem clearTail_inv {s t : Backend} (hs : Inv s) (hz : s.Zeroed) {k : Nat} (hk : s.Live k)
    (hbuf : ∀ c, t.prfBuffer c = if c = s.cell k then .empty else s.prfBuffer c)
    (hhash : ∀ u, t.prfHash u = if u = (s.slotAt k).buftag then none else s.prfHash u)
    (hL : t.ringLast = s.ringLast) (hconn : t.conn = s.conn)
    (hR : t.ringReceive = s.ringReceive ∧ k < s.ringReceive ∨
      t.ringReceive = s.ringReceive + 1 ∧ k = s.ringReceive)
    (hF : t.ringReceive ≤ t.ringFlush ∧ t.ringFlush ≤ t.ringUnused)
    (hi : t.nRequestsInflight = ((t.ringUnused - t.ringReceive : Nat) : Int))
    (hb : t.nResponsesBuffered = s.nResponsesBuffered - if k < s.ringReceive then 1 else 0) :
    Inv (retireTail t k) ∧ (retireTail t k).Zeroed ∧ RingFrame s (retireTail t k) ∧
      Quiet t (retireTail t k) ∧ (retireTail t k).prfHash (s.slotAt k).buftag = none := by
  have ht := hs.clear hk hbuf hhash hL hconn hR hF hi hb
  have hcap : t.readaheadBufferSize = s.readaheadBufferSize := congrArg (·.2.1) hconn
  have hl : t.ringLast ≠ k → t.ringLast < t.ringReceive →
      (t.slotAt t.ringLast).status ≠ .unused := fun h₁ h₂ => by
    have hLk : s.ringLast ≠ k := hL ▸ h₁
    rw [hL, hs.slotAt_clear hk hbuf hcap le_rfl (by have := hk.2.1; have := hk.1; omega),
      if_neg hLk]
    exact hs.lastLive (by omega)
  obtain ⟨h₁, h₂, h₃, h₄⟩ := retireTail_inv k ht (Zeroed.clear hz hbuf (congrArg (·.1) hconn)) hl
  exact ⟨h₁, h₂, (RingFrame.clear hs.toInv₀ hk hbuf hhash hL hconn).trans h₃, h₄,
    h₃.fresh _ (by rw [hhash, if_pos rfl])⟩

theorem prefetchSetUnused_of_received {s : Backend} {k : Nat}
    (hk : s.ringLast ≤ k ∧ k < s.ringUnused) (hr : (s.slotAt k).status = .received) :
    prefetchSetUnused s k = retireTail
      (({ s with released := s.released ++ ((s.slotAt k).response.map Response.id).toList
                 nResponsesBuffered := s.nResponsesBuffered - 1
                 nUnused := s.nUnused + 1 }.hashDelete (s.slotAt k).buftag).setCell (s.cell k) .empty)
      k := by
  have hr' : (s.prfBuffer (s.cell k)).status = .received := hr
  have hu : ¬(s.prfBuffer (s.cell k)).status = .unused := by rw [hr']; decide
  simp only [prefetchSetUnused, assertSlot_of_mem s k hk, if_neg (Nat.not_lt.2 hk.1)]
  rw [if_neg hu, check_of _ _ (Or.inl hr' : _ ∨ _), if_pos hr']
  rfl

theorem prefetchSetUnused_of_tagRemains {s : Backend} {k : Nat}
    (hk : s.ringLast ≤ k ∧ k < s.ringUnused) (hr : (s.slotAt k).status = .tagRemains) :
    prefetchSetUnused s k =
      retireTail ((s.hashDelete (s.slotAt k).buftag).setCell (s.cell k) .empty) k := by
  have hr' : (s.prfBuffer (s.cell k)).status = .tagRemains := hr
  have hu : ¬(s.prfBuffer (s.cell k)).status = .unused := by rw [hr']; decide
  have hn : ¬(s.prfBuffer (s.cell k)).status = .received := by rw [hr']; decide
  simp only [prefetchSetUnused, assertSlot_of_mem s k hk, if_neg (Nat.not_lt.2 hk.1)]
  rw [if_neg hu, check_of _ _ (Or.inr hr' : _ ∨ _), if_neg hn]
  rfl

theorem RingFrame.check (s : Backend) {b : Prop} [Decidable b] (a : Assertion) :
    RingFrame s (s.check b a) :=
  .of rfl le_rfl (fun _ _ => rfl) (fun _ h => h) (List.Sublist.refl _)

theorem Quiet.check (s : Backend) {b : Prop} [Decidable b] (a : Assertion) : Quiet s (s.check b a) :=
  ⟨rfl, rfl, fun _ _ _ => rfl⟩

theorem prefetchSetUnused_inv {s : Backend} (hs : Inv s) (hz : s.Zeroed) {k : Nat}
    (hk : k < s.ringReceive ∨ k = s.ringUnused) :
    Inv (prefetchSetUnused s k) ∧ (prefetchSetUnused s k).Zeroed ∧
      RingFrame s (prefetchSetUnused s k) ∧ Quiet s (prefetchSetUnused s k) ∧
      (s.Live k → (prefetchSetUnused s k).prfHash (s.slotAt k).buftag = none) := by
  have ho := hs.order
  have idle : k < s.ringLast ∨ (s.slotAt k).status = .unused →
      prefetchSetUnused s k = s.assertSlot k := by
    rintro (h | h)
    · simp only [prefetchSetUnused, assertSlot, check_ringLast, if_pos h]
    · have h' : (s.prfBuffer (s.cell k)).status = .unused := h
      simp only [prefetchSetUnused, assertSlot, check_ringLast, check_prfBuffer, check_cell, h',
        if_true]
      split_ifs <;> rfl
  by_cases hin : s.ringLast ≤ k ∧ (s.slotAt k).status ≠ .unused
  · have hkR : k < s.ringReceive := by
      refine hk.resolve_right fun e => hin.2 ?_
      subst e
      have hb := hs.bound
      exact hs.outside _ (Nat.mod_lt _ hs.cap_pos) fun p h₁ h₂ hc =>
        absurd (cell_inj h₁ (by omega) (ho.1.trans (ho.2.1.trans ho.2.2)) (by omega) hc)
          (by omega)
    have hrec := (hs.received k hin.1 hkR).resolve_right hin.2
    have hlive : s.Live k := ⟨hin.1, by omega, hin.2⟩
    suffices H : ∀ t : Backend,
        (∀ c, t.prfBuffer c = if c = s.cell k then .empty else s.prfBuffer c) →
        (∀ u, t.prfHash u = if u = (s.slotAt k).buftag then none else s.prfHash u) →
        t.ringLast = s.ringLast → t.conn = s.conn → t.ringReceive = s.ringReceive →
        t.ringFlush = s.ringFlush → t.nRequestsInflight = s.nRequestsInflight →
        t.nResponsesBuffered = s.nResponsesBuffered - 1 →
        Inv (retireTail t k) ∧ (retireTail t k).Zeroed ∧ RingFrame s (retireTail t k) ∧
          Quiet s (retireTail t k) ∧
          (s.Live k → (retireTail t k).prfHash (s.slotAt k).buftag = none) by
      rw [prefetchSetUnused_of_received ⟨hin.1, by omega⟩ hrec.1]
      exact H _ (fun c => by simp) (fun u => by simp) rfl rfl rfl rfl rfl rfl
    intro t hbuf hhash hL hconn hR hF hi hb
    have hU : t.ringUnused = s.ringUnused := congrArg (·.1) hconn
    have hcap : t.readaheadBufferSize = s.readaheadBufferSize := congrArg (·.2.1) hconn
    obtain ⟨h₁, h₂, h₃, h₄, h₅⟩ := clearTail_inv hs hz hlive hbuf hhash hL hconn (.inl ⟨hR, hkR⟩)
      (by rw [hR, hF, hU]; exact ho.2) (by rw [hi, hU, hR]; exact hs.inflight)
      (by rw [hb, if_pos hkR])
    refine ⟨h₁, h₂, h₃, Quiet.trans ⟨hR, hF, fun p hp hp' => ?_⟩ h₄ hU, fun _ => h₅⟩
    rw [hs.slotAt_clear hlive hbuf hcap (by omega) hp', if_neg (by omega)]
  · rw [idle (by by_contra h; push_neg at h; exact hin ⟨by omega, h.2⟩)]
    exact ⟨hs.congr rfl, hz, .check s _, .check s _, fun h => absurd ⟨h.1, h.2.2⟩ hin⟩

theorem disconnectSlot_inv {s : Backend} (hs : Inv s) (hz : s.Zeroed)
    (hF : s.ringFlush = s.ringUnused) (hR : s.ringReceive < s.ringUnused) :
    Inv (disconnectSlot s) ∧ (disconnectSlot s).Zeroed ∧ RingFrame s (disconnectSlot s) ∧
      (disconnectSlot s).ringReceive = s.ringReceive + 1 ∧
      (disconnectSlot s).ringFlush = s.ringFlush := by
  have ho := hs.order
  have hlive : s.Live s.ringReceive :=
    ⟨ho.1, hR, by rw [(hs.requested _ le_rfl hR).1]; decide⟩
  suffices H : ∀ t : Backend,
      (∀ c, t.prfBuffer c = if c = s.cell s.ringReceive then .empty else s.prfBuffer c) →
      (∀ u, t.prfHash u = if u = (s.slotAt s.ringReceive).buftag then none else s.prfHash u) →
      t.ringLast = s.ringLast → t.conn = s.conn → t.ringReceive = s.ringReceive + 1 →
      t.ringFlush = s.ringFlush → t.nRequestsInflight = s.nRequestsInflight - 1 →
      t.nResponsesBuffered = s.nResponsesBuffered →
      Inv (retireTail t s.ringReceive) ∧ (retireTail t s.ringReceive).Zeroed ∧
        RingFrame s (retireTail t s.ringReceive) ∧
        (retireTail t s.ringReceive).ringReceive = s.ringReceive + 1 ∧
        (retireTail t s.ringReceive).ringFlush = s.ringFlush by
    simp only [disconnectSlot, assertSlot_of_mem s _ ⟨ho.1, hR⟩]
    rw [prefetchSetUnused_of_tagRemains]
    · refine H _ (fun c => ?_) (fun u => by simp [slotAt, cell]) rfl rfl rfl rfl rfl rfl
      simp only [setCell_prfBuffer, hashDelete_prfBuffer, setCell_readaheadBufferSize, cell]
      split_ifs <;> rfl
    · exact ⟨ho.1, hR⟩
    · simp [slotAt, cell]
  intro t hbuf hhash hL hconn hR' hF' hi hb
  have hU : t.ringUnused = s.ringUnused := congrArg (·.1) hconn
  obtain ⟨h₁, h₂, h₃, h₄, -⟩ := clearTail_inv hs hz hlive hbuf hhash hL hconn (.inr ⟨hR', rfl⟩)
    (by omega) (by rw [hi, hU, hR', hs.inflight]; omega)
    (by rw [hb, if_neg (lt_irrefl _)]; simp)
  exact ⟨h₁, h₂, h₃, h₄.receive.trans hR', h₄.flush.trans hF'⟩

theorem disconnectLoop_inv (n : Nat) : ∀ s : Backend, Inv s → s.Zeroed →
    s.ringFlush = s.ringUnused → s.ringUnused - s.ringReceive ≤ n →
    Inv (disconnectLoop n s) ∧ (disconnectLoop n s).Zeroed ∧ RingFrame s (disconnectLoop n s) ∧
      (disconnectLoop n s).ringReceive = s.ringUnused ∧
      (disconnectLoop n s).ringFlush = s.ringUnused := by
  induction n with
  | zero =>
    intro s hs hz hF hn
    have := hs.order.2
    exact ⟨hs, hz, .refl s, show s.ringReceive = s.ringUnused by omega, hF⟩
  | succ n ih =>
    intro s hs hz hF hn
    by_cases hR : s.ringReceive < s.ringUnused
    · rw [disconnectLoop, if_pos hR]
      obtain ⟨h₁, h₂, h₃, h₄, h₅⟩ := disconnectSlot_inv hs hz hF hR
      obtain ⟨g₁, g₂, g₃, g₄, g₅⟩ :=
        ih _ h₁ h₂ (by rw [h₅, hF, h₃.unused]) (by rw [h₃.unused, h₄]; omega)
      exact ⟨g₁, g₂, h₃.trans g₃, g₄.trans h₃.unused, g₅.trans h₃.unused⟩
    · rw [disconnectLoop, if_neg hR]
      have := hs.order.2
      exact ⟨hs, hz, .refl s, by omega, hF⟩

theorem Inv.flushAll {s : Backend} (hs : Inv s) : Inv { s with ringFlush := s.ringUnused } :=
  ⟨⟨⟨hs.order.1, hs.order.2.1.trans hs.order.2.2, le_rfl⟩, hs.bound, hs.requested, hs.received,
    hs.outside, hs.index, hs.inflight, hs.buffered, hs.hash⟩, hs.lastLive⟩

theorem prefetchOnPsDisconnect_inv {s : Backend} (hs : Inv s) (hz : s.Zeroed) :
    Inv (prefetchOnPsDisconnect s) ∧ (prefetchOnPsDisconnect s).Zeroed ∧
      RingFrame s (prefetchOnPsDisconnect s) ∧
      (prefetchOnPsDisconnect s).ringReceive = s.ringUnused ∧
      (prefetchOnPsDisconnect s).ringFlush = s.ringUnused := by
  obtain ⟨h₁, h₂, h₃, h₄, h₅⟩ :=
    disconnectLoop_inv (s.ringUnused - s.ringReceive) _ hs.flushAll hz rfl le_rfl
  have hf : RingFrame s { s with ringFlush := s.ringUnused } :=
    .of rfl le_rfl (fun _ _ => rfl) (fun _ h => h) (List.Sublist.refl _)
  exact ⟨h₁, h₂, hf.trans h₃, h₄, h₅⟩

end PagestoreSmgr
