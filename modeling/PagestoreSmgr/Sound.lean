import PagestoreSmgr.Retire

/-!
# The ring invariant across the pipeline's writes

`Sound` is the ring invariant with every `UNUSED` cell zeroed, the form that every
operation keeps. This module says what each write of the pipeline does to it: a
transport call that keeps the connection leaves the ring alone; one that drops it runs
the disconnect hook, which retires every request in flight; a stored response turns the
oldest request in flight into a buffered one; filling the cell at `ring_unused` touches
no live slot; and issuing the filled slot adds it to the window.
-/

set_option autoImplicit false

namespace PagestoreSmgr

open Backend

theorem Backend.HashIndexes.of_tags {s t : Backend} (h : s.HashIndexes) (hh : t.prfHash = s.prfHash)
    (hc : t.readaheadBufferSize = s.readaheadBufferSize)
    (hb : ∀ c, (t.prfBuffer c).view.map (·.buftag) = (s.prfBuffer c).view.map (·.buftag)) :
    t.HashIndexes := by
  intro u c
  rw [hh, hc, h u c]
  have := hb c
  simp only [PrefetchRequest.view] at this
  split_ifs at this <;> simp_all

theorem Inv₀.pos_of_live {s : Backend} (h : Inv₀ s) {c : Nat} (hc : c < s.readaheadBufferSize)
    (hl : (s.prfBuffer c).status ≠ .unused) : ∃ p, s.Live p ∧ s.cell p = c := by
  by_contra hn
  refine hl (h.outside c hc fun p h₁ h₂ hpc => hn ⟨p, ⟨h₁, h₂, ?_⟩, hpc⟩)
  rwa [slotAt, hpc]

theorem Inv₀.cell_unused_ne {s : Backend} (h : Inv₀ s) {p : Nat} (h₁ : s.ringLast ≤ p)
    (h₂ : p < s.ringUnused) : s.cell p ≠ s.cell s.ringUnused := fun e => by
  have := h.bound; have := h.order
  exact absurd (cell_inj (s := s) h₁ (by omega) (by omega) (by omega) e) (by omega)

theorem Frame.of_ring {s t : Backend} (e : t.ring = s.ring) : Frame s t := by
  obtain ⟨⟩ := s; obtain ⟨⟩ := t
  simp only [ring, Prod.mk.injEq] at e
  obtain ⟨rfl, -, -, rfl, rfl, rfl, rfl, -⟩ := e
  exact ⟨rfl, rfl, le_rfl, fun _ _ => rfl, fun _ h => h⟩

theorem Frame.assertSlot (s : Backend) (k : Nat) : Frame s (s.assertSlot k) := .of_ring rfl

/-- The ring invariant, with every `UNUSED` cell zeroed. -/
structure Sound (s : Backend) : Prop where
  inv : Inv s
  zeroed : s.Zeroed

theorem sound_neonInit (cap flush : Nat) (h : 0 < cap) : Sound (neonInit cap flush) :=
  ⟨inv_neonInit cap flush h, zeroed_neonInit cap flush⟩

namespace Sound

variable {s t : Backend}

theorem congr (h : Sound s) (e : t.ring = s.ring) : Sound t := by
  refine ⟨h.inv.congr e, fun c hc => ?_⟩
  obtain ⟨⟩ := s; obtain ⟨⟩ := t
  simp only [ring, Prod.mk.injEq] at e
  obtain ⟨-, -, -, rfl, -, rfl, -⟩ := e
  exact h.zeroed c hc

theorem flushAll (h : Sound s) : Sound { s with ringFlush := s.ringUnused } :=
  ⟨h.inv.flushAll, h.zeroed⟩

theorem unused_slot (h : Sound s) : (s.slotAt s.ringUnused).status = .unused :=
  h.inv.outside _ (Nat.mod_lt _ h.inv.cap_pos) fun _ h₁ h₂ => h.inv.cell_unused_ne h₁ h₂

theorem last_lt_unused (h : Sound s) (hl : (s.slotAt s.ringLast).status ≠ .unused) :
    s.ringLast < s.ringUnused := by
  have ho := h.inv.order
  refine Nat.lt_of_le_of_ne (by omega) fun e => hl ?_
  rw [e]; exact h.unused_slot

theorem ne_tagRemains (h : Sound s) {c : Nat} (hc : c < s.readaheadBufferSize) :
    (s.prfBuffer c).status ≠ .tagRemains := by
  by_cases hl : (s.prfBuffer c).status = .unused
  · rw [hl]; decide
  obtain ⟨p, hp, rfl⟩ := h.inv.pos_of_live hc hl
  show (s.slotAt p).status ≠ _
  rcases Nat.lt_or_ge p s.ringReceive with hpR | hpR
  · rcases h.inv.received p hp.1 hpR with h' | h'
    · rw [h'.1]; decide
    · rw [h']; decide
  · rw [(h.inv.requested p hpR hp.2.1).1]; decide

theorem live_of_hash (h : Sound s) {k : Nat} {u : BufferTag} (hk : s.ringLast ≤ k)
    (hk' : k < s.ringUnused) (hu : s.prfHash u = some (s.cell k)) :
    s.Live k ∧ (s.slotAt k).buftag = u := by
  obtain ⟨p, hp, hpc, rfl⟩ := (h.inv.hash_live u _).1 hu
  obtain rfl := (h.inv.cell_eq_iff hp.1 hp.2.1 hk hk').1 hpc
  exact ⟨hp, rfl⟩

theorem disconnected (h : Sound s) :
    Sound (disconnect s) ∧ Frame s (disconnect s) ∧
      (disconnect s).ringReceive = s.ringUnused ∧ (disconnect s).ringFlush = s.ringUnused := by
  have h' : Sound s.nextCall.dropConnection := h.congr rfl
  obtain ⟨h₁, h₂, h₃, h₄, h₅⟩ := prefetchOnPsDisconnect_inv h'.inv h'.zeroed
  exact ⟨⟨h₁, h₂⟩, ⟨h₃.unused, h₃.cap, h₃.last, h₃.outside, h₃.fresh⟩, h₄, h₅⟩

theorem disconnect_drops (h : Sound s) {p : Nat} (hp : s.ringReceive ≤ p)
    (hp' : p < s.ringUnused) : (disconnect s).prfHash (s.slotAt p).buftag = none := by
  have h' : Sound s.nextCall.dropConnection := h.congr rfl
  have hsub := (prefetchOnPsDisconnect_inv h'.inv h'.zeroed).2.2.1.sub
  obtain ⟨ht, hf, hR, -⟩ := h.disconnected
  rcases hc : (disconnect s).prfHash (s.slotAt p).buftag with _ | c
  · rfl
  exfalso
  obtain ⟨q, hq, -, hqt⟩ := (ht.inv.hash_live _ _).1 hc
  have hrec := ((ht.inv.received q hq.1 (by rw [hR, ← hf.unused]; exact hq.2.1)).resolve_right
    hq.2.2).1
  obtain ⟨q', h₁, h₂, hv⟩ := mem_liveIn.1 (hsub.subset (mem_liveIn.2
    ⟨q, hq.1, hq.2.1, PrefetchRequest.view_eq_some.2 ⟨hq.2.2, rfl⟩⟩))
  obtain ⟨hl', hv'⟩ := PrefetchRequest.view_eq_some.1 hv
  have htag : (s.slotAt q').buftag = (s.slotAt p).buftag := by
    have e := congrArg PrefetchRequest.buftag hv'
    rw [← hqt]; exact e
  have hst : (s.slotAt q').status = .received := by
    have e := congrArg PrefetchRequest.status hv'
    rw [← hrec]; exact e
  have hreq := (h.inv.requested p hp hp').1
  obtain rfl := h.inv.tag_inj ⟨h₁, h₂, hl'⟩ ⟨h.inv.order.1.trans hp, hp', by rw [hreq]; decide⟩ htag
  rw [hreq] at hst
  exact absurd hst (by decide)

theorem setUnused (h : Sound s) {k : Nat} (hk : k < s.ringReceive ∨ k = s.ringUnused) :
    Sound (prefetchSetUnused s k) ∧ RingFrame s (prefetchSetUnused s k) ∧
      Quiet s (prefetchSetUnused s k) :=
  let ⟨h₁, h₂, h₃, h₄, _⟩ := prefetchSetUnused_inv h.inv h.zeroed hk
  ⟨⟨h₁, h₂⟩, h₃, h₄⟩

theorem setUnused_drops (h : Sound s) {k : Nat} {u : BufferTag} (hk : s.ringLast ≤ k)
    (hkR : k < s.ringReceive) (hu : s.prfHash u = some (s.cell k)) :
    (prefetchSetUnused s k).prfHash u = none := by
  have := h.inv.order
  obtain ⟨hl, rfl⟩ := h.live_of_hash hk (by omega) hu
  exact (prefetchSetUnused_inv h.inv h.zeroed (.inl hkR)).2.2.2.2 hl

theorem setUnused_last (h : Sound s) (hL : s.ringLast < s.ringReceive) :
    s.ringLast < (prefetchSetUnused s s.ringLast).ringLast := by
  have ho := h.inv.order
  have hrec := (h.inv.received _ le_rfl hL).resolve_right (h.inv.lastLive hL)
  suffices H : ∀ t : Backend, t.ringLast = s.ringLast → t.ringReceive = s.ringReceive →
      t.ringUnused = s.ringUnused → (t.slotAt s.ringLast).status = .unused →
      s.ringLast < (retireTail t s.ringLast).ringLast by
    rw [prefetchSetUnused_of_received ⟨le_rfl, by omega⟩ hrec.1]
    exact H _ rfl rfl rfl (by simp [cell])
  intro t hL' hR hU hu
  rw [retireTail, if_pos hL']
  obtain ⟨m, heq, h₁, -, -, h₄⟩ := prefetchCleanupTrailingUnused_eq (s := t) (by omega) (by omega)
  rw [heq]
  by_contra hm
  have hm' : m = t.ringLast := by simp only at hm; omega
  exact h₄ (by omega) (by rw [hm', hL']; exact hu)

theorem retire_past (h : Sound s) {k : Nat} (hk : k < s.ringReceive) (hL : k ≤ s.ringLast) :
    k < (prefetchSetUnused s k).ringLast := by
  rcases Nat.lt_or_eq_of_le hL with hL | rfl
  · exact Nat.lt_of_lt_of_le hL (h.setUnused (.inl hk)).2.1.last
  · exact h.setUnused_last hk

theorem cleanup (h : Sound s) : Sound (prefetchCleanupTrailingUnused s) ∧
    RingFrame s (prefetchCleanupTrailingUnused s) ∧ Quiet s (prefetchCleanupTrailingUnused s) :=
  ⟨⟨inv_cleanup h.inv.toInv₀, Zeroed.cleanup h.inv.toInv₀ h.zeroed⟩,
    prefetchCleanupTrailingUnused_frame h.inv.toInv₀⟩

theorem index_le (h : Sound s) {c : Nat} (hc : c < s.readaheadBufferSize) :
    (s.prfBuffer c).myRingIndex ≤ s.ringUnused := by
  by_cases hl : (s.prfBuffer c).status = .unused
  · exact (h.zeroed c hl).2
  · obtain ⟨p, hp, rfl⟩ := h.inv.pos_of_live hc hl
    exact (h.inv.index p hp).trans_le hp.2.1.le

theorem fill (h : Sound s) {v : PrefetchRequest} (hv : v.status = .unused)
    (hr : v.response = none) (hi : v.myRingIndex ≤ s.ringUnused) :
    Sound (s.setCell (s.cell s.ringUnused) v) := by
  have slot : ∀ p, s.ringLast ≤ p → p < s.ringUnused →
      (s.setCell (s.cell s.ringUnused) v).slotAt p = s.slotAt p := fun p h₁ h₂ => by
    rw [setCell_slotAt, if_neg (h.inv.cell_unused_ne h₁ h₂)]
  have hu := h.unused_slot
  obtain ⟨hLR, hRF, hFU⟩ := h.inv.order
  refine ⟨⟨⟨h.inv.order, h.inv.bound, fun p (h₁ : s.ringReceive ≤ p) (h₂ : p < s.ringUnused) => ?_,
    fun p (h₁ : s.ringLast ≤ p) (h₂ : p < s.ringReceive) => ?_, fun c hc hn => ?_,
    fun p hp => ?_, h.inv.inflight, ?_, ?_⟩, fun (hl : s.ringLast < s.ringReceive) => ?_⟩,
    fun c hc => ?_⟩
  · rw [slot p (by omega) h₂]; exact h.inv.requested p h₁ h₂
  · rw [slot p h₁ (by omega)]; exact h.inv.received p h₁ h₂
  · simp only [setCell_prfBuffer]
    split_ifs with hcU
    · exact hv
    · exact h.inv.outside c hc hn
  · obtain ⟨h₁, h₂, h₃⟩ := hp
    rw [slot p h₁ h₂] at h₃ ⊢; exact h.inv.index p ⟨h₁, h₂, h₃⟩
  · rw [setCell_nResponsesBuffered, h.inv.buffered, countReceived, countReceived, setCell_ringLast,
      setCell_ringReceive]
    exact congrArg _ (List.countP_congr fun p hp => by
      rw [List.mem_range'_1] at hp; rw [slot p hp.1 (by omega)])
  · refine h.inv.hash.of_tags rfl rfl fun c => ?_
    simp only [setCell_prfBuffer]
    split_ifs with hcU
    · rw [hcU, PrefetchRequest.view_of_unused hv,
        PrefetchRequest.view_of_unused (r := s.prfBuffer (s.cell s.ringUnused)) hu]
    · rfl
  · rw [setCell_ringLast, slot _ le_rfl (by omega)]; exact h.inv.lastLive hl
  · simp only [setCell_prfBuffer] at hc ⊢
    split_ifs at hc ⊢ with hcU
    · exact ⟨hr, hi⟩
    · exact h.zeroed c hc

theorem store (h : Sound s) (hRF : s.ringReceive < s.ringFlush) {r : Response}
    (hbuf : ∀ c, t.prfBuffer c = if c = s.cell s.ringReceive then
      { s.slotAt s.ringReceive with status := .received, response := some r } else s.prfBuffer c)
    (hhash : t.prfHash = s.prfHash) (hL : t.ringLast = s.ringLast)
    (hU : t.ringUnused = s.ringUnused) (hcap : t.readaheadBufferSize = s.readaheadBufferSize)
    (hR : t.ringReceive = s.ringReceive + 1) (hF : t.ringFlush = s.ringFlush)
    (hi : t.nRequestsInflight = s.nRequestsInflight - 1)
    (hb : t.nResponsesBuffered = s.nResponsesBuffered + 1) : Sound t := by
  obtain ⟨hLR, hRF', hFU⟩ := h.inv.order
  have hc : ∀ p, t.cell p = s.cell p := fun p => by simp only [cell, hcap]
  have slot : ∀ p, s.ringLast ≤ p → p < s.ringUnused → t.slotAt p = if p = s.ringReceive then
      { s.slotAt s.ringReceive with status := .received, response := some r } else s.slotAt p :=
    fun p h₁ h₂ => by
      rw [slotAt, hc, hbuf]
      simp only [h.inv.cell_eq_iff h₁ h₂ hLR (by omega)]
      rfl
  have received : ∀ p, t.ringLast ≤ p → p < t.ringReceive → (t.slotAt p).status = .received ∧
      (t.slotAt p).response.isSome ∨ (t.slotAt p).status = .unused := fun p h₁ h₂ => by
    rw [slot p (hL ▸ h₁) (by omega)]
    split_ifs with hp
    · exact .inl ⟨rfl, rfl⟩
    · exact h.inv.received p (hL ▸ h₁) (by omega)
  have hreq := h.inv.requested s.ringReceive le_rfl (by omega)
  refine ⟨⟨⟨⟨by omega, by omega, by omega⟩, by rw [hU, hL, hcap]; exact h.inv.bound,
    fun p h₁ h₂ => ?_, received, fun c hc' hn => ?_, fun p hp => ?_, ?_, ?_, ?_⟩, fun hl => ?_⟩,
    fun c hc' => ?_⟩
  · rw [slot p (by omega) (by omega), if_neg (by omega)]
    exact h.inv.requested p (by omega) (by omega)
  · have hR' : s.cell s.ringReceive ≠ c := hc s.ringReceive ▸ hn _ (by omega) (by omega)
    rw [hbuf, if_neg (Ne.symm hR')]
    exact h.inv.outside c (hcap ▸ hc') fun p h₁ h₂ => hc p ▸ hn p (by omega) (by omega)
  · obtain ⟨h₁, h₂, h₃⟩ := hp
    rw [slot p (by omega) (by omega)] at h₃ ⊢
    split_ifs at h₃ ⊢ with hpR
    · subst hpR; exact h.inv.index _ ⟨hLR, by omega, by simp [hreq.1]⟩
    · exact h.inv.index p ⟨by omega, by omega, h₃⟩
  · rw [hi, h.inv.inflight, hU, hR]; omega
  · have e : t.liveIn s.ringLast s.ringReceive = s.liveIn s.ringLast s.ringReceive :=
      liveIn_congr fun p h₁ h₂ => by rw [slot p h₁ (by omega), if_neg (by omega)]
    rw [hb, h.inv.buffered, h.inv.countReceived_eq, countReceived, hL, hR,
      countP_received_eq_length t fun p h₁ h₂ => (received p (hL ▸ h₁) (hR ▸ h₂)).imp_left (·.1),
      t.liveIn_append hLR (Nat.le_succ _), e, t.liveIn_cons (Nat.lt_succ_self _),
      slot _ hLR (by omega), if_pos rfl]
    simp [liveIn, PrefetchRequest.view]
  · refine h.inv.hash.of_tags hhash hcap fun c => ?_
    rw [hbuf]
    split_ifs with hcR
    · have hreq' : (s.prfBuffer (s.cell s.ringReceive)).status = .requested := hreq.1
      rw [hcR]; simp [PrefetchRequest.view, slotAt, hreq']
    · rfl
  · rw [hL, slot _ le_rfl (by omega)]
    split_ifs with hLR'
    · simp
    · exact h.inv.lastLive (by omega)
  · rw [hbuf] at hc' ⊢
    split_ifs at hc' ⊢
    exact hU ▸ h.zeroed c hc'

theorem issue (h : Sound s) (hroom : s.ringUnused + 2 ≤ s.ringLast + s.readaheadBufferSize)
    (hidx : (s.slotAt s.ringUnused).myRingIndex = s.ringUnused)
    (hfresh : s.prfHash (s.slotAt s.ringUnused).buftag = none)
    (hbuf : t.prfBuffer =
      (s.setCell (s.cell s.ringUnused) { s.slotAt s.ringUnused with status := .requested }).prfBuffer)
    (hhash : t.prfHash = (s.hashInsert (s.slotAt s.ringUnused).buftag (s.cell s.ringUnused)).prfHash)
    (hL : t.ringLast = s.ringLast) (hR : t.ringReceive = s.ringReceive)
    (hF : t.ringFlush = s.ringFlush) (hU : t.ringUnused = s.ringUnused + 1)
    (hcap : t.readaheadBufferSize = s.readaheadBufferSize)
    (hi : t.nRequestsInflight = s.nRequestsInflight + 1)
    (hb : t.nResponsesBuffered = s.nResponsesBuffered) : Sound t := by
  obtain ⟨hLR, hRF, hFU⟩ := h.inv.order
  have hu := h.unused_slot
  have hc : ∀ p, t.cell p = s.cell p := fun p => by simp only [cell, hcap]
  have hbuf' : ∀ c, t.prfBuffer c = if c = s.cell s.ringUnused then
      { s.slotAt s.ringUnused with status := .requested } else s.prfBuffer c := fun c => by
    rw [hbuf]; rfl
  have slot : ∀ p, s.ringLast ≤ p → p ≤ s.ringUnused → t.slotAt p = if p = s.ringUnused then
      { s.slotAt s.ringUnused with status := .requested } else s.slotAt p := fun p h₁ h₂ => by
    rw [slotAt, hc, hbuf']
    simp only [cell_eq_cell_iff (s := s) h₁ (by omega) (by omega : s.ringLast ≤ s.ringUnused)
      (by omega)]
    rfl
  refine ⟨⟨⟨⟨by omega, by omega, by omega⟩, by omega, fun p h₁ h₂ => ?_, fun p h₁ h₂ => ?_,
    fun c hc' hn => ?_, fun p hp => ?_, by rw [hi, h.inv.inflight, hU, hR]; omega, ?_, ?_⟩,
    fun hl => ?_⟩, fun c hc' => ?_⟩
  · rw [slot p (by omega) (by omega)]
    split_ifs with hpU
    · exact ⟨rfl, (h.zeroed _ hu).1⟩
    · exact h.inv.requested p (by omega) (by omega)
  · rw [slot p (by omega) (by omega), if_neg (by omega)]
    exact h.inv.received p (by omega) (by omega)
  · have hU' : s.cell s.ringUnused ≠ c := hc s.ringUnused ▸ hn _ (by omega) (by omega)
    rw [hbuf', if_neg (Ne.symm hU')]
    exact h.inv.outside c (hcap ▸ hc') fun p h₁ h₂ => hc p ▸ hn p (by omega) (by omega)
  · obtain ⟨h₁, h₂, h₃⟩ := hp
    rw [slot p (by omega) (by omega)] at h₃ ⊢
    split_ifs at h₃ ⊢ with hpU
    · exact hpU ▸ hidx
    · exact h.inv.index p ⟨by omega, by omega, h₃⟩
  · rw [hb, h.inv.buffered, countReceived, countReceived, hL, hR]
    exact congrArg _ (List.countP_congr fun p hp => by
      rw [List.mem_range'_1] at hp; rw [slot p hp.1 (by omega), if_neg (by omega)])
  · refine (h.inv.hash.place (c := s.cell s.ringUnused) (Nat.mod_lt _ h.inv.cap_pos) hu
      (v := { s.slotAt s.ringUnused with status := .requested }) (by simp) rfl hfresh).congr
      hbuf hhash hcap
  · rw [hL, slot _ le_rfl (by omega), if_neg (by omega)]
    exact h.inv.lastLive (by omega)
  · rw [hbuf'] at hc' ⊢
    split_ifs at hc' ⊢
    exact ⟨(h.zeroed c hc').1, by have := (h.zeroed c hc').2; omega⟩

end Sound

end PagestoreSmgr
