import PagestoreSmgr.Reliable

/-!
# Over a transport that works, no operation but a resize hangs

Take a state between operations, reached from `neon_init` by operations other than a resize,
with a ring of at least two cells, and a transport whose `send`, `flush` and `receive` all
succeed. Then every operation returns or raises `ERROR`: no `receive` waits for a request that
was never flushed, no busy loop runs out of fuel, and neither `make_room`'s `pg_unreachable()`
nor the `NULL` response of `neon_read_at_lsn` is reached.

The waits terminate because the requests before `ring_flush` are on the wire (`Flushed`). The
read's slot holds a response because over such a transport nothing is retired while the read
waits: the hash still maps the read's tag to the slot, which the pipeline has passed.
-/

set_option autoImplicit false

namespace PagestoreSmgr

open Backend

/-- What a run over a transport that works needs of a state: the ring invariant, a connection
that carries the requests in flight with those before `ring_flush` on the wire, and at least two
cells. -/
structure Backend.Ready (s : Backend) : Prop where
  sound : Sound s
  wired : s.Wired []
  flushed : s.Flushed []
  cap : 2 ≤ s.readaheadBufferSize

theorem Backend.Matched.ready {s : Backend} (h : s.Matched) (hcap : 2 ≤ s.readaheadBufferSize) :
    s.Ready :=
  ⟨h.kept.1, h.kept.2, h.flushed, hcap⟩

theorem Sound.response_isSome {s : Backend} (hs : Sound s) {u : BufferTag} {k : Nat}
    (hL : s.ringLast ≤ k) (hR : k < s.ringReceive) (hu : s.prfHash u = some (s.cell k)) :
    (s.slotAt k).response.isSome := by
  have ho := hs.inv.order
  obtain ⟨⟨-, -, hl⟩, -⟩ := hs.live_of_hash hL (by omega) hu
  rcases hs.inv.received k hL hR with ⟨-, h⟩ | h
  · exact h
  · exact absurd h hl

variable {e : Env} {R : Backend → Prop}

theorem prefetchWaitFor_waited (he : e.Reliable) {k : Nat} {s : Backend} (hs : Sound s)
    (hw : s.Wired []) (hf : s.Flushed []) (hk : k < s.ringUnused) :
    Smgr.twp (prefetchWaitFor k) e
      (fun b t => b = true ∧ Waited k s t ∧ Calm s t ∧ t.Wired [] ∧ t.Flushed []) R s :=
  Smgr.twp_of_wp_imp (prefetchWaitFor_twp he hs hw hf hk)
    (Smgr.wp_mono (Smgr.wp_and (prefetchWaitFor_wp he.disconnectsOnFailure hs hk)
      (prefetchWaitFor_calm he.disconnectsOnFailure hs hk))
      fun _ _ ⟨hu, hc⟩ ⟨hb, _, hwt, hft, _⟩ => ⟨hb, hu, hc hb, hwt, hft⟩)

section Register

theorem sendLoop_twp (he : e.Reliable) (r : NeonRequest) {n : Nat} (hn : 0 < n) {s : Backend}
    {Q : Unit → Backend → Prop} :
    Smgr.twp (sendLoop r n) e Q R s ↔ Q () { s.nextCall with outbuf := s.outbuf ++ [r] } := by
  obtain ⟨m, rfl⟩ : ∃ m, n = m + 1 := ⟨n - 1, by omega⟩
  simp only [sendLoop, Smgr.twp_bind, twp_pageServerSend he, ite_true, Smgr.twp_pure]

theorem prefetchDoRequest_twp (he : e.Reliable) {s : Backend} (c : Nat)
    (force : Option (Bool × XLogRecPtr)) :
    Smgr.twp (prefetchDoRequest c force) e (fun _ t => t.ringLast = s.ringLast ∧
      t.readaheadBufferSize = s.readaheadBufferSize) R s := by
  rcases force with _ | ⟨latest, lsn⟩ <;>
    simp only [prefetchDoRequest, Smgr.twp_bind, Smgr.twp_env, Smgr.twp_get, Smgr.twp_modify,
      sendLoop_twp he _ he.2.2.2] <;>
    exact ⟨rfl, rfl⟩

theorem prefetchInsertNew_twp (he : e.Reliable) {s : Backend} (hs : Sound s) (tag : BufferTag)
    (force : Option (Bool × XLogRecPtr)) :
    Smgr.twp (prefetchInsertNew tag force) e (fun k t => t.ringLast ≤ k ∧
      t.readaheadBufferSize = s.readaheadBufferSize) R s := by
  have ho := hs.inv.order
  simp only [prefetchInsertNew, Smgr.twp_bind, Smgr.twp_get, Smgr.twp_modify]
  refine Smgr.twp_mono (prefetchDoRequest_twp he _ force) fun _ t ⟨hL, hc⟩ => ?_
  replace hL : t.ringLast = s.ringLast := hL
  replace hc : t.readaheadBufferSize = s.readaheadBufferSize := hc
  split_ifs
  · simp only [Smgr.twp_bind, twp_pageServerFlush he, Smgr.twp_modify, Smgr.twp_pure]
    exact ⟨show t.ringLast ≤ s.ringUnused by omega, hc⟩
  · exact ⟨show t.ringLast ≤ s.ringUnused by omega, hc⟩

theorem twp_compactIfNeeded {α : Type} {s : Backend} (hs : Inv s) {k : Bool → Smgr α}
    {Q : α → Backend → Prop}
    (hmoved : (compactPrefetchBuffers s).2 = true →
      Smgr.twp (k true) e Q R (compactPrefetchBuffers s).1)
    (hkept : Smgr.twp (k false) e Q R s) :
    Smgr.twp (if receiveBufferNeedsCompaction s then Smgr.modifyGet compactPrefetchBuffers >>= k
      else pure false >>= k) e Q R s := by
  split_ifs
  · rw [Smgr.twp_bind, Smgr.twp_modifyGet]
    rcases compactPrefetchBuffers_cases hs with ⟨-, he⟩ | ⟨-, _, _, _, -, he⟩ <;>
      rw [he] at hmoved ⊢
    exacts [hkept, hmoved rfl]
  · rwa [Smgr.twp_bind, Smgr.twp_pure]

theorem makeRoom_twp (he : e.Reliable) {s : Backend} (hs : s.Ready)
    (hfull : s.ringLast + s.readaheadBufferSize - 1 = s.ringUnused) :
    Smgr.twp makeRoom e (fun _ _ => True) R s := by
  have ho := hs.sound.inv.order
  have hc := hs.cap
  have hLU : s.ringLast < s.ringUnused := by omega
  have hlive : (s.slotAt s.ringLast).status ≠ .unused := by
    rcases Nat.lt_or_ge s.ringLast s.ringReceive with h | h
    · exact hs.sound.inv.lastLive h
    · rw [(hs.sound.inv.requested _ h hLU).1]
      decide
  simp only [makeRoom, Smgr.twp_bind, Smgr.twp_get, twp_getPrfSlot,
    assertSlot_of_mem s _ ⟨le_rfl, hLU⟩]
  refine twp_compactIfNeeded hs.sound.inv (fun _ => by simp only [if_true, Smgr.twp_pure]) ?_
  simp only [Bool.false_eq_true, if_false, Smgr.twp_bind, Smgr.twp_get]
  split
  next =>
    rw [Smgr.twp_bind]
    exact Smgr.twp_mono (prefetchWaitFor_twp he hs.sound hs.wired hs.flushed hLU) fun _ _ _ => trivial
  next => trivial
  next => trivial
  next hst => exact absurd hst hlive

theorem prefetchRegisterNew_twp (he : e.Reliable) {s : Backend} (hs : s.Ready) {tag : BufferTag}
    (force : Option (Bool × XLogRecPtr)) :
    Smgr.twp (prefetchRegisterNew tag force) e (fun k t => t.ringLast ≤ k ∧
      t.readaheadBufferSize = s.readaheadBufferSize) R s := by
  simp only [prefetchRegisterNew, Smgr.twp_bind, Smgr.twp_get]
  split_ifs with hfull
  · rw [Smgr.twp_bind]
    refine Smgr.twp_of_wp_imp (makeRoom_twp he hs hfull)
      (Smgr.wp_mono (makeRoom_wp he.disconnectsOnFailure hs.sound) fun _ m ⟨hm, hf, _⟩ _ => ?_)
    exact Smgr.twp_mono (prefetchInsertNew_twp he hm tag force) fun _ _ h => ⟨h.1, h.2.trans hf.cap⟩
  · simp only [Smgr.twp_bind, Smgr.twp_pure]
    exact prefetchInsertNew_twp he hs.sound tag force

theorem prefetchRegisterBuffer_twp (he : e.Reliable) {s : Backend} (hs : s.Ready)
    (tag : BufferTag) (force : Option (Bool × XLogRecPtr)) :
    Smgr.twp (prefetchRegisterBuffer tag force) e (fun k t => t.ringLast ≤ k ∧
      t.readaheadBufferSize = s.readaheadBufferSize) R s := by
  simp only [prefetchRegisterBuffer, Smgr.twp_bind, Smgr.twp_get]
  rcases hh : s.prfHash tag with _ | c
  · exact prefetchRegisterNew_twp he hs force
  obtain ⟨p, hp, rfl, rfl⟩ := (hs.sound.inv.hash_live tag c).1 hh
  have hidx : (s.prfBuffer (s.cell p)).myRingIndex = p := hs.sound.inv.index p hp
  simp only [hidx]
  split_ifs with hrej htr
  · rw [Smgr.twp_bind]
    refine Smgr.twp_mono (prefetchWaitFor_waited he hs.sound hs.wired hs.flushed hp.2.1)
      fun _ t ⟨_, ht, _, hwt, hft⟩ => ?_
    obtain ⟨h₁, h₂, h₃⟩ := ht.sound.setUnused (.inl ht.past)
    have hc := h₂.cap.trans ht.frame.cap
    simp only [Smgr.twp_bind, Smgr.twp_modify]
    exact Smgr.twp_mono (prefetchRegisterNew_twp he ⟨h₁, hwt.ring h₂ h₃, hft.ring h₂ h₃,
      hc ▸ hs.cap⟩ force) fun _ _ h => ⟨h.1, h.2.trans hc⟩
  · exact absurd htr (hs.sound.ne_tagRemains (Nat.mod_lt _ hs.sound.inv.cap_pos))
  · exact ⟨hp.1, rfl⟩

end Register

section Read

theorem prefetchLookup_twp (he : e.Reliable) {s : Backend} (hs : s.Ready) (tag : BufferTag)
    (requestLsn : XLogRecPtr) :
    Smgr.twp (prefetchLookup tag requestLsn) e (fun entry t => t.Ready ∧ ∀ kc ∈ entry,
      kc.2 = t.cell kc.1 ∧ t.ringLast ≤ kc.1 ∧ kc.1 < t.ringUnused ∧ t.prfHash tag = some kc.2)
      R s := by
  simp only [prefetchLookup, Smgr.twp_bind, Smgr.twp_get]
  rcases hh : s.prfHash tag with _ | c
  · exact ⟨hs, fun _ h => Option.noConfusion h⟩
  obtain ⟨p, hp, rfl, rfl⟩ := (hs.sound.inv.hash_live _ c).1 hh
  have hidx : (s.prfBuffer (s.cell p)).myRingIndex = p := hs.sound.inv.index p hp
  simp only []
  split_ifs with hlsn hreq
  · refine ⟨hs, ?_⟩
    rintro _ ⟨⟩
    simp only [hidx]
    exact ⟨trivial, hp.1, hp.2.1, hh⟩
  · rw [hidx, Smgr.twp_bind]
    refine Smgr.twp_mono (prefetchWaitFor_waited he hs.sound hs.wired hs.flushed hp.2.1)
      fun _ t ⟨_, ht, _, hwt, hft⟩ => ?_
    simp only [Smgr.twp_pure, Smgr.twp_bind, Smgr.twp_modify]
    obtain ⟨h₁, h₂, h₃⟩ := ht.sound.setUnused (ht.retirable hp hh)
    exact ⟨⟨h₁, hwt.ring h₂ h₃, hft.ring h₂ h₃, h₂.cap.trans ht.frame.cap ▸ hs.cap⟩,
      fun _ h => Option.noConfusion h⟩
  · have hpR : p < s.ringReceive :=
      Nat.lt_of_not_le fun h => hreq (hs.sound.inv.requested p h hp.2.1).1
    simp only [Smgr.twp_pure, Smgr.twp_bind, Smgr.twp_modify, hidx]
    obtain ⟨h₁, h₂, h₃⟩ := hs.sound.setUnused (.inl hpR)
    exact ⟨⟨h₁, hs.wired.ring h₂ h₃, hs.flushed.ring h₂ h₃, h₂.cap ▸ hs.cap⟩,
      fun _ h => Option.noConfusion h⟩

theorem readLoop_twp (he : e.Reliable) (tag : BufferTag) (requestLsn : XLogRecPtr)
    (requestLatest : Bool) {n : Nat} (hn : 0 < n) (entry : Option (Nat × Nat)) {s : Backend}
    (hs : s.Ready) (hentry : ∀ kc ∈ entry, kc.2 = s.cell kc.1 ∧ s.ringLast ≤ kc.1 ∧
      kc.1 < s.ringUnused ∧ s.prfHash tag = some kc.2) :
    Smgr.twp (readLoop tag requestLsn requestLatest entry n) e
      (fun kc t => (t.prfBuffer kc.2).response.isSome ∧ 2 ≤ t.readaheadBufferSize) R s := by
  have he' := he.disconnectsOnFailure
  obtain ⟨m, rfl⟩ : ∃ m, n = m + 1 := ⟨n - 1, by omega⟩
  have wait : ∀ (t : Backend) k, Sound t → t.Wired [] → t.Flushed [] →
      2 ≤ t.readaheadBufferSize → t.ringLast ≤ k → k < t.ringUnused →
      t.prfHash tag = some (t.cell k) →
      Smgr.twp (prefetchWaitFor k) e (fun b u => Smgr.twp (if b = true then pure (k, t.cell k)
        else readLoop tag requestLsn requestLatest none m) e
          (fun kc v => (v.prfBuffer kc.2).response.isSome ∧ 2 ≤ v.readaheadBufferSize) R u) R t :=
    fun t k ht hw hf hcap hL hk hh => Smgr.twp_mono (prefetchWaitFor_waited he ht hw hf hk)
      fun b u ⟨hb, hu, hc, _⟩ => by
        subst hb
        have hcell : u.cell k = t.cell k := by simp only [cell, hc.frame.cap]
        simp only [ite_true, Smgr.twp_pure]
        rw [← hcell]
        exact ⟨hu.sound.response_isSome (hc.last ▸ hL) hu.past (by rw [hc.hash, hh, hcell]),
          hc.frame.cap ▸ hcap⟩
  rcases entry with _ | ⟨k, c⟩ <;> simp only [readLoop, Smgr.twp_bind]
  · refine Smgr.twp_of_wp_imp (prefetchRegisterBuffer_twp he hs tag _)
      (Smgr.wp_mono (Smgr.wp_and (Smgr.wp_and (prefetchRegisterBuffer_wp he' hs.sound _ _)
        (prefetchRegisterBuffer_flushed he' hs.sound _ _))
        (prefetchRegisterBuffer_hash he' he.2.1 hs.sound _ _))
        fun k t ⟨⟨⟨ht, hk, hw⟩, hf⟩, hh⟩ ⟨hL, hc⟩ => ?_)
    simp only [twp_getPrfSlot, Smgr.twp_pure, Smgr.twp_bind, assertSlot_of_mem t _ ⟨hL, hk⟩]
    exact wait t k ht (hw hs.wired) (hf hs.flushed) (hc ▸ hs.cap) hL hk hh
  · obtain ⟨hc, hL, hk, hh⟩ := hentry _ rfl
    simp only at hc hL hk hh
    subst hc
    simp only [Smgr.twp_pure]
    exact wait s k hs.sound hs.wired hs.flushed hs.cap hL hk hh

theorem neonReadAtLsn_twp (he : e.Reliable) {s : Backend} (hs : s.Ready) (rnode : RelFileNode)
    (forkNum : ForkNumber) (blkno : BlockNumber) (requestLsn : XLogRecPtr) (requestLatest : Bool) :
    Smgr.twp (neonReadAtLsn rnode forkNum blkno requestLsn requestLatest) e
      (fun _ t => 2 ≤ t.readaheadBufferSize) (fun t => 2 ≤ t.readaheadBufferSize) s := by
  simp only [neonReadAtLsn, Smgr.twp_bind, Smgr.twp_env]
  refine Smgr.twp_mono (prefetchLookup_twp he hs _ requestLsn) fun entry t ⟨ht, hentry⟩ => ?_
  refine Smgr.twp_of_wp_imp (readLoop_twp he _ _ _ he.2.2.2 entry ht hentry)
    (Smgr.wp_mono (readLoop_wp he.disconnectsOnFailure _ _ _ _ entry t ht.sound
      fun kc h => (hentry kc h).2.2.1) fun ⟨k, c⟩ u ⟨hu, hk⟩ ⟨hsome, hcap⟩ => ?_)
  simp only [Smgr.twp_get]
  split
  next hr => simp [hr] at hsome
  next =>
    split
    · simp only [Smgr.twp_bind, Smgr.twp_writeShared, Smgr.twp_modify, Smgr.twp_pure]
      obtain ⟨h₁, h₂, -⟩ := (hu.sound.congr rfl : Sound (u.writeShared _)).setUnused (.inl hk)
      obtain ⟨-, h₅, -⟩ := h₁.cleanup
      rw [h₅.cap, h₂.cap]
      exact hcap
    all_goals exact hcap

theorem neonRead_twp (he : e.Reliable) {s : Backend} (hs : s.Ready) (reln : SMgrRelation)
    (forkNum : ForkNumber) (blkno : BlockNumber) :
    Smgr.twp (neonRead reln forkNum blkno) e (fun _ t => 2 ≤ t.readaheadBufferSize)
      (fun t => 2 ≤ t.readaheadBufferSize) s := by
  simp only [neonRead, Smgr.twp_bind, Smgr.twp_env, Smgr.twp_ite, Smgr.twp_pure, Smgr.twp_raise]
  split_ifs
  · exact hs.cap
  · split
    · exact hs.cap
    · exact neonReadAtLsn_twp he hs _ _ _ _ _
  · exact hs.cap
  · exact hs.cap

end Read

section Requests

theorem Backend.Ready.writeShared {s : Backend} (h : s.Ready) (w : SharedWrite) :
    (s.writeShared w).Ready :=
  ⟨h.sound.congr rfl, ⟨h.wired.conn, h.wired.live⟩, h.flushed, h.cap⟩

theorem pageServerRequest_twp (he : e.Reliable) {s : Backend} (hs : s.Ready) (r : NeonRequest)
    {Q : Response → Backend → Prop} (h : ∀ resp t, 2 ≤ t.readaheadBufferSize → Q resp t) :
    Smgr.twp (pageServerRequest r) e Q R s := by
  simp only [pageServerRequest, Smgr.twp_bind, Smgr.twp_env]
  exact Smgr.twp_mono (requestLoop_twp he r he.2.2.2 hs.sound hs.wired)
    fun resp t ht => h resp t (ht.2.2.2.2.2 ▸ hs.cap)

theorem neonExists_twp (he : e.Reliable) {s : Backend} (hs : s.Ready) (reln : SMgrRelation)
    (forkNum : ForkNumber) :
    Smgr.twp (neonExists reln forkNum) e (fun _ t => 2 ≤ t.readaheadBufferSize)
      (fun t => 2 ≤ t.readaheadBufferSize) s := by
  have remote : Smgr.twp (neonExistsRemote reln forkNum) e (fun _ t => 2 ≤ t.readaheadBufferSize)
      (fun t => 2 ≤ t.readaheadBufferSize) s := by
    simp only [neonExistsRemote, Smgr.twp_bind, Smgr.twp_env, Smgr.twp_ite, Smgr.twp_pure]
    split_ifs
    · exact hs.cap
    · exact hs.cap
    · exact pageServerRequest_twp he hs _ fun resp t ht => by split <;> exact ht
  simp only [neonExists, Smgr.twp_bind, Smgr.twp_env, Smgr.twp_ite, Smgr.twp_pure, Smgr.twp_raise]
  split_ifs
  · exact hs.cap
  · exact remote
  · exact remote
  · exact hs.cap
  · exact hs.cap

theorem neonNblocks_twp (he : e.Reliable) {s : Backend} (hs : s.Ready) (reln : SMgrRelation)
    (forknum : ForkNumber) :
    Smgr.twp (neonNblocks reln forknum) e (fun _ t => 2 ≤ t.readaheadBufferSize)
      (fun t => 2 ≤ t.readaheadBufferSize) s := by
  simp only [neonNblocks, Smgr.twp_bind, Smgr.twp_env, Smgr.twp_ite, Smgr.twp_pure, Smgr.twp_raise]
  split_ifs
  · exact hs.cap
  · split
    · exact hs.cap
    · rw [Smgr.twp_bind]
      exact pageServerRequest_twp he hs _ fun resp t ht => by
        split
        · simp only [Smgr.twp_bind, Smgr.twp_writeShared, Smgr.twp_pure]
          exact ht
        all_goals exact ht
  · exact hs.cap
  · exact hs.cap

theorem neonDbsize_twp (he : e.Reliable) {s : Backend} (hs : s.Ready) (dbNode : Oid) :
    Smgr.twp (neonDbsize dbNode) e (fun _ t => 2 ≤ t.readaheadBufferSize)
      (fun t => 2 ≤ t.readaheadBufferSize) s := by
  simp only [neonDbsize, Smgr.twp_bind, Smgr.twp_env]
  exact pageServerRequest_twp he hs _ fun resp t ht => by split <;> exact ht

theorem redoRelsizeUpdate_twp (he : e.Reliable) {s : Backend} (hs : s.Ready) (rnode : RelFileNode)
    (forknum : ForkNumber) (blkno : BlockNumber) (endRecPtr : XLogRecPtr) :
    Smgr.twp (redoRelsizeUpdate rnode forknum blkno endRecPtr) e
      (fun _ t => 2 ≤ t.readaheadBufferSize) (fun t => 2 ≤ t.readaheadBufferSize) s := by
  simp only [redoRelsizeUpdate, Smgr.twp_bind, Smgr.twp_env, Smgr.twp_writeShared]
  split
  · split_ifs
    · exact hs.cap
    · exact hs.cap
  · simp only [Smgr.twp_bind, Smgr.twp_writeShared]
    exact pageServerRequest_twp he hs _ fun _ _ ht => ht

theorem neonRedoReadBufferFilter_twp (he : e.Reliable) {s : Backend} (hs : s.Ready)
    (rnode : RelFileNode) (forknum : ForkNumber) (blkno : BlockNumber) (endRecPtr : XLogRecPtr) :
    Smgr.twp (neonRedoReadBufferFilter rnode forknum blkno endRecPtr) e
      (fun _ t => 2 ≤ t.readaheadBufferSize) (fun t => 2 ≤ t.readaheadBufferSize) s := by
  simp only [neonRedoReadBufferFilter, Smgr.twp_bind, Smgr.twp_env, Smgr.twp_ite, Smgr.twp_pure,
    Smgr.twp_writeShared]
  split_ifs
  · exact hs.cap
  · exact hs.cap
  · exact redoRelsizeUpdate_twp he ((hs.writeShared _).writeShared _) _ _ _ _
  · exact redoRelsizeUpdate_twp he (hs.writeShared _) _ _ _ _

end Requests

/-- Over a transport that works, every operation but a resize returns or raises `ERROR`, and
the ring keeps at least two cells. -/
theorem Op.run_twp (he : e.Reliable) {s : Backend} (hs : s.Ready) (op : Op) (hop : ¬ op.IsResize) :
    Smgr.twp op.run e (fun _ t => 2 ≤ t.readaheadBufferSize) (fun t => 2 ≤ t.readaheadBufferSize)
      s := by
  cases op <;> simp only [Op.run, Smgr.twp_bind, Smgr.twp_pure]
  · simp only [neonPrefetch, Smgr.twp_bind, Smgr.twp_env, Smgr.twp_ite, Smgr.twp_pure,
      Smgr.twp_raise]
    split_ifs
    · exact hs.cap
    · exact Smgr.twp_mono (prefetchRegisterBuffer_twp he hs _ _) fun _ _ h => h.2 ▸ hs.cap
    · exact hs.cap
    · exact hs.cap
  · exact neonRead_twp he hs _ _ _
  · exact neonReadAtLsn_twp he hs _ _ _ _ _
  · exact neonExists_twp he hs _ _
  · exact neonNblocks_twp he hs _ _
  · exact neonDbsize_twp he hs _
  · exact neonRedoReadBufferFilter_twp he hs _ _ _ _
  · exact absurd trivial hop

/-- Over a transport whose calls all succeed, with fuel for one round of each busy loop, any
sequence of operations other than a resize, started from a state between operations whose ring
has at least two cells, runs to its end: no operation crashes, blocks for good or runs out of
fuel, and an `ERROR` ends only its own operation. -/
theorem runOps_completes (he : e.Reliable) : ∀ (ops : List Op) {s : Backend}, s.Matched →
    2 ≤ s.readaheadBufferSize → (∀ op ∈ ops, ¬ op.IsResize) → ∃ t, runOps e ops s = .done () t
  | [], s, _, _, _ => ⟨s, rfl⟩
  | op :: ops, s, hs, hcap, hops => by
    have hop := hops op (List.mem_cons_self _ _)
    have hrest : ∀ o ∈ ops, ¬ o.IsResize := fun o h => hops o (List.mem_cons_of_mem _ h)
    rcases Smgr.twp_done_or_raise (Op.run_twp he (hs.ready hcap) op hop)
      with ⟨_, t, hrun, h⟩ | ⟨_, t, hrun, h⟩ <;>
      simp only [runOps, hrun, Outcome.next?, Option.isSome_some, if_true, Option.getD_some]
    · exact runOps_completes he ops (Reachable.done hs hop he.disconnectsOnFailure hrun) h hrest
    · exact runOps_completes he ops (Reachable.raise hs hop he.disconnectsOnFailure hrun) h hrest

theorem runOps_completes_prefetch_read :
    Env.steadyWalsender.Reliable ∧ (neonInit 4 0).Matched ∧ 2 ≤ (neonInit 4 0).readaheadBufferSize ∧
      (∀ op ∈ [Op.prefetch .sample .main 0, .read .sample .main 0, .nblocks .sample .main],
        ¬ op.IsResize) ∧
      ∃ t, runOps .steadyWalsender [.prefetch .sample .main 0, .read .sample .main 0,
        .nblocks .sample .main] (neonInit 4 0) = .done () t :=
  ⟨Env.steady_reliable _ _, .init 4 0 (by decide), by decide, by simp [Op.IsResize],
    runOps_completes (Env.steady_reliable _ _) _ (.init 4 0 (by decide)) (by decide)
      (by simp [Op.IsResize])⟩

end PagestoreSmgr
