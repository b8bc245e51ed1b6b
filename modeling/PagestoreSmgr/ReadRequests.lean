import PagestoreSmgr.Liveness
import PagestoreSmgr.Batched

/-!
# A read of a prefetched block sends no request

The prefetch lookup of `neon_read_at_lsn` serves the read from the slot the hash maps its block
to when that slot is stamped at least `request_lsn` (`lookupHit`). On a hit the read only waits
for the slot's response. On a miss it retires a stale slot, and `prefetch_register_buffer`
finds the tag gone and issues one `GetPage` request. Only `prefetch_do_request` moves
`ring_unused`, by one a request, so over a transport that works a read from a state between
operations moves `ring_unused` by nothing on a hit and by one on a miss, on return and on
`ERROR`.

A prefetch stamps its slot with at least the LSN a read of the block asks for, so a read right
after it hits. A second prefetch of the block finds the first one's request in the hash, which
`prefetch_register_buffer` reuses when no LSN is forced, and runs as if it were not there.
-/

set_option autoImplicit false

namespace PagestoreSmgr

open Backend

/-- The test of the prefetch lookup of `neon_read_at_lsn`: the hash maps the tag to a slot
stamped at least `request_lsn`. -/
def Backend.lookupHit (s : Backend) (tag : BufferTag) (requestLsn : XLogRecPtr) : Bool :=
  match s.prfHash tag with
  | some c => decide (requestLsn ≤ (s.prfBuffer c).effectiveRequestLsn)
  | none => false

@[simp] theorem prefetchSetUnused_ringUnused (s : Backend) (k : Nat) :
    (prefetchSetUnused s k).ringUnused = s.ringUnused :=
  congrArg Prod.fst (prefetchSetUnused_counters s k)

@[simp] theorem prefetchCleanupTrailingUnused_ringUnused (s : Backend) :
    (prefetchCleanupTrailingUnused s).ringUnused = s.ringUnused :=
  congrArg Prod.fst (prefetchCleanupTrailingUnused_counters s)

@[simp] theorem disconnect_ringUnused (s : Backend) : (disconnect s).ringUnused = s.ringUnused :=
  congrArg Prod.fst (disconnect_counters s)

theorem Waited.retire_drops {s t : Backend} {p : Nat} (ht : Waited p s t) (hp : s.Live p)
    (hh : s.prfHash (s.slotAt p).buftag = some (s.cell p)) :
    (prefetchSetUnused t (t.prfBuffer (s.cell p)).myRingIndex).prfHash (s.slotAt p).buftag =
      none := by
  rcases ht.settled _ hh with ⟨-, hn⟩ | ⟨hh', hL⟩
  · exact (ht.sound.setUnused (ht.retirable hp hh)).2.1.fresh _ hn
  · have hc : t.cell p = s.cell p := by simp only [cell, ht.frame.cap]
    have := hp.1; have := hp.2.1; have := ht.frame.unused
    obtain ⟨hl, -⟩ := ht.sound.live_of_hash (k := p) (by omega) (by omega) (by rw [hh', hh, hc])
    have hidx : (t.prfBuffer (s.cell p)).myRingIndex = p := by
      rw [← hc]
      exact ht.sound.inv.index p hl
    rw [hidx]
    exact ht.setUnused_fresh hp hh

variable {e : Env} {R : Backend → Prop}

section Issue

/-! A request moves `ring_unused` by one; sending, flushing and the hook leave it. -/

theorem sendLoop_unused (r : NeonRequest) : ∀ n {s : Backend},
    Smgr.wp (sendLoop r n) e (fun _ t => t.ringUnused = s.ringUnused) R s
  | 0, _ => trivial
  | n + 1, s => by
    simp only [sendLoop, Smgr.wp_bind]
    refine wp_pageServerSend ?_ ?_ ?_ <;>
      simp only [ite_true, Bool.false_eq_true, ite_false, Smgr.wp_pure]
    · rfl
    · exact sendLoop_unused r n
    · exact Smgr.wp_mono (sendLoop_unused r n) fun _ t ht => ht.trans (disconnect_ringUnused s)

theorem prefetchDoRequest_issues (c : Nat) (force : Option (Bool × XLogRecPtr)) {s : Backend} :
    Smgr.wp (prefetchDoRequest c force) e (fun _ t => t.ringUnused = s.ringUnused + 1) R s := by
  simp only [prefetchDoRequest, Smgr.wp_bind, Smgr.wp_env, Smgr.wp_get]
  split
  all_goals
    simp only [Smgr.wp_bind, Smgr.wp_modify]
    exact Smgr.wp_mono (sendLoop_unused _ _) fun _ t ht => congrArg (· + 1) ht

theorem prefetchInsertNew_issues (tag : BufferTag) (force : Option (Bool × XLogRecPtr))
    {s : Backend} :
    Smgr.wp (prefetchInsertNew tag force) e (fun _ t => t.ringUnused = s.ringUnused + 1) R s := by
  simp only [prefetchInsertNew, Smgr.wp_bind, Smgr.wp_get, Smgr.wp_modify]
  refine Smgr.wp_mono (prefetchDoRequest_issues _ force) fun _ t ht => ?_
  simp only [Smgr.wp_bind, Smgr.wp_get, Smgr.wp_ite, Smgr.wp_modify, Smgr.wp_pure]
  split_ifs
  · unfold Smgr.wp pageServerFlush
    cases e.flush t.calls
    exacts [ht, ht, (disconnect_ringUnused t).trans ht]
  · exact ht

theorem prefetchRegisterNew_issues (he : e.DisconnectsOnFailure) {s : Backend} (hs : Sound s)
    (tag : BufferTag) (force : Option (Bool × XLogRecPtr)) :
    Smgr.wp (prefetchRegisterNew tag force) e (fun _ t => t.ringUnused = s.ringUnused + 1) R s := by
  simp only [prefetchRegisterNew, Smgr.wp_bind, Smgr.wp_get, Smgr.wp_ite, Smgr.wp_pure]
  split_ifs
  · refine Smgr.wp_mono (makeRoom_wp he hs) fun _ t ht => ?_
    rw [← ht.2.1.unused]
    exact prefetchInsertNew_issues tag force
  · exact prefetchInsertNew_issues tag force

theorem prefetchRegisterBuffer_issues (he : e.DisconnectsOnFailure) {s : Backend} (hs : Sound s)
    {tag : BufferTag} (hfresh : s.prfHash tag = none) (force : Option (Bool × XLogRecPtr)) :
    Smgr.wp (prefetchRegisterBuffer tag force) e (fun _ t => t.ringUnused = s.ringUnused + 1)
      R s := by
  simp only [prefetchRegisterBuffer, Smgr.wp_bind, Smgr.wp_get, hfresh]
  exact prefetchRegisterNew_issues he hs tag force

end Issue

section Read

theorem prefetchLookup_issues (he : e.DisconnectsOnFailure) {s : Backend} (hs : Sound s)
    (tag : BufferTag) (requestLsn : XLogRecPtr) :
    Smgr.wp (prefetchLookup tag requestLsn) e (fun entry t => t.ringUnused = s.ringUnused ∧
      entry.isSome = s.lookupHit tag requestLsn ∧ (entry = none → t.prfHash tag = none)) R s := by
  simp only [prefetchLookup, Smgr.wp_bind, Smgr.wp_get]
  rcases hh : s.prfHash tag with _ | c
  · exact ⟨rfl, by simp only [lookupHit, hh, Option.isSome_none], fun _ => hh⟩
  obtain ⟨p, hp, rfl, rfl⟩ := (hs.inv.hash_live _ c).1 hh
  have hidx : (s.prfBuffer (s.cell p)).myRingIndex = p := hs.inv.index p hp
  simp only [hidx]
  split_ifs with hlsn hreq
  · exact ⟨rfl, by simp [lookupHit, hh, hlsn], fun h => Option.noConfusion h⟩
  · rw [Smgr.wp_bind]
    refine Smgr.wp_mono (prefetchWaitFor_wp he hs hp.2.1) fun _ t ht => ?_
    simp only [Smgr.wp_pure, Smgr.wp_bind, Smgr.wp_modify, prefetchSetUnused_ringUnused]
    exact ⟨ht.frame.unused, by simp [lookupHit, hh, hlsn], fun _ => ht.retire_drops hp hh⟩
  · have hpR : p < s.ringReceive :=
      Nat.lt_of_not_le fun h => hreq (hs.inv.requested p h hp.2.1).1
    simp only [Smgr.wp_pure, Smgr.wp_bind, Smgr.wp_modify, prefetchSetUnused_ringUnused, hidx]
    exact ⟨trivial, by simp [lookupHit, hh, hlsn], fun _ => hs.setUnused_drops hp.1 hpR hh⟩

theorem readLoop_issues (he : e.Reliable) (tag : BufferTag) (requestLsn : XLogRecPtr)
    (requestLatest : Bool) (m : Nat) (entry : Option (Nat × Nat)) {s : Backend} (hs : s.Ready)
    (hentry : ∀ kc ∈ entry, kc.1 < s.ringUnused) (hfresh : entry = none → s.prfHash tag = none) :
    Smgr.wp (readLoop tag requestLsn requestLatest entry (m + 1)) e
      (fun _ t => t.ringUnused = s.ringUnused + if entry.isSome then 0 else 1) R s := by
  have he' := he.disconnectsOnFailure
  have wait : ∀ (t : Backend) k, Sound t → t.Wired [] → t.Flushed [] → k < t.ringUnused →
      Smgr.wp (prefetchWaitFor k) e (fun b u => b = true ∧ u.ringUnused = t.ringUnused) R t :=
    fun t k ht hw hf hk => Smgr.wp_mono (Smgr.twp_wp (prefetchWaitFor_waited he ht hw hf hk))
      fun _ _ h => ⟨h.1, h.2.1.frame.unused⟩
  rcases entry with _ | ⟨k, c⟩ <;> simp only [readLoop, Smgr.wp_bind]
  · refine Smgr.wp_mono (Smgr.wp_and (Smgr.wp_and
      (prefetchRegisterBuffer_issues he' hs.sound (hfresh rfl) _)
      (prefetchRegisterBuffer_wp he' hs.sound _ _)) (prefetchRegisterBuffer_flushed he' hs.sound _ _))
        fun k t ⟨⟨hu, ht, hk, hw⟩, hf⟩ => ?_
    simp only [wp_getPrfSlot, Smgr.wp_pure, Smgr.wp_bind]
    refine Smgr.wp_mono (wait _ k (ht.congr rfl) ⟨(hw hs.wired).conn, (hw hs.wired).live⟩
      (by exact hf hs.flushed) hk) fun b u ⟨hb, hu'⟩ => ?_
    subst hb
    exact hu'.trans hu
  · simp only [Smgr.wp_pure]
    refine Smgr.wp_mono (wait s k hs.sound hs.wired hs.flushed (hentry _ rfl)) fun b u ⟨hb, hu⟩ => ?_
    subst hb
    exact hu

/-- Over a transport that works, with fuel for one round of each busy loop, `neon_read_at_lsn`
from a state between operations with at least two cells returns or raises `ERROR`, having
issued no `GetPage` request when the prefetch lookup hits and exactly one when it misses. -/
theorem neonReadAtLsn_requests (he : e.Reliable) {s : Backend} (hs : s.Ready)
    (rnode : RelFileNode) (forkNum : ForkNumber) (blkno : BlockNumber) (requestLsn : XLogRecPtr)
    (requestLatest : Bool) :
    Smgr.twp (neonReadAtLsn rnode forkNum blkno requestLsn requestLatest) e
      (fun _ t => t.ringUnused =
        s.ringUnused + if s.lookupHit ⟨rnode, forkNum, blkno⟩ requestLsn then 0 else 1)
      (fun t => t.ringUnused =
        s.ringUnused + if s.lookupHit ⟨rnode, forkNum, blkno⟩ requestLsn then 0 else 1) s := by
  simp only [neonReadAtLsn, Smgr.twp_bind, Smgr.twp_env]
  refine Smgr.twp_of_wp_imp (prefetchLookup_twp he hs _ requestLsn)
    (Smgr.wp_mono (prefetchLookup_issues he.disconnectsOnFailure hs.sound _ requestLsn)
      fun entry t ⟨hu, hhit, hfresh⟩ ⟨ht, hentry⟩ => ?_)
  obtain ⟨m, hm⟩ : ∃ m, e.fuel = m + 1 := ⟨e.fuel - 1, by have := he.2.2.2; omega⟩
  rw [hm]
  refine Smgr.twp_of_wp_imp (readLoop_twp he _ _ _ (Nat.succ_pos m) entry ht hentry)
    (Smgr.wp_mono (readLoop_issues he _ _ _ m entry ht (fun kc h => (hentry kc h).2.2.1) hfresh)
      fun ⟨k, c⟩ u hcount ⟨hsome, _⟩ => ?_)
  rw [hu, hhit] at hcount
  simp only [Smgr.twp_get]
  split
  next hr => simp [hr] at hsome
  next =>
    split
    · simp only [Smgr.twp_bind, Smgr.twp_writeShared, Smgr.twp_modify, Smgr.twp_pure,
        prefetchCleanupTrailingUnused_ringUnused, prefetchSetUnused_ringUnused]
      exact hcount
    all_goals exact hcount

theorem neonReadAtLsn_requests_prefetched :
    ∃ s, runOps .steadyWalsender [.prefetch .sample .main 0] (neonInit 4 0) = .done () s ∧
      Env.steadyWalsender.Reliable ∧ s.Ready ∧ s.lookupHit ⟨⟨1, 1, 1⟩, .main, 0⟩ 0 = true ∧
      Smgr.twp (neonReadAtLsn ⟨1, 1, 1⟩ .main 0 0 true) .steadyWalsender
        (fun _ t => t.ringUnused =
          s.ringUnused + if s.lookupHit ⟨⟨1, 1, 1⟩, .main, 0⟩ 0 then 0 else 1)
        (fun t => t.ringUnused =
          s.ringUnused + if s.lookupHit ⟨⟨1, 1, 1⟩, .main, 0⟩ 0 then 0 else 1) s :=
  have hr := Backend.Matched.ready (runOps_reachable Env.steadyWalsender_disconnectsOnFailure
    [.prefetch .sample .main 0] (.init 4 0 (by decide)) (by simp [Op.IsResize]) rfl) (by decide)
  ⟨_, rfl, Env.steady_reliable _ _, hr, rfl,
    neonReadAtLsn_requests (Env.steady_reliable _ _) hr _ _ _ _ _⟩

end Read

section PrefetchThenRead

/-! A prefetch stamps its slot with the running maximum `prefetch_lsn`, which is at least the
LSN `neon_get_request_lsn` gives for the block; a read of the block that follows asks for that
LSN, so its lookup hits. -/

theorem le_max_lsn (a b : XLogRecPtr) : b ≤ max a b := by
  show b ≤ if a ≤ b then b else a
  split
  · exact Nat.le_refl _
  · rename_i h
    rw [UInt64.le_def] at h ⊢
    simp only [BitVec.le_def] at h ⊢
    omega

theorem prefetchDoRequest_stamp {s : Backend} (hs : Sound s)
    (hidx : (s.slotAt s.ringUnused).myRingIndex = s.ringUnused) :
    Smgr.wp (prefetchDoRequest (s.cell s.ringUnused) none) e (fun _ t =>
      (neonGetRequestLsn e.xlog (s.slotAt s.ringUnused).buftag.rnode
        (s.slotAt s.ringUnused).buftag.forkNum (s.slotAt s.ringUnused).buftag.blockNum).2 ≤
        (t.prfBuffer (s.cell s.ringUnused)).effectiveRequestLsn) R s := by
  have hu := hs.unused_slot
  simp only [prefetchDoRequest, Smgr.wp_bind, Smgr.wp_env, Smgr.wp_get, Smgr.wp_modify]
  refine Smgr.wp_mono (sendLoop_wp _ _ _ ?_) fun _ t ⟨_, hf, _⟩ => ?_
  · refine Sound.fill ?_ hu (hs.zeroed _ hu).1 hidx.le
    exact hs.congr rfl
  have hv := hf.outside (s.cell s.ringUnused)
    fun p (h₁ : s.ringLast ≤ p) (h₂ : p < s.ringUnused) => hs.inv.cell_unused_ne h₁ h₂
  rw [setCell_prfBuffer, if_pos rfl] at hv
  simp only [hashInsert_prfBuffer, setCell_prfBuffer, if_pos rfl, hv]
  exact le_max_lsn _ _

theorem prefetchInsertNew_hit (hflush : ∀ n, e.flush n = .ok) {s : Backend} (hs : Sound s)
    {tag : BufferTag} (hfresh : s.prfHash tag = none) :
    Smgr.wp (prefetchInsertNew tag none) e (fun _ t =>
      t.lookupHit tag (neonGetRequestLsn e.xlog tag.rnode tag.forkNum tag.blockNum).2) R s := by
  have hu := hs.unused_slot
  simp only [prefetchInsertNew, Smgr.wp_bind, Smgr.wp_get, Smgr.wp_modify]
  have hm : Sound (s.setCell (s.cell s.ringUnused)
      { s.slotAt s.ringUnused with buftag := tag, myRingIndex := s.ringUnused }) :=
    hs.fill hu (hs.zeroed _ hu).1 le_rfl
  have hidx := (by simp [setCell_slotAt] : ((s.setCell (s.cell s.ringUnused)
      { s.slotAt s.ringUnused with buftag := tag, myRingIndex := s.ringUnused }).slotAt
        s.ringUnused).myRingIndex = s.ringUnused)
  refine Smgr.wp_mono (Smgr.wp_and (prefetchDoRequest_hash hm hidx
    (by simpa [setCell_slotAt] using hfresh) none) (prefetchDoRequest_stamp hm hidx))
      fun _ t h => ?_
  obtain ⟨⟨hh, -⟩, hst⟩ := h
  simp only [setCell_slotAt, setCell_ringUnused, setCell_cell, if_true] at hh hst
  have hit : t.lookupHit tag (neonGetRequestLsn e.xlog tag.rnode tag.forkNum tag.blockNum).2 := by
    simp [lookupHit, hh, hst]
  split_ifs
  · rw [Smgr.wp_bind]
    refine wp_pageServerFlush_ok (hflush _) ?_
    simpa only [Smgr.wp_bind, Smgr.wp_modify, Smgr.wp_pure] using hit
  · exact hit

theorem prefetchRegisterNew_hit (he : e.DisconnectsOnFailure) (hflush : ∀ n, e.flush n = .ok)
    {s : Backend} (hs : Sound s) {tag : BufferTag} (hfresh : s.prfHash tag = none) :
    Smgr.wp (prefetchRegisterNew tag none) e (fun _ t =>
      t.lookupHit tag (neonGetRequestLsn e.xlog tag.rnode tag.forkNum tag.blockNum).2) R s := by
  simp only [prefetchRegisterNew, Smgr.wp_bind, Smgr.wp_get, Smgr.wp_ite, Smgr.wp_pure]
  split_ifs
  · exact Smgr.wp_mono (makeRoom_wp he hs) fun _ m ⟨hm, hf, _⟩ =>
      prefetchInsertNew_hit hflush hm (hf.fresh _ hfresh)
  · exact prefetchInsertNew_hit hflush hs hfresh

theorem neonPrefetch_hit (he : e.DisconnectsOnFailure) (hflush : ∀ n, e.flush n = .ok)
    {s : Backend} (hs : Sound s) {reln : SMgrRelation} {forknum : ForkNumber}
    {blocknum : BlockNumber} (hp : reln.relpersistence = RELPERSISTENCE_PERMANENT)
    (hl : e.lfcContains ⟨reln.rnode, forknum, blocknum⟩ = false)
    (hfresh : s.prfHash ⟨reln.rnode, forknum, blocknum⟩ = none) :
    Smgr.wp (neonPrefetch reln forknum blocknum) e (fun _ t =>
      t.lookupHit ⟨reln.rnode, forknum, blocknum⟩
        (neonGetRequestLsn e.xlog reln.rnode forknum blocknum).2 ∧
      t.ringUnused = s.ringUnused + 1) R s := by
  simp only [neonPrefetch, Smgr.wp_bind, Smgr.wp_env, hp, hl, or_true, if_true,
    Bool.false_eq_true, if_false, Smgr.wp_pure]
  refine Smgr.wp_and ?_ (prefetchRegisterBuffer_issues he hs hfresh none)
  simp only [prefetchRegisterBuffer, Smgr.wp_bind, Smgr.wp_get, hfresh]
  exact prefetchRegisterNew_hit he hflush hs hfresh

/-- Over a transport that works, with fuel for one round of each busy loop, from a state between
operations with at least two cells, a prefetch of a block of a permanent relation that neither
the ring nor the local file cache holds, followed by a read of that block, sends one `GetPage`
request in all: the prefetch's, which the read then uses. -/
theorem prefetch_then_read_requests (he : e.Reliable) {s : Backend} (hs : s.Matched)
    (hcap : 2 ≤ s.readaheadBufferSize) {reln : SMgrRelation} {forknum : ForkNumber}
    {blocknum : BlockNumber} (hp : reln.relpersistence = RELPERSISTENCE_PERMANENT)
    (hl : e.lfcContains ⟨reln.rnode, forknum, blocknum⟩ = false)
    (hr : e.lfcRead ⟨reln.rnode, forknum, blocknum⟩ = none)
    (hfresh : s.prfHash ⟨reln.rnode, forknum, blocknum⟩ = none) :
    ∃ t, runOps e [.prefetch reln forknum blocknum, .read reln forknum blocknum] s = .done () t ∧
      t.ringUnused = s.ringUnused + 1 := by
  have he' := he.disconnectsOnFailure
  have hready := hs.ready hcap
  have hpre : Smgr.twp (Op.prefetch reln forknum blocknum).run e (fun _ u =>
      u.lookupHit ⟨reln.rnode, forknum, blocknum⟩
        (neonGetRequestLsn e.xlog reln.rnode forknum blocknum).2 ∧
      u.ringUnused = s.ringUnused + 1 ∧ 2 ≤ u.readaheadBufferSize) (fun _ => False) s := by
    simp only [Op.run, Smgr.twp_bind, Smgr.twp_pure]
    refine Smgr.twp_of_wp_imp ?_ (Smgr.wp_mono (neonPrefetch_hit he' he.2.1 hready.sound hp hl
      hfresh) fun _ _ h hc => ⟨h.1, h.2, hc⟩)
    simp only [neonPrefetch, Smgr.twp_bind, Smgr.twp_env, hp, hl, or_true, if_true,
      Bool.false_eq_true, if_false, Smgr.twp_pure]
    exact Smgr.twp_mono (prefetchRegisterBuffer_twp he hready _ _) fun _ _ h => h.2 ▸ hcap
  obtain ⟨⟨⟩, u, hrun, hhit, hu, hcapu⟩ | ⟨_, _, _, ⟨⟩⟩ := Smgr.twp_done_or_raise hpre
  have hmu : u.Matched := Reachable.done hs (by simp [Op.IsResize]) he' hrun
  have hread : Smgr.twp (Op.read reln forknum blocknum).run e
      (fun _ t => t.ringUnused = u.ringUnused) (fun t => t.ringUnused = u.ringUnused) u := by
    have hne : RELPERSISTENCE_PERMANENT ≠ Char.ofNat 0 := by decide
    rcases hg : neonGetRequestLsn e.xlog reln.rnode forknum blocknum with ⟨latest, lsn⟩
    rw [hg] at hhit
    simp only [Op.run, neonRead, Smgr.twp_bind, Smgr.twp_env, hp, if_neg hne, if_true, hr, hg,
      Smgr.twp_pure]
    simpa only [hhit, if_true, Nat.add_zero] using
      neonReadAtLsn_requests he (hmu.ready hcapu) reln.rnode forknum blocknum lsn latest
  rcases Smgr.twp_done_or_raise hread with ⟨⟨⟩, t, hrun', ht⟩ | ⟨_, t, hrun', ht⟩ <;>
    exact ⟨t, by simp [runOps, hrun, hrun', Outcome.next?], ht.trans hu⟩

theorem prefetch_then_read_requests_init :
    Env.steadyWalsender.Reliable ∧ (neonInit 4 0).Matched ∧
      2 ≤ (neonInit 4 0).readaheadBufferSize ∧
      SMgrRelation.sample.relpersistence = RELPERSISTENCE_PERMANENT ∧
      Env.steadyWalsender.lfcContains ⟨⟨1, 1, 1⟩, .main, 0⟩ = false ∧
      Env.steadyWalsender.lfcRead ⟨⟨1, 1, 1⟩, .main, 0⟩ = none ∧
      (neonInit 4 0).prfHash ⟨⟨1, 1, 1⟩, .main, 0⟩ = none ∧
      ∃ t, runOps .steadyWalsender [.prefetch .sample .main 0, .read .sample .main 0]
        (neonInit 4 0) = .done () t ∧ t.ringUnused = (neonInit 4 0).ringUnused + 1 :=
  ⟨Env.steady_reliable _ _, .init 4 0 (by decide), by decide, rfl, rfl, rfl, rfl,
    prefetch_then_read_requests (Env.steady_reliable _ _) (.init 4 0 (by decide)) (by decide) rfl
      rfl rfl rfl⟩

end PrefetchThenRead

section PrefetchTwice

/-- The block of a prefetch is held: the hash maps its tag, or `neon_prefetch` does not register
it, the relation being neither permanent nor of unset kind or the block in the local file
cache. -/
def Backend.PrefetchHeld (e : Env) (reln : SMgrRelation) (forknum : ForkNumber)
    (blocknum : BlockNumber) (s : Backend) : Prop :=
  (reln.relpersistence = Char.ofNat 0 ∨ reln.relpersistence = RELPERSISTENCE_PERMANENT) →
    e.lfcContains ⟨reln.rnode, forknum, blocknum⟩ = false →
      (s.prfHash ⟨reln.rnode, forknum, blocknum⟩).isSome

theorem prefetchRegisterBuffer_reuses {s : Backend} (hs : Sound s) {tag : BufferTag} {c : Nat}
    (hh : s.prfHash tag = some c) :
    Smgr.twp (prefetchRegisterBuffer tag none) e (fun _ t => t = s) R s := by
  obtain ⟨p, -, rfl, rfl⟩ := (hs.inv.hash_live _ c).1 hh
  simp only [prefetchRegisterBuffer, Smgr.twp_bind, Smgr.twp_get, hh, rejectsBuffered,
    Bool.false_eq_true, if_false]
  split_ifs with htr
  · exact absurd htr (hs.ne_tagRemains (Nat.mod_lt _ hs.inv.cap_pos))
  · rfl

theorem prefetch_run_held {s : Backend} (hs : Sound s) {reln : SMgrRelation}
    {forknum : ForkNumber} {blocknum : BlockNumber}
    (hheld : s.PrefetchHeld e reln forknum blocknum) :
    ((Op.prefetch reln forknum blocknum).run e s).next? = some s := by
  have h : Smgr.twp (Op.prefetch reln forknum blocknum).run e (fun _ t => t = s)
      (fun t => t = s) s := by
    simp only [Op.run, neonPrefetch, Smgr.twp_bind, Smgr.twp_env, Smgr.twp_ite, Smgr.twp_pure,
      Smgr.twp_raise]
    split_ifs with hp hl
    obtain ⟨c, hc⟩ := Option.isSome_iff_exists.1 (hheld hp (by simpa using hl))
    exact prefetchRegisterBuffer_reuses hs hc
  rcases Smgr.twp_done_or_raise h with ⟨_, _, hrun, rfl⟩ | ⟨_, _, hrun, rfl⟩ <;>
    simp only [hrun, Outcome.next?]

theorem prefetch_settles (he : e.DisconnectsOnFailure) (hflush : ∀ n, e.flush n = .ok)
    {s : Backend} (hs : Sound s) (reln : SMgrRelation) (forknum : ForkNumber)
    (blocknum : BlockNumber) :
    Smgr.wp (Op.prefetch reln forknum blocknum).run e
      (fun _ t => Sound t ∧ t.PrefetchHeld e reln forknum blocknum)
      (fun t => Sound t ∧ t.PrefetchHeld e reln forknum blocknum) s := by
  simp only [Op.run, neonPrefetch, Smgr.wp_bind, Smgr.wp_env, Smgr.wp_ite, Smgr.wp_pure,
    Smgr.wp_raise]
  split_ifs with hp hl
  · exact ⟨hs, fun _ h => absurd hl (by simp [h])⟩
  · exact Smgr.wp_mono (Smgr.wp_and (prefetchRegisterBuffer_wp he hs _ none)
      (prefetchRegisterBuffer_hash he hflush hs _ none))
      fun _ _ ⟨⟨ht, _⟩, hh⟩ => ⟨ht, fun _ _ => by simp [hh]⟩
  · exact ⟨hs, fun h => absurd h hp⟩
  · exact ⟨hs, fun h => absurd h hp⟩

/-- Over a transport whose `flush` succeeds and whose failed calls run the hook, a prefetch
repeated at once runs as one, whatever follows: the second prefetch finds the request of the
first in the hash and sends nothing. -/
theorem runOps_prefetch_twice (he : e.DisconnectsOnFailure) (hflush : ∀ n, e.flush n = .ok)
    {s : Backend} (hs : Sound s) (reln : SMgrRelation) (forknum : ForkNumber)
    (blocknum : BlockNumber) (ops : List Op) :
    runOps e (.prefetch reln forknum blocknum :: .prefetch reln forknum blocknum :: ops) s =
      runOps e (.prefetch reln forknum blocknum :: ops) s := by
  rcases hrun : ((Op.prefetch reln forknum blocknum).run e s).next? with _ | u
  · simp only [runOps, hrun, Option.isSome_none, Bool.false_eq_true, if_false]
  · obtain ⟨hu, hheld⟩ := Smgr.wp_next (prefetch_settles he hflush hs reln forknum blocknum) hrun
    rw [runOps_cons_of_next hrun, runOps_cons_of_next hrun,
      runOps_cons_of_next (prefetch_run_held hu hheld)]

theorem runOps_prefetch_twice_init :
    Env.steadyWalsender.DisconnectsOnFailure ∧ (∀ n, Env.steadyWalsender.flush n = .ok) ∧
      Sound (neonInit 4 0) ∧
      runOps .steadyWalsender [.prefetch .sample .main 0, .prefetch .sample .main 0]
        (neonInit 4 0) = runOps .steadyWalsender [.prefetch .sample .main 0] (neonInit 4 0) :=
  ⟨Env.steadyWalsender_disconnectsOnFailure, fun _ => rfl, sound_neonInit 4 0 (by decide),
    runOps_prefetch_twice Env.steadyWalsender_disconnectsOnFailure (fun _ => rfl)
      (sound_neonInit 4 0 (by decide)) _ _ _ []⟩

end PrefetchTwice

end PagestoreSmgr
