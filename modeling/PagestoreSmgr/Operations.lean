import PagestoreSmgr.Request

/-!
# The adaptor's operations

Every `smgr` entry point that reaches the pipeline, and so every operation but
`readahead_buffer_resize`, keeps `Sound` and the matched connection, whether it
returns or raises `ERROR`, under a transport whose failed `flush` and `receive` run
the disconnect hook. By induction over runs, both hold in every state a backend reaches
between such operations.
-/

set_option autoImplicit false

namespace PagestoreSmgr

open Backend

variable {e : Env} {R : Backend → Prop}

/-- What every operation keeps from the state `s` it starts in: the ring invariant, and a
connection that carries exactly the requests in flight. -/
structure Kept (s t : Backend) : Prop where
  sound : Sound t
  wired : s.Wired [] → t.Wired []

namespace Kept

variable {s t u : Backend}

theorem refl (hs : Sound s) : Kept s s := ⟨hs, id⟩

theorem trans (h₁ : Kept s t) (h₂ : Kept t u) : Kept s u :=
  ⟨h₂.sound, fun h => h₂.wired (h₁.wired h)⟩

theorem of_waited {k : Nat} (h : Waited k s t) : Kept s t :=
  ⟨h.sound, fun h' => (h.wired _ h').elim id id⟩

theorem of_ring (ht : Sound t) (hf : RingFrame s t) (hq : Quiet s t) : Kept s t :=
  ⟨ht, fun h => h.ring hf hq⟩

theorem writeShared (h : Kept s t) (w : SharedWrite) : Kept s (t.writeShared w) :=
  ⟨h.sound.congr rfl, fun h' => ⟨(h.wired h').conn, (h.wired h').live⟩⟩

end Kept

theorem readLoop_wp (he : e.DisconnectsOnFailure) (tag : BufferTag) (requestLsn : XLogRecPtr)
    (requestLatest : Bool) (n : Nat) : ∀ (entry : Option (Nat × Nat)) (s : Backend), Sound s →
    (∀ kc ∈ entry, kc.1 < s.ringUnused) →
    Smgr.wp (readLoop tag requestLsn requestLatest entry n) e
      (fun kc t => Kept s t ∧ kc.1 < t.ringReceive) R s := by
  induction n with
  | zero => intro _ s _ _; trivial
  | succ n ih =>
    intro entry s hs hentry
    have wait : ∀ m k c, Kept s m → k < m.ringUnused →
        Smgr.wp (prefetchWaitFor k) e (fun b t => Smgr.wp (if b = true then pure (k, c)
          else readLoop tag requestLsn requestLatest none n) e
            (fun kc t => Kept s t ∧ kc.1 < t.ringReceive) R t) R m :=
      fun m k c hm hk => Smgr.wp_mono (prefetchWaitFor_wp he hm.sound hk) fun b t ht => by
        have hst := hm.trans (.of_waited ht)
        cases b
        · exact Smgr.wp_mono (ih none t ht.sound (by simp)) fun _ u ⟨hu, hk⟩ => ⟨hst.trans hu, hk⟩
        · exact ⟨hst, ht.past⟩
    rcases entry with _ | ⟨k, c⟩ <;> simp only [readLoop, Smgr.wp_bind]
    · refine Smgr.wp_mono (prefetchRegisterBuffer_wp he hs _ _) fun k t ⟨ht, hk, hw⟩ => ?_
      simp only [wp_getPrfSlot, Smgr.wp_pure]
      exact wait _ k _ ⟨ht.congr rfl, fun h => (hw h).assertSlot k⟩ hk
    · simp only [Smgr.wp_pure]
      exact wait s k c (.refl hs) (hentry _ rfl)

theorem prefetchLookup_wp (he : e.DisconnectsOnFailure) {s : Backend} (hs : Sound s)
    (tag : BufferTag) (requestLsn : XLogRecPtr) :
    Smgr.wp (prefetchLookup tag requestLsn) e
      (fun entry t => Kept s t ∧ ∀ kc ∈ entry, kc.1 < t.ringUnused) R s := by
  simp only [prefetchLookup, Smgr.wp_bind, Smgr.wp_get]
  rcases hh : s.prfHash tag with _ | c
  · exact ⟨.refl hs, by simp⟩
  obtain ⟨p, hp, rfl, rfl⟩ := (hs.inv.hash_live _ c).1 hh
  have hidx : (s.prfBuffer (s.cell p)).myRingIndex = p := hs.inv.index p hp
  simp only []
  split_ifs with hlsn hreq
  · simp only [Smgr.wp_pure, Option.mem_def, Option.some.injEq]
    exact ⟨.refl hs, by rintro _ rfl; exact hidx.trans_lt hp.2.1⟩
  · rw [hidx, Smgr.wp_bind]
    refine Smgr.wp_mono (prefetchWaitFor_wp he hs hp.2.1) fun _ t ht => ?_
    simp only [Smgr.wp_pure, Smgr.wp_bind, Smgr.wp_modify]
    obtain ⟨h₁, h₂, h₃⟩ := ht.sound.setUnused (ht.retirable hp hh)
    exact ⟨(Kept.of_waited ht).trans (.of_ring h₁ h₂ h₃), by simp⟩
  · have hpR : p < s.ringReceive := Nat.lt_of_not_le fun h => hreq (hs.inv.requested p h hp.2.1).1
    simp only [Smgr.wp_pure, Smgr.wp_bind, Smgr.wp_modify, hidx]
    obtain ⟨h₁, h₂, h₃⟩ := hs.setUnused (.inl hpR)
    exact ⟨.of_ring h₁ h₂ h₃, by simp⟩

theorem neonReadAtLsn_wp (he : e.DisconnectsOnFailure) {s : Backend} (hs : Sound s)
    (rnode : RelFileNode) (forkNum : ForkNumber) (blkno : BlockNumber)
    (requestLsn : XLogRecPtr) (requestLatest : Bool) :
    Smgr.wp (neonReadAtLsn rnode forkNum blkno requestLsn requestLatest) e
      (fun _ t => Kept s t) (Kept s) s := by
  simp only [neonReadAtLsn, Smgr.wp_bind, Smgr.wp_env]
  refine Smgr.wp_mono (prefetchLookup_wp he hs _ _) fun entry t h => ?_
  obtain ⟨hst, hentry⟩ := h
  refine Smgr.wp_mono (readLoop_wp he _ _ _ _ entry t hst.sound hentry) fun kc u h => ?_
  obtain ⟨htu, hk⟩ := h
  obtain ⟨k, c⟩ := kc
  simp only [Smgr.wp_get]
  split
  · trivial
  · split
    next _ page _ =>
      simp only [Smgr.wp_bind, Smgr.wp_writeShared, Smgr.wp_modify, Smgr.wp_pure]
      have hw := (hst.trans htu).writeShared (.lfcWrite rnode forkNum blkno page)
      obtain ⟨h₁, h₂, h₃⟩ := hw.sound.setUnused (.inl hk)
      obtain ⟨h₄, h₅, h₆⟩ := h₁.cleanup
      exact hw.trans ((Kept.of_ring h₁ h₂ h₃).trans (.of_ring h₄ h₅ h₆))
    all_goals exact hst.trans htu

theorem pageServerRequest_kept (he : e.DisconnectsOnFailure) {s : Backend} (hs : Sound s)
    (r : NeonRequest) {Q : Response → Backend → Prop} (h : ∀ resp t, Kept s t → Q resp t) :
    Smgr.wp (pageServerRequest r) e Q R s :=
  Smgr.wp_mono (pageServerRequest_wp he hs r) fun resp t ⟨ht, hw⟩ => h resp t ⟨ht, fun h => (hw h).1⟩

theorem neonPrefetch_wp (he : e.DisconnectsOnFailure) {s : Backend} (hs : Sound s)
    (reln : SMgrRelation) (forknum : ForkNumber) (blocknum : BlockNumber) :
    Smgr.wp (neonPrefetch reln forknum blocknum) e (fun _ t => Kept s t) (Kept s) s := by
  simp only [neonPrefetch, Smgr.wp_bind, Smgr.wp_env, Smgr.wp_ite, Smgr.wp_pure, Smgr.wp_raise]
  split_ifs
  · exact .refl hs
  · exact Smgr.wp_mono (prefetchRegisterBuffer_wp he hs _ _) fun _ t h => ⟨h.1, h.2.2⟩
  all_goals exact .refl hs

theorem neonRead_wp (he : e.DisconnectsOnFailure) {s : Backend} (hs : Sound s)
    (reln : SMgrRelation) (forkNum : ForkNumber) (blkno : BlockNumber) :
    Smgr.wp (neonRead reln forkNum blkno) e (fun _ t => Kept s t) (Kept s) s := by
  simp only [neonRead, Smgr.wp_bind, Smgr.wp_env, Smgr.wp_ite, Smgr.wp_pure, Smgr.wp_raise]
  split_ifs
  · exact .refl hs
  · split
    · exact .refl hs
    · exact neonReadAtLsn_wp he hs _ _ _ _ _
  all_goals exact .refl hs

theorem neonExistsRemote_wp (he : e.DisconnectsOnFailure) {s : Backend} (hs : Sound s)
    (reln : SMgrRelation) (forkNum : ForkNumber) :
    Smgr.wp (neonExistsRemote reln forkNum) e (fun _ t => Kept s t) (Kept s) s := by
  simp only [neonExistsRemote, Smgr.wp_bind, Smgr.wp_env, Smgr.wp_ite, Smgr.wp_pure]
  split_ifs
  · exact .refl hs
  · exact .refl hs
  · exact pageServerRequest_kept he hs _ fun resp t ht => by split <;> exact ht

theorem neonExists_wp (he : e.DisconnectsOnFailure) {s : Backend} (hs : Sound s)
    (reln : SMgrRelation) (forkNum : ForkNumber) :
    Smgr.wp (neonExists reln forkNum) e (fun _ t => Kept s t) (Kept s) s := by
  simp only [neonExists, Smgr.wp_bind, Smgr.wp_env, Smgr.wp_ite, Smgr.wp_pure, Smgr.wp_raise]
  split_ifs
  all_goals first | exact neonExistsRemote_wp he hs _ _ | exact .refl hs

theorem neonNblocks_wp (he : e.DisconnectsOnFailure) {s : Backend} (hs : Sound s)
    (reln : SMgrRelation) (forknum : ForkNumber) :
    Smgr.wp (neonNblocks reln forknum) e (fun _ t => Kept s t) (Kept s) s := by
  simp only [neonNblocks, Smgr.wp_bind, Smgr.wp_env, Smgr.wp_ite, Smgr.wp_pure, Smgr.wp_raise]
  split_ifs
  · exact .refl hs
  · split
    · exact .refl hs
    · simp only [Smgr.wp_bind]
      refine pageServerRequest_kept he hs _ fun resp t ht => ?_
      split
      · exact ht.writeShared _
      all_goals exact ht
  all_goals exact .refl hs

theorem neonDbsize_wp (he : e.DisconnectsOnFailure) {s : Backend} (hs : Sound s) (dbNode : Oid) :
    Smgr.wp (neonDbsize dbNode) e (fun _ t => Kept s t) (Kept s) s := by
  simp only [neonDbsize, Smgr.wp_bind, Smgr.wp_env]
  exact pageServerRequest_kept he hs _ fun resp t ht => by split <;> exact ht

theorem redoRelsizeUpdate_wp (he : e.DisconnectsOnFailure) {s : Backend} (hs : Sound s)
    (rnode : RelFileNode) (forknum : ForkNumber) (blkno : BlockNumber) (endRecPtr : XLogRecPtr) :
    Smgr.wp (redoRelsizeUpdate rnode forknum blkno endRecPtr) e (fun _ t => Kept s t) (Kept s) s := by
  simp only [redoRelsizeUpdate, Smgr.wp_bind, Smgr.wp_env, Smgr.wp_writeShared]
  split
  · split_ifs
    · exact ((Kept.refl hs).writeShared _).writeShared _
    · exact .refl hs
  · simp only [Smgr.wp_bind, Smgr.wp_writeShared]
    exact pageServerRequest_kept he hs _ fun _ t ht => (ht.writeShared _).writeShared _

theorem neonRedoReadBufferFilter_wp (he : e.DisconnectsOnFailure) {s : Backend} (hs : Sound s)
    (rnode : RelFileNode) (forknum : ForkNumber) (blkno : BlockNumber) (endRecPtr : XLogRecPtr) :
    Smgr.wp (neonRedoReadBufferFilter rnode forknum blkno endRecPtr) e (fun _ t => Kept s t)
      (Kept s) s := by
  simp only [neonRedoReadBufferFilter, Smgr.wp_bind, Smgr.wp_env, Smgr.wp_ite, Smgr.wp_pure,
    Smgr.wp_writeShared]
  have rest : ∀ t, Kept s t →
      Smgr.wp (redoRelsizeUpdate rnode forknum blkno endRecPtr) e (fun _ u => Kept s u) (Kept s) t :=
    fun t ht => Smgr.wp_conseq (redoRelsizeUpdate_wp he ht.sound _ _ _ _) (fun _ _ hu => ht.trans hu)
      fun _ hu => ht.trans hu
  split_ifs
  · exact .refl hs
  · exact .refl hs
  · exact rest _ (((Kept.refl hs).writeShared _).writeShared _)
  · exact rest _ ((Kept.refl hs).writeShared _)

/-- Every operation but `readahead_buffer_resize` keeps the invariant and the matched
connection, whether it returns or raises `ERROR`. -/
theorem Op.run_wp (he : e.DisconnectsOnFailure) {s : Backend} (hs : Sound s) (op : Op)
    (hop : ¬ op.IsResize) : Smgr.wp op.run e (fun _ t => Kept s t) (Kept s) s := by
  cases op <;> simp only [Op.run, Smgr.wp_bind, Smgr.wp_pure]
  · exact neonPrefetch_wp he hs _ _ _
  · exact neonRead_wp he hs _ _ _
  · exact neonReadAtLsn_wp he hs _ _ _ _ _
  · exact neonExists_wp he hs _ _
  · exact neonNblocks_wp he hs _ _
  · exact neonDbsize_wp he hs _
  · exact neonRedoReadBufferFilter_wp he hs _ _ _ _
  · exact absurd trivial hop

/-- A state reached from `neon_init` by operations other than a resize, each returning or
raising `ERROR` under a transport whose failed `flush` and `receive` run the hook. -/
def Backend.Matched (s : Backend) : Prop :=
  Reachable Env.DisconnectsOnFailure (fun op => ¬ op.IsResize) s

theorem Backend.Matched.kept {s : Backend} (h : s.Matched) : Sound s ∧ s.Wired [] := by
  induction h with
  | init cap flush hcap => exact ⟨sound_neonInit cap flush hcap, wired_neonInit cap flush⟩
  | done _ hop he hrun ih =>
    have h := (Smgr.wp_of_done hrun).1 (Op.run_wp he ih.1 _ hop)
    exact ⟨h.sound, h.wired ih.2⟩
  | raise _ hop he hrun ih =>
    have h := (Smgr.wp_of_raise hrun).1 (Op.run_wp he ih.1 _ hop)
    exact ⟨h.sound, h.wired ih.2⟩

/-- The ring invariant together with zeroed `UNUSED` cells holds after `neon_init`, every
operation but a resize keeps it, returning or raising `ERROR`, under a transport whose
failed `flush` and `receive` run the disconnect hook; so the ring invariant holds in every
state reached so. -/
theorem inv_zeroed_inductive :
    (∀ cap flush, 0 < cap → Inv (neonInit cap flush) ∧ (neonInit cap flush).Zeroed) ∧
    (∀ (e : Env) (op : Op) (s : Backend), e.DisconnectsOnFailure → ¬ op.IsResize →
      Inv s → s.Zeroed →
      Smgr.wp op.run e (fun _ t => Inv t ∧ t.Zeroed) (fun t => Inv t ∧ t.Zeroed) s) ∧
    ∀ s : Backend, s.Matched → Inv s ∧ s.Zeroed :=
  ⟨fun cap flush h => ⟨inv_neonInit cap flush h, zeroed_neonInit cap flush⟩,
    fun _ op _ he hop hi hz => Smgr.wp_conseq (Op.run_wp he ⟨hi, hz⟩ op hop)
      (fun _ _ h => ⟨h.sound.inv, h.sound.zeroed⟩) fun _ h => ⟨h.sound.inv, h.sound.zeroed⟩,
    fun _ h => ⟨h.kept.1.inv, h.kept.1.zeroed⟩⟩

theorem inv_zeroed_inductive_prefetch :
    (Inv (neonInit 4 0) ∧ (neonInit 4 0).Zeroed) ∧
      Smgr.wp (Op.prefetch .sample .main 0).run .steadyWalsender (fun _ t => Inv t ∧ t.Zeroed)
        (fun t => Inv t ∧ t.Zeroed) (neonInit 4 0) :=
  have h := inv_zeroed_inductive
  have h0 := h.1 4 0 (by decide)
  ⟨h0, h.2.1 _ _ _ Env.steadyWalsender_disconnectsOnFailure (by simp [Op.IsResize]) h0.1 h0.2⟩

/-- Prefetches of blocks 0, 1 and 2 and an `nblocks` call that drains them leave three
buffered responses. A read of block 1 then has `prefetch_set_unused(1)` clear position 1, and
the hole between blocks 0 and 2 makes it compact: block 0 moves up to position 1. -/
theorem compactPrefetchBuffers_correct_hole :
    let s := (runOps .steadyWalsender [.prefetch .sample .main 0, .prefetch .sample .main 1,
        .prefetch .sample .main 2, .nblocks .sample .main] (neonInit 4 0)).next?.getD (neonInit 4 0)
    runOps .steadyWalsender [.prefetch .sample .main 0, .prefetch .sample .main 1,
        .prefetch .sample .main 2, .nblocks .sample .main] (neonInit 4 0) = .done () s ∧
      let t := (({ s with
          released := s.released ++ ((s.slotAt 1).response.map Response.id).toList,
          nResponsesBuffered := s.nResponsesBuffered - 1, nUnused := s.nUnused + 1 }.hashDelete
            (s.slotAt 1).buftag).setCell (s.cell 1) .empty)
      Inv t ∧ (compactPrefetchBuffers t).2 = true ∧
      let r := compactPrefetchBuffers t
      r.1 = { t with ringLast := r.1.ringLast, prfBuffer := r.1.prfBuffer, prfHash := r.1.prfHash } ∧
        r.1.liveIn r.1.ringLast r.1.ringUnused = t.liveIn t.ringLast t.ringUnused ∧ Inv r.1 ∧
        (∀ p, r.1.ringLast ≤ p → p < r.1.ringReceive → (r.1.slotAt p).status ≠ .unused) ∧
        (r.2 = true ↔ ∃ p, t.ringLast ≤ p ∧ p < t.ringReceive ∧ (t.slotAt p).status = .unused) ∧
        (r.2 = true → t.ringLast < r.1.ringLast) ∧ (r.2 = false → r.1 = t) := by
  intro s
  have hrun : runOps .steadyWalsender [.prefetch .sample .main 0, .prefetch .sample .main 1,
      .prefetch .sample .main 2, .nblocks .sample .main] (neonInit 4 0) = .done () s := rfl
  have hs := (Backend.Matched.kept (runOps_reachable Env.steadyWalsender_disconnectsOnFailure
    _ (.init 4 0 (by decide)) (by simp [Op.IsResize]) hrun)).1
  refine ⟨hrun, ?_⟩
  intro t
  have ht : Inv t := Inv.mk (hs.inv.clear (k := 1) ⟨by decide, by decide, by decide⟩
    (fun _ => rfl) (fun _ => rfl) rfl rfl (.inl ⟨rfl, by decide⟩) ⟨by decide, by decide⟩
    (by decide) (by decide)) fun _ => by decide
  exact ⟨ht, by decide, compactPrefetchBuffers_correct ht⟩

/-- `Inv` alone is not kept: `prefetch_do_request` leaves the cell's `response` as it
was, so a state whose `UNUSED` cells still hold a response meets `Inv`, and the first
prefetch makes a `REQUESTED` slot that holds one. -/
theorem inv_alone_not_inductive :
    let s : Backend := { neonInit 4 0 with
      prfBuffer := fun _ => { PrefetchRequest.empty with
        response := some ⟨0, .getPageRequest false 0 ⟨0, 0, 0⟩ .main 0, .getPageResponse [7]⟩ } }
    Inv s ∧ ∃ t, (Op.prefetch .sample .main 0).run .steadyWalsender s = .done () t ∧ ¬ Inv t := by
  refine ⟨⟨⟨by decide, by decide, fun p h₁ h₂ => ?_, fun p h₁ h₂ => ?_, fun _ _ _ => rfl,
    fun p hp => ?_, rfl, rfl, fun t c => ?_⟩, nofun⟩, _, rfl, fun h => ?_⟩
  · exact absurd (h₁.trans_lt h₂) (Nat.not_lt_zero _)
  · exact absurd (h₁.trans_lt h₂) (Nat.not_lt_zero _)
  · exact absurd hp.2.1 (Nat.not_lt_zero _)
  · simp [neonInit]
  · exact absurd (h.requested 0 le_rfl (by decide)).2 nofun

/-- A resize can leave a full window. Two buffered responses resized into two cells give
`ring_unused - ring_last = 2`, one more than `Inv` allows at capacity 2. The next
prefetch's ring-full test `ring_last + 2 - 1 == ring_unused` then fails, and it writes
block 2's slot into cell 0, over block 0's live slot. -/
theorem readaheadBufferResize_full_window :
    ∃ s t u, runOps .steadyWalsender [.prefetch .sample .main 0, .prefetch .sample .main 1,
        .nblocks .sample .main] (neonInit 4 0) = .done () s ∧ Inv s ∧
      runOps .steadyWalsender [.resize 2] s = .done () t ∧ t.ringLast = 0 ∧ t.ringUnused = 2 ∧
      t.readaheadBufferSize = 2 ∧ ¬ Inv t ∧ (t.prfBuffer 0).buftag = ⟨⟨1, 1, 1⟩, .main, 0⟩ ∧
      (t.prfBuffer 0).status = .received ∧
      runOps .steadyWalsender [.prefetch .sample .main 2] t = .done () u ∧
      (u.prfBuffer 0).buftag = ⟨⟨1, 1, 1⟩, .main, 2⟩ :=
  ⟨_, _, _, rfl, (Backend.Matched.kept (runOps_reachable Env.steadyWalsender_disconnectsOnFailure
      [.prefetch .sample .main 0, .prefetch .sample .main 1, .nblocks .sample .main]
      (.init 4 0 (by decide)) (by simp [Op.IsResize]) rfl)).1.inv,
    rfl, rfl, rfl, rfl, fun h => absurd h.bound (by decide), rfl, rfl, rfl, rfl⟩

end PagestoreSmgr
