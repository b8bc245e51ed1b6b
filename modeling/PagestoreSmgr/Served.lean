import PagestoreSmgr.Genuine
import PagestoreSmgr.Operations

/-!
# A read returns the page server's page for its block

Take a transport whose `flush` never fails and whose failed `receive` runs the disconnect
hook. Then every page `neon_read_at_lsn` returns is what the page server answered to a
`GetPage` request for that very block.

The read copies out of the cell that the hash maps its tag to. A slot it finds or registers
is hashed under its tag, and a wait that returns `true` leaves the hash as it was. The slot
the hash names is live, so its response answers its own request (`Wired`), and that response
is genuine (`Genuine`). The one step this needs the reliable `flush` for is the threshold
flush at the end of `prefetch_register_buffer`: a connection dropped there retires the slot
just filled, and the function still returns its position.
-/

set_option autoImplicit false

namespace PagestoreSmgr

open Backend

theorem Smgr.wp_and {α : Type} {x : Smgr α} {e : Env} {s : Backend} {Q Q' : α → Backend → Prop}
    {R : Backend → Prop} (h : Smgr.wp x e Q R s) (h' : Smgr.wp x e Q' R s) :
    Smgr.wp x e (fun a t => Q a t ∧ Q' a t) R s := by
  revert h h'
  unfold Smgr.wp
  cases x e s
  all_goals first | exact And.intro | exact fun h _ => h

theorem Reachable.mono {E E' : Env → Prop} {O O' : Op → Prop} (hE : ∀ e, E e → E' e)
    (hO : ∀ op, O op → O' op) {s : Backend} (h : Reachable E O s) : Reachable E' O' s := by
  induction h with
  | init cap flush hcap => exact .init cap flush hcap
  | done _ hop he hrun ih => exact .done ih (hO _ hop) (hE _ he) hrun
  | raise _ hop he hrun ih => exact .raise ih (hO _ hop) (hE _ he) hrun

/-- A state reached from `neon_init` by operations other than a resize, in environments whose
failed `flush` and `receive` run the hook and whose page server answers by `answer`. -/
def Backend.ServedBy (answer : Nat → NeonRequest → NeonResponse) (s : Backend) : Prop :=
  Reachable (fun e => e.DisconnectsOnFailure ∧ e.answer = answer) (fun op => ¬ op.IsResize) s

theorem Backend.ServedBy.matched {answer : Nat → NeonRequest → NeonResponse} {s : Backend}
    (h : s.ServedBy answer) : s.Matched :=
  h.mono (fun _ he => he.1) fun _ hop => hop

namespace Calm

variable {s t u : Backend}

theorem refl (s : Backend) : Calm s s := ⟨.refl s, rfl, rfl, fun _ h => h⟩

theorem trans (h₁ : Calm s t) (h₂ : Calm t u) : Calm s u :=
  ⟨h₁.frame.trans h₂.frame, h₂.hash.trans h₁.hash, h₂.last.trans h₁.last,
    fun x hx => h₂.wired x (h₁.wired x hx)⟩

end Calm

variable {e : Env} {R : Backend → Prop}

theorem wp_pageServerFlush_ok {s : Backend} {Q : Bool → Backend → Prop} (h : e.flush s.calls = .ok)
    (hok : Q true { s.nextCall with wire := s.wire ++ s.outbuf, outbuf := [] }) :
    Smgr.wp pageServerFlush e Q R s := by
  unfold Smgr.wp pageServerFlush
  rw [h]
  exact hok

theorem receiveLoop_calm (he : e.DisconnectsOnFailure) (k : Nat) :
    ∀ n (s : Backend), Sound s → k < s.ringFlush →
      Smgr.wp (receiveLoop k n) e (fun b t => b = true → Calm s t) R s
  | 0, s, _, _ => fun _ => Calm.refl s
  | n + 1, s, hs, hkF => by
    have ho := hs.inv.order
    simp only [receiveLoop, Smgr.wp_bind, Smgr.wp_get]
    split_ifs with hRk
    · simp only [Smgr.wp_bind, wp_getPrfSlot, assertSlot_of_mem s _ ⟨ho.1, by omega⟩]
      refine prefetchRead_wp he hs (by omega) (fun t ht hc _ hF => ?_) fun h => Bool.noConfusion h
      rw [if_pos rfl]
      exact Smgr.wp_mono (receiveLoop_calm he k n t ht (by omega)) fun _ u hu hb => hc.trans (hu hb)
    · exact fun _ => Calm.refl s

theorem prefetchWaitFor_calm (he : e.DisconnectsOnFailure) {k : Nat} {s : Backend} (hs : Sound s)
    (hk : k < s.ringUnused) :
    Smgr.wp (prefetchWaitFor k) e (fun b t => b = true → Calm s t) R s := by
  have ho := hs.inv.order
  simp only [prefetchWaitFor, Smgr.wp_bind, Smgr.wp_get]
  split_ifs with hF
  · rw [Smgr.wp_bind]
    refine wp_pageServerFlush he ?_ ?_
    · simp only [ite_true, Smgr.wp_modify, Smgr.wp_pure, Smgr.wp_bind, Smgr.wp_get]
      have hm : Sound { s.nextCall with wire := s.wire ++ s.outbuf, outbuf := [] } := hs.congr rfl
      have hc : Calm s
          { s.nextCall with wire := s.wire ++ s.outbuf, outbuf := [], ringFlush := s.ringUnused } :=
        ⟨⟨rfl, rfl, le_rfl, fun _ _ => rfl, fun _ h => h⟩, rfl, rfl, fun _ hx => hx.flush.flushAll⟩
      exact Smgr.wp_mono (receiveLoop_calm he k _ _ hm.flushAll (by exact hk))
        fun _ t h hb => hc.trans (h hb)
    · simp only [Bool.false_eq_true, ite_false, Smgr.wp_bind, Smgr.wp_pure]
      exact False.elim
  · simp only [Smgr.wp_pure, ite_true, Smgr.wp_bind, Smgr.wp_get]
    exact receiveLoop_calm he k _ s hs (by omega)

theorem prefetchDoRequest_hash {s : Backend} (hs : Sound s)
    (hidx : (s.slotAt s.ringUnused).myRingIndex = s.ringUnused)
    (hfresh : s.prfHash (s.slotAt s.ringUnused).buftag = none) (force : Option (Bool × XLogRecPtr)) :
    Smgr.wp (prefetchDoRequest (s.cell s.ringUnused) force) e
      (fun _ t => t.prfHash (s.slotAt s.ringUnused).buftag = some (s.cell s.ringUnused) ∧
        t.readaheadBufferSize = s.readaheadBufferSize) R s := by
  have hu := hs.unused_slot
  have hz := hs.zeroed _ hu
  rcases force with _ | ⟨latest, lsn⟩ <;>
    simp only [prefetchDoRequest, Smgr.wp_bind, Smgr.wp_env, Smgr.wp_get, Smgr.wp_modify] <;>
    refine Smgr.wp_mono (sendLoop_wp _ _ _ ?_) fun _ t h => ?_
  all_goals try (refine Sound.fill ?_ hu hz.1 hidx.le; exact hs.congr rfl)
  all_goals
    obtain ⟨-, hf, -⟩ := h
    have hv := hf.outside (s.cell s.ringUnused)
      fun p (h₁ : s.ringLast ≤ p) (h₂ : p < s.ringUnused) => hs.inv.cell_unused_ne h₁ h₂
    rw [setCell_prfBuffer, if_pos rfl] at hv
    have hn : t.prfHash (s.prfBuffer (s.cell s.ringUnused)).buftag = none := hf.fresh _ hfresh
    refine ⟨?_, hf.cap⟩
    simp [slotAt, hashInsert, hv, hn]

theorem prefetchInsertNew_hash (hflush : ∀ n, e.flush n = .ok) {s : Backend} (hs : Sound s)
    {tag : BufferTag} (hfresh : s.prfHash tag = none) (force : Option (Bool × XLogRecPtr)) :
    Smgr.wp (prefetchInsertNew tag force) e (fun k t => t.prfHash tag = some (t.cell k)) R s := by
  have hu := hs.unused_slot
  simp only [prefetchInsertNew, Smgr.wp_bind, Smgr.wp_get, Smgr.wp_modify]
  have hm : Sound (s.setCell (s.cell s.ringUnused)
      { s.slotAt s.ringUnused with buftag := tag, myRingIndex := s.ringUnused }) :=
    hs.fill hu (hs.zeroed _ hu).1 le_rfl
  refine Smgr.wp_mono (prefetchDoRequest_hash hm (by simp [setCell_slotAt])
    (by simpa [setCell_slotAt] using hfresh) force) fun _ t ⟨hh, hcap⟩ => ?_
  have hk : t.prfHash tag = some (t.cell s.ringUnused) := by
    simpa [setCell_slotAt, cell, hcap] using hh
  split_ifs
  · rw [Smgr.wp_bind]
    refine wp_pageServerFlush_ok (hflush _) ?_
    simpa only [Smgr.wp_bind, Smgr.wp_modify, Smgr.wp_pure] using hk
  · exact hk

theorem prefetchRegisterNew_hash (he : e.DisconnectsOnFailure) (hflush : ∀ n, e.flush n = .ok)
    {s : Backend} (hs : Sound s) {tag : BufferTag} (hfresh : s.prfHash tag = none)
    (force : Option (Bool × XLogRecPtr)) :
    Smgr.wp (prefetchRegisterNew tag force) e (fun k t => t.prfHash tag = some (t.cell k)) R s := by
  simp only [prefetchRegisterNew, Smgr.wp_bind, Smgr.wp_get]
  split_ifs
  · rw [Smgr.wp_bind]
    exact Smgr.wp_mono (makeRoom_wp he hs) fun _ m ⟨hm, hf, _⟩ =>
      prefetchInsertNew_hash hflush hm (hf.fresh _ hfresh) force
  · simp only [Smgr.wp_bind, Smgr.wp_pure]
    exact prefetchInsertNew_hash hflush hs hfresh force

theorem prefetchRegisterBuffer_hash (he : e.DisconnectsOnFailure) (hflush : ∀ n, e.flush n = .ok)
    {s : Backend} (hs : Sound s) (tag : BufferTag) (force : Option (Bool × XLogRecPtr)) :
    Smgr.wp (prefetchRegisterBuffer tag force) e (fun k t => t.prfHash tag = some (t.cell k)) R s := by
  simp only [prefetchRegisterBuffer, Smgr.wp_bind, Smgr.wp_get]
  rcases hh : s.prfHash tag with _ | c
  · exact prefetchRegisterNew_hash he hflush hs hh force
  obtain ⟨p, hp, rfl, rfl⟩ := (hs.inv.hash_live tag c).1 hh
  have hidx : (s.prfBuffer (s.cell p)).myRingIndex = p := hs.inv.index p hp
  simp only [hidx]
  split_ifs with hrej htr
  · rw [Smgr.wp_bind]
    refine Smgr.wp_mono (prefetchWaitFor_wp he hs hp.2.1) fun _ t ht => ?_
    simp only [Smgr.wp_bind, Smgr.wp_modify]
    exact prefetchRegisterNew_hash he hflush (ht.sound.setUnused (.inl ht.past)).1
      (ht.setUnused_fresh hp hh) force
  · exact absurd htr (hs.ne_tagRemains (Nat.mod_lt _ hs.inv.cap_pos))
  · exact hh

theorem prefetchLookup_hash (he : e.DisconnectsOnFailure) {s : Backend} (hs : Sound s)
    (tag : BufferTag) (requestLsn : XLogRecPtr) :
    Smgr.wp (prefetchLookup tag requestLsn) e
      (fun entry t => ∀ kc ∈ entry, t.prfHash tag = some kc.2) R s := by
  simp only [prefetchLookup, Smgr.wp_bind, Smgr.wp_get]
  rcases hh : s.prfHash tag with _ | c
  · exact fun _ h => Option.noConfusion h
  obtain ⟨p, hp, rfl, rfl⟩ := (hs.inv.hash_live _ c).1 hh
  have hidx : (s.prfBuffer (s.cell p)).myRingIndex = p := hs.inv.index p hp
  simp only [hidx]
  split_ifs with hlsn hreq
  · rintro _ ⟨⟩
    exact hh
  · rw [Smgr.wp_bind]
    exact Smgr.wp_mono (prefetchWaitFor_wp he hs hp.2.1) fun _ _ _ _ h => Option.noConfusion h
  · exact fun _ h => Option.noConfusion h

theorem readLoop_hash (he : e.DisconnectsOnFailure) (hflush : ∀ n, e.flush n = .ok)
    (tag : BufferTag) (requestLsn : XLogRecPtr) (requestLatest : Bool) (n : Nat) :
    ∀ (entry : Option (Nat × Nat)) (s : Backend), Sound s →
      (∀ kc ∈ entry, kc.1 < s.ringUnused ∧ s.prfHash tag = some kc.2) →
      Smgr.wp (readLoop tag requestLsn requestLatest entry n) e
        (fun kc t => t.prfHash tag = some kc.2) R s := by
  induction n with
  | zero => intro _ s _ _; trivial
  | succ n ih =>
    intro entry s hs hentry
    have wait : ∀ m k c, Sound m → k < m.ringUnused → m.prfHash tag = some c →
        Smgr.wp (prefetchWaitFor k) e (fun b t => Smgr.wp (if b = true then pure (k, c)
          else readLoop tag requestLsn requestLatest none n) e
            (fun kc t => t.prfHash tag = some kc.2) R t) R m :=
      fun m k c hm hk hc => Smgr.wp_mono (Smgr.wp_and (prefetchWaitFor_wp he hm hk)
        (prefetchWaitFor_calm he hm hk)) fun b t ⟨ht, hcalm⟩ => by
          cases b
          · exact ih none t ht.sound (by simp)
          · show t.prfHash tag = some c
            rw [(hcalm rfl).hash]
            exact hc
    rcases entry with _ | ⟨k, c⟩ <;> simp only [readLoop, Smgr.wp_bind]
    · refine Smgr.wp_mono (Smgr.wp_and (prefetchRegisterBuffer_wp he hs _ _)
        (prefetchRegisterBuffer_hash he hflush hs _ _)) fun k t ⟨⟨ht, hk, _⟩, hh⟩ => ?_
      simp only [wp_getPrfSlot, Smgr.wp_pure]
      exact wait _ k _ (ht.congr rfl) hk hh
    · simp only [Smgr.wp_pure]
      obtain ⟨hk, hc⟩ := hentry _ rfl
      exact wait s k c hs hk hc

/-- Under a transport whose `flush` never fails and whose failed `receive` drops the
connection, a page `neon_read_at_lsn` returns is the page server's answer, at some call, to a
`GetPage` request for the block read. -/
theorem neonReadAtLsn_serves {answer : Nat → NeonRequest → NeonResponse} {s : Backend}
    (hs : s.ServedBy answer) (he : e.DisconnectsOnFailure) (hflush : ∀ n, e.flush n = .ok)
    (ha : e.answer = answer) (rnode : RelFileNode) (forkNum : ForkNumber) (blkno : BlockNumber)
    (requestLsn : XLogRecPtr) (requestLatest : Bool) :
    Smgr.wp (neonReadAtLsn rnode forkNum blkno requestLsn requestLatest) e
      (fun page _ => ∃ id latest lsn,
        answer id (.getPageRequest latest lsn rnode forkNum blkno) = .getPageResponse page)
      (fun _ => True) s := by
  obtain ⟨hsnd, hw⟩ := hs.matched.kept
  have hg : s.Genuine e.answer := ha ▸ hs.genuine fun _ h => h.2
  subst ha
  simp only [neonReadAtLsn, Smgr.wp_bind, Smgr.wp_env]
  refine Smgr.wp_conseq (Smgr.wp_and (Smgr.wp_and (prefetchLookup_wp he hsnd _ _)
    (prefetchLookup_hash he hsnd _ _)) ((prefetchLookup_keeps _ _).wp hg))
    (fun entry t ⟨⟨⟨hst, hentry⟩, hh⟩, hgt⟩ => ?_) fun _ _ => trivial
  refine Smgr.wp_conseq (Smgr.wp_and (Smgr.wp_and
    (readLoop_wp he _ _ _ _ entry t hst.sound hentry)
    (readLoop_hash he hflush _ _ _ _ entry t hst.sound fun kc h => ⟨hentry kc h, hh kc h⟩))
    ((readLoop_keeps _ _ _ _ _).wp hgt)) (fun ⟨k, c⟩ u ⟨⟨⟨htu, _⟩, hcu⟩, hgu⟩ => ?_) fun _ _ => trivial
  simp only [Smgr.wp_get]
  split
  · trivial
  next r hr =>
    split
    next page hmsg =>
      simp only [Smgr.wp_bind, Smgr.wp_writeShared, Smgr.wp_modify, Smgr.wp_pure]
      have hsu := hst.trans htu
      obtain ⟨p, hp, hpc, hpt⟩ := (hsu.sound.inv.hash_live _ c).1 hcu
      obtain ⟨⟨latest, lsn, hsent⟩, hans⟩ := (hsu.wired hw).answers hp
      have hr' : (u.slotAt p).response = some r := by rw [slotAt, hpc]; exact hr
      refine ⟨r.id, latest, lsn, ?_⟩
      calc e.answer r.id (.getPageRequest latest lsn rnode forkNum blkno)
          = e.answer r.id r.answers := by rw [hans r hr', hsent, hpt]
        _ = r.msg := hgu c r hr
        _ = .getPageResponse page := hmsg
    all_goals trivial

theorem neonReadAtLsn_serves_prefetched :
    ∃ s, runOps .steadyWalsender [.prefetch .sample .main 0] (neonInit 4 0) = .done () s ∧
      Smgr.wp (neonReadAtLsn ⟨1, 1, 1⟩ .main 0 0 true) .steadyWalsender
        (fun page _ => ∃ id latest lsn, Env.steadyWalsender.answer id
          (.getPageRequest latest lsn ⟨1, 1, 1⟩ .main 0) = .getPageResponse page)
        (fun _ => True) s :=
  ⟨_, rfl, neonReadAtLsn_serves (runOps_reachable (O := fun op => ¬ op.IsResize)
    (E := fun e => e.DisconnectsOnFailure ∧ e.answer = Env.steadyWalsender.answer)
    ⟨Env.steadyWalsender_disconnectsOnFailure, rfl⟩ [.prefetch .sample .main 0]
    (.init 4 0 (by decide)) (by simp [Op.IsResize]) rfl)
    Env.steadyWalsender_disconnectsOnFailure (fun _ => rfl) rfl _ _ _ _ _⟩

theorem requestLoop_genuine (he : e.DisconnectsOnFailure) (r : NeonRequest) (n : Nat) :
    ∀ s : Backend, Sound s →
      Smgr.wp (requestLoop r n) e (fun resp _ => resp.Genuine e.answer) R s := by
  induction n with
  | zero => intro s _; trivial
  | succ n ih =>
    intro s hs
    simp only [requestLoop, Smgr.wp_bind, Smgr.wp_env]
    refine Smgr.wp_mono (sendFlushLoop_wp he r _ s hs) fun _ t ⟨ht, _⟩ => ?_
    simp only [Smgr.wp_modify, Smgr.wp_bind]
    refine Smgr.wp_mono (consumePrefetchResponses_wp he ht.flushAll) fun _ u hu => ?_
    exact wp_pageServerReceive he (fun _ _ _ => rfl) (ih _ hu.1.disconnected.1)

theorem pageServerRequest_serves {s : Backend} (hs : s.Matched) (he : e.DisconnectsOnFailure)
    (r : NeonRequest) :
    Smgr.wp (pageServerRequest r) e (fun resp _ => e.answer resp.id r = resp.msg) R s := by
  obtain ⟨hsnd, hw⟩ := hs.kept
  simp only [pageServerRequest, Smgr.wp_bind, Smgr.wp_env]
  refine Smgr.wp_mono (Smgr.wp_and (requestLoop_wp he r _ s hsnd) (requestLoop_genuine he r _ s hsnd))
    fun resp _ ⟨⟨_, hr⟩, hg⟩ => ?_
  rw [← (hr hw).2]
  exact hg

/-- Between operations, the connection carries exactly the requests of the positions
`ring_receive .. ring_unused - 1`, in order; each live slot's request is its own
`GetPage` and a response it holds answers that request; and `page_server_request(req)`
returns the page server's answer to `req`. -/
theorem connection_matches_ring {s : Backend} (h : s.Matched) :
    s.wire ++ s.outbuf = s.reqs s.ringReceive s.ringUnused ∧
      (∀ p, s.Live p → (s.slotAt p).Answers) ∧
      ∀ (e : Env) (r : NeonRequest), e.DisconnectsOnFailure →
        Smgr.wp (pageServerRequest r) e
          (fun resp _ => resp.answers = r ∧ e.answer resp.id r = resp.msg) (fun _ => True) s :=
  have hk := h.kept
  ⟨hk.2.conn.trans (List.append_nil _), fun _ hp => hk.2.answers hp, fun _ r he =>
    Smgr.wp_mono (Smgr.wp_and (pageServerRequest_wp (R := fun _ => True) he hk.1 r)
      (pageServerRequest_serves h he r)) fun _ _ ⟨h', hm⟩ => ⟨(h'.2 hk.2).2, hm⟩⟩

theorem connection_matches_prefetched :
    ∃ s, runOps .steadyWalsender [.prefetch .sample .main 0] (neonInit 4 0) = .done () s ∧
      s.wire ++ s.outbuf = s.reqs s.ringReceive s.ringUnused ∧
      (∀ p, s.Live p → (s.slotAt p).Answers) ∧
      ∀ (e : Env) (r : NeonRequest), e.DisconnectsOnFailure →
        Smgr.wp (pageServerRequest r) e
          (fun resp _ => resp.answers = r ∧ e.answer resp.id r = resp.msg) (fun _ => True) s :=
  ⟨_, rfl, connection_matches_ring (runOps_reachable Env.steadyWalsender_disconnectsOnFailure
    [.prefetch .sample .main 0] (.init 4 0 (by decide)) (by simp [Op.IsResize]) rfl)⟩

theorem neonExistsRemote_serves {s : Backend} (hs : s.Matched) (he : e.DisconnectsOnFailure)
    (reln : SMgrRelation) (forkNum : ForkNumber) (hc : e.cachedRelsize reln.rnode forkNum = none)
    (h0 : reln.rnode ≠ ⟨0, 0, 0⟩) :
    Smgr.wp (neonExistsRemote reln forkNum) e (fun b _ => ∃ id, e.answer id
      (.existsRequest (neonGetRequestLsn e.xlog reln.rnode forkNum
          e.xlog.relMetadataPseudoBlockno).1
        (neonGetRequestLsn e.xlog reln.rnode forkNum e.xlog.relMetadataPseudoBlockno).2
        reln.rnode forkNum) = .existsResponse b) (fun _ => True) s := by
  simp only [neonExistsRemote, Smgr.wp_bind, Smgr.wp_env, hc, Option.isSome_none,
    Bool.false_eq_true, if_false, h0]
  refine Smgr.wp_mono (pageServerRequest_serves hs he _) fun resp _ h => ?_
  split
  next b hb => exact ⟨resp.id, h.trans hb⟩
  all_goals trivial

/-- Between operations, what `neon_exists` and `neon_nblocks` of a permanent relation whose
size is not cached, and `neon_dbsize`, return is the page server's answer, at some call, to
the very request each sends: `Exists` or `Nblocks` for the relation fork, at the LSN
`neon_get_request_lsn` gives for the metadata pseudo-block, or `DbSize` for the database. -/
theorem metadataRequests_serve {s : Backend} (hs : s.Matched) (he : e.DisconnectsOnFailure) :
    (∀ reln forkNum, reln.relpersistence = RELPERSISTENCE_PERMANENT →
      e.cachedRelsize reln.rnode forkNum = none → reln.rnode ≠ ⟨0, 0, 0⟩ →
      Smgr.wp (neonExists reln forkNum) e (fun b _ => ∃ id, e.answer id
        (.existsRequest (neonGetRequestLsn e.xlog reln.rnode forkNum
            e.xlog.relMetadataPseudoBlockno).1
          (neonGetRequestLsn e.xlog reln.rnode forkNum e.xlog.relMetadataPseudoBlockno).2
          reln.rnode forkNum) = .existsResponse b) (fun _ => True) s) ∧
    (∀ reln forknum, reln.relpersistence = RELPERSISTENCE_PERMANENT →
      e.cachedRelsize reln.rnode forknum = none →
      Smgr.wp (neonNblocks reln forknum) e (fun n _ => ∃ id, e.answer id
        (.nblocksRequest (neonGetRequestLsn e.xlog reln.rnode forknum
            e.xlog.relMetadataPseudoBlockno).1
          (neonGetRequestLsn e.xlog reln.rnode forknum e.xlog.relMetadataPseudoBlockno).2
          reln.rnode forknum) = .nblocksResponse n) (fun _ => True) s) ∧
    ∀ dbNode, Smgr.wp (neonDbsize dbNode) e (fun n _ => ∃ id, e.answer id
      (.dbSizeRequest (neonGetRequestLsn e.xlog ⟨0, 0, 0⟩ .main e.xlog.relMetadataPseudoBlockno).1
        (neonGetRequestLsn e.xlog ⟨0, 0, 0⟩ .main e.xlog.relMetadataPseudoBlockno).2 dbNode) =
        .dbSizeResponse n) (fun _ => True) s := by
  have h0 : RELPERSISTENCE_PERMANENT ≠ Char.ofNat 0 := by decide
  refine ⟨fun reln forkNum hp hc hz => ?_, fun reln forknum hp hc => ?_, fun dbNode => ?_⟩
  · simp only [neonExists, Smgr.wp_bind, Smgr.wp_env, hp, h0, if_false, if_true]
    exact neonExistsRemote_serves hs he reln forkNum hc hz
  · simp only [neonNblocks, Smgr.wp_bind, Smgr.wp_env, hp, h0, if_false, if_true, hc]
    refine Smgr.wp_mono (pageServerRequest_serves hs he _) fun resp _ h => ?_
    split
    next n hn =>
      simp only [Smgr.wp_bind, Smgr.wp_writeShared, Smgr.wp_pure]
      exact ⟨resp.id, h.trans hn⟩
    all_goals trivial
  · simp only [neonDbsize, Smgr.wp_bind, Smgr.wp_env]
    refine Smgr.wp_mono (pageServerRequest_serves hs he _) fun resp _ h => ?_
    split
    next n hn => exact ⟨resp.id, h.trans hn⟩
    all_goals trivial

theorem metadataRequests_serve_prefetched :
    ∃ s, runOps .steadyWalsender [.prefetch .sample .main 0] (neonInit 4 0) = .done () s ∧
      Smgr.wp (neonExists .sample .main) .steadyWalsender (fun b _ => ∃ id,
        Env.steadyWalsender.answer id (.existsRequest (neonGetRequestLsn Env.steadyWalsender.xlog
            ⟨1, 1, 1⟩ .main Env.steadyWalsender.xlog.relMetadataPseudoBlockno).1
          (neonGetRequestLsn Env.steadyWalsender.xlog ⟨1, 1, 1⟩ .main
            Env.steadyWalsender.xlog.relMetadataPseudoBlockno).2 ⟨1, 1, 1⟩ .main) =
          .existsResponse b) (fun _ => True) s ∧
      Smgr.wp (neonNblocks .sample .main) .steadyWalsender (fun n _ => ∃ id,
        Env.steadyWalsender.answer id (.nblocksRequest (neonGetRequestLsn Env.steadyWalsender.xlog
            ⟨1, 1, 1⟩ .main Env.steadyWalsender.xlog.relMetadataPseudoBlockno).1
          (neonGetRequestLsn Env.steadyWalsender.xlog ⟨1, 1, 1⟩ .main
            Env.steadyWalsender.xlog.relMetadataPseudoBlockno).2 ⟨1, 1, 1⟩ .main) =
          .nblocksResponse n) (fun _ => True) s :=
  have h := metadataRequests_serve (runOps_reachable Env.steadyWalsender_disconnectsOnFailure
    [.prefetch .sample .main 0] (.init 4 0 (by decide)) (by simp [Op.IsResize]) rfl)
    Env.steadyWalsender_disconnectsOnFailure
  ⟨_, rfl, h.1 .sample .main rfl rfl (by decide), h.2.1 .sample .main rfl rfl⟩

end PagestoreSmgr
