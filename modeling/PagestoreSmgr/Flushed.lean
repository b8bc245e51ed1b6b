import PagestoreSmgr.Served

/-!
# The requests before `ring_flush` are on the wire

`prefetch_wait_for(k)` flushes only when `k` is past `ring_flush`; for an earlier position it
reads the wire at once. The read finds its request because no more than the requests past
`ring_flush` wait in the output buffer (`Flushed`): a request enters the buffer at
`ring_unused`, and `ring_flush` moves up to `ring_unused` only once a flush has emptied the
buffer or the disconnect hook has dropped it. Under a transport whose failed `flush` and
`receive` run the hook, every operation but a resize keeps this, returning or raising `ERROR`,
so it holds in every state between operations.
-/

set_option autoImplicit false

namespace PagestoreSmgr

open Backend

/-- No more than the requests past `ring_flush`, and the synchronous requests `x` after them,
wait in the output buffer. -/
def Backend.Flushed (x : List NeonRequest) (s : Backend) : Prop :=
  s.outbuf.length + s.ringFlush ≤ s.ringUnused + x.length

theorem Backend.reqs_length (s : Backend) (a b : Nat) : (s.reqs a b).length = b - a := by
  simp [reqs]

theorem Sound.disconnect_outbuf {s : Backend} (hs : Sound s) : (disconnect s).outbuf = [] := by
  have h' : Sound s.nextCall.dropConnection := hs.congr rfl
  obtain ⟨-, -, hf, -⟩ := prefetchOnPsDisconnect_inv h'.inv h'.zeroed
  exact congrArg (·.2.2.2.2.2.1) hf.conn

namespace Backend.Flushed

variable {s t : Backend} {x : List NeonRequest}

theorem of_flushAll (ho : t.outbuf = []) (hF : t.ringFlush = t.ringUnused) : t.Flushed x := by
  unfold Flushed
  rw [ho, hF, List.length_nil]
  omega

theorem disconnect (hs : Sound s) (x : List NeonRequest) : (disconnect s).Flushed x :=
  of_flushAll hs.disconnect_outbuf (hs.disconnected.2.2.2.trans hs.disconnected.2.1.unused.symm)

theorem ring (h : s.Flushed x) (hf : RingFrame s t) (hq : Quiet s t) : t.Flushed x := by
  have ho : t.outbuf = s.outbuf := congrArg (·.2.2.2.2.2.1) hf.conn
  unfold Flushed
  rwa [ho, hq.flush, hf.unused]

theorem send (h : s.Flushed x) (r : NeonRequest) :
    { s.nextCall with outbuf := s.outbuf ++ [r] }.Flushed (x ++ [r]) := by
  unfold Flushed at *
  simp only [List.length_append, List.length_singleton]
  show s.outbuf.length + 1 + s.ringFlush ≤ s.ringUnused + (x.length + 1)
  omega

theorem issue {r : NeonRequest} (h : s.Flushed [r]) (ho : t.outbuf = s.outbuf)
    (hF : t.ringFlush = s.ringFlush) (hU : t.ringUnused = s.ringUnused + 1) : t.Flushed [] := by
  unfold Flushed at *
  rw [ho, hF, hU]
  simp only [List.length_singleton, List.length_nil] at h ⊢
  omega

end Backend.Flushed

namespace Backend.Wired

variable {s : Backend} {x : List NeonRequest}

theorem wire_ne_nil (h : s.Wired x) (hf : s.Flushed x) (hRF : s.ringReceive < s.ringFlush)
    (hFU : s.ringFlush ≤ s.ringUnused) : s.wire ≠ [] := fun hw => by
  have hl := congrArg List.length h.conn
  simp only [hw, List.nil_append, List.length_append, reqs_length] at hl
  unfold Flushed at hf
  omega

theorem wire_eq (h : s.Wired x) (hRU : s.ringReceive = s.ringUnused) (ho : s.outbuf = []) :
    s.wire = x := by
  simpa only [ho, List.append_nil, hRU, reqs_self, List.nil_append] using h.conn

end Backend.Wired

variable {e : Env} {R : Backend → Prop}

section Pipeline

theorem prefetchRead_flushed (he : e.DisconnectsOnFailure) {s : Backend} (hs : Sound s) (c : Nat) :
    Smgr.wp (prefetchRead c) e (fun _ t => ∀ x, s.Flushed x → t.Flushed x) R s := by
  unfold prefetchRead
  rw [Smgr.wp_bind]
  refine wp_pageServerReceive he (fun _ _ _ => ?_) ?_
  · simp only [Smgr.wp_modify, Smgr.wp_pure]
    exact fun _ h => h
  · simp only [Smgr.wp_pure]
    exact fun x _ => .disconnect hs x

theorem receiveLoop_flushed (he : e.DisconnectsOnFailure) (k : Nat) :
    ∀ n (s : Backend), Sound s → k < s.ringFlush →
      Smgr.wp (receiveLoop k n) e (fun _ t => ∀ x, s.Flushed x → t.Flushed x) R s
  | 0, _, _, _ => fun _ h => h
  | n + 1, s, hs, hkF => by
    have ho := hs.inv.order
    simp only [receiveLoop, Smgr.wp_bind, Smgr.wp_get]
    split_ifs with hRk
    · simp only [Smgr.wp_bind, wp_getPrfSlot, assertSlot_of_mem s _ ⟨ho.1, by omega⟩]
      refine Smgr.wp_mono (Smgr.wp_and (prefetchRead_flushed he hs _)
        (prefetchRead_wp he hs (by omega) (Q := fun b t => b = true → Sound t ∧
          t.ringFlush = s.ringFlush) (fun t ht _ _ hF _ => ⟨ht, hF⟩) fun h => Bool.noConfusion h))
        fun b t ⟨hf, h⟩ => ?_
      cases b
      · simp only [Bool.false_eq_true, if_false, Smgr.wp_pure]
        exact hf
      · obtain ⟨ht, hF⟩ := h rfl
        rw [if_pos rfl]
        exact Smgr.wp_mono (receiveLoop_flushed he k n t ht (by omega))
          fun _ u hu x hx => hu x (hf x hx)
    · exact fun _ h => h

theorem prefetchWaitFor_flushed (he : e.DisconnectsOnFailure) {k : Nat} {s : Backend}
    (hs : Sound s) (hk : k < s.ringUnused) :
    Smgr.wp (prefetchWaitFor k) e (fun _ t => ∀ x, s.Flushed x → t.Flushed x) R s := by
  have ho := hs.inv.order
  simp only [prefetchWaitFor, Smgr.wp_bind, Smgr.wp_get]
  split_ifs with hF
  · rw [Smgr.wp_bind]
    refine wp_pageServerFlush he ?_ ?_
    · simp only [ite_true, Smgr.wp_modify, Smgr.wp_pure, Smgr.wp_bind, Smgr.wp_get]
      have hm : Sound { s.nextCall with wire := s.wire ++ s.outbuf, outbuf := [] } := hs.congr rfl
      exact Smgr.wp_mono (receiveLoop_flushed he k _ _ hm.flushAll (by exact hk))
        fun _ _ h x _ => h x (.of_flushAll rfl rfl)
    · simp only [Bool.false_eq_true, ite_false, Smgr.wp_bind, Smgr.wp_pure]
      exact fun x _ => .disconnect hs x
  · simp only [Smgr.wp_pure, ite_true, Smgr.wp_bind, Smgr.wp_get]
    exact receiveLoop_flushed he k _ s hs (by omega)

theorem consumePrefetchResponses_flushed (he : e.DisconnectsOnFailure) {s : Backend}
    (hs : Sound s) :
    Smgr.wp consumePrefetchResponses e (fun _ t => ∀ x, s.Flushed x → t.Flushed x) R s := by
  have ho := hs.inv.order
  simp only [consumePrefetchResponses, Smgr.wp_bind, Smgr.wp_get]
  split_ifs with hRU
  · simp only [Smgr.wp_bind, Smgr.wp_pure]
    exact prefetchWaitFor_flushed he hs (by omega)
  · exact fun _ h => h

theorem sendLoop_flushed (r : NeonRequest) (n : Nat) : ∀ s : Backend, Sound s →
    Smgr.wp (sendLoop r n) e (fun _ t => ∀ x, s.Flushed x → t.Flushed (x ++ [r])) R s := by
  induction n with
  | zero => intro s _; trivial
  | succ n ih =>
    intro s hs
    simp only [sendLoop, Smgr.wp_bind]
    refine wp_pageServerSend ?_ ?_ ?_
    · simp only [ite_true, Smgr.wp_pure]
      exact fun _ h => h.send r
    · simp only [Bool.false_eq_true, ite_false]
      exact Smgr.wp_mono (ih _ (hs.congr rfl)) fun _ _ h x hx => h x hx
    · simp only [Bool.false_eq_true, ite_false]
      exact Smgr.wp_mono (ih _ hs.disconnected.1) fun _ _ h x _ => h x (.disconnect hs x)

theorem prefetchDoRequest_flushed {s : Backend} (hs : Sound s)
    (hidx : (s.slotAt s.ringUnused).myRingIndex = s.ringUnused) {c : Nat}
    (hc : c = s.cell s.ringUnused) (force : Option (Bool × XLogRecPtr)) :
    Smgr.wp (prefetchDoRequest c force) e (fun _ t => s.Flushed [] → t.Flushed []) R s := by
  subst hc
  have hu := hs.unused_slot
  have hz := hs.zeroed _ hu
  rcases force with _ | ⟨latest, lsn⟩ <;>
    simp only [prefetchDoRequest, Smgr.wp_bind, Smgr.wp_env, Smgr.wp_get, Smgr.wp_modify] <;>
    refine Smgr.wp_mono (sendLoop_flushed _ _ _ ?_) fun _ t h hf => (h [] hf).issue rfl rfl rfl
  all_goals
    refine Sound.fill ?_ hu hz.1 hidx.le
    exact hs.congr rfl

theorem prefetchInsertNew_flushed (he : e.DisconnectsOnFailure) {s : Backend} (hs : Sound s)
    (hroom : s.ringUnused + 2 ≤ s.ringLast + s.readaheadBufferSize) {tag : BufferTag}
    (hfresh : s.prfHash tag = none) (force : Option (Bool × XLogRecPtr)) :
    Smgr.wp (prefetchInsertNew tag force) e (fun _ t => s.Flushed [] → t.Flushed []) R s := by
  have hu := hs.unused_slot
  simp only [prefetchInsertNew, Smgr.wp_bind, Smgr.wp_get, Smgr.wp_modify]
  have hm : Sound (s.setCell (s.cell s.ringUnused)
      { s.slotAt s.ringUnused with buftag := tag, myRingIndex := s.ringUnused }) :=
    hs.fill hu (hs.zeroed _ hu).1 le_rfl
  have hidx : ((s.setCell (s.cell s.ringUnused)
      { s.slotAt s.ringUnused with buftag := tag, myRingIndex := s.ringUnused }).slotAt
        s.ringUnused).myRingIndex = s.ringUnused := by
    simp [setCell_slotAt]
  refine Smgr.wp_mono (Smgr.wp_and (prefetchDoRequest_wp hm hroom hidx
    (by simpa [setCell_slotAt] using hfresh) rfl force) (prefetchDoRequest_flushed hm hidx rfl force))
    fun _ t ⟨⟨ht, _⟩, hf⟩ => ?_
  split_ifs
  · rw [Smgr.wp_bind]
    refine wp_pageServerFlush he ?_ ?_ <;> simp only [Smgr.wp_bind, Smgr.wp_modify, Smgr.wp_pure]
    · exact fun _ => .of_flushAll rfl rfl
    · exact fun _ => .of_flushAll ht.disconnect_outbuf rfl
  · simp only [Smgr.wp_bind, Smgr.wp_pure]
    exact hf

theorem makeRoom_flushed (he : e.DisconnectsOnFailure) {s : Backend} (hs : Sound s) :
    Smgr.wp makeRoom e (fun _ t => s.Flushed [] → t.Flushed []) R s := by
  simp only [makeRoom, Smgr.wp_bind, Smgr.wp_get, wp_getPrfSlot]
  have hs' : Sound (s.assertSlot s.ringLast) := hs.congr rfl
  refine wp_compactIfNeeded hs'.inv (fun _ => ?_) ?_
  · obtain ⟨-, -, h₃, h₄⟩ := compactPrefetchBuffers_inv hs'.inv hs'.zeroed
    simp only [if_true, Smgr.wp_pure]
    exact fun h => Flushed.ring (s := s.assertSlot s.ringLast) h h₃ h₄
  simp only [Bool.false_eq_true, if_false, Smgr.wp_bind, Smgr.wp_get]
  split
  next _ hst =>
    have hLU := hs.last_lt_unused fun h => by cases h.symm.trans hst
    rw [Smgr.wp_bind]
    refine Smgr.wp_mono (Smgr.wp_and (prefetchWaitFor_wp he hs' hLU)
      (prefetchWaitFor_flushed he hs' hLU)) fun _ t ⟨ht, hf⟩ => ?_
    obtain ⟨-, h₂, h₃⟩ := ht.sound.setUnused (.inl ht.past)
    exact fun h => (hf [] h).ring h₂ h₃
  next _ hst =>
    have hLU := hs.last_lt_unused fun h => by cases h.symm.trans hst
    have hLR : s.ringLast < s.ringReceive := Nat.lt_of_not_le fun h => by
      cases (hs.inv.requested _ h hLU).1.symm.trans hst
    obtain ⟨-, h₂, h₃⟩ := hs.setUnused (.inl hLR)
    simp only [Smgr.wp_modify, assertSlot_of_mem s _ ⟨le_rfl, hLU⟩]
    exact fun h => h.ring h₂ h₃
  next _ hst => exact absurd hst (hs.ne_tagRemains (Nat.mod_lt _ hs.inv.cap_pos))
  next => trivial

theorem prefetchRegisterNew_flushed (he : e.DisconnectsOnFailure) {s : Backend} (hs : Sound s)
    {tag : BufferTag} (hfresh : s.prfHash tag = none) (force : Option (Bool × XLogRecPtr)) :
    Smgr.wp (prefetchRegisterNew tag force) e (fun _ t => s.Flushed [] → t.Flushed []) R s := by
  have hb := hs.inv.bound
  simp only [prefetchRegisterNew, Smgr.wp_bind, Smgr.wp_get]
  split_ifs with hfull
  · rw [Smgr.wp_bind]
    refine Smgr.wp_mono (Smgr.wp_and (makeRoom_wp he hs) (makeRoom_flushed he hs))
      fun _ m ⟨⟨hm, hf, hL, _⟩, hfm⟩ => ?_
    have := hf.unused; have := hf.cap
    exact Smgr.wp_mono (prefetchInsertNew_flushed he hm (by omega) (hf.fresh _ hfresh) force)
      fun _ _ h h' => h (hfm h')
  · simp only [Smgr.wp_bind, Smgr.wp_pure]
    exact prefetchInsertNew_flushed he hs (by omega) hfresh force

theorem prefetchRegisterBuffer_flushed (he : e.DisconnectsOnFailure) {s : Backend} (hs : Sound s)
    (tag : BufferTag) (force : Option (Bool × XLogRecPtr)) :
    Smgr.wp (prefetchRegisterBuffer tag force) e (fun _ t => s.Flushed [] → t.Flushed []) R s := by
  simp only [prefetchRegisterBuffer, Smgr.wp_bind, Smgr.wp_get]
  rcases hh : s.prfHash tag with _ | c
  · exact prefetchRegisterNew_flushed he hs hh force
  obtain ⟨p, hp, rfl, rfl⟩ := (hs.inv.hash_live tag c).1 hh
  have hidx : (s.prfBuffer (s.cell p)).myRingIndex = p := hs.inv.index p hp
  simp only [hidx]
  split_ifs with hrej htr
  · rw [Smgr.wp_bind]
    refine Smgr.wp_mono (Smgr.wp_and (prefetchWaitFor_wp he hs hp.2.1)
      (prefetchWaitFor_flushed he hs hp.2.1)) fun _ t ⟨ht, hf⟩ => ?_
    obtain ⟨h₁, h₂, h₃⟩ := ht.sound.setUnused (.inl ht.past)
    simp only [Smgr.wp_bind, Smgr.wp_modify]
    exact Smgr.wp_mono (prefetchRegisterNew_flushed he h₁ (ht.setUnused_fresh hp hh) force)
      fun _ _ h h' => h ((hf [] h').ring h₂ h₃)
  · exact absurd htr (hs.ne_tagRemains (Nat.mod_lt _ hs.inv.cap_pos))
  · exact id

theorem sendFlushLoop_flushed (he : e.DisconnectsOnFailure) (r : NeonRequest) (n : Nat) :
    ∀ s : Backend, Sound s → Smgr.wp (sendFlushLoop r n) e (fun _ t => t.outbuf = []) R s := by
  induction n with
  | zero => intro s _; trivial
  | succ n ih =>
    intro s hs
    simp only [sendFlushLoop, Smgr.wp_bind]
    refine wp_pageServerSend ?_ ?_ ?_
    · have hm : Sound { s.nextCall with outbuf := s.outbuf ++ [r] } := hs.congr rfl
      simp only [ite_true, Smgr.wp_bind]
      refine wp_pageServerFlush he rfl ?_
      simp only [Bool.false_eq_true, ite_false]
      exact ih _ hm.disconnected.1
    · simp only [Bool.false_eq_true, ite_false]
      exact ih _ (hs.congr rfl)
    · simp only [Bool.false_eq_true, ite_false]
      exact ih _ hs.disconnected.1

theorem requestLoop_flushed (he : e.DisconnectsOnFailure) (r : NeonRequest) (n : Nat) :
    ∀ s : Backend, Sound s →
      Smgr.wp (requestLoop r n) e (fun _ t => t.Flushed []) (Flushed []) s := by
  induction n with
  | zero => intro s _; trivial
  | succ n ih =>
    intro s hs
    simp only [requestLoop, Smgr.wp_bind, Smgr.wp_env]
    refine Smgr.wp_mono (Smgr.wp_and (sendFlushLoop_wp he r _ s hs)
      (sendFlushLoop_flushed he r _ s hs)) fun _ t ⟨⟨ht, _⟩, hot⟩ => ?_
    simp only [Smgr.wp_modify, Smgr.wp_bind]
    refine Smgr.wp_mono (Smgr.wp_and (consumePrefetchResponses_wp he ht.flushAll)
      (consumePrefetchResponses_flushed he ht.flushAll)) fun _ u ⟨⟨hu, _⟩, hf⟩ => ?_
    have hfu : u.Flushed [] := hf [] (.of_flushAll hot rfl)
    refine wp_pageServerReceive he (fun _ _ _ => hfu) ?_
    exact ih _ hu.disconnected.1

theorem pageServerRequest_flushed (he : e.DisconnectsOnFailure) {s : Backend} (hs : Sound s)
    (r : NeonRequest) {Q : Response → Backend → Prop} (h : ∀ resp t, t.Flushed [] → Q resp t) :
    Smgr.wp (pageServerRequest r) e Q (Flushed []) s := by
  simp only [pageServerRequest, Smgr.wp_bind, Smgr.wp_env]
  exact Smgr.wp_mono (requestLoop_flushed he r _ s hs) h

end Pipeline

section Operations

theorem readLoop_flushed (he : e.DisconnectsOnFailure) (tag : BufferTag) (requestLsn : XLogRecPtr)
    (requestLatest : Bool) (n : Nat) : ∀ (entry : Option (Nat × Nat)) (s : Backend), Sound s →
    (∀ kc ∈ entry, kc.1 < s.ringUnused) → s.Flushed [] →
    Smgr.wp (readLoop tag requestLsn requestLatest entry n) e (fun _ t => t.Flushed [])
      (Flushed []) s := by
  induction n with
  | zero => intro _ s _ _ _; trivial
  | succ n ih =>
    intro entry s hs hentry hf
    have wait : ∀ m k c, Sound m → m.Flushed [] → k < m.ringUnused →
        Smgr.wp (prefetchWaitFor k) e (fun b t => Smgr.wp (if b = true then pure (k, c)
          else readLoop tag requestLsn requestLatest none n) e (fun _ u => u.Flushed [])
            (Flushed []) t) (Flushed []) m :=
      fun m k c hm hfm hk => Smgr.wp_mono (Smgr.wp_and (prefetchWaitFor_wp he hm hk)
        (prefetchWaitFor_flushed he hm hk)) fun b t ⟨ht, hft⟩ => by
          cases b
          · exact ih none t ht.sound (by simp) (hft [] hfm)
          · exact hft [] hfm
    rcases entry with _ | ⟨k, c⟩ <;> simp only [readLoop, Smgr.wp_bind]
    · refine Smgr.wp_mono (Smgr.wp_and (prefetchRegisterBuffer_wp he hs _ _)
        (prefetchRegisterBuffer_flushed he hs _ _)) fun k t ⟨⟨ht, hk, _⟩, hft⟩ => ?_
      simp only [wp_getPrfSlot, Smgr.wp_pure]
      exact wait _ k _ (ht.congr rfl) (hft hf) hk
    · simp only [Smgr.wp_pure]
      exact wait s k c hs hf (hentry _ rfl)

theorem prefetchLookup_flushed (he : e.DisconnectsOnFailure) {s : Backend} (hs : Sound s)
    (tag : BufferTag) (requestLsn : XLogRecPtr) :
    Smgr.wp (prefetchLookup tag requestLsn) e (fun _ t => s.Flushed [] → t.Flushed []) R s := by
  simp only [prefetchLookup, Smgr.wp_bind, Smgr.wp_get]
  rcases hh : s.prfHash tag with _ | c
  · exact id
  obtain ⟨p, hp, rfl, rfl⟩ := (hs.inv.hash_live _ c).1 hh
  have hidx : (s.prfBuffer (s.cell p)).myRingIndex = p := hs.inv.index p hp
  simp only []
  split_ifs with hlsn hreq
  · exact id
  · rw [hidx, Smgr.wp_bind]
    refine Smgr.wp_mono (Smgr.wp_and (prefetchWaitFor_wp he hs hp.2.1)
      (prefetchWaitFor_flushed he hs hp.2.1)) fun _ t ⟨ht, hft⟩ => ?_
    simp only [Smgr.wp_pure, Smgr.wp_bind, Smgr.wp_modify]
    obtain ⟨-, h₂, h₃⟩ := ht.sound.setUnused (ht.retirable hp hh)
    exact fun h => (hft [] h).ring h₂ h₃
  · have hpR : p < s.ringReceive := Nat.lt_of_not_le fun h => hreq (hs.inv.requested p h hp.2.1).1
    simp only [Smgr.wp_pure, Smgr.wp_bind, Smgr.wp_modify, hidx]
    obtain ⟨-, h₂, h₃⟩ := hs.setUnused (.inl hpR)
    exact fun h => h.ring h₂ h₃

theorem neonReadAtLsn_flushed (he : e.DisconnectsOnFailure) {s : Backend} (hs : Sound s)
    (hf : s.Flushed []) (rnode : RelFileNode) (forkNum : ForkNumber) (blkno : BlockNumber)
    (requestLsn : XLogRecPtr) (requestLatest : Bool) :
    Smgr.wp (neonReadAtLsn rnode forkNum blkno requestLsn requestLatest) e
      (fun _ t => t.Flushed []) (Flushed []) s := by
  simp only [neonReadAtLsn, Smgr.wp_bind, Smgr.wp_env]
  refine Smgr.wp_mono (Smgr.wp_and (prefetchLookup_wp he hs _ _) (prefetchLookup_flushed he hs _ _))
    fun entry t ⟨⟨hst, hentry⟩, hft⟩ => ?_
  refine Smgr.wp_mono (Smgr.wp_and (readLoop_wp he _ _ _ _ entry t hst.sound hentry)
    (readLoop_flushed he _ _ _ _ entry t hst.sound hentry (hft hf))) fun ⟨k, c⟩ u ⟨⟨htu, hk⟩, hfu⟩ => ?_
  simp only [Smgr.wp_get]
  split
  · trivial
  · split
    next _ page _ =>
      simp only [Smgr.wp_bind, Smgr.wp_writeShared, Smgr.wp_modify, Smgr.wp_pure]
      have hw := (hst.trans htu).writeShared (.lfcWrite rnode forkNum blkno page)
      obtain ⟨h₁, h₂, h₃⟩ := hw.sound.setUnused (.inl hk)
      obtain ⟨-, h₅, h₆⟩ := h₁.cleanup
      exact (Flushed.ring (s := u.writeShared _) hfu h₂ h₃).ring h₅ h₆
    all_goals exact hfu

theorem neonPrefetch_flushed (he : e.DisconnectsOnFailure) {s : Backend} (hs : Sound s)
    (hf : s.Flushed []) (reln : SMgrRelation) (forknum : ForkNumber) (blocknum : BlockNumber) :
    Smgr.wp (neonPrefetch reln forknum blocknum) e (fun _ t => t.Flushed []) (Flushed []) s := by
  simp only [neonPrefetch, Smgr.wp_bind, Smgr.wp_env, Smgr.wp_ite, Smgr.wp_pure, Smgr.wp_raise]
  split_ifs
  · exact hf
  · exact Smgr.wp_mono (prefetchRegisterBuffer_flushed he hs _ _) fun _ _ h => h hf
  all_goals exact hf

theorem neonRead_flushed (he : e.DisconnectsOnFailure) {s : Backend} (hs : Sound s)
    (hf : s.Flushed []) (reln : SMgrRelation) (forkNum : ForkNumber) (blkno : BlockNumber) :
    Smgr.wp (neonRead reln forkNum blkno) e (fun _ t => t.Flushed []) (Flushed []) s := by
  simp only [neonRead, Smgr.wp_bind, Smgr.wp_env, Smgr.wp_ite, Smgr.wp_pure, Smgr.wp_raise]
  split_ifs
  · exact hf
  · split
    · exact hf
    · exact neonReadAtLsn_flushed he hs hf _ _ _ _ _
  all_goals exact hf

theorem neonExists_flushed (he : e.DisconnectsOnFailure) {s : Backend} (hs : Sound s)
    (hf : s.Flushed []) (reln : SMgrRelation) (forkNum : ForkNumber) :
    Smgr.wp (neonExists reln forkNum) e (fun _ t => t.Flushed []) (Flushed []) s := by
  have remote : Smgr.wp (neonExistsRemote reln forkNum) e (fun _ t => t.Flushed []) (Flushed []) s := by
    simp only [neonExistsRemote, Smgr.wp_bind, Smgr.wp_env, Smgr.wp_ite, Smgr.wp_pure]
    split_ifs
    · exact hf
    · exact hf
    · exact pageServerRequest_flushed he hs _ fun resp t ht => by split <;> exact ht
  simp only [neonExists, Smgr.wp_bind, Smgr.wp_env, Smgr.wp_ite, Smgr.wp_pure, Smgr.wp_raise]
  split_ifs
  · exact hf
  · exact remote
  · exact remote
  · exact hf
  · exact hf

theorem neonNblocks_flushed (he : e.DisconnectsOnFailure) {s : Backend} (hs : Sound s)
    (hf : s.Flushed []) (reln : SMgrRelation) (forknum : ForkNumber) :
    Smgr.wp (neonNblocks reln forknum) e (fun _ t => t.Flushed []) (Flushed []) s := by
  simp only [neonNblocks, Smgr.wp_bind, Smgr.wp_env, Smgr.wp_ite, Smgr.wp_pure, Smgr.wp_raise]
  split_ifs
  · exact hf
  · split
    · exact hf
    · simp only [Smgr.wp_bind]
      exact pageServerRequest_flushed he hs _ fun resp t ht => by
        split
        · exact ht
        all_goals exact ht
  all_goals exact hf

theorem neonDbsize_flushed (he : e.DisconnectsOnFailure) {s : Backend} (hs : Sound s)
    (dbNode : Oid) : Smgr.wp (neonDbsize dbNode) e (fun _ t => t.Flushed []) (Flushed []) s := by
  simp only [neonDbsize, Smgr.wp_bind, Smgr.wp_env]
  exact pageServerRequest_flushed he hs _ fun resp t ht => by split <;> exact ht

theorem redoRelsizeUpdate_flushed (he : e.DisconnectsOnFailure) {s : Backend} (hs : Sound s)
    (hf : s.Flushed []) (rnode : RelFileNode) (forknum : ForkNumber) (blkno : BlockNumber)
    (endRecPtr : XLogRecPtr) :
    Smgr.wp (redoRelsizeUpdate rnode forknum blkno endRecPtr) e (fun _ t => t.Flushed [])
      (Flushed []) s := by
  simp only [redoRelsizeUpdate, Smgr.wp_bind, Smgr.wp_env, Smgr.wp_writeShared]
  split
  · split_ifs
    · exact hf
    · exact hf
  · simp only [Smgr.wp_bind, Smgr.wp_writeShared]
    exact pageServerRequest_flushed he hs _ fun _ _ ht => ht

theorem neonRedoReadBufferFilter_flushed (he : e.DisconnectsOnFailure) {s : Backend}
    (hs : Sound s) (hf : s.Flushed []) (rnode : RelFileNode) (forknum : ForkNumber)
    (blkno : BlockNumber) (endRecPtr : XLogRecPtr) :
    Smgr.wp (neonRedoReadBufferFilter rnode forknum blkno endRecPtr) e (fun _ t => t.Flushed [])
      (Flushed []) s := by
  simp only [neonRedoReadBufferFilter, Smgr.wp_bind, Smgr.wp_env, Smgr.wp_ite, Smgr.wp_pure,
    Smgr.wp_writeShared]
  split_ifs
  · exact hf
  · exact hf
  · exact redoRelsizeUpdate_flushed he (by exact hs.congr rfl) (by exact hf) _ _ _ _
  · exact redoRelsizeUpdate_flushed he (by exact hs.congr rfl) (by exact hf) _ _ _ _

theorem Op.run_flushed (he : e.DisconnectsOnFailure) {s : Backend} (hs : Sound s)
    (hf : s.Flushed []) (op : Op) (hop : ¬ op.IsResize) :
    Smgr.wp op.run e (fun _ t => t.Flushed []) (Flushed []) s := by
  cases op <;> simp only [Op.run, Smgr.wp_bind, Smgr.wp_pure]
  · exact neonPrefetch_flushed he hs hf _ _ _
  · exact neonRead_flushed he hs hf _ _ _
  · exact neonReadAtLsn_flushed he hs hf _ _ _ _ _
  · exact neonExists_flushed he hs hf _ _
  · exact neonNblocks_flushed he hs hf _ _
  · exact neonDbsize_flushed he hs _
  · exact neonRedoReadBufferFilter_flushed he hs hf _ _ _ _
  · exact absurd trivial hop

theorem Backend.Matched.flushed {s : Backend} (h : s.Matched) : s.Flushed [] := by
  induction h with
  | init => exact .of_flushAll rfl rfl
  | done hr hop he hrun ih =>
    exact (Smgr.wp_of_done hrun).1 (Op.run_flushed he (Backend.Matched.kept hr).1 ih _ hop)
  | raise hr hop he hrun ih =>
    exact (Smgr.wp_of_raise hrun).1 (Op.run_flushed he (Backend.Matched.kept hr).1 ih _ hop)

end Operations

end PagestoreSmgr
