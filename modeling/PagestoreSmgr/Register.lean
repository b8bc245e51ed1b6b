import PagestoreSmgr.Receive

/-!
# Registering a block

`prefetch_do_request`, the make-room step and `prefetch_register_buffer`, under a
transport whose failed `flush` and `receive` run the disconnect hook. Each keeps
`Sound` and keeps the connection matched with the requests in flight (`Wired`);
`prefetch_register_buffer` returns a position below `ring_unused`.
-/

set_option autoImplicit false

namespace PagestoreSmgr

open Backend

variable {e : Env} {R : Backend → Prop}

theorem sendLoop_wp (r : NeonRequest) (n : Nat) : ∀ s : Backend, Sound s →
    Smgr.wp (sendLoop r n) e (fun _ t => Sound t ∧ Frame s t ∧ (s.Wired [] → t.Wired [r])) R s := by
  induction n with
  | zero => intro s _; trivial
  | succ n ih =>
    intro s hs
    simp only [sendLoop, Smgr.wp_bind]
    refine wp_pageServerSend ?_ ?_ ?_
    · simp only [ite_true, Smgr.wp_pure]
      exact ⟨hs.congr rfl, .of_ring rfl, fun h => h.send r⟩
    · simp only [Bool.false_eq_true, ite_false]
      exact Smgr.wp_mono (ih _ (hs.congr rfl)) fun _ t ⟨ht, hf, hw⟩ =>
        ⟨ht, (Frame.of_ring (s := s) (t := s.nextCall) rfl).trans hf, fun h => hw h.nextCall⟩
    · obtain ⟨h₁, h₂, -⟩ := hs.disconnected
      simp only [Bool.false_eq_true, ite_false]
      exact Smgr.wp_mono (ih _ h₁) fun _ t ⟨ht, hf, hw⟩ => ⟨ht, h₂.trans hf, fun h => hw (h.disconnect hs)⟩

theorem prefetchDoRequest_wp {s : Backend} (hs : Sound s)
    (hroom : s.ringUnused + 2 ≤ s.ringLast + s.readaheadBufferSize)
    (hidx : (s.slotAt s.ringUnused).myRingIndex = s.ringUnused)
    (hfresh : s.prfHash (s.slotAt s.ringUnused).buftag = none) {c : Nat}
    (hc : c = s.cell s.ringUnused) (force : Option (Bool × XLogRecPtr)) :
    Smgr.wp (prefetchDoRequest c force) e
      (fun _ t => Sound t ∧ t.ringUnused = s.ringUnused + 1 ∧ (s.Wired [] → t.Wired [])) R s := by
  subst hc
  have hu := hs.unused_slot
  have hz := hs.zeroed _ hu
  rcases force with _ | ⟨latest, lsn⟩ <;>
    simp only [prefetchDoRequest, Smgr.wp_bind, Smgr.wp_env, Smgr.wp_get, Smgr.wp_modify] <;>
    refine Smgr.wp_mono (sendLoop_wp _ _ _ ?_) fun _ t h => ?_
  all_goals try (refine Sound.fill ?_ hu hz.1 hidx.le; exact hs.congr rfl)
  all_goals
    obtain ⟨ht, hf, hw⟩ := h
    have hU : t.ringUnused = s.ringUnused := hf.unused
    have hL : s.ringLast ≤ t.ringLast := hf.last
    have hcap : t.readaheadBufferSize = s.readaheadBufferSize := hf.cap
    have hv := hf.outside (s.cell s.ringUnused)
      fun p (h₁ : s.ringLast ≤ p) (h₂ : p < s.ringUnused) => hs.inv.cell_unused_ne h₁ h₂
    rw [setCell_prfBuffer, if_pos rfl] at hv
    have hct : s.cell s.ringUnused = t.cell t.ringUnused := by simp only [cell, hU, hcap]
    have hv' := (congrArg t.prfBuffer hct).symm.trans hv
    rw [hct]
    simp only [setCell_prfBuffer, ite_true]
    refine ⟨ht.issue (by omega) ?_ ?_ rfl rfl rfl rfl rfl rfl rfl rfl rfl,
      by simp only [hashInsert_ringUnused, setCell_ringUnused, hU],
      fun h => Wired.issue ?_ ht (by omega) (by rw [slotAt, hv']) rfl rfl rfl rfl rfl rfl rfl⟩
    · rw [slotAt, hv', hU]; exact hidx
    · rw [slotAt, hv']; exact hf.fresh _ hfresh
    · rw [slotAt, hv']
      refine hw (Wired.fill ?_ ?_ _)
      exacts [⟨h.conn, h.live⟩, hs.congr rfl]

theorem wp_compactIfNeeded {α : Type} {s : Backend} (hs : Inv s) {k : Bool → Smgr α}
    {Q : α → Backend → Prop}
    (hmoved : (compactPrefetchBuffers s).2 = true → Smgr.wp (k true) e Q R (compactPrefetchBuffers s).1)
    (hkept : Smgr.wp (k false) e Q R s) :
    Smgr.wp (if receiveBufferNeedsCompaction s then Smgr.modifyGet compactPrefetchBuffers >>= k
      else pure false >>= k) e Q R s := by
  split_ifs
  · rw [Smgr.wp_bind, Smgr.wp_modifyGet]
    rcases compactPrefetchBuffers_cases hs with ⟨-, he⟩ | ⟨-, _, _, _, -, he⟩ <;>
      rw [he] at hmoved ⊢
    exacts [hkept, hmoved rfl]
  · rwa [Smgr.wp_bind, Smgr.wp_pure]

theorem makeRoom_wp (he : e.DisconnectsOnFailure) {s : Backend} (hs : Sound s) :
    Smgr.wp makeRoom e (fun _ t => Sound t ∧ Frame s t ∧ s.ringLast < t.ringLast ∧
      (s.Wired [] → t.Wired [])) R s := by
  have ho := hs.inv.order
  simp only [makeRoom, Smgr.wp_bind, Smgr.wp_get, wp_getPrfSlot]
  have hs' : Sound (s.assertSlot s.ringLast) := hs.congr rfl
  refine wp_compactIfNeeded hs'.inv (fun hm => ?_) ?_
  · obtain ⟨h₁, h₂, h₃, h₄⟩ := compactPrefetchBuffers_inv hs'.inv hs'.zeroed
    simp only [if_true, Smgr.wp_pure]
    exact ⟨⟨h₁, h₂⟩, (Frame.assertSlot s _).trans h₃.toFrame,
      compactPrefetchBuffers_advances hs'.inv hm, fun h => (h.assertSlot _).ring h₃ h₄⟩
  simp only [Bool.false_eq_true, if_false, Smgr.wp_bind, Smgr.wp_get]
  split
  next _ hst =>
    rw [Smgr.wp_bind]
    refine Smgr.wp_mono (prefetchWaitFor_wp he hs' (hs.last_lt_unused fun h => by cases h.symm.trans hst))
      fun _ t ht => ?_
    obtain ⟨h₁, h₂, h₃⟩ := ht.sound.setUnused (.inl ht.past)
    simp only [Smgr.wp_modify]
    exact ⟨h₁, (Frame.assertSlot s _).trans (ht.frame.trans h₂.toFrame),
      ht.sound.retire_past ht.past ht.frame.last,
      fun h => (ht.wired _ (h.assertSlot _)).elim (·.ring h₂ h₃) (·.ring h₂ h₃)⟩
  next _ hst =>
    have hLU := hs.last_lt_unused fun h => by cases h.symm.trans hst
    have hLR : s.ringLast < s.ringReceive := Nat.lt_of_not_le fun h => by
      cases (hs.inv.requested _ h hLU).1.symm.trans hst
    obtain ⟨h₁, h₂, h₃⟩ := hs.setUnused (.inl hLR)
    simp only [Smgr.wp_modify, assertSlot_of_mem s _ ⟨le_rfl, hLU⟩]
    exact ⟨h₁, h₂.toFrame, hs.retire_past hLR le_rfl, fun h => h.ring h₂ h₃⟩
  next _ hst => exact absurd hst (hs.ne_tagRemains (Nat.mod_lt _ hs.inv.cap_pos))
  next => trivial

theorem prefetchInsertNew_wp (he : e.DisconnectsOnFailure) {s : Backend} (hs : Sound s)
    (hroom : s.ringUnused + 2 ≤ s.ringLast + s.readaheadBufferSize) {tag : BufferTag}
    (hfresh : s.prfHash tag = none) (force : Option (Bool × XLogRecPtr)) :
    Smgr.wp (prefetchInsertNew tag force) e (fun k t => Sound t ∧ k < t.ringUnused ∧
      (s.Wired [] → t.Wired [])) R s := by
  have hu := hs.unused_slot
  simp only [prefetchInsertNew, Smgr.wp_bind, Smgr.wp_get, Smgr.wp_modify]
  have hm : Sound (s.setCell (s.cell s.ringUnused)
      { s.slotAt s.ringUnused with buftag := tag, myRingIndex := s.ringUnused }) :=
    hs.fill hu (hs.zeroed _ hu).1 le_rfl
  refine Smgr.wp_mono (prefetchDoRequest_wp hm hroom (by simp [setCell_slotAt])
    (by simpa [setCell_slotAt] using hfresh) rfl force) fun _ t h => ?_
  obtain ⟨ht, hU, hw⟩ := h
  replace hU : t.ringUnused = s.ringUnused + 1 := hU
  replace hw : s.Wired [] → t.Wired [] := fun h => hw (h.fill hs _)
  split_ifs
  · rw [Smgr.wp_bind]
    refine wp_pageServerFlush he ?_ ?_ <;> simp only [Smgr.wp_bind, Smgr.wp_modify, Smgr.wp_pure]
    · exact ⟨ht.flushAll.congr rfl, show s.ringUnused < t.ringUnused by omega,
        fun h => (hw h).flush.flushAll⟩
    · obtain ⟨h₁, h₂, -⟩ := ht.disconnected
      have := h₂.unused
      exact ⟨h₁.flushAll, show s.ringUnused < (disconnect t).ringUnused by omega,
        fun h => ((hw h).disconnect ht).flushAll⟩
  · simp only [Smgr.wp_bind, Smgr.wp_pure]
    exact ⟨ht, by omega, hw⟩

theorem Waited.setUnused_fresh {s t : Backend} {p : Nat} (ht : Waited p s t) (hp : s.Live p)
    (hh : s.prfHash (s.slotAt p).buftag = some (s.cell p)) :
    (prefetchSetUnused t p).prfHash (s.slotAt p).buftag = none := by
  rcases ht.settled _ hh with ⟨-, hn⟩ | ⟨hh', hL⟩
  · exact (ht.sound.setUnused (.inl ht.past)).2.1.fresh _ hn
  · have := hp.1
    refine ht.sound.setUnused_drops (by omega) ht.past ?_
    rw [hh', hh]; simp only [cell, ht.frame.cap]

theorem prefetchRegisterNew_wp (he : e.DisconnectsOnFailure) {s : Backend} (hs : Sound s)
    {tag : BufferTag} (hfresh : s.prfHash tag = none) (force : Option (Bool × XLogRecPtr)) :
    Smgr.wp (prefetchRegisterNew tag force) e (fun k t => Sound t ∧ k < t.ringUnused ∧
      (s.Wired [] → t.Wired [])) R s := by
  have hb := hs.inv.bound
  simp only [prefetchRegisterNew, Smgr.wp_bind, Smgr.wp_get]
  split_ifs with hfull
  · rw [Smgr.wp_bind]
    refine Smgr.wp_mono (makeRoom_wp he hs) fun _ m h => ?_
    obtain ⟨hm, hf, hL, hw⟩ := h
    have := hf.unused; have := hf.cap
    exact Smgr.wp_mono (prefetchInsertNew_wp he hm (by omega) (hf.fresh _ hfresh) force)
      fun k t ⟨ht, hk, hw'⟩ => ⟨ht, hk, fun h => hw' (hw h)⟩
  · simp only [Smgr.wp_bind, Smgr.wp_pure]
    exact prefetchInsertNew_wp he hs (by omega) hfresh force

theorem prefetchRegisterBuffer_wp (he : e.DisconnectsOnFailure) {s : Backend} (hs : Sound s)
    (tag : BufferTag) (force : Option (Bool × XLogRecPtr)) :
    Smgr.wp (prefetchRegisterBuffer tag force) e (fun k t => Sound t ∧ k < t.ringUnused ∧
      (s.Wired [] → t.Wired [])) R s := by
  simp only [prefetchRegisterBuffer, Smgr.wp_bind, Smgr.wp_get]
  rcases hh : s.prfHash tag with _ | c
  · exact prefetchRegisterNew_wp he hs hh force
  obtain ⟨p, hp, rfl, rfl⟩ := (hs.inv.hash_live tag c).1 hh
  have hidx : (s.prfBuffer (s.cell p)).myRingIndex = p := hs.inv.index p hp
  simp only [hidx]
  split_ifs with hrej htr
  · rw [Smgr.wp_bind]
    refine Smgr.wp_mono (prefetchWaitFor_wp he hs hp.2.1) fun _ t ht => ?_
    obtain ⟨h₁, h₂, h₃⟩ := ht.sound.setUnused (.inl ht.past)
    simp only [Smgr.wp_bind, Smgr.wp_modify]
    exact Smgr.wp_mono (prefetchRegisterNew_wp he h₁ (ht.setUnused_fresh hp hh) force) fun k u ⟨hu, hk, hw⟩ =>
      ⟨hu, hk, fun h => hw ((ht.wired _ h).elim (·.ring h₂ h₃) (·.ring h₂ h₃))⟩
  · exact absurd htr (hs.ne_tagRemains (Nat.mod_lt _ hs.inv.cap_pos))
  · exact ⟨hs, hp.2.1, id⟩

end PagestoreSmgr
