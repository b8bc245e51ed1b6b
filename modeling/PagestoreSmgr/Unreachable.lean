import PagestoreSmgr.Operations
import PagestoreSmgr.Keeps

/-!
# The `pg_unreachable()` of `make_room`

`prefetch_register_buffer` makes room when `ring_last + readahead_buffer_size - 1 ==
ring_unused`, and its status switch on the slot at `ring_last` ends in `pg_unreachable()` for an
`UNUSED` slot, which "must still be in progress". With two cells or more, a sound ring that
passes the test holds a live slot at `ring_last`, and nothing else on a prefetch's way crashes,
whatever the transport does. With one cell the test holds of the empty ring too: the slot at
`ring_last` is the unused one at `ring_unused`, and every registration reaches
`pg_unreachable()`.
-/

set_option autoImplicit false

namespace PagestoreSmgr

open Backend

section Calls

theorem prefetchRead_noCrash (c : Nat) : Smgr.NoCrash (prefetchRead c) := by
  dsimp only [prefetchRead]
  repeat' first
    | with_reducible refine .bind ?_ fun _ => ?_ | split
    | exact .pageServerReceive | exact .modify _ | exact .pure _

theorem receiveLoop_noCrash (k : Nat) : ∀ n, Smgr.NoCrash (receiveLoop k n)
  | 0 => .pure _
  | n + 1 => .bind .get fun _ => .ite (.bind (.getPrfSlot _) fun c =>
      .bind (prefetchRead_noCrash c) fun _ => .ite (receiveLoop_noCrash k n) (.pure _)) (.pure _)

theorem prefetchWaitFor_noCrash (k : Nat) : Smgr.NoCrash (prefetchWaitFor k) := by
  dsimp only [prefetchWaitFor]
  repeat' first
    | with_reducible refine .ite ?_ ?_ | with_reducible refine .bind ?_ fun _ => ?_
    | exact .pageServerFlush | exact receiveLoop_noCrash k _ | exact .modify _ | exact .pure _
    | exact .get

theorem sendLoop_noCrash (r : NeonRequest) : ∀ n, Smgr.NoCrash (sendLoop r n)
  | 0 => .outOfFuel
  | n + 1 => .bind (.pageServerSend r) fun _ => .ite (.pure _) (sendLoop_noCrash r n)

theorem prefetchInsertNew_noCrash (tag : BufferTag) (force : Option (Bool × XLogRecPtr)) :
    Smgr.NoCrash (prefetchInsertNew tag force) := by
  dsimp only [prefetchInsertNew, prefetchDoRequest]
  repeat' first
    | with_reducible refine .ite ?_ ?_ | with_reducible refine .bind ?_ fun _ => ?_ | split
    | exact sendLoop_noCrash _ _ | exact .pageServerFlush | exact .modify _ | exact .pure _
    | exact .get | exact .env

end Calls

variable {e : Env} {s : Backend}

theorem compactIfNeeded_noCrash (hs : Inv s) {k : Bool → Smgr Unit}
    (hmoved : ∀ u c t, k true e u ≠ .crash c t) (hkept : ∀ c t, k false e s ≠ .crash c t)
    (c : Crash) (t : Backend) :
    (if receiveBufferNeedsCompaction s then Smgr.modifyGet compactPrefetchBuffers >>= k
      else pure false >>= k) e s ≠ .crash c t := by
  split_ifs
  · have hk := (compactPrefetchBuffers_correct hs).2.2.2.2.2.2
    simp only [Smgr.bind_apply, Smgr.bind, Smgr.modifyGet]
    rcases hcr : compactPrefetchBuffers s with ⟨u, _ | _⟩
    · obtain rfl : u = s := by simpa [hcr] using hk
      exact hkept c t
    · exact hmoved u c t
  · exact hkept c t

theorem makeRoom_noCrash (hs : Sound s) (hLU : s.ringLast < s.ringUnused) (c : Crash)
    (t : Backend) : makeRoom e s ≠ .crash c t := by
  have hlive : (s.slotAt s.ringLast).status ≠ .unused := by
    rcases Nat.lt_or_ge s.ringLast s.ringReceive with h | h
    · exact hs.inv.lastLive h
    · rw [(hs.inv.requested _ h hLU).1]
      decide
  simp only [makeRoom, Smgr.bind_apply, Smgr.bind, Smgr.get, getPrfSlot,
    assertSlot_of_mem s _ ⟨le_rfl, hLU⟩]
  refine compactIfNeeded_noCrash hs.inv (fun u => (Smgr.NoCrash.pure ()).apply e u)
    (fun c t => ?_) c t
  simp only [Bool.false_eq_true, if_false, Smgr.bind_apply, Smgr.bind, Smgr.get]
  rcases hst : (s.prfBuffer (s.cell s.ringLast)).status
  · exact absurd hst hlive
  · exact Smgr.NoCrash.bind_at ((prefetchWaitFor_noCrash _).apply e s) (fun _ => .modify _) c t
  all_goals exact (Smgr.NoCrash.modify _).apply e s c t

theorem prefetchRegisterNew_noCrash (hs : Sound s) (hcap : 2 ≤ s.readaheadBufferSize)
    (tag : BufferTag) (force : Option (Bool × XLogRecPtr)) (c : Crash) (t : Backend) :
    prefetchRegisterNew tag force e s ≠ .crash c t := by
  simp only [prefetchRegisterNew, Smgr.bind_apply, Smgr.bind, Smgr.get]
  split_ifs <;> refine Smgr.NoCrash.bind_at ?_ (fun _ => prefetchInsertNew_noCrash tag force) c t
  exacts [makeRoom_noCrash hs (by omega), (Smgr.NoCrash.pure ()).apply e s]

theorem prefetchRegisterNew_one_cell (hs : Sound s) (hcap : s.readaheadBufferSize = 1)
    (tag : BufferTag) (force : Option (Bool × XLogRecPtr)) :
    prefetchRegisterNew tag force e s = .crash .unreachable (s.assertSlot s.ringLast) := by
  have ho := hs.inv.order
  have hb := hs.inv.bound
  have hRL : s.ringReceive = s.ringLast := by omega
  have hUL : s.ringUnused = s.ringLast := by omega
  have hcomp : receiveBufferNeedsCompaction (s.assertSlot s.ringLast) = false := by
    have hn := hs.inv.buffered
    simp [receiveBufferNeedsCompaction, countReceived, hRL] at hn ⊢
    simp [assertSlot, check, hn, hRL]
  have hst : ((s.assertSlot s.ringLast).prfBuffer (s.cell s.ringLast)).status = .unused := by
    rw [← hUL]
    exact hs.unused_slot
  simp only [prefetchRegisterNew, makeRoom, Smgr.bind_apply, Smgr.bind, Smgr.get, getPrfSlot,
    hcap, hUL, hcomp, Nat.add_sub_cancel, if_true, Bool.false_eq_true, if_false, Smgr.pure_apply,
    hst]
  rfl

/-- From any sound state and in any environment, a prefetch that registers its block (of a
permanent relation or one of unset kind, not in the local file cache) reaches the
`pg_unreachable()` of `make_room` when the ring has one cell, and does not crash at all when it
has more. -/
theorem neonPrefetch_crashes_iff_one_cell (hs : Sound s) (e : Env) {reln : SMgrRelation}
    {forknum : ForkNumber} {blocknum : BlockNumber}
    (hp : reln.relpersistence = Char.ofNat 0 ∨ reln.relpersistence = RELPERSISTENCE_PERMANENT)
    (hl : e.lfcContains ⟨reln.rnode, forknum, blocknum⟩ = false) :
    (s.readaheadBufferSize = 1 → neonPrefetch reln forknum blocknum e s =
      .crash .unreachable (s.assertSlot s.ringLast)) ∧
    (s.readaheadBufferSize ≠ 1 → ∀ c t, neonPrefetch reln forknum blocknum e s ≠ .crash c t) := by
  have ho := hs.inv.order
  have hb := hs.inv.bound
  have hcap := hs.inv.cap_pos
  simp only [neonPrefetch, Smgr.bind_apply, Smgr.bind, Smgr.env, if_pos hp, hl,
    Bool.false_eq_true, if_false, prefetchRegisterBuffer, Smgr.get]
  refine ⟨fun h1 => ?_, fun h1 c t => ?_⟩
  · have hnone : s.prfHash ⟨reln.rnode, forknum, blocknum⟩ = none := by
      rcases hh : s.prfHash ⟨reln.rnode, forknum, blocknum⟩ with _ | c
      · rfl
      obtain ⟨p, hp, -⟩ := (hs.inv.hash_live _ c).1 hh
      have := hp.1; have := hp.2.1
      omega
    simp only [hnone, prefetchRegisterNew_one_cell hs h1]
  · rcases hh : s.prfHash ⟨reln.rnode, forknum, blocknum⟩ with _ | c'
    · exact Smgr.NoCrash.bind_at (prefetchRegisterNew_noCrash hs (by omega) _ _)
        (fun _ => .pure _) c t
    obtain ⟨p, -, rfl, -⟩ := (hs.inv.hash_live _ c').1 hh
    simp only [rejectsBuffered, Bool.false_eq_true, if_false]
    split_ifs with htr
    · exact absurd htr (hs.ne_tagRemains (Nat.mod_lt _ hs.inv.cap_pos))
    · nofun

theorem neonPrefetch_crashes_iff_one_cell_full :
    ∃ s, runOps .steadyWalsender [.prefetch .sample .main 0] (neonInit 2 0) = .done () s ∧
      Sound s ∧ s.ringLast + s.readaheadBufferSize - 1 = s.ringUnused ∧
      (SMgrRelation.sample.relpersistence = Char.ofNat 0 ∨
        SMgrRelation.sample.relpersistence = RELPERSISTENCE_PERMANENT) ∧
      Env.steadyWalsender.lfcContains ⟨⟨1, 1, 1⟩, .main, 1⟩ = false ∧
      (s.readaheadBufferSize = 1 → neonPrefetch .sample .main 1 .steadyWalsender s =
        .crash .unreachable (s.assertSlot s.ringLast)) ∧
      (s.readaheadBufferSize ≠ 1 → ∀ c t, neonPrefetch .sample .main 1 .steadyWalsender s ≠
        .crash c t) :=
  have hs := (Backend.Matched.kept (runOps_reachable Env.steadyWalsender_disconnectsOnFailure
    [.prefetch .sample .main 0] (.init 2 0 (by decide)) (by simp [Op.IsResize]) rfl)).1
  ⟨_, rfl, hs, rfl, .inr rfl, rfl, neonPrefetch_crashes_iff_one_cell hs .steadyWalsender (.inr rfl) rfl⟩

end PagestoreSmgr
