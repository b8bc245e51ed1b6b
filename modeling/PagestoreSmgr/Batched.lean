import PagestoreSmgr.Flushed
import Mathlib.Logic.Function.Basic

/-!
# Fewer than `flush_every_n_requests` requests wait unflushed

`prefetch_register_buffer` issues each new request past `ring_flush` and, once
`ring_unused - ring_flush` reaches `flush_every_n_requests`, flushes and moves `ring_flush` up
to `ring_unused`. No other step moves `ring_unused`, and the others move `ring_flush` only up to
`ring_unused`: a wait that flushes, a synchronous request, the disconnect hook, a resize. So
between operations fewer than `flush_every_n_requests` requests lie past `ring_flush`, whatever
the transport does and across resizes (`Batched`). Over a transport whose failed `flush` runs
the hook and without resizes, the output buffer holds no more requests than lie past
`ring_flush` (`Flushed`), so fewer than `flush_every_n_requests` wait unsent.
-/

set_option autoImplicit false

namespace PagestoreSmgr

open Backend

def Backend.counters (s : Backend) : Nat × Nat × Nat :=
  (s.ringUnused, s.ringFlush, s.flushEveryNRequests)

section Counters

/-! Ring maintenance leaves the counters alone; the disconnect hook moves `ring_flush` up to
`ring_unused`. -/

theorem cleanupLoop_counters : ∀ n (s : Backend), (cleanupLoop n s).counters = s.counters
  | 0, _ => rfl
  | n + 1, s => by
    dsimp only [cleanupLoop]
    split_ifs
    · rw [cleanupLoop_counters]
      rfl
    all_goals rfl

theorem prefetchCleanupTrailingUnused_counters (s : Backend) :
    (prefetchCleanupTrailingUnused s).counters = s.counters :=
  cleanupLoop_counters _ s

theorem compactFind_counters (e : Nat) :
    ∀ k (s : Backend), (compactFind s e k).1.counters = s.counters
  | 0, _ => rfl
  | k + 1, s => by
    dsimp only [compactFind]
    split_ifs
    · rfl
    · rw [compactFind_counters]
      rfl
    · rfl

theorem compactMoveSlot_counters (s : Backend) (search empty : Nat) :
    (compactMoveSlot s search empty).counters = s.counters := by
  dsimp only [counters, compactMoveSlot, setCell, hashInsert, hashDelete, assertSlot, check]

theorem compactMove_counters :
    ∀ k (s : Backend) (empty nMoved : Nat), (compactMove s empty nMoved k).1.counters = s.counters
  | 0, _, _, _ => rfl
  | k + 1, s, _, _ => by
    dsimp only [compactMove]
    split_ifs
    · rw [compactMove_counters]
      rfl
    · rw [compactMove_counters, compactMoveSlot_counters]
      rfl
    · rfl

theorem compactPrefetchBuffers_counters (s : Backend) :
    (compactPrefetchBuffers s).1.counters = s.counters := by
  unfold compactPrefetchBuffers
  split_ifs
  · rfl
  rcases hf : compactFind s s.ringLast s.ringReceive with ⟨t, search, empty⟩
  have ht : t.counters = s.counters := by
    simpa only [hf] using compactFind_counters s.ringLast s.ringReceive s
  dsimp only
  rcases hm : compactMove t empty 0 search with ⟨u, n⟩
  have hu : u.counters = t.counters := by simpa only [hm] using compactMove_counters search t empty 0
  dsimp only
  split_ifs
  · rw [prefetchCleanupTrailingUnused_counters, hu, ht]
  · rw [hu, ht]

theorem retireTail_counters (s : Backend) (k : Nat) : (retireTail s k).counters = s.counters := by
  unfold retireTail
  split_ifs
  · exact prefetchCleanupTrailingUnused_counters s
  · exact compactPrefetchBuffers_counters s
  · rfl

theorem prefetchSetUnused_counters (s : Backend) (k : Nat) :
    (prefetchSetUnused s k).counters = s.counters := by
  dsimp only [prefetchSetUnused]
  split_ifs
  · rfl
  · rfl
  all_goals
    rw [retireTail_counters]
    dsimp only [counters, setCell, hashDelete, check, assertSlot]

theorem disconnectLoop_counters : ∀ n (s : Backend), (disconnectLoop n s).counters = s.counters
  | 0, _ => rfl
  | n + 1, s => by
    dsimp only [disconnectLoop]
    split_ifs
    · rw [disconnectLoop_counters, disconnectSlot, prefetchSetUnused_counters]
      dsimp only [counters, setCell, check, assertSlot]
    · rfl

theorem disconnect_counters (s : Backend) :
    (disconnect s).counters = (s.ringUnused, s.ringUnused, s.flushEveryNRequests) :=
  disconnectLoop_counters _ _

theorem resizeCopy_counters (old : Backend) :
    ∀ hi nfree (nw : Backend), (resizeCopy old hi nfree nw).1.counters = nw.counters
  | 0, _, _ => rfl
  | hi + 1, nfree, nw => by
    dsimp only [resizeCopy]
    split_ifs
    · exact resizeCopy_counters old hi nfree nw
    · rw [resizeCopy_counters]
      split <;> dsimp only [counters, setCell, hashInsert]
    · rfl

end Counters

/-- With the flush threshold set, fewer requests than the threshold lie past `ring_flush`. -/
def Backend.Batched (s : Backend) : Prop :=
  0 < s.flushEveryNRequests → s.ringUnused - s.ringFlush < s.flushEveryNRequests

namespace Backend.Batched

variable {s t : Backend}

theorem of_flushed (h : s.ringFlush = s.ringUnused) : s.Batched := fun hn => by
  rw [h, Nat.sub_self]
  exact hn

theorem of_counters (h : s.Batched) (hc : t.counters = s.counters) : t.Batched := by
  simp only [counters, Prod.mk.injEq] at hc
  unfold Batched
  rw [hc.1, hc.2.1, hc.2.2]
  exact h

theorem cleanup (h : s.Batched) : (prefetchCleanupTrailingUnused s).Batched :=
  h.of_counters (prefetchCleanupTrailingUnused_counters s)

theorem compact (h : s.Batched) : (compactPrefetchBuffers s).1.Batched :=
  h.of_counters (compactPrefetchBuffers_counters s)

theorem setUnused (h : s.Batched) (k : Nat) : (prefetchSetUnused s k).Batched :=
  h.of_counters (prefetchSetUnused_counters s k)

theorem of_counters_eq {u m : Nat} (hc : t.counters = (u, u, m)) : t.Batched :=
  of_flushed (by simp only [counters, Prod.mk.injEq] at hc; omega)

theorem disconnect (s : Backend) : (PagestoreSmgr.disconnect s).Batched :=
  of_counters_eq (disconnect_counters s)

end Backend.Batched

abbrev Smgr.KeepsBatched {α : Type} (x : Smgr α) : Prop :=
  Smgr.Keeps (fun _ s => Backend.Batched s) x

open Smgr (KeepsBatched)

section Transport

theorem pageServerSend_batched (r : NeonRequest) : KeepsBatched (pageServerSend r) :=
  .intro fun _ s h => wp_pageServerSend h h (Batched.disconnect s)

theorem pageServerFlush_batched : KeepsBatched pageServerFlush := .intro fun e s h => by
  unfold Smgr.wp pageServerFlush
  cases e.flush s.calls
  exacts [h, h, Batched.disconnect s]

theorem pageServerReceive_batched : KeepsBatched pageServerReceive := .intro fun e s h => by
  unfold Smgr.wp pageServerReceive
  cases e.receive s.calls
  · cases s.wire
    · trivial
    · exact h
  · exact h
  · exact Batched.disconnect s

end Transport

section Pipeline

open Smgr.Keeps

theorem prefetchRead_batched (c : Nat) : KeepsBatched (prefetchRead c) := by
  dsimp only [prefetchRead]
  repeat' first
    | with_reducible refine .bind ?_ fun _ => ?_ | split
    | exact pageServerReceive_batched | exact .modify id | exact .pure _

theorem receiveLoop_batched (k : Nat) : ∀ n, KeepsBatched (receiveLoop k n)
  | 0 => .pure _
  | n + 1 => .bind .get fun _ => .ite (.bind (.getPrfSlot id) fun c =>
      .bind (prefetchRead_batched c) fun _ => .ite (receiveLoop_batched k n) (.pure _)) (.pure _)

theorem prefetchWaitFor_batched (k : Nat) : KeepsBatched (prefetchWaitFor k) := by
  dsimp only [prefetchWaitFor]
  repeat' first
    | with_reducible refine .ite ?_ ?_ | with_reducible refine .bind ?_ fun _ => ?_
    | exact pageServerFlush_batched | exact receiveLoop_batched k _
    | exact .modify fun _ => .of_flushed rfl | exact .pure _ | exact .get

theorem consumePrefetchResponses_batched : KeepsBatched consumePrefetchResponses :=
  .bind .get fun _ => .ite (.bind (prefetchWaitFor_batched _) fun _ => .pure _) (.pure _)

theorem sendLoop_batched (r : NeonRequest) : ∀ n, KeepsBatched (sendLoop r n)
  | 0 => .outOfFuel
  | n + 1 => .bind (pageServerSend_batched r) fun _ => .ite (.pure _) (sendLoop_batched r n)

theorem prefetchDoRequest_batched (c : Nat) (force : Option (Bool × XLogRecPtr)) {e : Env}
    {s : Backend} (h : s.Batched) :
    Smgr.wp (prefetchDoRequest c force) e (fun _ t => 0 < t.flushEveryNRequests →
      t.ringUnused - t.ringFlush ≤ t.flushEveryNRequests) Backend.Batched s := by
  simp only [prefetchDoRequest, Smgr.wp_bind, Smgr.wp_env, Smgr.wp_get]
  split
  all_goals
    simp only [Smgr.wp_bind, Smgr.wp_modify]
    refine Smgr.wp_mono ((sendLoop_batched _ _).wp (by exact h)) fun _ t ht hn => ?_
    show t.ringUnused + 1 - t.ringFlush ≤ t.flushEveryNRequests
    have := ht hn
    omega

theorem prefetchInsertNew_batched (tag : BufferTag) (force : Option (Bool × XLogRecPtr)) :
    KeepsBatched (prefetchInsertNew tag force) := .intro fun e s h => by
  simp only [prefetchInsertNew, Smgr.wp_bind, Smgr.wp_get, Smgr.wp_modify]
  refine Smgr.wp_mono (prefetchDoRequest_batched _ force (by exact h)) fun _ t ht => ?_
  simp only [Smgr.wp_bind, Smgr.wp_get, Smgr.wp_ite, Smgr.wp_modify, Smgr.wp_pure]
  split_ifs with hc
  · unfold Smgr.wp pageServerFlush
    cases e.flush t.calls <;> exact .of_flushed rfl
  · intro hn
    have := ht hn
    omega

theorem makeRoom_batched : KeepsBatched makeRoom := by
  dsimp only [makeRoom]
  repeat' first
    | with_reducible refine .ite ?_ ?_ | with_reducible refine .bind ?_ fun _ => ?_ | split
    | exact prefetchWaitFor_batched _ | exact .modifyGet fun h => h.compact
    | exact .modify fun h => h.setUnused _ | exact .crash _ | exact .pure _ | exact .get
    | exact .getPrfSlot id

theorem prefetchRegisterNew_batched (tag : BufferTag) (force : Option (Bool × XLogRecPtr)) :
    KeepsBatched (prefetchRegisterNew tag force) :=
  .bind .get fun _ => .ite (.bind makeRoom_batched fun _ => prefetchInsertNew_batched tag force)
    (.bind (.pure _) fun _ => prefetchInsertNew_batched tag force)

theorem prefetchRegisterBuffer_batched (tag : BufferTag) (force : Option (Bool × XLogRecPtr)) :
    KeepsBatched (prefetchRegisterBuffer tag force) := by
  dsimp only [prefetchRegisterBuffer]
  repeat' first
    | with_reducible refine .ite ?_ ?_ | with_reducible refine .bind ?_ fun _ => ?_ | split
    | exact prefetchRegisterNew_batched _ _ | exact prefetchWaitFor_batched _
    | exact .modify fun h => h.setUnused _ | exact .pure _ | exact .get

theorem sendFlushLoop_batched (r : NeonRequest) : ∀ n, KeepsBatched (sendFlushLoop r n)
  | 0 => .outOfFuel
  | n + 1 => .bind (pageServerSend_batched r) fun _ =>
      .ite (.bind pageServerFlush_batched fun _ => .ite (.pure _) (sendFlushLoop_batched r n))
        (sendFlushLoop_batched r n)

theorem requestLoop_batched (r : NeonRequest) : ∀ n, KeepsBatched (requestLoop r n)
  | 0 => .outOfFuel
  | n + 1 => by
    dsimp only [requestLoop]
    repeat' first
      | with_reducible refine .bind ?_ fun _ => ?_ | split
      | exact sendFlushLoop_batched _ _ | exact consumePrefetchResponses_batched
      | exact pageServerReceive_batched | exact requestLoop_batched r n
      | exact .modify fun _ => .of_flushed rfl | exact .pure _ | exact .env

theorem pageServerRequest_batched (r : NeonRequest) : KeepsBatched (pageServerRequest r) :=
  .bind .env fun _ => requestLoop_batched r _

end Pipeline

section Adaptor

open Smgr.Keeps

theorem neonPrefetch_batched (reln : SMgrRelation) (forknum : ForkNumber)
    (blocknum : BlockNumber) : KeepsBatched (neonPrefetch reln forknum blocknum) := by
  dsimp only [neonPrefetch]
  repeat' first
    | with_reducible refine .ite ?_ ?_ | with_reducible refine .bind ?_ fun _ => ?_
    | exact prefetchRegisterBuffer_batched _ _ | exact .raise _ | exact .pure _ | exact .env

theorem readLoop_batched (tag : BufferTag) (requestLsn : XLogRecPtr) (requestLatest : Bool) :
    ∀ n entry, KeepsBatched (readLoop tag requestLsn requestLatest entry n)
  | 0, _ => .outOfFuel
  | n + 1, entry => by
    dsimp only [readLoop]
    repeat' first
      | with_reducible refine .ite ?_ ?_ | with_reducible refine .bind ?_ fun _ => ?_ | split
      | exact prefetchRegisterBuffer_batched _ _ | exact prefetchWaitFor_batched _
      | exact readLoop_batched tag requestLsn requestLatest n _ | exact .pure _
      | exact .getPrfSlot id

theorem prefetchLookup_batched (tag : BufferTag) (requestLsn : XLogRecPtr) :
    KeepsBatched (prefetchLookup tag requestLsn) := by
  dsimp only [prefetchLookup]
  repeat' first
    | with_reducible refine .ite ?_ ?_ | with_reducible refine .bind ?_ fun _ => ?_ | split
    | exact prefetchWaitFor_batched _ | exact .modify fun h => h.setUnused _ | exact .pure _
    | exact .get

theorem neonReadAtLsn_batched (rnode : RelFileNode) (forkNum : ForkNumber) (blkno : BlockNumber)
    (requestLsn : XLogRecPtr) (requestLatest : Bool) :
    KeepsBatched (neonReadAtLsn rnode forkNum blkno requestLsn requestLatest) := by
  dsimp only [neonReadAtLsn]
  repeat' first
    | with_reducible refine .bind ?_ fun _ => ?_ | split
    | exact prefetchLookup_batched _ _ | exact readLoop_batched _ _ _ _ _
    | exact .modify fun h => h.setUnused _ | exact .modify fun h => h.cleanup
    | exact .writeShared id | exact .raise _ | exact .crash _ | exact .pure _ | exact .get
    | exact .env

theorem neonRead_batched (reln : SMgrRelation) (forkNum : ForkNumber) (blkno : BlockNumber) :
    KeepsBatched (neonRead reln forkNum blkno) := by
  dsimp only [neonRead]
  repeat' first
    | with_reducible refine .ite ?_ ?_ | with_reducible refine .bind ?_ fun _ => ?_ | split
    | exact neonReadAtLsn_batched _ _ _ _ _ | exact .raise _ | exact .pure _ | exact .env

theorem neonExistsRemote_batched (reln : SMgrRelation) (forkNum : ForkNumber) :
    KeepsBatched (neonExistsRemote reln forkNum) := by
  dsimp only [neonExistsRemote]
  repeat' first
    | with_reducible refine .ite ?_ ?_ | with_reducible refine .bind ?_ fun _ => ?_ | split
    | exact pageServerRequest_batched _ | exact .raise _ | exact .pure _ | exact .env

theorem neonExists_batched (reln : SMgrRelation) (forkNum : ForkNumber) :
    KeepsBatched (neonExists reln forkNum) := by
  dsimp only [neonExists]
  repeat' first
    | with_reducible refine .ite ?_ ?_ | with_reducible refine .bind ?_ fun _ => ?_
    | exact neonExistsRemote_batched _ _ | exact .raise _ | exact .pure _ | exact .env

theorem neonNblocks_batched (reln : SMgrRelation) (forknum : ForkNumber) :
    KeepsBatched (neonNblocks reln forknum) := by
  dsimp only [neonNblocks]
  repeat' first
    | with_reducible refine .ite ?_ ?_ | with_reducible refine .bind ?_ fun _ => ?_ | split
    | exact pageServerRequest_batched _ | exact .writeShared id | exact .raise _ | exact .pure _
    | exact .env

theorem neonDbsize_batched (dbNode : Oid) : KeepsBatched (neonDbsize dbNode) := by
  dsimp only [neonDbsize]
  repeat' first
    | with_reducible refine .bind ?_ fun _ => ?_ | split
    | exact pageServerRequest_batched _ | exact .raise _ | exact .pure _ | exact .env

theorem neonRedoReadBufferFilter_batched (rnode : RelFileNode) (forknum : ForkNumber)
    (blkno : BlockNumber) (endRecPtr : XLogRecPtr) :
    KeepsBatched (neonRedoReadBufferFilter rnode forknum blkno endRecPtr) := by
  dsimp only [neonRedoReadBufferFilter, redoRelsizeUpdate]
  repeat' first
    | with_reducible refine .ite ?_ ?_ | with_reducible refine .bind ?_ fun _ => ?_ | split
    | exact pageServerRequest_batched _ | exact .writeShared id | exact .pure _ | exact .env

theorem readaheadBufferResize_batched (newsize : Nat) :
    KeepsBatched (readaheadBufferResize newsize) := .intro fun e s h => by
  simp only [readaheadBufferResize, Smgr.wp_bind, Smgr.wp_get, Smgr.wp_ite, Smgr.wp_pure,
    Smgr.wp_modify]
  split_ifs
  · exact Smgr.wp_mono ((prefetchWaitFor_batched _).wp h) fun _ _ _ =>
      .of_counters_eq (resizeCopy_counters _ _ _ _)
  · exact .of_counters_eq (resizeCopy_counters _ _ _ _)

theorem Op.run_batched : ∀ op : Op, KeepsBatched op.run
  | .prefetch .. => .bind (neonPrefetch_batched _ _ _) fun _ => .pure _
  | .read .. => .bind (neonRead_batched _ _ _) fun _ => .pure _
  | .readAtLsn .. => .bind (neonReadAtLsn_batched _ _ _ _ _) fun _ => .pure _
  | .relExists .. => .bind (neonExists_batched _ _) fun _ => .pure _
  | .nblocks .. => .bind (neonNblocks_batched _ _) fun _ => .pure _
  | .dbsize _ => .bind (neonDbsize_batched _) fun _ => .pure _
  | .redoReadBufferFilter .. => .bind (neonRedoReadBufferFilter_batched _ _ _ _) fun _ => .pure _
  | .resize n => readaheadBufferResize_batched n

end Adaptor

theorem Reachable.batched {E : Env → Prop} {O : Op → Prop} {s : Backend} (h : Reachable E O s) :
    s.Batched := by
  induction h with
  | init => exact .of_flushed rfl
  | done _ _ _ hrun ih => exact (Smgr.wp_of_done hrun).1 ((Op.run_batched _).wp ih)
  | raise _ _ _ hrun ih => exact (Smgr.wp_of_raise hrun).1 ((Op.run_batched _).wp ih)

/-- Between operations, with `flush_every_n_requests` set, fewer requests than it lie past
`ring_flush`, in every run under any transport, resizes included; and in a run whose
transport runs the hook on a failed `flush` and `receive` and that does not resize, fewer
requests than it wait unsent in the output buffer. -/
theorem unflushed_below_threshold :
    (∀ {E : Env → Prop} {O : Op → Prop} {s : Backend}, Reachable E O s →
      0 < s.flushEveryNRequests → s.ringUnused - s.ringFlush < s.flushEveryNRequests) ∧
    ∀ {s : Backend}, s.Matched → 0 < s.flushEveryNRequests →
      s.outbuf.length < s.flushEveryNRequests :=
  ⟨fun h => h.batched, fun {s} h hn => by
    have hf : s.outbuf.length + s.ringFlush ≤ s.ringUnused + 0 := h.flushed
    have hb := Reachable.batched h hn
    omega⟩

theorem unflushed_below_threshold_prefetched :
    ∃ s, runOps .steadyWalsender [.prefetch .sample .main 0, .prefetch .sample .main 1,
        .prefetch .sample .main 2] (neonInit 4 2) = .done () s ∧ s.Matched ∧
      0 < s.flushEveryNRequests ∧ s.ringUnused - s.ringFlush < s.flushEveryNRequests ∧
      s.outbuf.length < s.flushEveryNRequests ∧ s.outbuf.length = 1 :=
  have hm := runOps_reachable Env.steadyWalsender_disconnectsOnFailure
    [.prefetch .sample .main 0, .prefetch .sample .main 1, .prefetch .sample .main 2]
    (.init 4 2 (by decide)) (by simp [Op.IsResize]) rfl
  ⟨_, rfl, hm, by decide, unflushed_below_threshold.1 hm (by decide),
    unflushed_below_threshold.2 hm (by decide), rfl⟩

end PagestoreSmgr
