import PagestoreSmgr.Keeps
import Mathlib.Tactic.SplitIfs
import Mathlib.Logic.Function.Basic

/-!
# Every buffered response is the page server's answer

A response enters the ring only in `prefetch_read`, which stores what `receive` returned.
Ring maintenance, compaction, the disconnect hook and a resize move, copy or clear
responses but never make one. So whatever the transport does, every operation keeps
`Genuine answer`: each response a cell holds is the page server's reply, at the call it
was received on, to the request it is recorded as answering.

`KeepsGenuine x` says this of one computation, in every environment. The rules below build
it along the code, one lemma per function of the pipeline and the adaptor.
-/

set_option autoImplicit false

namespace PagestoreSmgr

open Backend

def Response.Genuine (r : Response) (answer : Nat → NeonRequest → NeonResponse) : Prop :=
  answer r.id r.answers = r.msg

/-- Every response the ring holds, in any cell, is genuine. -/
def Backend.Genuine (s : Backend) (answer : Nat → NeonRequest → NeonResponse) : Prop :=
  ∀ c r, (s.prfBuffer c).response = some r → r.Genuine answer

theorem genuine_neonInit (cap flush : Nat) (answer : Nat → NeonRequest → NeonResponse) :
    (neonInit cap flush).Genuine answer :=
  fun _ _ h => Option.noConfusion h

namespace Backend.Genuine

variable {a : Nat → NeonRequest → NeonResponse} {s t : Backend}

theorem of_prfBuffer (h : s.Genuine a) (hb : t.prfBuffer = s.prfBuffer) : t.Genuine a :=
  fun c r hr => h c r (by rwa [hb] at hr)

theorem setCell (h : s.Genuine a) {c : Nat} {v : PrefetchRequest}
    (hv : ∀ r, v.response = some r → r.Genuine a) : (s.setCell c v).Genuine a := by
  intro c' r hr
  simp only [setCell_prfBuffer] at hr
  split_ifs at hr
  exacts [hv r hr, h c' r hr]

theorem setCell_of (h : s.Genuine a) {c : Nat} (c' : Nat) {v : PrefetchRequest}
    (hv : v.response = (s.prfBuffer c').response) : (s.setCell c v).Genuine a :=
  h.setCell fun r hr => h c' r (hv ▸ hr)

theorem setCell_empty (h : s.Genuine a) (c : Nat) : (s.setCell c .empty).Genuine a :=
  h.setCell fun _ hr => Option.noConfusion hr

theorem setCell_keep (h : s.Genuine a) (hb : t.prfBuffer = s.prfBuffer) {c : Nat}
    {v : PrefetchRequest} (hv : v.response = (s.prfBuffer c).response) : (t.setCell c v).Genuine a :=
  (h.of_prfBuffer hb).setCell_of c (by rw [hb]; exact hv)

theorem cleanupLoop_genuine : ∀ n {s : Backend}, s.Genuine a → (cleanupLoop n s).Genuine a
  | 0, _, h => h
  | n + 1, _, h => by
    dsimp only [cleanupLoop]
    split_ifs
    · exact cleanupLoop_genuine n h
    all_goals exact h

theorem cleanup (h : s.Genuine a) : (prefetchCleanupTrailingUnused s).Genuine a :=
  cleanupLoop_genuine _ h

theorem compactFind_genuine (e : Nat) : ∀ k {s : Backend}, s.Genuine a → (compactFind s e k).1.Genuine a
  | 0, _, h => h
  | k + 1, _, h => by
    dsimp only [compactFind]
    split_ifs
    · exact h
    · exact compactFind_genuine e k h
    · exact h

theorem compactMoveSlot_genuine (h : s.Genuine a) (search empty : Nat) :
    (compactMoveSlot s search empty).Genuine a := by
  intro c r hr
  simp only [compactMoveSlot, setCell_prfBuffer, hashInsert_prfBuffer, hashDelete_prfBuffer,
    check_prfBuffer, assertSlot] at hr
  split_ifs at hr
  · exact Option.noConfusion hr
  · exact h _ r hr
  · exact h c r hr

theorem compactMove_genuine : ∀ k {s : Backend} (empty nMoved : Nat), s.Genuine a →
    (compactMove s empty nMoved k).1.Genuine a
  | 0, _, _, _, h => h
  | k + 1, s, _, _, h => by
    dsimp only [compactMove]
    split_ifs
    · exact compactMove_genuine k _ _ h
    · exact compactMove_genuine k _ _ (compactMoveSlot_genuine (s := s.assertSlot k) h _ _)
    · exact h

theorem compact (h : s.Genuine a) : (compactPrefetchBuffers s).1.Genuine a := by
  unfold compactPrefetchBuffers
  split_ifs
  · exact h
  rcases hf : compactFind s s.ringLast s.ringReceive with ⟨t, search, empty⟩
  have ht : t.Genuine a := by simpa only [hf] using compactFind_genuine s.ringLast s.ringReceive h
  dsimp only
  rcases hm : compactMove t empty 0 search with ⟨u, n⟩
  have hu : u.Genuine a := by simpa only [hm] using compactMove_genuine search empty 0 ht
  dsimp only
  split_ifs
  exacts [hu.cleanup, hu]

theorem retireTail_genuine (h : s.Genuine a) (k : Nat) : (retireTail s k).Genuine a := by
  unfold retireTail
  split_ifs
  exacts [h.cleanup, h.compact, h]

theorem setUnused (h : s.Genuine a) (k : Nat) : (prefetchSetUnused s k).Genuine a := by
  dsimp only [prefetchSetUnused]
  split_ifs
  · exact h
  · exact h
  all_goals
    refine retireTail_genuine (setCell_empty ?_ _) k
    exact h.of_prfBuffer rfl

theorem disconnectSlot_genuine (h : s.Genuine a) : (disconnectSlot s).Genuine a := by
  dsimp only [disconnectSlot]
  refine setUnused ?_ _
  intro c r hr
  simp only [setCell_prfBuffer, assertSlot, check_prfBuffer] at hr
  split_ifs at hr
  exacts [h _ r hr, h c r hr]

theorem disconnectLoop_genuine : ∀ n {s : Backend}, s.Genuine a → (disconnectLoop n s).Genuine a
  | 0, _, h => h
  | n + 1, _, h => by
    dsimp only [disconnectLoop]
    split_ifs
    · exact disconnectLoop_genuine n (disconnectSlot_genuine h)
    · exact h

theorem disconnect (h : s.Genuine a) : (PagestoreSmgr.disconnect s).Genuine a :=
  disconnectLoop_genuine _ h

theorem resizeCopy_genuine {old : Backend} (ho : old.Genuine a) :
    ∀ hi nfree {nw : Backend}, nw.Genuine a → (resizeCopy old hi nfree nw).1.Genuine a
  | 0, _, _, h => h
  | hi + 1, nfree, nw, h => by
    dsimp only [resizeCopy]
    split_ifs
    · exact resizeCopy_genuine ho hi nfree h
    · have hc : ((nw.setCell (nfree - 1) { old.slotAt hi with myRingIndex := nfree - 1 }).hashInsert
          (old.slotAt hi).buftag (nfree - 1)).Genuine a :=
        h.setCell fun r hr => ho _ r hr
      refine resizeCopy_genuine ho hi _ (hc.of_prfBuffer ?_)
      split <;> rfl
    · exact h

theorem resizeRetire_genuine : ∀ hi {s : Backend}, s.Genuine a → (resizeRetire hi s).Genuine a
  | 0, _, h => h
  | hi + 1, _, h => by
    dsimp only [resizeRetire]
    split_ifs
    · exact resizeRetire_genuine hi (h.setUnused hi)
    · exact h

end Backend.Genuine

abbrev Smgr.KeepsGenuine {α : Type} (x : Smgr α) : Prop :=
  Smgr.Keeps (fun e s => Backend.Genuine s e.answer) x

open Smgr (KeepsGenuine)

section Transport

variable {e : Env} {s : Backend}

theorem pageServerSend_keeps (r : NeonRequest) : KeepsGenuine (pageServerSend r) :=
  .intro fun _ _ h => wp_pageServerSend h h h.disconnect

theorem pageServerFlush_keeps : KeepsGenuine pageServerFlush := .intro fun e s h => by
  unfold Smgr.wp pageServerFlush
  cases e.flush s.calls
  exacts [h, h, h.disconnect]

theorem pageServerReceive_genuine {R : Backend → Prop} (h : s.Genuine e.answer) :
    Smgr.wp pageServerReceive e
      (fun o t => t.Genuine e.answer ∧ ∀ r, o = some r → r.Genuine e.answer) R s := by
  unfold Smgr.wp pageServerReceive
  cases e.receive s.calls
  · cases s.wire
    · trivial
    · exact ⟨h, fun _ hr => Option.some.inj hr ▸ rfl⟩
  · exact ⟨h, fun _ hr => Option.noConfusion hr⟩
  · exact ⟨h.disconnect, fun _ hr => Option.noConfusion hr⟩

end Transport

theorem prefetchRead_keeps (c : Nat) : KeepsGenuine (prefetchRead c) := .intro fun _ _ h => by
  unfold prefetchRead
  refine Smgr.wp_bind.2 (Smgr.wp_mono (pageServerReceive_genuine h) fun o t ⟨ht, ho⟩ => ?_)
  cases o with
  | none => exact ht
  | some r => exact ht.setCell fun r' hr => Option.some.inj hr ▸ ho r rfl

theorem pageServerReceive_keeps : KeepsGenuine pageServerReceive :=
  .intro fun _ _ h => Smgr.wp_mono (pageServerReceive_genuine h) fun _ _ h => h.1

section Pipeline

open Smgr.Keeps

/-! Each proof below walks the function's `do` block: `bind`, `if` and `match` are taken
apart, and every step is closed by the rule of the primitive or the callee it runs. -/

theorem receiveLoop_keeps (k : Nat) : ∀ n, KeepsGenuine (receiveLoop k n)
  | 0 => .pure _
  | n + 1 => .bind .get fun _ => .ite (.bind (.getPrfSlot id) fun c =>
      .bind (prefetchRead_keeps c) fun _ => .ite (receiveLoop_keeps k n) (.pure _)) (.pure _)

theorem prefetchWaitFor_keeps (k : Nat) : KeepsGenuine (prefetchWaitFor k) := by
  dsimp only [prefetchWaitFor]
  repeat' first
    | with_reducible refine .ite ?_ ?_ | with_reducible refine .bind ?_ fun _ => ?_
    | exact pageServerFlush_keeps | exact receiveLoop_keeps k _
    | exact .modify fun h => h.of_prfBuffer rfl | exact .pure _ | exact .get

theorem consumePrefetchResponses_keeps : KeepsGenuine consumePrefetchResponses :=
  .bind .get fun _ => .ite (.bind (prefetchWaitFor_keeps _) fun _ => .pure _) (.pure _)

theorem sendLoop_keeps (r : NeonRequest) : ∀ n, KeepsGenuine (sendLoop r n)
  | 0 => .outOfFuel
  | n + 1 => .bind (pageServerSend_keeps r) fun _ => .ite (.pure _) (sendLoop_keeps r n)

theorem prefetchDoRequest_keeps (c : Nat) (force : Option (Bool × XLogRecPtr)) :
    KeepsGenuine (prefetchDoRequest c force) := by
  dsimp only [prefetchDoRequest]
  repeat' first
    | with_reducible refine .ite ?_ ?_ | with_reducible refine .bind ?_ fun _ => ?_ | split
    | exact sendLoop_keeps _ _ | exact .modify fun h => h.setCell_keep rfl rfl
    | exact .modify fun h => h.of_prfBuffer rfl | exact .pure _ | exact .get | exact .env

theorem makeRoom_keeps : KeepsGenuine makeRoom := by
  dsimp only [makeRoom]
  repeat' first
    | with_reducible refine .ite ?_ ?_ | with_reducible refine .bind ?_ fun _ => ?_ | split
    | exact prefetchWaitFor_keeps _ | exact .modifyGet fun h => h.compact
    | exact .modify fun h => h.setUnused _ | exact .crash _ | exact .pure _ | exact .get
    | exact .getPrfSlot id

theorem prefetchInsertNew_keeps (tag : BufferTag) (force : Option (Bool × XLogRecPtr)) :
    KeepsGenuine (prefetchInsertNew tag force) := by
  dsimp only [prefetchInsertNew]
  repeat' first
    | with_reducible refine .ite ?_ ?_ | with_reducible refine .bind ?_ fun _ => ?_
    | exact prefetchDoRequest_keeps _ _ | exact pageServerFlush_keeps
    | exact .modify fun h => h.setCell_keep rfl rfl | exact .modify fun h => h.of_prfBuffer rfl
    | exact .pure _ | exact .get

theorem prefetchRegisterNew_keeps (tag : BufferTag) (force : Option (Bool × XLogRecPtr)) :
    KeepsGenuine (prefetchRegisterNew tag force) :=
  .bind .get fun _ => .ite (.bind makeRoom_keeps fun _ => prefetchInsertNew_keeps tag force)
    (.bind (.pure _) fun _ => prefetchInsertNew_keeps tag force)

theorem prefetchRegisterBuffer_keeps (tag : BufferTag) (force : Option (Bool × XLogRecPtr)) :
    KeepsGenuine (prefetchRegisterBuffer tag force) := by
  dsimp only [prefetchRegisterBuffer]
  repeat' first
    | with_reducible refine .ite ?_ ?_ | with_reducible refine .bind ?_ fun _ => ?_ | split
    | exact prefetchRegisterNew_keeps _ _ | exact prefetchWaitFor_keeps _
    | exact .modify fun h => h.setUnused _ | exact .pure _ | exact .get

theorem sendFlushLoop_keeps (r : NeonRequest) : ∀ n, KeepsGenuine (sendFlushLoop r n)
  | 0 => .outOfFuel
  | n + 1 => .bind (pageServerSend_keeps r) fun _ =>
      .ite (.bind pageServerFlush_keeps fun _ => .ite (.pure _) (sendFlushLoop_keeps r n))
        (sendFlushLoop_keeps r n)

theorem requestLoop_keeps (r : NeonRequest) : ∀ n, KeepsGenuine (requestLoop r n)
  | 0 => .outOfFuel
  | n + 1 => by
    dsimp only [requestLoop]
    repeat' first
      | with_reducible refine .bind ?_ fun _ => ?_ | split
      | exact sendFlushLoop_keeps _ _ | exact consumePrefetchResponses_keeps
      | exact pageServerReceive_keeps | exact requestLoop_keeps r n
      | exact .modify fun h => h.of_prfBuffer rfl | exact .pure _ | exact .env

theorem pageServerRequest_keeps (r : NeonRequest) : KeepsGenuine (pageServerRequest r) :=
  .bind .env fun _ => requestLoop_keeps r _

end Pipeline

section Adaptor

open Smgr.Keeps

theorem neonPrefetch_keeps (reln : SMgrRelation) (forknum : ForkNumber) (blocknum : BlockNumber) :
    KeepsGenuine (neonPrefetch reln forknum blocknum) := by
  dsimp only [neonPrefetch]
  repeat' first
    | with_reducible refine .ite ?_ ?_ | with_reducible refine .bind ?_ fun _ => ?_
    | exact prefetchRegisterBuffer_keeps _ _ | exact .raise _ | exact .pure _ | exact .env

theorem readLoop_keeps (tag : BufferTag) (requestLsn : XLogRecPtr) (requestLatest : Bool) :
    ∀ n entry, KeepsGenuine (readLoop tag requestLsn requestLatest entry n)
  | 0, _ => .outOfFuel
  | n + 1, entry => by
    dsimp only [readLoop]
    repeat' first
      | with_reducible refine .ite ?_ ?_ | with_reducible refine .bind ?_ fun _ => ?_ | split
      | exact prefetchRegisterBuffer_keeps _ _ | exact prefetchWaitFor_keeps _
      | exact readLoop_keeps tag requestLsn requestLatest n _ | exact .pure _
      | exact .getPrfSlot id

theorem prefetchLookup_keeps (tag : BufferTag) (requestLsn : XLogRecPtr) :
    KeepsGenuine (prefetchLookup tag requestLsn) := by
  dsimp only [prefetchLookup]
  repeat' first
    | with_reducible refine .ite ?_ ?_ | with_reducible refine .bind ?_ fun _ => ?_ | split
    | exact prefetchWaitFor_keeps _ | exact .modify fun h => h.setUnused _ | exact .pure _
    | exact .get

theorem neonReadAtLsn_keeps (rnode : RelFileNode) (forkNum : ForkNumber) (blkno : BlockNumber)
    (requestLsn : XLogRecPtr) (requestLatest : Bool) :
    KeepsGenuine (neonReadAtLsn rnode forkNum blkno requestLsn requestLatest) := by
  dsimp only [neonReadAtLsn]
  repeat' first
    | with_reducible refine .bind ?_ fun _ => ?_ | split
    | exact prefetchLookup_keeps _ _ | exact readLoop_keeps _ _ _ _ _
    | exact .modify fun h => h.setUnused _ | exact .modify fun h => h.cleanup
    | exact .writeShared id | exact .raise _ | exact .crash _ | exact .pure _ | exact .get
    | exact .env

theorem neonRead_keeps (reln : SMgrRelation) (forkNum : ForkNumber) (blkno : BlockNumber) :
    KeepsGenuine (neonRead reln forkNum blkno) := by
  dsimp only [neonRead]
  repeat' first
    | with_reducible refine .ite ?_ ?_ | with_reducible refine .bind ?_ fun _ => ?_ | split
    | exact neonReadAtLsn_keeps _ _ _ _ _ | exact .raise _ | exact .pure _ | exact .env

theorem neonExistsRemote_keeps (reln : SMgrRelation) (forkNum : ForkNumber) :
    KeepsGenuine (neonExistsRemote reln forkNum) := by
  dsimp only [neonExistsRemote]
  repeat' first
    | with_reducible refine .ite ?_ ?_ | with_reducible refine .bind ?_ fun _ => ?_ | split
    | exact pageServerRequest_keeps _ | exact .raise _ | exact .pure _ | exact .env

theorem neonExists_keeps (reln : SMgrRelation) (forkNum : ForkNumber) :
    KeepsGenuine (neonExists reln forkNum) := by
  dsimp only [neonExists]
  repeat' first
    | with_reducible refine .ite ?_ ?_ | with_reducible refine .bind ?_ fun _ => ?_
    | exact neonExistsRemote_keeps _ _ | exact .raise _ | exact .pure _ | exact .env

theorem neonNblocks_keeps (reln : SMgrRelation) (forknum : ForkNumber) :
    KeepsGenuine (neonNblocks reln forknum) := by
  dsimp only [neonNblocks]
  repeat' first
    | with_reducible refine .ite ?_ ?_ | with_reducible refine .bind ?_ fun _ => ?_ | split
    | exact pageServerRequest_keeps _ | exact .writeShared id | exact .raise _ | exact .pure _
    | exact .env

theorem neonDbsize_keeps (dbNode : Oid) : KeepsGenuine (neonDbsize dbNode) := by
  dsimp only [neonDbsize]
  repeat' first
    | with_reducible refine .bind ?_ fun _ => ?_ | split
    | exact pageServerRequest_keeps _ | exact .raise _ | exact .pure _ | exact .env

theorem neonRedoReadBufferFilter_keeps (rnode : RelFileNode) (forknum : ForkNumber)
    (blkno : BlockNumber) (endRecPtr : XLogRecPtr) :
    KeepsGenuine (neonRedoReadBufferFilter rnode forknum blkno endRecPtr) := by
  dsimp only [neonRedoReadBufferFilter, redoRelsizeUpdate]
  repeat' first
    | with_reducible refine .ite ?_ ?_ | with_reducible refine .bind ?_ fun _ => ?_ | split
    | exact pageServerRequest_keeps _ | exact .writeShared id | exact .pure _ | exact .env

theorem readaheadBufferResize_keeps (newsize : Nat) :
    KeepsGenuine (readaheadBufferResize newsize) := .intro fun e s h => by
  simp only [readaheadBufferResize, Smgr.wp_bind, Smgr.wp_get, Smgr.wp_ite, Smgr.wp_pure,
    Smgr.wp_modify]
  split_ifs
  · refine Smgr.wp_mono ((prefetchWaitFor_keeps _).wp h) fun _ t ht => ?_
    refine (Genuine.resizeCopy_genuine ht _ _ ?_).of_prfBuffer rfl
    exact fun _ _ hr => Option.noConfusion hr
  · refine (Genuine.resizeCopy_genuine h _ _ ?_).of_prfBuffer rfl
    exact fun _ _ hr => Option.noConfusion hr

theorem Op.run_keeps : ∀ op : Op, KeepsGenuine op.run
  | .prefetch .. => .bind (neonPrefetch_keeps _ _ _) fun _ => .pure _
  | .read .. => .bind (neonRead_keeps _ _ _) fun _ => .pure _
  | .readAtLsn .. => .bind (neonReadAtLsn_keeps _ _ _ _ _) fun _ => .pure _
  | .relExists .. => .bind (neonExists_keeps _ _) fun _ => .pure _
  | .nblocks .. => .bind (neonNblocks_keeps _ _) fun _ => .pure _
  | .dbsize _ => .bind (neonDbsize_keeps _) fun _ => .pure _
  | .redoReadBufferFilter .. => .bind (neonRedoReadBufferFilter_keeps _ _ _ _) fun _ => .pure _
  | .resize n => readaheadBufferResize_keeps n

end Adaptor

/-- Under environments whose page server answers by `answer`, each response held in a state a
backend reaches is `answer`'s reply to the request it is recorded as answering: whatever the
transport does, with or without the disconnect hook, and across resizes. -/
theorem Reachable.genuine {E : Env → Prop} {O : Op → Prop}
    {answer : Nat → NeonRequest → NeonResponse} (hE : ∀ e, E e → e.answer = answer) {s : Backend}
    (h : Reachable E O s) : s.Genuine answer := by
  induction h with
  | init cap flush _ => exact genuine_neonInit cap flush answer
  | done _ _ he hrun ih =>
    rw [← hE _ he] at ih ⊢
    exact (Smgr.wp_of_done hrun).1 ((Op.run_keeps _).wp ih)
  | raise _ _ he hrun ih =>
    rw [← hE _ he] at ih ⊢
    exact (Smgr.wp_of_raise hrun).1 ((Op.run_keeps _).wp ih)

end PagestoreSmgr
