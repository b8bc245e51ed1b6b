import PagestoreSmgr.Pipeline

/-!
# The block adaptor's entry points and ring resizing

The `smgr` callbacks that reach the page server, `neon_read_at_lsn`, the redo
filter and the `readahead_buffer_size` assign hook. Each dispatches on
`smgr_relpersistence` as the source does; local-disk, local-file-cache,
relation-size-cache and buffer-mapping lookups are read from the environment,
and their writes (`lfc_write`, `update_cached_relsize`, last-written LSNs) are
outside this model.
-/

set_option autoImplicit false

namespace PagestoreSmgr

def neonPrefetch (reln : SMgrRelation) (forknum : ForkNumber) (blocknum : BlockNumber) :
    Smgr Bool := do
  let e ← Smgr.env
  let tag : BufferTag := ⟨reln.rnode, forknum, blocknum⟩
  let p := reln.relpersistence
  if p = Char.ofNat 0 ∨ p = RELPERSISTENCE_PERMANENT then
    if e.lfcContains tag then pure false
    else do
      let _ ← prefetchRegisterBuffer tag none
      pure false
  else if p = RELPERSISTENCE_TEMP ∨ p = RELPERSISTENCE_UNLOGGED then pure (e.mdprefetch tag)
  else Smgr.raise (.unknownRelpersistence p)

/-- The `do ... while (!prefetch_wait_for(ring_index))` loop of
`neon_read_at_lsn`: a slot found by the lookup is waited on first; after a
failed wait the block is registered again. Returns `(ring_index, slot)`. -/
def readLoop (tag : BufferTag) (requestLsn : XLogRecPtr) (requestLatest : Bool) :
    Option (Nat × Nat) → Nat → Smgr (Nat × Nat)
  | _, 0 => Smgr.outOfFuel
  | entry, n + 1 => do
    let (k, c) ← match entry with
      | some kc => pure kc
      | none => do
        let k ← prefetchRegisterBuffer tag (some (requestLatest, requestLsn))
        let c ← getPrfSlot k
        pure (k, c)
    if ← prefetchWaitFor k then pure (k, c) else readLoop tag requestLsn requestLatest none n

/-- The prefetch lookup of `neon_read_at_lsn`: a slot stamped at least `request_lsn` is
a hit, returned as `(ring_index, slot)`; a stale one is waited for if still
`REQUESTED`, then dropped, and the lookup misses. -/
def prefetchLookup (tag : BufferTag) (requestLsn : XLogRecPtr) : Smgr (Option (Nat × Nat)) := do
  let s ← Smgr.get
  match s.prfHash tag with
  | none => pure none
  | some c =>
    let slot := s.prfBuffer c
    if requestLsn ≤ slot.effectiveRequestLsn then pure (some (slot.myRingIndex, c))
    else do
      if slot.status = .requested then
        let _ ← prefetchWaitFor slot.myRingIndex
        pure ()
      Smgr.modify fun s => prefetchSetUnused s (s.prfBuffer c).myRingIndex
      pure none

/-- A stale prefetch whose wait fails: the wait for block 0's request flushes, the flush
drops the connection, and the hook retires the slot and moves `ring_last` past it. The
lookup then calls `prefetch_set_unused(0)` below `ring_last`, and its `GetPrfSlot(0)`
fails its `AssertMacro`. -/
theorem prefetchLookup_stale_disconnect :
    (Env.flushDropsAt 1 answerInKind (.writtenAt 5)).DisconnectsOnFailure ∧
      ∃ s t, neonPrefetch .sample .main 0 (.flushDropsAt 1 answerInKind (.writtenAt 5))
          (neonInit 4 0) = .done false s ∧
        prefetchLookup ⟨⟨1, 1, 1⟩, .main, 0⟩ 7
          (.flushDropsAt 1 answerInKind (.writtenAt 5)) s = .done none t ∧
        s.assertFailures = [] ∧ t.assertFailures = [.getPrfSlot 0] :=
  ⟨Env.flushDropsAt_disconnectsOnFailure _ _ _, _, _, rfl, rfl, rfl, rfl⟩

/-- `neon_read_at_lsn`, returning the page copied into `buffer`. The slot is retired
after a page is copied out; the two `ERROR` exits leave before that. -/
def neonReadAtLsn (rnode : RelFileNode) (forkNum : ForkNumber) (blkno : BlockNumber)
    (requestLsn : XLogRecPtr) (requestLatest : Bool) : Smgr (List UInt8) := do
  let tag : BufferTag := ⟨rnode, forkNum, blkno⟩
  let entry ← prefetchLookup tag requestLsn
  let e ← Smgr.env
  let (k, c) ← readLoop tag requestLsn requestLatest entry e.fuel
  let s ← Smgr.get
  match (s.prfBuffer c).response with
  | none => Smgr.crash .nullResponse
  | some r =>
    match r.msg with
    | .getPageResponse page => do
      Smgr.writeShared (.lfcWrite rnode forkNum blkno page)
      Smgr.modify (prefetchSetUnused · k)
      Smgr.modify prefetchCleanupTrailingUnused
      pure page
    | .errorResponse m => Smgr.raise (.couldNotReadBlock blkno rnode forkNum requestLsn m)
    | other => Smgr.raise (.unexpectedResponse other.tag)

/-- A prefetch stamps block 0 at LSN 5. A read at LSN 3 with `request_latest = false`,
for which `prefetch_register_buffer` would not reuse that slot (`rejectsBuffered`), is
served from it by the lookup's fast path, which compares only `request_lsn` with the
stamp. -/
theorem neonReadAtLsn_fast_path_other_lsn :
    ∃ s t, neonPrefetch .sample .main 0 (.steady answerInKind (.writtenAt 5)) (neonInit 4 0) =
        .done false s ∧
      (s.prfBuffer 0).effectiveRequestLsn = 5 ∧ rejectsBuffered (some (false, 3)) 5 = true ∧
      prefetchLookup ⟨⟨1, 1, 1⟩, .main, 0⟩ 3 (.steady answerInKind (.writtenAt 5)) s =
        .done (some (0, 0)) s ∧
      neonReadAtLsn ⟨1, 1, 1⟩ .main 0 3 false (.steady answerInKind (.writtenAt 5)) s =
        .done [0] t :=
  ⟨_, _, rfl, rfl, rfl, rfl, rfl⟩

/-- An `ErrorResponse` stays in the ring: the read raises before it retires the slot,
which stays `RECEIVED` and hashed, and a second read of the block raises the same error
from the ring without a transport call. -/
theorem neonReadAtLsn_error_replayed :
    ∃ s t u, neonPrefetch .sample .main 0 (.steady (fun _ => .errorResponse "boom") (.writtenAt 5))
        (neonInit 4 0) = .done false s ∧
      neonReadAtLsn ⟨1, 1, 1⟩ .main 0 5 true (.steady (fun _ => .errorResponse "boom") (.writtenAt 5))
        s = .raise (.couldNotReadBlock 0 ⟨1, 1, 1⟩ .main 5 "boom") t ∧
      (t.prfBuffer 0).status = .received ∧ t.prfHash ⟨⟨1, 1, 1⟩, .main, 0⟩ = some 0 ∧
      neonReadAtLsn ⟨1, 1, 1⟩ .main 0 5 true (.steady (fun _ => .errorResponse "boom") (.writtenAt 5))
        t = .raise (.couldNotReadBlock 0 ⟨1, 1, 1⟩ .main 5 "boom") u ∧
      u.calls = t.calls :=
  ⟨_, _, _, rfl, rfl, rfl, rfl, rfl, rfl⟩

def neonRead (reln : SMgrRelation) (forkNum : ForkNumber) (blkno : BlockNumber) :
    Smgr (List UInt8) := do
  let e ← Smgr.env
  let tag : BufferTag := ⟨reln.rnode, forkNum, blkno⟩
  let p := reln.relpersistence
  if p = Char.ofNat 0 then Smgr.raise (.unknownPersistence "smgrread")
  else if p = RELPERSISTENCE_PERMANENT then
    match e.lfcRead tag with
    | some page => pure page
    | none =>
      let (latest, lsn) := neonGetRequestLsn e.xlog reln.rnode forkNum blkno
      neonReadAtLsn reln.rnode forkNum blkno lsn latest
  else if p = RELPERSISTENCE_TEMP ∨ p = RELPERSISTENCE_UNLOGGED then pure (e.mdread tag)
  else Smgr.raise (.unknownRelpersistence p)

/-- The page-server path of `neon_exists`. -/
def neonExistsRemote (reln : SMgrRelation) (forkNum : ForkNumber) : Smgr Bool := do
  let e ← Smgr.env
  if (e.cachedRelsize reln.rnode forkNum).isSome then pure true
  else if reln.rnode = ⟨0, 0, 0⟩ then pure false
  else
    let (latest, lsn) :=
      neonGetRequestLsn e.xlog reln.rnode forkNum e.xlog.relMetadataPseudoBlockno
    let resp ← pageServerRequest (.existsRequest latest lsn reln.rnode forkNum)
    match resp.msg with
    | .existsResponse b => pure b
    | .errorResponse m => Smgr.raise (.couldNotReadRelationExistence reln.rnode forkNum lsn m)
    | other => Smgr.raise (.unexpectedResponse other.tag)

def neonExists (reln : SMgrRelation) (forkNum : ForkNumber) : Smgr Bool := do
  let e ← Smgr.env
  let p := reln.relpersistence
  if p = Char.ofNat 0 then
    if e.mdexists reln.rnode forkNum then pure true else neonExistsRemote reln forkNum
  else if p = RELPERSISTENCE_PERMANENT then neonExistsRemote reln forkNum
  else if p = RELPERSISTENCE_TEMP ∨ p = RELPERSISTENCE_UNLOGGED then
    pure (e.mdexists reln.rnode forkNum)
  else Smgr.raise (.unknownRelpersistence p)

def neonNblocks (reln : SMgrRelation) (forknum : ForkNumber) : Smgr BlockNumber := do
  let e ← Smgr.env
  let p := reln.relpersistence
  if p = Char.ofNat 0 then Smgr.raise (.unknownPersistence "smgrnblocks")
  else if p = RELPERSISTENCE_PERMANENT then
    match e.cachedRelsize reln.rnode forknum with
    | some n => pure n
    | none =>
      let (latest, lsn) :=
        neonGetRequestLsn e.xlog reln.rnode forknum e.xlog.relMetadataPseudoBlockno
      let resp ← pageServerRequest (.nblocksRequest latest lsn reln.rnode forknum)
      match resp.msg with
      | .nblocksResponse n => do
        Smgr.writeShared (.updateCachedRelsize reln.rnode forknum n)
        pure n
      | .errorResponse m => Smgr.raise (.couldNotReadRelationSize reln.rnode forknum lsn m)
      | other => Smgr.raise (.unexpectedResponse other.tag)
  else if p = RELPERSISTENCE_TEMP ∨ p = RELPERSISTENCE_UNLOGGED then
    pure (e.mdnblocks reln.rnode forknum)
  else Smgr.raise (.unknownRelpersistence p)

def neonDbsize (dbNode : Oid) : Smgr Int := do
  let e ← Smgr.env
  let (latest, lsn) := neonGetRequestLsn e.xlog ⟨0, 0, 0⟩ .main e.xlog.relMetadataPseudoBlockno
  let resp ← pageServerRequest (.dbSizeRequest latest lsn dbNode)
  match resp.msg with
  | .dbSizeResponse n => pure n
  | .errorResponse m => Smgr.raise (.couldNotReadDbSize dbNode lsn m)
  | other => Smgr.raise (.unexpectedResponse other.tag)

/-- The relation-size update of `neon_redo_read_buffer_filter`: a cached size below
`blkno + 1` is raised to it; an uncached one is fetched with `NBlocks` at the record's end.
A release build checks neither `Assert` on the answer: whatever its kind, its `n_blocks`
seeds the cache. -/
def redoRelsizeUpdate (rnode : RelFileNode) (forknum : ForkNumber) (blkno : BlockNumber)
    (endRecPtr : XLogRecPtr) : Smgr Unit := do
  let e ← Smgr.env
  match e.cachedRelsize rnode forknum with
  | some relsize =>
    if relsize < blkno + 1 then
      Smgr.writeShared (.updateCachedRelsize rnode forknum (blkno + 1))
      Smgr.writeShared (.setLastWrittenLsnForRelation endRecPtr rnode forknum)
  | none =>
    let response ← pageServerRequest (.nblocksRequest false endRecPtr rnode forknum)
    let nBlocks := match response.msg with
      | .nblocksResponse n => n
      | other => e.nBlocksOfOther other
    Smgr.writeShared (.setCachedRelsize rnode forknum nBlocks)
    Smgr.writeShared (.setLastWrittenLsnForRelation endRecPtr rnode forknum)

/-- `neon_redo_read_buffer_filter` for the block `(rnode, forknum, blkno)` of a
record ending at `endRecPtr`. -/
def neonRedoReadBufferFilter (rnode : RelFileNode) (forknum : ForkNumber) (blkno : BlockNumber)
    (endRecPtr : XLogRecPtr) : Smgr Bool := do
  let e ← Smgr.env
  if e.oldRedoReadBufferFilter then pure true
  else if rnode.dbNode = 0 then pure false
  else
    let noRedoNeeded := !e.bufferResident ⟨rnode, forknum, blkno⟩
    Smgr.writeShared (.setLastWrittenLsnForBlock endRecPtr rnode forknum blkno)
    if noRedoNeeded then Smgr.writeShared (.lfcEvict rnode forknum blkno)
    redoRelsizeUpdate rnode forknum blkno endRecPtr
    pure noRedoNeeded

/-- With the size not cached, the filter seeds the cache with whatever answers its `NBlocks`
request, with no `ERROR`: a size of 0 for block 5, and for an `ErrorResponse` whatever
`n_blocks` its bytes are read as. -/
theorem neonRedoReadBufferFilter_seeds_unchecked :
    (∃ t, neonRedoReadBufferFilter ⟨1, 1, 1⟩ .main 5 7
        (.steady (fun _ => .nblocksResponse 0) .walsender) (neonInit 4 0) = .done true t ∧
      relsizeAfter (fun _ _ => none) t.sharedWrites ⟨1, 1, 1⟩ .main = some 0) ∧
    ∀ f : NeonResponse → BlockNumber, ∃ u, neonRedoReadBufferFilter ⟨1, 1, 1⟩ .main 5 7
        { Env.steady (fun _ => .errorResponse "boom") .walsender with nBlocksOfOther := f }
        (neonInit 4 0) = .done true u ∧
      relsizeAfter (fun _ _ => none) u.sharedWrites ⟨1, 1, 1⟩ .main =
        some (f (.errorResponse "boom")) :=
  ⟨⟨_, rfl, rfl⟩, fun _ => ⟨_, rfl, rfl⟩⟩

/-- The copy loop of `readahead_buffer_resize`, at `end = hi - 1`: live slots of
the old ring, newest first, go to cells `nfree - 1, nfree - 2, ...` of the new
ring, which is built in `nw`. Returns the new ring and where `end` stopped. The
old ring is only read (each `GetPrfSlot(end)` is within the window). -/
def resizeCopy (old : Backend) : Nat → Nat → Backend → Backend × Nat
  | 0, _, nw => (nw, 0)
  | hi + 1, nfree, nw =>
    if old.ringLast < hi + 1 ∧ nfree ≠ 0 then
      let slot := old.slotAt hi
      if slot.status = .unused then resizeCopy old hi nfree nw
      else
        let nfree := nfree - 1
        let nw := (nw.setCell nfree { slot with myRingIndex := nfree }).hashInsert slot.buftag nfree
        let nw := match slot.status with
          | .requested => { nw with nRequestsInflight := nw.nRequestsInflight + 1
                                    ringReceive := nw.ringReceive - 1
                                    ringLast := nw.ringLast - 1 }
          | .received => { nw with nResponsesBuffered := nw.nResponsesBuffered + 1
                                   ringLast := nw.ringLast - 1 }
          | .tagRemains => { nw with ringLast := nw.ringLast - 1 }
          | .unused => nw
        resizeCopy old hi nfree { nw with nUnused := nw.nUnused - 1 }
    else (nw, hi + 1)

/-- The retire loop of `readahead_buffer_resize`: `prefetch_set_unused(end)` on
the old ring for each `end` from `hi - 1` down to `ring_last`, rereading
`ring_last` each time. -/
def resizeRetire : Nat → Backend → Backend
  | 0, s => s
  | hi + 1, s => if s.ringLast < hi + 1 then resizeRetire hi (prefetchSetUnused s hi) else s

/-- `readahead_buffer_resize(newsize)`: wait until at most `newsize` requests are
in flight, copy the newest live slots into a fresh ring of `newsize` cells whose
four counters start at `newsize`, retire the rest of the old ring, and switch. -/
def readaheadBufferResize (newsize : Nat) : Smgr Unit := do
  let s ← Smgr.get
  if (newsize : Int) < s.nRequestsInflight then
    let _ ← prefetchWaitFor (s.ringUnused - newsize)
    pure ()
  let old ← Smgr.get
  let fresh : Backend :=
    { old with ringUnused := newsize, ringFlush := newsize, ringReceive := newsize
               ringLast := newsize, nResponsesBuffered := 0, nRequestsInflight := 0
               nUnused := newsize, prfHash := fun _ => none, prfBuffer := fun _ => .empty
               readaheadBufferSize := newsize }
  let (nw, hi) := resizeCopy old old.ringUnused newsize fresh
  let old := resizeRetire hi old
  Smgr.modify fun _ =>
    { nw with wire := old.wire, outbuf := old.outbuf, calls := old.calls
              released := old.released, assertFailures := old.assertFailures }

/-- A resize over a request still in the output buffer: with `flush_every_n_requests = 0`
the prefetch's request is not flushed, `readahead_buffer_resize(4)` copies its slot to
position 3 and sets `ring_flush = 4` above it, so the read's `prefetch_wait_for(3)` does
not flush and waits in `receive` for good. -/
theorem readaheadBufferResize_unflushed :
    ∃ s t, neonPrefetch .sample .main 0 (.steady answerInKind (.writtenAt 5)) (neonInit 4 0) =
        .done false s ∧
      readaheadBufferResize 4 (.steady answerInKind (.writtenAt 5)) s = .done () t ∧
      t.outbuf = [(t.slotAt 3).sent] ∧ (t.slotAt 3).status = .requested ∧ t.ringFlush = 4 ∧
      neonReadAtLsn ⟨1, 1, 1⟩ .main 0 5 true (.steady answerInKind (.writtenAt 5)) t = .blocked :=
  ⟨_, _, rfl, rfl, rfl, rfl, rfl, by unfold neonReadAtLsn readLoop prefetchWaitFor receiveLoop; rfl⟩

inductive Op where
  | prefetch (reln : SMgrRelation) (forknum : ForkNumber) (blocknum : BlockNumber)
  | read (reln : SMgrRelation) (forkNum : ForkNumber) (blkno : BlockNumber)
  | readAtLsn (rnode : RelFileNode) (forkNum : ForkNumber) (blkno : BlockNumber)
      (requestLsn : XLogRecPtr) (requestLatest : Bool)
  | relExists (reln : SMgrRelation) (forkNum : ForkNumber)
  | nblocks (reln : SMgrRelation) (forknum : ForkNumber)
  | dbsize (dbNode : Oid)
  | redoReadBufferFilter (rnode : RelFileNode) (forknum : ForkNumber) (blkno : BlockNumber)
      (endRecPtr : XLogRecPtr)
  | resize (newsize : Nat)

def Op.run : Op → Smgr Unit
  | .prefetch reln f b => do let _ ← neonPrefetch reln f b; pure ()
  | .read reln f b => do let _ ← neonRead reln f b; pure ()
  | .readAtLsn r f b lsn latest => do let _ ← neonReadAtLsn r f b lsn latest; pure ()
  | .relExists reln f => do let _ ← neonExists reln f; pure ()
  | .nblocks reln f => do let _ ← neonNblocks reln f; pure ()
  | .dbsize db => do let _ ← neonDbsize db; pure ()
  | .redoReadBufferFilter r f b lsn => do let _ ← neonRedoReadBufferFilter r f b lsn; pure ()
  | .resize n => readaheadBufferResize n

def Op.IsResize : Op → Prop
  | .resize _ => True
  | _ => False

/-- The states a backend can be in between operations: after `neon_init` with a
ring of at least one cell, and after each operation of `O`, run in an
environment of `E`, that returns or raises `ERROR`. -/
inductive Reachable (E : Env → Prop) (O : Op → Prop) : Backend → Prop
  | init (cap flush : Nat) : 0 < cap → Reachable E O (neonInit cap flush)
  | done {s s' : Backend} {op : Op} {e : Env} :
      Reachable E O s → O op → E e → op.run e s = .done () s' → Reachable E O s'
  | raise {s s' : Backend} {op : Op} {e : Env} {err : SmgrError} :
      Reachable E O s → O op → E e → op.run e s = .raise err s' → Reachable E O s'

/-- A run of operations in one environment; an `ERROR` ends the operation and
the next one starts from the state it left, while a crash, a block or running out of
fuel ends the run. The next state is passed on as `next?` of the outcome, not taken
apart by a match, so that a concrete run evaluates one operation at a time. -/
def runOps (e : Env) : List Op → Backend → Outcome Unit
  | [], s => .done () s
  | op :: ops, s =>
    if (op.run e s).next?.isSome then runOps e ops ((op.run e s).next?.getD s) else op.run e s

theorem runOps_reachable {E : Env → Prop} {O : Op → Prop} {e : Env} (he : E e) :
    ∀ (ops : List Op) {s s' : Backend}, Reachable E O s → (∀ op ∈ ops, O op) →
      runOps e ops s = .done () s' → Reachable E O s'
  | [], _, _, hs, _, h => by cases h; exact hs
  | op :: ops, s, s', hs, ho, h => by
    have hrest : ∀ o ∈ ops, O o := fun o h => ho o (List.mem_cons_of_mem _ h)
    have hop := ho op (List.mem_cons_self _ _)
    simp only [runOps] at h
    cases hrun : op.run e s <;> simp only [hrun, Outcome.next?, Option.isSome_some,
      Option.isSome_none, Option.getD_some, if_true, Bool.false_eq_true, if_false] at h
    · exact runOps_reachable he ops (.done hs hop he hrun) hrest h
    · exact runOps_reachable he ops (.raise hs hop he hrun) hrest h
    all_goals cases h

theorem runOps_cons_of_next {e : Env} {op : Op} {s t : Backend} (h : (op.run e s).next? = some t)
    (ops : List Op) : runOps e (op :: ops) s = runOps e ops t := by
  simp only [runOps, h, Option.isSome_some, if_true, Option.getD_some]

/-- With `flush_every_n_requests = 1` the threshold flush inside
`prefetch_register_buffer` can drop the connection, and the hook retires the slot just
filled; the function still returns its position, and the read's wait on it succeeds at
once, since the position is below `ring_receive`. On an empty ring the slot is left
empty and the copy-out dereferences a `NULL` response. With block 0 buffered, the
hook's `prefetch_set_unused` compacts block 0 into the retired cell, and a read of
block 1 returns block 0's page. -/
theorem neonReadAtLsn_threshold_disconnect :
    (∀ n, (Env.flushDropsAt n answerInKind .walsender).DisconnectsOnFailure) ∧
      (∃ t, prefetchRegisterBuffer ⟨⟨1, 1, 1⟩, .main, 0⟩ (some (true, 0))
        (.flushDropsAt 1 answerInKind .walsender) (neonInit 4 1) =
          .done 0 t ∧ t.ringLast = 1 ∧ (t.prfBuffer 0).status = .unused) ∧
      (∃ t, neonReadAtLsn ⟨1, 1, 1⟩ .main 0 0 true (.flushDropsAt 1 answerInKind .walsender)
        (neonInit 4 1) = .crash .nullResponse t) ∧
      ∃ s t u, runOps (.flushDropsAt 7 answerInKind .walsender)
          [.prefetch .sample .main 0, .nblocks .sample .main] (neonInit 4 1) = .done () s ∧
        prefetchRegisterBuffer ⟨⟨1, 1, 1⟩, .main, 1⟩ (some (true, 0))
          (.flushDropsAt 7 answerInKind .walsender) s = .done 1 t ∧
        (t.slotAt 1).buftag = ⟨⟨1, 1, 1⟩, .main, 0⟩ ∧ (t.slotAt 1).status = .received ∧
        neonReadAtLsn ⟨1, 1, 1⟩ .main 1 0 true (.flushDropsAt 7 answerInKind .walsender) s =
          .done [0] u :=
  ⟨fun n => Env.flushDropsAt_disconnectsOnFailure n _ _, ⟨_, rfl, rfl, rfl⟩, ⟨_, rfl⟩,
    _, _, _, rfl, rfl, rfl, rfl, rfl⟩

/-- The retire loop of `readahead_buffer_resize` rereads `ring_last`, which a compaction
inside `prefetch_set_unused` moves. After two prefetches and an `nblocks` call the ring
holds responses 4 and 5, and two more prefetches follow. Resizing to two cells copies the
two requests and retires 5, whose hole makes `prefetch_set_unused` compact 4 forward
past the loop's bound. The old ring is freed with 4 neither held nor released. -/
theorem readaheadBufferResize_leaks_response :
    ∃ r s t, runOps .steadyWalsender [.prefetch .sample .main 0, .prefetch .sample .main 1,
        .nblocks .sample .main] (neonInit 5 0) = .done () r ∧
      runOps .steadyWalsender [.prefetch .sample .main 2, .prefetch .sample .main 3] r =
        .done () s ∧
      s.held = [4, 5] ∧ s.released = [] ∧
      runOps .steadyWalsender [.resize 2] s = .done () t ∧ t.held = [] ∧ t.released = [5] :=
  ⟨_, _, _, rfl, rfl, rfl, rfl, rfl, rfl, rfl⟩

end PagestoreSmgr
