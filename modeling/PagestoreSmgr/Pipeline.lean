import PagestoreSmgr.Transport

/-!
# The prefetch pipeline

Registering a block, issuing its `GetPage` request, waiting for responses in
ring order, and the synchronous `page_server_request` that first drains the
ring. The busy loops around `send` and `flush` are bounded by the
environment's fuel; every other loop by the ring positions it walks.
-/

set_option autoImplicit false

namespace PagestoreSmgr

/-- `nm_adjust_lsn`: an LSN at the first record of a WAL page or segment is moved
back to the page or segment origin. -/
def nmAdjustLsn (x : XLogEnv) (lsn : XLogRecPtr) : XLogRecPtr :=
  if lsn &&& (x.xlogBlcksz - 1) = x.sizeOfXLogShortPHD then lsn - x.sizeOfXLogShortPHD
  else if lsn &&& (x.walSegmentSize - 1) = x.sizeOfXLogLongPHD then lsn - x.sizeOfXLogLongPHD
  else lsn

/-- `neon_get_request_lsn`, as `(latest, lsn)`. Its `XLogFlush` moves no state
the adaptor reads. -/
def neonGetRequestLsn (x : XLogEnv) (rnode : RelFileNode) (forknum : ForkNumber)
    (blkno : BlockNumber) : Bool × XLogRecPtr :=
  if x.recoveryInProgress then (false, nmAdjustLsn x (x.lastWrittenLsn rnode forknum blkno))
  else if x.amWalsender then (true, 0)
  else (true, nmAdjustLsn x (x.lastWrittenLsn rnode forknum blkno))

def getPrfSlot (k : Nat) : Smgr Nat := fun _ s => .done (s.cell k) (s.assertSlot k)

@[simp] theorem wp_getPrfSlot {e : Env} {s : Backend} {Q : Nat → Backend → Prop} {R : Backend → Prop}
    (k : Nat) : Smgr.wp (getPrfSlot k) e Q R s ↔ Q (s.cell k) (s.assertSlot k) := Iff.rfl

def prefetchRead (c : Nat) : Smgr Bool := do
  match ← pageServerReceive with
  | some r =>
    Smgr.modify fun s =>
      ({ s with nResponsesBuffered := s.nResponsesBuffered + 1
                nRequestsInflight := s.nRequestsInflight - 1
                ringReceive := s.ringReceive + 1 }).setCell c
        { s.prfBuffer c with status := .received, response := some r }
    pure true
  | none => pure false

/-- The receive loop of `prefetch_wait_for(k)`, with `n` iterations left. -/
def receiveLoop (k : Nat) : Nat → Smgr Bool
  | 0 => pure true
  | n + 1 => do
    let s ← Smgr.get
    if s.ringReceive ≤ k then
      let c ← getPrfSlot s.ringReceive
      if ← prefetchRead c then receiveLoop k n else pure false
    else pure true

def prefetchWaitFor (k : Nat) : Smgr Bool := do
  let s ← Smgr.get
  let flushed ← if s.ringFlush ≤ k ∧ s.ringFlush < s.ringUnused then do
      let ok ← pageServerFlush
      if ok then Smgr.modify fun s => { s with ringFlush := s.ringUnused }
      pure ok
    else pure true
  if flushed then do
    let s ← Smgr.get
    receiveLoop k (k + 1 - s.ringReceive)
  else pure false

def consumePrefetchResponses : Smgr Unit := do
  let s ← Smgr.get
  if s.ringReceive < s.ringUnused then
    let _ ← prefetchWaitFor (s.ringUnused - 1)
    pure ()

/-- `while (!page_server->send(req));` -/
def sendLoop (r : NeonRequest) : Nat → Smgr Unit
  | 0 => Smgr.outOfFuel
  | n + 1 => do if ← pageServerSend r then pure () else sendLoop r n

/-- `prefetch_do_request` on the slot in cell `c`. A forced `(latest, lsn)` is
sent and stamped as is; otherwise the slot is stamped with the running maximum
`prefetch_lsn`, which may exceed the LSN sent. -/
def prefetchDoRequest (c : Nat) (force : Option (Bool × XLogRecPtr)) : Smgr Unit := do
  let e ← Smgr.env
  let s ← Smgr.get
  let tag := (s.prfBuffer c).buftag
  let (latest, lsn) := match force with
    | some f => f
    | none => neonGetRequestLsn e.xlog tag.rnode tag.forkNum tag.blockNum
  let request := NeonRequest.getPageRequest latest lsn tag.rnode tag.forkNum tag.blockNum
  match force with
  | some _ => Smgr.modify fun s =>
      s.setCell c { s.prfBuffer c with effectiveRequestLsn := lsn, sent := request }
  | none => Smgr.modify fun s =>
      let lsn := max s.prefetchLsn lsn
      { s with prefetchLsn := lsn }.setCell c { s.prfBuffer c with effectiveRequestLsn := lsn, sent := request }
  sendLoop request e.fuel
  Smgr.modify fun s =>
    ({ s with nRequestsInflight := s.nRequestsInflight + 1
              nUnused := s.nUnused - 1
              ringUnused := s.ringUnused + 1 }).setCell c { s.prfBuffer c with status := .requested }
  Smgr.modify fun s => s.hashInsert (s.prfBuffer c).buftag c

/-- The make-room step of `prefetch_register_buffer` when the ring is full. -/
def makeRoom : Smgr Unit := do
  let s ← Smgr.get
  let cleanupIndex := s.ringLast
  let c ← getPrfSlot cleanupIndex
  let s ← Smgr.get
  let compacted ← if receiveBufferNeedsCompaction s then Smgr.modifyGet compactPrefetchBuffers
    else pure false
  if compacted then pure ()
  else do
    let s ← Smgr.get
    match (s.prfBuffer c).status with
    | .requested =>
      let _ ← prefetchWaitFor cleanupIndex
      Smgr.modify (prefetchSetUnused · cleanupIndex)
    | .received | .tagRemains => Smgr.modify (prefetchSetUnused · cleanupIndex)
    | .unused => Smgr.crash .unreachable

/-- The end of `prefetch_register_buffer`, after the ring-full test: fill the slot at
`ring_unused`, send, and flush every `flush_every_n_requests` requests (the flush's
result is not looked at). -/
def prefetchInsertNew (tag : BufferTag) (force : Option (Bool × XLogRecPtr)) : Smgr Nat := do
  let s ← Smgr.get
  let k := s.ringUnused
  let c := s.cell k
  Smgr.modify fun s => s.setCell c { s.prfBuffer c with buftag := tag, myRingIndex := k }
  prefetchDoRequest c force
  let s ← Smgr.get
  if 0 < s.flushEveryNRequests ∧ s.flushEveryNRequests ≤ s.ringUnused - s.ringFlush then
    let _ ← pageServerFlush
    Smgr.modify fun s => { s with ringFlush := s.ringUnused }
  pure k

/-- The tail of `prefetch_register_buffer` that takes a fresh slot: make room when the
ring is full, then insert. -/
def prefetchRegisterNew (tag : BufferTag) (force : Option (Bool × XLogRecPtr)) : Smgr Nat := do
  let s ← Smgr.get
  if s.ringLast + s.readaheadBufferSize - 1 = s.ringUnused then makeRoom
  prefetchInsertNew tag force

/-- The reuse rule of `prefetch_register_buffer`: a buffered request stamped
`lsn` is discarded for a forced `(latest, force_lsn)` it may not serve. -/
def rejectsBuffered : Option (Bool × XLogRecPtr) → XLogRecPtr → Bool
  | some (true, forceLsn), lsn => lsn < forceLsn
  | some (false, forceLsn), lsn => forceLsn ≠ lsn
  | none, _ => false

def prefetchRegisterBuffer (tag : BufferTag) (force : Option (Bool × XLogRecPtr)) : Smgr Nat := do
  let s ← Smgr.get
  match s.prfHash tag with
  | none => prefetchRegisterNew tag force
  | some c =>
    let slot := s.prfBuffer c
    let k := slot.myRingIndex
    if rejectsBuffered force slot.effectiveRequestLsn then
      let _ ← prefetchWaitFor k
      Smgr.modify (prefetchSetUnused · k)
      prefetchRegisterNew tag force
    else if slot.status = .tagRemains then
      Smgr.modify (prefetchSetUnused · k)
      prefetchRegisterNew tag force
    else pure k

/-- `while (!page_server->send(req) || !page_server->flush());` -/
def sendFlushLoop (r : NeonRequest) : Nat → Smgr Unit
  | 0 => Smgr.outOfFuel
  | n + 1 => do
    if ← pageServerSend r then
      if ← pageServerFlush then pure () else sendFlushLoop r n
    else sendFlushLoop r n

/-- The outer `do ... while (resp == NULL)` of `page_server_request`. -/
def requestLoop (r : NeonRequest) : Nat → Smgr Response
  | 0 => Smgr.outOfFuel
  | n + 1 => do
    let e ← Smgr.env
    sendFlushLoop r e.fuel
    Smgr.modify fun s => { s with ringFlush := s.ringUnused }
    consumePrefetchResponses
    match ← pageServerReceive with
    | some resp => pure resp
    | none => requestLoop r n

def pageServerRequest (r : NeonRequest) : Smgr Response := do
  let e ← Smgr.env
  requestLoop r e.fuel

end PagestoreSmgr
