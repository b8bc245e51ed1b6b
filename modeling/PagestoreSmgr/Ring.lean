import PagestoreSmgr.State

/-!
# Ring maintenance: retiring, compacting and dropping slots

These functions touch no transport, so they are plain state transformers.
Each C loop is a structural recursion: on the position it walks down from, or
on the exact number of iterations the loop can take, since neither
`prefetch_set_unused` nor compaction moves `ring_receive` or `ring_unused`.
-/

set_option autoImplicit false

namespace PagestoreSmgr

/-- The loop of `prefetch_cleanup_trailing_unused`, with `n` iterations left. -/
def cleanupLoop : Nat → Backend → Backend
  | 0, s => s
  | n + 1, s =>
    if s.ringLast < s.ringReceive then
      let s := s.assertSlot s.ringLast
      if (s.slotAt s.ringLast).status = .unused then
        cleanupLoop n { s with ringLast := s.ringLast + 1 }
      else s
    else s

def prefetchCleanupTrailingUnused (s : Backend) : Backend :=
  cleanupLoop (s.ringReceive - s.ringLast) s

/-- `ReceiveBufferNeedsCompaction()`: more than an eighth of the received window
is holes. C divides the `int` counter truncating; the comparison is over the
integers, which is C's `uint64` comparison whenever the counter lies in
`[0, ring_receive - ring_last]`. -/
def receiveBufferNeedsCompaction (s : Backend) : Bool :=
  s.nResponsesBuffered.tdiv 8 < (s.ringReceive : Int) - s.ringLast - s.nResponsesBuffered

/-- The first loop of `compact_prefetch_buffers`: walk down from `search` to the
highest `UNUSED` slot above `ring_last`. Returns the state, `search` and
`empty_ring_index`. -/
def compactFind (s : Backend) (empty : Nat) : Nat → Backend × Nat × Nat
  | 0 => (s, 0, empty)
  | search + 1 =>
    if s.ringLast < search + 1 then
      let s := s.assertSlot search
      if (s.slotAt search).status = .unused then (s, search, search)
      else compactFind s empty search
    else (s, search + 1, empty)

/-- The body of the second loop of `compact_prefetch_buffers` for a used slot at
`search`: copy it to `empty_ring_index`, repoint its hash entry, clear the source. -/
def compactMoveSlot (s : Backend) (search empty : Nat) : Backend :=
  let source := s.slotAt search
  let s := s.assertSlot empty
  let target := s.slotAt empty
  let s := (s.check (source.status = .received) (.compactSource search)).check
    (target.status = .unused) (.compactTarget empty)
  let s := s.setCell (s.cell empty) { source with myRingIndex := empty }
  let s := (s.hashDelete source.buftag).hashInsert source.buftag (s.cell empty)
  s.setCell (s.cell search) .empty

/-- The second loop of `compact_prefetch_buffers`: each used slot below the gap
moves up to `empty_ring_index`, which then moves down. Returns the state and
`n_moved`. -/
def compactMove (s : Backend) (empty nMoved : Nat) : Nat → Backend × Nat
  | 0 => (s, nMoved)
  | search + 1 =>
    if s.ringLast < search + 1 then
      let s := s.assertSlot search
      if (s.slotAt search).status = .unused then compactMove s empty nMoved search
      else compactMove (compactMoveSlot s search empty) (empty - 1) (nMoved + 1) search
    else (s, nMoved)

def compactPrefetchBuffers (s : Backend) : Backend × Bool :=
  if s.ringReceive = s.ringLast then (s, false)
  else
    let (s, search, empty) := compactFind s s.ringLast s.ringReceive
    let (s, nMoved) := compactMove s empty 0 search
    if 0 < nMoved then (prefetchCleanupTrailingUnused s, true) else (s, false)

/-- The end of `prefetch_set_unused(ring_index)`: the cleanup when the retired slot
held `ring_last` back, otherwise a compaction when too much of the received window
is holes. -/
def retireTail (s : Backend) (k : Nat) : Backend :=
  if s.ringLast = k then prefetchCleanupTrailingUnused s
  else if receiveBufferNeedsCompaction s then (compactPrefetchBuffers s).1
  else s

/-- `prefetch_set_unused(ring_index)`. `GetPrfSlot` is evaluated before the
early return for positions below `ring_last`. -/
def prefetchSetUnused (s : Backend) (k : Nat) : Backend :=
  let s := s.assertSlot k
  let c := s.cell k
  if k < s.ringLast then s
  else
    let slot := s.prfBuffer c
    if slot.status = .unused then s
    else
      let s := s.check (slot.status = .received ∨ slot.status = .tagRemains) (.setUnusedStatus k)
      let s := if slot.status = .received then
          { s with released := s.released ++ (slot.response.map (·.id)).toList
                   nResponsesBuffered := s.nResponsesBuffered - 1
                   nUnused := s.nUnused + 1 }
        else s
      retireTail ((s.hashDelete slot.buftag).setCell c .empty) k

/-- One iteration of the loop of `prefetch_on_ps_disconnect`: the slot at
`ring_receive` becomes `TAG_REMAINS`, `ring_receive` moves over it, and it is
retired at once. -/
def disconnectSlot (s : Backend) : Backend :=
  let k := s.ringReceive
  let s := s.assertSlot k
  let c := s.cell k
  let s := s.setCell c { s.prfBuffer c with status := .tagRemains }
  let s := { s with nRequestsInflight := s.nRequestsInflight - 1, ringReceive := k + 1 }
  prefetchSetUnused s k

/-- The loop of `prefetch_on_ps_disconnect`, with `n` iterations left. -/
def disconnectLoop : Nat → Backend → Backend
  | 0, s => s
  | n + 1, s => if s.ringReceive < s.ringUnused then disconnectLoop n (disconnectSlot s) else s

def prefetchOnPsDisconnect (s : Backend) : Backend :=
  disconnectLoop (s.ringUnused - s.ringReceive) { s with ringFlush := s.ringUnused }

end PagestoreSmgr
