import PagestoreSmgr.Types
import Mathlib.Tactic.Simps.Basic

/-!
# The backend state the adaptor reads and writes

`Backend` is flat: the fields of `MyPState`, the globals `prefetch_lsn`,
`readahead_buffer_size` and `flush_every_n_requests`, the page-server
connection (requests flushed to the wire and requests still in the output
buffer), and four ghost fields: the transport call counter, the responses
`prefetch_set_unused` has freed, the `Assert`s found false so far, and the calls made so
far that change state shared with the rest of the server.
A slot pointer is a cell number of `prf_buffer`; `prf_hash` maps a tag to one.
-/

set_option autoImplicit false

namespace PagestoreSmgr

structure Backend where
  ringUnused : Nat
  ringFlush : Nat
  ringReceive : Nat
  ringLast : Nat
  nResponsesBuffered : Int
  nRequestsInflight : Int
  nUnused : Int
  prfHash : BufferTag → Option Nat
  prfBuffer : Nat → PrefetchRequest
  prefetchLsn : XLogRecPtr
  readaheadBufferSize : Nat
  flushEveryNRequests : Nat
  wire : List NeonRequest
  outbuf : List NeonRequest
  calls : Nat
  released : List Nat
  assertFailures : List Assertion
  sharedWrites : List SharedWrite

namespace Backend

variable (s : Backend)

/-- The cell `GetPrfSlot` addresses for a ring position. -/
def cell (k : Nat) : Nat := k % s.readaheadBufferSize

def slotAt (k : Nat) : PrefetchRequest := s.prfBuffer (s.cell k)

@[simps prfBuffer prfHash ringLast ringReceive ringFlush ringUnused readaheadBufferSize
  nResponsesBuffered nRequestsInflight]
def setCell (c : Nat) (v : PrefetchRequest) : Backend :=
  { s with prfBuffer := fun i => if i = c then v else s.prfBuffer i }

/-- `prfh_delete`: drop the entry of a tag. -/
@[simps prfBuffer prfHash ringLast ringReceive ringFlush ringUnused readaheadBufferSize]
def hashDelete (t : BufferTag) : Backend :=
  { s with prfHash := fun u => if u = t then none else s.prfHash u }

/-- `prfh_insert`: add an entry unless the tag already has one (`found`). -/
@[simps prfBuffer ringLast ringReceive ringFlush ringUnused readaheadBufferSize]
def hashInsert (t : BufferTag) (c : Nat) : Backend :=
  { s with prfHash := match s.prfHash t with
      | some _ => s.prfHash
      | none => fun u => if u = t then some c else s.prfHash u }

/-- Record an `Assert` of condition `b`; execution continues as in a release build. -/
@[simps prfBuffer prfHash ringLast ringReceive ringFlush ringUnused readaheadBufferSize
  nResponsesBuffered nRequestsInflight]
def check (b : Prop) [Decidable b] (a : Assertion) : Backend :=
  { s with assertFailures := if b then s.assertFailures else s.assertFailures ++ [a] }

/-- The `AssertMacro` of `GetPrfSlot(k)`. -/
def assertSlot (k : Nat) : Backend :=
  s.check (s.ringLast ≤ k ∧ k < s.ringUnused) (.getPrfSlot k)

def held : List Nat :=
  (List.range s.readaheadBufferSize).filterMap fun c => (s.prfBuffer c).response.map Response.id

def nextCall : Backend := { s with calls := s.calls + 1 }

def writeShared (w : SharedWrite) : Backend := { s with sharedWrites := s.sharedWrites ++ [w] }

def dropConnection : Backend := { s with wire := [], outbuf := [] }

def ring : Nat × Nat × Nat × Nat × Nat × (Nat → PrefetchRequest) × (BufferTag → Option Nat) × Int × Int :=
  (s.ringLast, s.ringReceive, s.ringFlush, s.ringUnused, s.readaheadBufferSize, s.prfBuffer,
    s.prfHash, s.nRequestsInflight, s.nResponsesBuffered)

@[simp] theorem setCell_cell (c : Nat) (v : PrefetchRequest) (p : Nat) :
    (s.setCell c v).cell p = s.cell p := rfl

@[simp] theorem setCell_slotAt (c : Nat) (v : PrefetchRequest) (p : Nat) :
    (s.setCell c v).slotAt p = if s.cell p = c then v else s.slotAt p := rfl

@[simp] theorem hashDelete_cell (t : BufferTag) (p : Nat) : (s.hashDelete t).cell p = s.cell p := rfl

@[simp] theorem hashDelete_slotAt (t : BufferTag) (p : Nat) :
    (s.hashDelete t).slotAt p = s.slotAt p := rfl

@[simp] theorem hashInsert_cell (t : BufferTag) (c p : Nat) : (s.hashInsert t c).cell p = s.cell p := rfl

@[simp] theorem hashInsert_slotAt (t : BufferTag) (c p : Nat) :
    (s.hashInsert t c).slotAt p = s.slotAt p := rfl

theorem hashInsert_prfHash_of_none {t : BufferTag} (c : Nat) (h : s.prfHash t = none) (u : BufferTag) :
    (s.hashInsert t c).prfHash u = if u = t then some c else s.prfHash u := by
  simp [hashInsert, h]

@[simp] theorem check_ring {b : Prop} [Decidable b] (a : Assertion) : (s.check b a).ring = s.ring := rfl

@[simp] theorem check_cell {b : Prop} [Decidable b] (a : Assertion) (p : Nat) :
    (s.check b a).cell p = s.cell p := rfl

theorem check_of {b : Prop} [Decidable b] (a : Assertion) (h : b) : s.check b a = s := by
  simp [check, h]

theorem hashDelete_hashInsert (t u : BufferTag) (c : Nat) :
    ((s.hashDelete t).hashInsert t c).prfHash u = if u = t then some c else s.prfHash u := by
  by_cases h : u = t <;> simp [hashInsert_prfHash_of_none, h]

theorem assertSlot_of_mem (k : Nat) (h : s.ringLast ≤ k ∧ k < s.ringUnused) :
    s.assertSlot k = s := by
  simp [assertSlot, check, h]

end Backend

def SharedWrite.relsize (c : RelFileNode → ForkNumber → Option BlockNumber) :
    SharedWrite → RelFileNode → ForkNumber → Option BlockNumber
  | .setCachedRelsize r f n => fun r' f' => if r' = r ∧ f' = f then some n else c r' f'
  | .updateCachedRelsize r f n => fun r' f' =>
    if r' = r ∧ f' = f then
      match c r f with
      | some m => some (if m < n then n else m)
      | none => some n
    else c r' f'
  | _ => c

/-- The relation size cache after the writes `ws`, from the sizes `c`. -/
def relsizeAfter (c : RelFileNode → ForkNumber → Option BlockNumber) (ws : List SharedWrite) :
    RelFileNode → ForkNumber → Option BlockNumber :=
  ws.foldl SharedWrite.relsize c

/-- `neon_init`: a zeroed `PrefetchState` with every slot `UNUSED`, no
connection yet, and `prefetch_lsn = 0`. -/
def neonInit (readaheadBufferSize flushEveryNRequests : Nat) : Backend where
  ringUnused := 0
  ringFlush := 0
  ringReceive := 0
  ringLast := 0
  nResponsesBuffered := 0
  nRequestsInflight := 0
  nUnused := readaheadBufferSize
  prfHash := fun _ => none
  prfBuffer := fun _ => .empty
  prefetchLsn := 0
  readaheadBufferSize := readaheadBufferSize
  flushEveryNRequests := flushEveryNRequests
  wire := []
  outbuf := []
  calls := 0
  released := []
  assertFailures := []
  sharedWrites := []

end PagestoreSmgr
