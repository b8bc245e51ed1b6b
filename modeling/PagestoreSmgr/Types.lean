/-!
# Block identities, page-server messages and prefetch slots

A `BufferTag` is the identity the prefetch ring and its hash index are keyed
by. Requests and responses are the message kinds of the page-server protocol;
a `Response` is a received message as the adaptor holds it, a pointer that is
either stored in a ring slot or freed. A `PrefetchRequest` is one ring slot.
Ring positions and counters that never wrap in a run are `Nat`; LSNs and
object ids keep their C widths.
-/

set_option autoImplicit false

namespace PagestoreSmgr

abbrev XLogRecPtr := UInt64
abbrev Oid := UInt32
abbrev BlockNumber := UInt32

inductive ForkNumber where
  | main
  | fsm
  | visibilitymap
  | init
  deriving DecidableEq, Repr

structure RelFileNode where
  spcNode : Oid
  dbNode : Oid
  relNode : Oid
  deriving DecidableEq, Repr

structure BufferTag where
  rnode : RelFileNode
  forkNum : ForkNumber
  blockNum : BlockNumber
  deriving DecidableEq, Repr

def BufferTag.zero : BufferTag := ⟨⟨0, 0, 0⟩, .main, 0⟩

inductive NeonMessageTag where
  | existsRequest
  | nblocksRequest
  | getPageRequest
  | dbSizeRequest
  | existsResponse
  | nblocksResponse
  | getPageResponse
  | errorResponse
  | dbSizeResponse
  deriving DecidableEq, Repr

/-- The four requests the adaptor sends, each with its `latest` flag and LSN. -/
inductive NeonRequest where
  | existsRequest (latest : Bool) (lsn : XLogRecPtr) (rnode : RelFileNode) (forknum : ForkNumber)
  | nblocksRequest (latest : Bool) (lsn : XLogRecPtr) (rnode : RelFileNode) (forknum : ForkNumber)
  | getPageRequest (latest : Bool) (lsn : XLogRecPtr) (rnode : RelFileNode) (forknum : ForkNumber)
      (blkno : BlockNumber)
  | dbSizeRequest (latest : Bool) (lsn : XLogRecPtr) (dbNode : Oid)
  deriving DecidableEq, Repr

inductive NeonResponse where
  | existsResponse (relExists : Bool)
  | nblocksResponse (nBlocks : UInt32)
  | getPageResponse (page : List UInt8)
  | errorResponse (message : String)
  | dbSizeResponse (dbSize : Int)
  deriving DecidableEq, Repr

def NeonResponse.tag : NeonResponse → NeonMessageTag
  | .existsResponse _ => .existsResponse
  | .nblocksResponse _ => .nblocksResponse
  | .getPageResponse _ => .getPageResponse
  | .errorResponse _ => .errorResponse
  | .dbSizeResponse _ => .dbSizeResponse

/-- A received response as the adaptor holds it. Besides the message, two ghost
fields: `id`, the transport call that delivered it (one allocation each), and
`answers`, the request on the connection it answers. -/
structure Response where
  id : Nat
  answers : NeonRequest
  msg : NeonResponse
  deriving DecidableEq, Repr

inductive PrefetchStatus where
  | unused
  | requested
  | received
  | tagRemains
  deriving DecidableEq, Repr

/-- One ring slot. `sent` is ghost: the request `prefetch_do_request` put on the
connection for this slot, which moves with the slot's other fields. -/
structure PrefetchRequest where
  buftag : BufferTag
  effectiveRequestLsn : XLogRecPtr
  response : Option Response
  status : PrefetchStatus
  myRingIndex : Nat
  sent : NeonRequest
  deriving DecidableEq, Repr

def PrefetchRequest.empty : PrefetchRequest where
  buftag := .zero
  effectiveRequestLsn := 0
  response := none
  status := .unused
  myRingIndex := 0
  sent := .getPageRequest false 0 ⟨0, 0, 0⟩ .main 0

@[simp] theorem PrefetchRequest.empty_status : PrefetchRequest.empty.status = .unused := rfl
@[simp] theorem PrefetchRequest.empty_response : PrefetchRequest.empty.response = none := rfl

/-- The `Assert`s whose violation the model records, each with its ring position. -/
inductive Assertion where
  | getPrfSlot (ringIndex : Nat)
  | setUnusedStatus (ringIndex : Nat)
  | compactSource (ringIndex : Nat)
  | compactTarget (ringIndex : Nat)
  deriving DecidableEq, Repr

/-- The `elog(ERROR)`/`ereport(ERROR)` exits, with the data their messages print. -/
inductive SmgrError where
  | unknownRelpersistence (relpersistence : Char)
  | unknownPersistence (call : String)
  | couldNotReadBlock (blkno : BlockNumber) (rnode : RelFileNode) (forkNum : ForkNumber)
      (lsn : XLogRecPtr) (message : String)
  | couldNotReadRelationExistence (rnode : RelFileNode) (forkNum : ForkNumber) (lsn : XLogRecPtr)
      (message : String)
  | couldNotReadRelationSize (rnode : RelFileNode) (forkNum : ForkNumber) (lsn : XLogRecPtr)
      (message : String)
  | couldNotReadDbSize (dbNode : Oid) (lsn : XLogRecPtr) (message : String)
  | unexpectedResponse (tag : NeonMessageTag)
  /-- The `ERRCODE_DISK_FULL` of `neon_extend`: "could not extend file because cluster size
  limit (%d MB) has been exceeded". -/
  | clusterSizeLimitExceeded (maxClusterSize : Int)
  deriving DecidableEq, Repr

/-- A call that changes state the backend shares with the rest of the server: the relation
size cache, the last-written LSN service, the WAL, the local file cache and the local
disk. `logNewpage` carries the end of the record `log_newpage` inserted. -/
inductive SharedWrite where
  | setCachedRelsize (rnode : RelFileNode) (forknum : ForkNumber) (size : BlockNumber)
  | updateCachedRelsize (rnode : RelFileNode) (forknum : ForkNumber) (size : BlockNumber)
  | setLastWrittenLsnForBlock (lsn : XLogRecPtr) (rnode : RelFileNode) (forknum : ForkNumber)
      (blkno : BlockNumber)
  | setLastWrittenLsnForRelation (lsn : XLogRecPtr) (rnode : RelFileNode) (forknum : ForkNumber)
  | logNewpage (rnode : RelFileNode) (forknum : ForkNumber) (blkno : BlockNumber)
      (page : List UInt8) (recptr : XLogRecPtr)
  | xlogFlush (lsn : XLogRecPtr)
  | lfcWrite (rnode : RelFileNode) (forknum : ForkNumber) (blkno : BlockNumber)
      (page : List UInt8)
  | lfcEvict (rnode : RelFileNode) (forknum : ForkNumber) (blkno : BlockNumber)
  | mdextend (rnode : RelFileNode) (forknum : ForkNumber) (blkno : BlockNumber)
      (page : List UInt8)
  deriving DecidableEq, Repr

/-- What an `SMgrRelation` carries that the adaptor reads. -/
structure SMgrRelation where
  rnode : RelFileNode
  relpersistence : Char
  deriving DecidableEq, Repr

def RELPERSISTENCE_PERMANENT : Char := 'p'
def RELPERSISTENCE_UNLOGGED : Char := 'u'
def RELPERSISTENCE_TEMP : Char := 't'

end PagestoreSmgr
