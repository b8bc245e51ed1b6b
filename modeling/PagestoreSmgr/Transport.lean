import PagestoreSmgr.Ring

/-!
# The environment, the adaptor's outcome monad and the transport

Everything outside the adaptor is an `Env`: how each transport call ends, what
the page server answers, and the snapshot of WAL, cache and local-disk state an
operation reads. A computation of the adaptor ends in one of five ways:
it returns; it raises `ERROR`, which unwinds the call but leaves the backend
state as it was at the raise; it crashes (a `NULL` dereference or a
`pg_unreachable()` reached); it blocks in `receive` for good; or one of its
busy loops runs past the environment's fuel.

The connection is a FIFO: `send` appends to the output buffer, `flush` moves the
output buffer onto the wire, and `receive` answers the oldest request on the
wire. A failed call may leave everything as it was (`fail`) or drop the
connection and run `prefetch_on_ps_disconnect` (`disconnect`).
-/

set_option autoImplicit false

namespace PagestoreSmgr

inductive Reply where
  | ok
  | fail
  | disconnect
  deriving DecidableEq, Repr

/-- What `neon_get_request_lsn` and `nm_adjust_lsn` read of the WAL machinery. -/
structure XLogEnv where
  recoveryInProgress : Bool
  amWalsender : Bool
  lastWrittenLsn : RelFileNode → ForkNumber → BlockNumber → XLogRecPtr
  flushRecPtr : XLogRecPtr
  walSegmentSize : UInt64
  xlogBlcksz : UInt64
  sizeOfXLogShortPHD : UInt64
  sizeOfXLogLongPHD : UInt64
  relMetadataPseudoBlockno : BlockNumber

structure Env where
  send : Nat → Reply
  flush : Nat → Reply
  receive : Nat → Reply
  answer : Nat → NeonRequest → NeonResponse
  fuel : Nat
  xlog : XLogEnv
  lfcContains : BufferTag → Bool
  lfcRead : BufferTag → Option (List UInt8)
  mdexists : RelFileNode → ForkNumber → Bool
  mdnblocks : RelFileNode → ForkNumber → BlockNumber
  mdread : BufferTag → List UInt8
  mdprefetch : BufferTag → Bool
  cachedRelsize : RelFileNode → ForkNumber → Option BlockNumber
  bufferResident : BufferTag → Bool
  oldRedoReadBufferFilter : Bool
  shutdownRequestPending : Bool
  xlogInsertAllowed : Bool
  /-- The end of the record `log_newpage` inserts, by the number of shared writes made
  before it. -/
  xlogInsertEnd : Nat → XLogRecPtr
  xlogInsertRecPtr : XLogRecPtr
  pageGetLsn : List UInt8 → XLogRecPtr
  pageIsNew : List UInt8 → Bool
  /-- The page `PageInit(page, BLCKSZ, 0)` leaves. -/
  emptyHeapPage : List UInt8
  maxClusterSize : Int
  currentClusterSize : UInt64
  isAutoVacuumWorkerProcess : Bool
  /-- What `((NeonNblocksResponse *) resp)->n_blocks` reads from a response of another
  kind: bytes of its body that the model does not lay out. -/
  nBlocksOfOther : NeonResponse → BlockNumber

/-- The transport the connection theorems assume: a failed `flush` or `receive`
always drops the connection and runs the disconnect hook. -/
def Env.DisconnectsOnFailure (e : Env) : Prop :=
  (∀ n, e.flush n ≠ .fail) ∧ ∀ n, e.receive n ≠ .fail

def XLogEnv.writtenAt (lsn : XLogRecPtr) : XLogEnv where
  recoveryInProgress := false
  amWalsender := false
  lastWrittenLsn _ _ _ := lsn
  flushRecPtr := lsn
  walSegmentSize := 16777216
  xlogBlcksz := 8192
  sizeOfXLogShortPHD := 24
  sizeOfXLogLongPHD := 40
  relMetadataPseudoBlockno := 0

def XLogEnv.walsender : XLogEnv := { XLogEnv.writtenAt 0 with amWalsender := true }

/-- A transport and page server for runs on fixed inputs: `send` succeeds, `flush` and
`receive` end as the scripts say for each call number, and the page server answers each
request with `answer`; the local file cache, the relation size cache and the local disk
hold nothing, WAL may be inserted, every page reads as new with LSN 0, and the record
logged as the `n`-th shared write ends at `n + 1`. -/
def Env.scripted (flush receive : Nat → Reply) (answer : NeonRequest → NeonResponse)
    (xlog : XLogEnv) : Env where
  send _ := .ok
  flush := flush
  receive := receive
  answer _ := answer
  fuel := 4
  xlog := xlog
  lfcContains _ := false
  lfcRead _ := none
  mdexists _ _ := false
  mdnblocks _ _ := 0
  mdread _ := []
  mdprefetch _ := false
  cachedRelsize _ _ := none
  bufferResident _ := false
  oldRedoReadBufferFilter := false
  shutdownRequestPending := false
  xlogInsertAllowed := true
  xlogInsertEnd n := n.toUInt64 + 1
  xlogInsertRecPtr := 0
  pageGetLsn _ := 0
  pageIsNew _ := true
  emptyHeapPage := []
  maxClusterSize := 0
  currentClusterSize := 0
  isAutoVacuumWorkerProcess := false
  nBlocksOfOther _ := 0

def answerInKind : NeonRequest → NeonResponse
  | .existsRequest .. => .existsResponse true
  | .nblocksRequest .. => .nblocksResponse 4
  | .getPageRequest _ _ _ _ blkno => .getPageResponse [blkno.toUInt8]
  | .dbSizeRequest .. => .dbSizeResponse 0

def Env.steady (answer : NeonRequest → NeonResponse) (xlog : XLogEnv) : Env :=
  Env.scripted (fun _ => .ok) (fun _ => .ok) answer xlog

def Env.flushDropsAt (n : Nat) (answer : NeonRequest → NeonResponse) (xlog : XLogEnv) : Env :=
  Env.scripted (fun m => if m = n then .disconnect else .ok) (fun _ => .ok) answer xlog

def Env.steadyWalsender : Env := Env.steady answerInKind .walsender

theorem Env.steady_disconnectsOnFailure (answer : NeonRequest → NeonResponse) (xlog : XLogEnv) :
    (Env.steady answer xlog).DisconnectsOnFailure :=
  ⟨fun _ => nofun, fun _ => nofun⟩

theorem Env.steadyWalsender_disconnectsOnFailure : Env.steadyWalsender.DisconnectsOnFailure :=
  Env.steady_disconnectsOnFailure _ _

theorem Env.flushDropsAt_disconnectsOnFailure (n : Nat) (answer : NeonRequest → NeonResponse)
    (xlog : XLogEnv) : (Env.flushDropsAt n answer xlog).DisconnectsOnFailure :=
  ⟨fun m => by simp only [Env.flushDropsAt, Env.scripted]; split <;> nofun, fun _ => nofun⟩

def SMgrRelation.sample : SMgrRelation := ⟨⟨1, 1, 1⟩, RELPERSISTENCE_PERMANENT⟩

inductive Crash where
  | nullResponse
  | unreachable
  /-- The `PANIC` of `neon_wallog_page`: "Page %u of relation %u/%u/%u.%u is evicted with
  zero LSN". -/
  | evictedWithZeroLsn (blocknum : BlockNumber) (rnode : RelFileNode) (forknum : ForkNumber)
  deriving DecidableEq, Repr

inductive Outcome (α : Type) where
  | done (a : α) (s : Backend)
  | raise (err : SmgrError) (s : Backend)
  | crash (c : Crash) (s : Backend)
  | blocked
  | outOfFuel

def Outcome.next? {α : Type} : Outcome α → Option Backend
  | .done _ s | .raise _ s => some s
  | _ => none

def Smgr (α : Type) : Type := Env → Backend → Outcome α

namespace Smgr

def bind {α β : Type} (x : Smgr α) (f : α → Smgr β) : Smgr β := fun e s =>
  match x e s with
  | .done a s => f a e s
  | .raise r s => .raise r s
  | .crash c s => .crash c s
  | .blocked => .blocked
  | .outOfFuel => .outOfFuel

instance : Monad Smgr where
  pure a := fun _ s => .done a s
  bind := bind

def get : Smgr Backend := fun _ s => .done s s

def modify (f : Backend → Backend) : Smgr Unit := fun _ s => .done () (f s)

def env : Smgr Env := fun e s => .done e s

def writeShared (w : SharedWrite) : Smgr Unit := modify fun s => s.writeShared w

def modifyGet {α : Type} (f : Backend → Backend × α) : Smgr α := fun _ s => .done (f s).2 (f s).1

def raise {α : Type} (err : SmgrError) : Smgr α := fun _ s => .raise err s

def crash {α : Type} (c : Crash) : Smgr α := fun _ s => .crash c s

def outOfFuel {α : Type} : Smgr α := fun _ _ => .outOfFuel

variable {α β : Type} {x : Smgr α} {f : α → Smgr β} {e : Env} {s s' : Backend}

@[simp] theorem pure_apply (a : α) : (pure a : Smgr α) e s = .done a s := rfl

@[simp] theorem bind_apply : (x >>= f) e s = bind x f e s := rfl

theorem bind_done {b : β} :
    bind x f e s = .done b s' ↔ ∃ a s₁, x e s = .done a s₁ ∧ f a e s₁ = .done b s' := by
  unfold bind
  cases x e s <;> simp [and_assoc]

theorem bind_raise {r : SmgrError} :
    bind x f e s = .raise r s' ↔
      x e s = .raise r s' ∨ ∃ a s₁, x e s = .done a s₁ ∧ f a e s₁ = .raise r s' := by
  unfold bind
  cases x e s <;> simp [and_assoc]

theorem bind_crash {c : Crash} :
    bind x f e s = .crash c s' ↔
      x e s = .crash c s' ∨ ∃ a s₁, x e s = .done a s₁ ∧ f a e s₁ = .crash c s' := by
  unfold bind
  cases x e s <;> simp [and_assoc]

/-- The weakest precondition of `x` in `e` for `Q` on return and `R` on `ERROR`. A crash,
a block for good or running out of fuel ends the backend, and meets every post-condition. -/
def wp (x : Smgr α) (e : Env) (Q : α → Backend → Prop) (R : Backend → Prop) (s : Backend) : Prop :=
  match x e s with
  | .done a t => Q a t
  | .raise _ t => R t
  | _ => True

variable {Q Q' : α → Backend → Prop} {R : Backend → Prop}

@[simp] theorem wp_pure (a : α) : wp (pure a) e Q R s ↔ Q a s := Iff.rfl

@[simp] theorem wp_bind {Q : β → Backend → Prop} :
    wp (x >>= f) e Q R s ↔ wp x e (fun a t => wp (f a) e Q R t) R s := by
  show (match bind x f e s with | .done a t => _ | .raise _ t => _ | _ => True) ↔
    match x e s with | .done a t => _ | .raise _ t => _ | _ => True
  unfold bind
  cases x e s <;> rfl

@[simp] theorem wp_get {Q : Backend → Backend → Prop} : wp get e Q R s ↔ Q s s := Iff.rfl

@[simp] theorem wp_env {Q : Env → Backend → Prop} : wp env e Q R s ↔ Q e s := Iff.rfl

@[simp] theorem wp_modify {Q : Unit → Backend → Prop} (g : Backend → Backend) :
    wp (modify g) e Q R s ↔ Q () (g s) := Iff.rfl

@[simp] theorem wp_writeShared {Q : Unit → Backend → Prop} (w : SharedWrite) :
    wp (writeShared w) e Q R s ↔ Q () (s.writeShared w) := Iff.rfl

@[simp] theorem wp_modifyGet (g : Backend → Backend × α) :
    wp (modifyGet g) e Q R s ↔ Q (g s).2 (g s).1 := Iff.rfl

@[simp] theorem wp_raise (err : SmgrError) : wp (raise err) e Q R s ↔ R s := Iff.rfl

@[simp] theorem wp_ite {c : Prop} [Decidable c] (x y : Smgr α) :
    wp (if c then x else y) e Q R s ↔ if c then wp x e Q R s else wp y e Q R s := by
  split <;> rfl

@[simp] theorem wp_crash (c : Crash) : wp (crash c) e Q R s := trivial

@[simp] theorem wp_outOfFuel : wp outOfFuel e Q R s := trivial

theorem wp_mono (h : wp x e Q R s) (hq : ∀ a t, Q a t → Q' a t) : wp x e Q' R s := by
  unfold wp at *
  split at h <;> simp_all

theorem wp_conseq {R' : Backend → Prop} (h : wp x e Q R s) (hq : ∀ a t, Q a t → Q' a t)
    (hr : ∀ t, R t → R' t) : wp x e Q' R' s := by
  unfold wp at *
  split at h <;> simp_all

theorem wp_of_done {a : α} (h : x e s = .done a s') : wp x e Q R s ↔ Q a s' := by
  simp only [wp, h]

theorem wp_of_raise {err : SmgrError} (h : x e s = .raise err s') : wp x e Q R s ↔ R s' := by
  simp only [wp, h]

theorem wp_next {P : Backend → Prop} {t : Backend} (h : wp x e (fun _ => P) P s)
    (hn : (x e s).next? = some t) : P t := by
  unfold wp at h
  cases hx : x e s <;> simp only [hx, Outcome.next?, Option.some.injEq, reduceCtorEq] at h hn
  all_goals exact hn ▸ h

end Smgr

/-- A transport call that drops the connection: the requests on it are lost, and
`prefetch_on_ps_disconnect` runs. -/
def disconnect (s : Backend) : Backend := prefetchOnPsDisconnect s.nextCall.dropConnection

/-- Modelled from the spec: the transport façade's `page_server->send(req)`. -/
def pageServerSend (r : NeonRequest) : Smgr Bool := fun e s =>
  match e.send s.calls with
  | .ok => .done true { s.nextCall with outbuf := s.outbuf ++ [r] }
  | .fail => .done false s.nextCall
  | .disconnect => .done false (disconnect s)

section Rules

variable {e : Env} {s : Backend} {Q : Bool → Backend → Prop} {R : Backend → Prop}

theorem wp_pageServerSend {r : NeonRequest} (hok : Q true { s.nextCall with outbuf := s.outbuf ++ [r] })
    (hfail : Q false s.nextCall) (hd : Q false (disconnect s)) :
    Smgr.wp (pageServerSend r) e Q R s := by
  unfold Smgr.wp pageServerSend
  cases e.send s.calls <;> assumption

end Rules

/-- Modelled from the spec: `page_server->flush()`. -/
def pageServerFlush : Smgr Bool := fun e s =>
  match e.flush s.calls with
  | .ok => .done true { s.nextCall with wire := s.wire ++ s.outbuf, outbuf := [] }
  | .fail => .done false s.nextCall
  | .disconnect => .done false (disconnect s)

theorem wp_pageServerFlush {e : Env} {s : Backend} {Q : Bool → Backend → Prop} {R : Backend → Prop}
    (he : e.DisconnectsOnFailure)
    (hok : Q true { s.nextCall with wire := s.wire ++ s.outbuf, outbuf := [] })
    (hd : Q false (disconnect s)) : Smgr.wp pageServerFlush e Q R s := by
  have := he.1 s.calls
  unfold Smgr.wp pageServerFlush
  cases h : e.flush s.calls
  · exact hok
  · exact absurd h this
  · exact hd

/-- Modelled from the spec: `page_server->receive()`, `NULL` on failure. With no
request on the wire there is nothing to answer, and the call blocks. -/
def pageServerReceive : Smgr (Option Response) := fun e s =>
  match e.receive s.calls with
  | .ok =>
    match s.wire with
    | [] => .blocked
    | r :: rest => .done (some ⟨s.calls, r, e.answer s.calls r⟩) { s.nextCall with wire := rest }
  | .fail => .done none s.nextCall
  | .disconnect => .done none (disconnect s)

theorem wp_pageServerReceive {e : Env} {s : Backend} {Q : Option Response → Backend → Prop}
    {R : Backend → Prop} (he : e.DisconnectsOnFailure)
    (hok : ∀ r rest, s.wire = r :: rest →
      Q (some ⟨s.calls, r, e.answer s.calls r⟩) { s.nextCall with wire := rest })
    (hd : Q none (disconnect s)) : Smgr.wp pageServerReceive e Q R s := by
  have := he.2 s.calls
  unfold Smgr.wp pageServerReceive
  cases h : e.receive s.calls
  · cases hw : s.wire with
    | nil => trivial
    | cons r rest => exact hok r rest hw
  · exact absurd h this
  · exact hd

end PagestoreSmgr
