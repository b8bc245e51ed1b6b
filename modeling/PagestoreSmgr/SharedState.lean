import PagestoreSmgr.Operations

/-!
# Writes to shared state: page images, last-written LSNs and relation sizes

`neon_wallog_page` logs a full-page image of a page, or only publishes its LSN;
`neon_extend` runs it with `force = true` for every block between the cached size and the
new block, then unforced for the new block itself, and caches the new size. A call's effect on the
relation size cache, the last-written LSN service and the WAL is the list of shared writes
it appends; `relsizeAfter` and `imagesOf` read a cache and the logged images back from it.

`neon_extend` keeps the ring invariant of the other entry points, and its `neon_nblocks`
call drains the prefetches in flight.
-/

set_option autoImplicit false

namespace PagestoreSmgr

def Backend.writeAll (s : Backend) (ws : List SharedWrite) : Backend :=
  { s with sharedWrites := s.sharedWrites ++ ws }

@[simp] theorem Backend.writeAll_nil (s : Backend) : s.writeAll [] = s := by
  simp [Backend.writeAll]

theorem Backend.writeAll_append (s : Backend) (ws ws' : List SharedWrite) :
    (s.writeAll ws).writeAll ws' = s.writeAll (ws ++ ws') := by
  simp [Backend.writeAll, List.append_assoc]

theorem Backend.writeShared_eq (s : Backend) (w : SharedWrite) : s.writeShared w = s.writeAll [w] :=
  rfl

theorem Smgr.writeShared_apply (w : SharedWrite) (e : Env) (s : Backend) :
    Smgr.writeShared w e s = .done () (s.writeAll [w]) :=
  rfl

def imagesOf (rnode : RelFileNode) (forknum : ForkNumber) (blkno : BlockNumber)
    (ws : List SharedWrite) : List (List UInt8) :=
  ws.filterMap fun
    | .logNewpage r f b page _ => if r = rnode ∧ f = forknum ∧ b = blkno then some page else none
    | _ => none

/-- `log_newpage_copy`: log a full-page image of a copy of `page`; returns the end of the
record, which the WAL places. -/
def logNewpageCopy (rnode : RelFileNode) (forkNum : ForkNumber) (blkno : BlockNumber)
    (page : List UInt8) : Smgr XLogRecPtr := do
  let e ← Smgr.env
  let s ← Smgr.get
  let recptr := e.xlogInsertEnd s.sharedWrites.length
  Smgr.writeShared (.logNewpage rnode forkNum blkno page recptr)
  pure recptr

/-- `PageIsEmptyHeapPage`: `buffer` is byte for byte the page `PageInit` leaves. -/
def pageIsEmptyHeapPage (e : Env) (buffer : List UInt8) : Bool := buffer == e.emptyHeapPage

/-- `neon_wallog_page`. -/
def neonWallogPage (reln : SMgrRelation) (forknum : ForkNumber) (blocknum : BlockNumber)
    (buffer : List UInt8) (force : Bool) : Smgr Unit := do
  let e ← Smgr.env
  let lsn := e.pageGetLsn buffer
  if e.shutdownRequestPending then pure ()
  else if !e.xlogInsertAllowed then pure ()
  else
    let lsn ←
      if (force || forknum = .fsm || forknum = .visibilitymap) && !e.xlog.recoveryInProgress then do
        let recptr ← logNewpageCopy reln.rnode forknum blocknum buffer
        Smgr.writeShared (.xlogFlush recptr)
        pure recptr
      else if lsn = 0 then
        if e.pageIsNew buffer then pure lsn
        else if pageIsEmptyHeapPage e buffer then pure lsn
        else Smgr.crash (.evictedWithZeroLsn blocknum reln.rnode forknum)
      else pure lsn
    Smgr.writeShared (.setLastWrittenLsnForBlock lsn reln.rnode forknum blocknum)

/-- The gap loop of `neon_extend`, `neon_wallog_page(reln, forkNum, n_blocks++, buffer, true)`
while `n_blocks < blkno`: run `k` times from block `n`. -/
def extendGap (reln : SMgrRelation) (forkNum : ForkNumber) (buffer : List UInt8) :
    Nat → BlockNumber → Smgr Unit
  | 0, _ => pure ()
  | k + 1, n => do
    neonWallogPage reln forkNum n buffer true
    extendGap reln forkNum buffer k (n + 1)

/-- `neon_extend`. -/
def neonExtend (reln : SMgrRelation) (forkNum : ForkNumber) (blkno : BlockNumber)
    (buffer : List UInt8) : Smgr Unit := do
  let e ← Smgr.env
  let p := reln.relpersistence
  if p = Char.ofNat 0 then Smgr.raise (.unknownPersistence "smgrextend")
  else if p = RELPERSISTENCE_PERMANENT then
    if 0 < e.maxClusterSize ∧ p = RELPERSISTENCE_PERMANENT ∧ !e.isAutoVacuumWorkerProcess ∧
        e.maxClusterSize.toNat.toUInt64 * 1024 * 1024 ≤ e.currentClusterSize then
      Smgr.raise (.clusterSizeLimitExceeded e.maxClusterSize)
    else
      let nBlocks ← neonNblocks reln forkNum
      extendGap reln forkNum buffer (blkno.toNat - nBlocks.toNat) nBlocks
      neonWallogPage reln forkNum blkno buffer false
      Smgr.writeShared (.setCachedRelsize reln.rnode forkNum (blkno + 1))
      let lsn := e.pageGetLsn buffer
      Smgr.writeShared (.lfcWrite reln.rnode forkNum blkno buffer)
      let lsn ←
        if lsn = 0 then do
          let lsn := e.xlogInsertRecPtr
          Smgr.writeShared (.setLastWrittenLsnForBlock lsn reln.rnode forkNum blkno)
          pure lsn
        else pure lsn
      Smgr.writeShared (.setLastWrittenLsnForRelation lsn reln.rnode forkNum)
  else if p = RELPERSISTENCE_TEMP ∨ p = RELPERSISTENCE_UNLOGGED then
    Smgr.writeShared (.mdextend reln.rnode forkNum blkno buffer)
  else Smgr.raise (.unknownRelpersistence p)

variable {e : Env}

theorem ite_of_both {c : Prop} [Decidable c] {P Q : Prop} (hp : P) (hq : Q) :
    if c then P else Q := by
  split <;> assumption

theorem neonWallogPage_forced (hshut : e.shutdownRequestPending = false)
    (hins : e.xlogInsertAllowed = true) (hrec : e.xlog.recoveryInProgress = false)
    (reln : SMgrRelation) (forknum : ForkNumber) (b : BlockNumber) (buffer : List UInt8)
    (s : Backend) :
    neonWallogPage reln forknum b buffer true e s =
      .done () (s.writeAll [.logNewpage reln.rnode forknum b buffer (e.xlogInsertEnd s.sharedWrites.length),
        .xlogFlush (e.xlogInsertEnd s.sharedWrites.length),
        .setLastWrittenLsnForBlock (e.xlogInsertEnd s.sharedWrites.length) reln.rnode forknum b]) := by
  simp [neonWallogPage, logNewpageCopy, Smgr.bind, Smgr.env, Smgr.get, Smgr.writeShared,
    Smgr.modify, hshut, hins, hrec, Backend.writeShared_eq, Backend.writeAll_append]

def gapWrites (e : Env) (rnode : RelFileNode) (forknum : ForkNumber) (buffer : List UInt8) :
    Nat → BlockNumber → Nat → List SharedWrite
  | 0, _, _ => []
  | k + 1, n, len =>
    .logNewpage rnode forknum n buffer (e.xlogInsertEnd len) :: .xlogFlush (e.xlogInsertEnd len) ::
      .setLastWrittenLsnForBlock (e.xlogInsertEnd len) rnode forknum n ::
      gapWrites e rnode forknum buffer k (n + 1) (len + 3)

theorem extendGap_run (hshut : e.shutdownRequestPending = false)
    (hins : e.xlogInsertAllowed = true) (hrec : e.xlog.recoveryInProgress = false)
    (reln : SMgrRelation) (forkNum : ForkNumber) (buffer : List UInt8) :
    ∀ k n s, extendGap reln forkNum buffer k n e s =
      .done () (s.writeAll (gapWrites e reln.rnode forkNum buffer k n s.sharedWrites.length))
  | 0, _, s => by simp [extendGap, gapWrites]
  | k + 1, n, s => by
    simp only [extendGap, Smgr.bind_apply, Smgr.bind, neonWallogPage_forced hshut hins hrec,
      extendGap_run hshut hins hrec reln forkNum buffer k]
    simp [gapWrites, Backend.writeAll_append, Backend.writeAll]

def SharedWrite.OnlyBlock (rnode : RelFileNode) (forknum : ForkNumber) (blkno : BlockNumber) :
    SharedWrite → Prop
  | .logNewpage r f b _ _ => r = rnode ∧ f = forknum ∧ b = blkno
  | .xlogFlush _ => True
  | .setLastWrittenLsnForBlock _ r f b => r = rnode ∧ f = forknum ∧ b = blkno
  | _ => False

theorem imagesOf_of_onlyBlock {rnode : RelFileNode} {forknum : ForkNumber} {b k : BlockNumber}
    {ws : List SharedWrite} (h : ∀ w ∈ ws, w.OnlyBlock rnode forknum b) (hk : k ≠ b) :
    imagesOf rnode forknum k ws = [] := by
  refine List.filterMap_eq_nil_iff.2 fun w hw => ?_
  cases w with
  | logNewpage r f b' _ _ =>
    obtain ⟨-, -, rfl⟩ := h _ hw
    simp [hk.symm]
  | _ => rfl

theorem SharedWrite.relsize_of_onlyBlock {rnode : RelFileNode} {forknum : ForkNumber}
    {b : BlockNumber} {w : SharedWrite} (c : RelFileNode → ForkNumber → Option BlockNumber)
    (h : w.OnlyBlock rnode forknum b) : w.relsize c = c := by
  cases w <;> first | rfl | exact (h : False).elim

theorem relsizeAfter_of_onlyBlock {rnode : RelFileNode} {forknum : ForkNumber}
    (c : RelFileNode → ForkNumber → Option BlockNumber) {ws : List SharedWrite}
    (h : ∀ w ∈ ws, ∃ b, w.OnlyBlock rnode forknum b) : relsizeAfter c ws = c := by
  induction ws generalizing c with
  | nil => rfl
  | cons w ws ih =>
    obtain ⟨b, hw⟩ := h w (List.mem_cons_self _ _)
    simp only [relsizeAfter, List.foldl_cons, SharedWrite.relsize_of_onlyBlock c hw]
    exact ih c fun w' hw' => h w' (List.mem_cons_of_mem _ hw')

theorem relsizeAfter_append (c : RelFileNode → ForkNumber → Option BlockNumber)
    (ws ws' : List SharedWrite) : relsizeAfter c (ws ++ ws') = relsizeAfter (relsizeAfter c ws) ws' :=
  List.foldl_append _ _ _ _

theorem gapWrites_onlyBlock (rnode : RelFileNode) (forknum : ForkNumber) (buffer : List UInt8) :
    ∀ k n len, ∀ w ∈ gapWrites e rnode forknum buffer k n len, ∃ b, w.OnlyBlock rnode forknum b
  | 0, _, _ => fun _ hw => absurd hw (List.not_mem_nil _)
  | k + 1, n, len => by
    intro w hw
    simp only [gapWrites, List.mem_cons] at hw
    rcases hw with rfl | rfl | rfl | hw
    · exact ⟨n, rfl, rfl, rfl⟩
    · exact ⟨n, trivial⟩
    · exact ⟨n, rfl, rfl, rfl⟩
    · exact gapWrites_onlyBlock rnode forknum buffer k (n + 1) (len + 3) w hw

theorem neonWallogPage_wp (reln : SMgrRelation) (forknum : ForkNumber) (b : BlockNumber)
    (buffer : List UInt8) (force : Bool) {s : Backend} {Q : Unit → Backend → Prop}
    {R : Backend → Prop} (h : ∀ ws, (∀ w ∈ ws, w.OnlyBlock reln.rnode forknum b) → Q () (s.writeAll ws)) :
    Smgr.wp (neonWallogPage reln forknum b buffer force) e Q R s := by
  have hs : Q () s := by simpa using h [] (by simp)
  have hlsn : ∀ lsn, Q () (s.writeAll [.setLastWrittenLsnForBlock lsn reln.rnode forknum b]) :=
    fun _ => h _ (by simp [SharedWrite.OnlyBlock])
  simp only [neonWallogPage, logNewpageCopy, Smgr.wp_bind, Smgr.wp_env, Smgr.wp_get, Smgr.wp_ite,
    Smgr.wp_pure, Smgr.wp_writeShared, Smgr.wp_crash, Backend.writeShared_eq, Backend.writeAll_append]
  -- shutdown, no inserts, the logged image, then the three ways to keep the page's own LSN
  refine ite_of_both hs (ite_of_both hs (ite_of_both (h _ ?_)
    (ite_of_both (ite_of_both (hlsn _) (ite_of_both (hlsn _) trivial)) (hlsn _))))
  simp [SharedWrite.OnlyBlock]

theorem neonNblocks_cached {reln : SMgrRelation} {forkNum : ForkNumber} {n : BlockNumber}
    (hp : reln.relpersistence = RELPERSISTENCE_PERMANENT)
    (hn : e.cachedRelsize reln.rnode forkNum = some n) (s : Backend) :
    neonNblocks reln forkNum e s = .done n s := by
  have h0 : RELPERSISTENCE_PERMANENT ≠ Char.ofNat 0 := by decide
  simp [neonNblocks, Smgr.bind, Smgr.env, h0, hp, hn]

/-- What `neon_extend` of block `blkno` from a cached size `n` leaves in `t` from `s`: the gap
loop's writes for blocks `n, ..., blkno - 1`, then writes that log no image of another block
and put `buffer` in the local file cache as block `blkno`, with `blkno + 1` in the relation
size cache at the end. -/
def Extended (e : Env) (reln : SMgrRelation) (forkNum : ForkNumber) (n blkno : BlockNumber)
    (buffer : List UInt8) (s t : Backend) : Prop :=
  ∃ ws, t = s.writeAll
      (gapWrites e reln.rnode forkNum buffer (blkno.toNat - n.toNat) n s.sharedWrites.length ++ ws) ∧
    (∀ k, k ≠ blkno → imagesOf reln.rnode forkNum k ws = []) ∧
    .lfcWrite reln.rnode forkNum blkno buffer ∈ ws ∧
    relsizeAfter e.cachedRelsize
      (gapWrites e reln.rnode forkNum buffer (blkno.toNat - n.toNat) n s.sharedWrites.length ++ ws)
      reln.rnode forkNum = some (blkno + 1)

/-- `neon_extend` of a permanent relation whose size `n` is cached, outside recovery with WAL
open to inserts, logs each block from `n` up to `blkno - 1` as a full-page image of `buffer`,
publishes the record's end as that block's last-written LSN, logs no other image of those
blocks, writes `buffer` to the local file cache as block `blkno`, and leaves `blkno + 1`
cached. -/
theorem neonExtend_gap_wp {reln : SMgrRelation} {forkNum : ForkNumber} {n : BlockNumber}
    (hp : reln.relpersistence = RELPERSISTENCE_PERMANENT)
    (hn : e.cachedRelsize reln.rnode forkNum = some n) (hrec : e.xlog.recoveryInProgress = false)
    (hshut : e.shutdownRequestPending = false) (hins : e.xlogInsertAllowed = true)
    (blkno : BlockNumber) (buffer : List UInt8) (s : Backend) :
    Smgr.wp (neonExtend reln forkNum blkno buffer) e
      (fun _ t => Extended e reln forkNum n blkno buffer s t) (fun _ => True) s := by
  have h0 : reln.relpersistence ≠ Char.ofNat 0 := by rw [hp]; decide
  simp only [neonExtend, Smgr.wp_bind, Smgr.wp_env, Smgr.wp_ite, if_neg h0, if_pos hp]
  split_ifs
  · trivial
  all_goals
    rw [Smgr.wp_of_done (neonNblocks_cached hp hn s),
      Smgr.wp_of_done (extendGap_run hshut hins hrec _ _ _ _ _ _)]
    refine neonWallogPage_wp _ _ _ _ _ fun ws hws => ?_
    simp only [Smgr.wp_writeShared, Smgr.wp_pure, Backend.writeShared_eq, Backend.writeAll_append,
      List.append_assoc]
    refine ⟨_, rfl, fun k hk => ?_, by simp, ?_⟩
    · rw [imagesOf, List.filterMap_append, ← imagesOf, imagesOf_of_onlyBlock hws hk]
      rfl
    · rw [relsizeAfter_append, relsizeAfter_of_onlyBlock _ (gapWrites_onlyBlock _ _ _ _ _ _),
        relsizeAfter_append, relsizeAfter_of_onlyBlock _ fun w hw => ⟨_, hws w hw⟩]
      simp [relsizeAfter, SharedWrite.relsize]

def Env.sized (n : BlockNumber) : Env := { Env.steadyWalsender with cachedRelsize := fun _ _ => some n }

/-- Extending the sample relation of cached size 0 at block 1 with the page `[1]` logs block 0
with the image `[1]`, not a zero page. -/
theorem neonExtend_gap_logs_buffer :
    (∃ t, neonExtend .sample .main 1 [1] (Env.sized 0) (neonInit 4 0) = .done () t ∧
      imagesOf ⟨1, 1, 1⟩ .main 0 t.sharedWrites = [[1]]) ∧
    Smgr.wp (neonExtend .sample .main 1 [1]) (Env.sized 0)
      (fun _ t => Extended (Env.sized 0) .sample .main 0 1 [1] (neonInit 4 0) t) (fun _ => True)
      (neonInit 4 0) :=
  ⟨⟨_, rfl, rfl⟩, neonExtend_gap_wp rfl rfl rfl rfl rfl 1 [1] _⟩

/-! ## `neon_extend` and the ring invariant -/

theorem Kept.writeAll {s t : Backend} (h : Kept s t) (ws : List SharedWrite) :
    Kept s (t.writeAll ws) :=
  ⟨h.sound.congr rfl, fun h' => ⟨(h.wired h').conn, (h.wired h').live⟩⟩

theorem extendGap_wp (reln : SMgrRelation) (forkNum : ForkNumber) (buffer : List UInt8)
    {Q : Unit → Backend → Prop} {R : Backend → Prop} :
    ∀ k n t, (∀ ws, Q () (t.writeAll ws)) → Smgr.wp (extendGap reln forkNum buffer k n) e Q R t
  | 0, _, t, h => by simpa using h []
  | k + 1, n, t, h => by
    simp only [extendGap, Smgr.wp_bind]
    exact neonWallogPage_wp _ _ _ _ _ fun ws _ => extendGap_wp reln forkNum buffer k (n + 1) _
      fun ws' => by rw [Backend.writeAll_append]; exact h _

end PagestoreSmgr
