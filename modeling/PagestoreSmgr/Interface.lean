import PagestoreSmgr.UnloggedBuild
import PagestoreSmgr.Operations
import PagestoreSmgr.SharedState

/-!
# The storage-manager interface

The remaining callbacks of `neon_smgr`: `neon_create`, `neon_unlink`, `neon_write`,
`neon_truncate`, `neon_writeback`, `neon_immedsync`, `neon_open` and `neon_close`. Each
dispatches on `smgr_relpersistence` as the source does: a local relation goes to `md.c`,
and a permanent one to the relation-size cache, the last-written LSN service and the WAL.
A run through the whole interface interleaves them with the adaptor's operations,
`neon_extend`, the build calls and transaction ends (`SmgrReachable`).
-/

set_option autoImplicit false

namespace PagestoreSmgr

open Statics SmgrM

/-- `RelFileNodeBackend`: a relation and the backend whose temporary relation it is. -/
structure RelFileNodeBackend where
  node : RelFileNode
  backend : Int
  deriving DecidableEq, Repr

/-- `InvalidBackendId`. -/
def InvalidBackendId : Int := -1

/-- `RelFileNodeBackendIsTemp`. -/
def RelFileNodeBackend.isTemp (rnode : RelFileNodeBackend) : Bool := rnode.backend ≠ InvalidBackendId

/-- `neon_open`. -/
def neonOpen (reln : SMgrRelation) : SmgrM Unit := SmgrM.write (.mdopen reln.rnode)

/-- `neon_close`. -/
def neonClose (reln : SMgrRelation) (forknum : ForkNumber) : SmgrM Unit :=
  SmgrM.write (.mdclose reln.rnode forknum)

/-- `neon_create`. A new permanent fork is empty, and the relation-size cache says so. -/
def neonCreate (reln : SMgrRelation) (forkNum : ForkNumber) (isRedo : Bool) : SmgrM Unit :=
  let p := reln.relpersistence
  if p = Char.ofNat 0 then SmgrM.throw (.smgr (.unknownPersistence "smgrcreate"))
  else if p = RELPERSISTENCE_PERMANENT then
    if isRedo then SmgrM.lift (Smgr.writeShared (.updateCachedRelsize reln.rnode forkNum 0))
    else SmgrM.lift (Smgr.writeShared (.setCachedRelsize reln.rnode forkNum 0))
  else if p = RELPERSISTENCE_TEMP ∨ p = RELPERSISTENCE_UNLOGGED then
    SmgrM.write (.mdcreate reln.rnode forkNum isRedo)
  else SmgrM.throw (.smgr (.unknownRelpersistence p))

/-- `neon_unlink`. -/
def neonUnlink (rnode : RelFileNodeBackend) (forkNum : ForkNumber) (isRedo : Bool) : SmgrM Unit := do
  SmgrM.write (.mdunlink rnode.node forkNum isRedo)
  if !rnode.isTemp then SmgrM.write (.forgetCachedRelsize rnode.node forkNum) else pure ()

/-- `neon_write`. With unknown persistence the page goes to local disk if `md.c` has the
fork, and is otherwise taken for a permanent relation's. -/
def neonWrite (reln : SMgrRelation) (forknum : ForkNumber) (blocknum : BlockNumber)
    (buffer : List UInt8) : SmgrM Unit := do
  let e ← SmgrM.env
  let p := reln.relpersistence
  if p = Char.ofNat 0 ∧ e.mdexists reln.rnode forknum then
    SmgrM.write (.mdwrite reln.rnode forknum blocknum buffer)
  else if p = Char.ofNat 0 ∨ p = RELPERSISTENCE_PERMANENT then
    SmgrM.lift do
      neonWallogPage reln forknum blocknum buffer false
      Smgr.writeShared (.lfcWrite reln.rnode forknum blocknum buffer)
  else if p = RELPERSISTENCE_TEMP ∨ p = RELPERSISTENCE_UNLOGGED then
    SmgrM.write (.mdwrite reln.rnode forknum blocknum buffer)
  else SmgrM.throw (.smgr (.unknownRelpersistence p))

/-- `neon_truncate`. A permanent fork's new size goes to the relation-size cache, and the
latest inserted WAL position, flushed, becomes the relation's last-written LSN. -/
def neonTruncate (reln : SMgrRelation) (forknum : ForkNumber) (nblocks : BlockNumber) :
    SmgrM Unit :=
  let p := reln.relpersistence
  if p = Char.ofNat 0 then SmgrM.throw (.smgr (.unknownPersistence "smgrtruncate"))
  else if p = RELPERSISTENCE_PERMANENT then
    SmgrM.lift do
      let e ← Smgr.env
      Smgr.writeShared (.setCachedRelsize reln.rnode forknum nblocks)
      let lsn := nmAdjustLsn e.xlog e.xlogInsertRecPtr
      Smgr.writeShared (.xlogFlush lsn)
      Smgr.writeShared (.setLastWrittenLsnForRelation lsn reln.rnode forknum)
  else if p = RELPERSISTENCE_TEMP ∨ p = RELPERSISTENCE_UNLOGGED then
    SmgrM.write (.mdtruncate reln.rnode forknum nblocks)
  else SmgrM.throw (.smgr (.unknownRelpersistence p))

/-- `neon_writeback`: a no-op for a permanent relation. -/
def neonWriteback (reln : SMgrRelation) (forknum : ForkNumber) (blocknum nblocks : BlockNumber) :
    SmgrM Unit :=
  let p := reln.relpersistence
  if p = Char.ofNat 0 then SmgrM.write (.mdwriteback reln.rnode forknum blocknum nblocks)
  else if p = RELPERSISTENCE_PERMANENT then pure ()
  else if p = RELPERSISTENCE_TEMP ∨ p = RELPERSISTENCE_UNLOGGED then
    SmgrM.write (.mdwriteback reln.rnode forknum blocknum nblocks)
  else SmgrM.throw (.smgr (.unknownRelpersistence p))

/-- `neon_immedsync`: a no-op for a permanent relation. -/
def neonImmedsync (reln : SMgrRelation) (forknum : ForkNumber) : SmgrM Unit :=
  let p := reln.relpersistence
  if p = Char.ofNat 0 then SmgrM.throw (.smgr (.unknownPersistence "smgrimmedsync"))
  else if p = RELPERSISTENCE_PERMANENT then pure ()
  else if p = RELPERSISTENCE_TEMP ∨ p = RELPERSISTENCE_UNLOGGED then
    SmgrM.write (.mdimmedsync reln.rnode forknum)
  else SmgrM.throw (.smgr (.unknownRelpersistence p))

/-! ## What the callbacks keep -/

variable {e : Env} {b : Statics} {s : Backend}

section Keeps

variable {P : Backend → Prop}

theorem neonExtend_keeps (hs : P s) (hw : ∀ t ws, P t → P (t.writeAll ws))
    (reln : SMgrRelation) (forkNum : ForkNumber)
    (hn : Smgr.wp (neonNblocks reln forkNum) e (fun _ => P) P s) (blkno : BlockNumber)
    (buffer : List UInt8) :
    Smgr.wp (neonExtend reln forkNum blkno buffer) e (fun _ => P) P s := by
  simp only [neonExtend, Smgr.wp_bind, Smgr.wp_env, Smgr.wp_ite, Smgr.wp_raise,
    Smgr.wp_writeShared, Smgr.wp_pure, Backend.writeShared_eq]
  split_ifs
  any_goals exact hs
  any_goals exact hw _ _ hs
  all_goals
    refine Smgr.wp_mono hn fun n t ht => ?_
    refine extendGap_wp _ _ _ _ _ _ fun ws => neonWallogPage_wp _ _ _ _ _ fun ws' _ => ?_
    simp only [Backend.writeShared_eq, Backend.writeAll_append]
    exact hw _ _ ht

theorem wp_lift_keeps {α : Type} {x : Smgr α} (h : b.Sane) (hx : Smgr.wp x e (fun _ => P) P s) :
    SmgrM.wp (SmgrM.lift x) e (fun _ b' t => b'.Sane ∧ P t) (fun _ b' t => b'.Sane ∧ P t) b s :=
  wp_lift (Smgr.wp_conseq hx (fun _ _ ht => ⟨h, ht⟩) fun _ ht _ => ⟨h, ht⟩)

end Keeps

/-! ## Runs through the storage manager -/

/-- A call a backend makes through the storage manager: one of the callbacks of
`neon_smgr`, a transaction end, or one of the adaptor's operations. A relation is passed as
the caller holds it. -/
inductive SmgrCall where
  | openRel (reln : SMgrRelation)
  | closeRel (reln : SMgrRelation) (forknum : ForkNumber)
  | create (reln : SMgrRelation) (forkNum : ForkNumber) (isRedo : Bool)
  | unlink (rnode : RelFileNodeBackend) (forkNum : ForkNumber) (isRedo : Bool)
  | extend (reln : SMgrRelation) (forkNum : ForkNumber) (blkno : BlockNumber)
      (buffer : List UInt8)
  | write (reln : SMgrRelation) (forknum : ForkNumber) (blocknum : BlockNumber)
      (buffer : List UInt8)
  | writeback (reln : SMgrRelation) (forknum : ForkNumber) (blocknum nblocks : BlockNumber)
  | truncate (reln : SMgrRelation) (forknum : ForkNumber) (nblocks : BlockNumber)
  | immedsync (reln : SMgrRelation) (forknum : ForkNumber)
  | startUnloggedBuild (reln : SMgrRelation)
  | finishUnloggedBuildPhase1 (reln : SMgrRelation)
  | endUnloggedBuild (reln : SMgrRelation)
  | xactEnd (event : XactEvent)
  | adaptor (op : Op)

def SmgrCall.run : SmgrCall → SmgrM Unit
  | .openRel reln => neonOpen reln
  | .closeRel reln forknum => neonClose reln forknum
  | .create reln forkNum isRedo => neonCreate reln forkNum isRedo
  | .unlink rnode forkNum isRedo => neonUnlink rnode forkNum isRedo
  | .extend reln forkNum blkno buffer => SmgrM.lift (neonExtend reln forkNum blkno buffer)
  | .write reln forknum blocknum buffer => neonWrite reln forknum blocknum buffer
  | .writeback reln forknum blocknum nblocks => neonWriteback reln forknum blocknum nblocks
  | .truncate reln forknum nblocks => neonTruncate reln forknum nblocks
  | .immedsync reln forknum => neonImmedsync reln forknum
  | .startUnloggedBuild reln => do let _ ← neonStartUnloggedBuild reln; pure ()
  | .finishUnloggedBuildPhase1 reln => neonFinishUnloggedBuildPhase1 reln
  | .endUnloggedBuild reln => do let _ ← neonEndUnloggedBuild reln; pure ()
  | .xactEnd event => atEOXactNeon event
  | .adaptor op => SmgrM.lift op.run

def SmgrCall.Admits (O : Op → Prop) : SmgrCall → Prop
  | .adaptor op => O op
  | _ => True

/-- The states a backend can be in between calls: after `neon_init`, with no build, and
after each call, run in an environment of `E`, that returns or raises `ERROR`. -/
inductive SmgrReachable (E : Env → Prop) (O : Op → Prop) : Statics → Backend → Prop
  | init (cap flush : Nat) : 0 < cap → SmgrReachable E O .init (neonInit cap flush)
  | step {b b' : Statics} {s s' : Backend} {op : SmgrCall} {e : Env}
      {r : Except CallError Unit} :
      SmgrReachable E O b s → op.Admits O → E e → op.run b e s = .done (r, b') s' →
      SmgrReachable E O b' s'

theorem SmgrCall.run_step {O : Op → Prop} {P : Backend → Prop} (h : b.Sane) (hs : P s)
    (hw : ∀ t ws, P t → P (t.writeAll ws))
    (hn : ∀ reln forknum, Smgr.wp (neonNblocks reln forknum) e (fun _ => P) P s)
    (op : SmgrCall) (hop : op.Admits O) (ho : ∀ o, O o → Smgr.wp o.run e (fun _ => P) P s) :
    SmgrM.wp op.run e (fun _ b' t => b'.Sane ∧ P t) (fun _ b' t => b'.Sane ∧ P t) b s := by
  have frame : ∀ {α : Type} {x : SmgrM α}, SmgrM.wp x e (fun _ b' t => b'.Sane ∧ t = s)
      (fun _ b' t => b'.Sane ∧ t = s) b s →
      SmgrM.wp x e (fun _ b' t => b'.Sane ∧ P t) (fun _ b' t => b'.Sane ∧ P t) b s :=
    fun hx => wp_conseq hx (fun _ _ _ ⟨h', ht⟩ => ⟨h', ht ▸ hs⟩) fun _ _ _ ⟨h', ht⟩ => ⟨h', ht ▸ hs⟩
  cases op with
  | openRel reln => exact ⟨h.write _, hs⟩
  | closeRel reln forknum => exact ⟨h.write _, hs⟩
  | create reln forkNum isRedo =>
    simp only [SmgrCall.run, neonCreate, wp_ite, wp_throw, wp_write]
    split_ifs
    all_goals first | exact ⟨h, hs⟩ | exact ⟨h.write _, hs⟩ | exact wp_lift_keeps h (hw _ [_] hs)
  | unlink rnode forkNum isRedo =>
    simp only [SmgrCall.run, neonUnlink, wp_bind, wp_write, wp_ite, wp_pure]
    split_ifs
    · exact ⟨(h.write _).write _, hs⟩
    · exact ⟨h.write _, hs⟩
  | extend reln forkNum blkno buffer =>
    exact wp_lift_keeps h (neonExtend_keeps hs hw _ _ (hn _ _) _ _)
  | write reln forknum blocknum buffer =>
    simp only [SmgrCall.run, neonWrite, wp_bind, wp_env, wp_ite, wp_throw, wp_write]
    split_ifs
    all_goals first | exact ⟨h, hs⟩ | exact ⟨h.write _, hs⟩ | refine wp_lift_keeps h ?_
    simp only [Smgr.wp_bind, Smgr.wp_writeShared]
    exact neonWallogPage_wp _ _ _ _ _ fun ws _ => by
      rw [Backend.writeShared_eq, Backend.writeAll_append]; exact hw _ _ hs
  | writeback reln forknum blocknum nblocks =>
    simp only [SmgrCall.run, neonWriteback, wp_ite, wp_throw, wp_write, wp_pure]
    split_ifs <;> first | exact ⟨h, hs⟩ | exact ⟨h.write _, hs⟩
  | truncate reln forknum nblocks =>
    simp only [SmgrCall.run, neonTruncate, wp_ite, wp_throw, wp_write]
    split_ifs
    all_goals first | exact ⟨h, hs⟩ | exact ⟨h.write _, hs⟩ | refine wp_lift_keeps h ?_
    simp only [Smgr.wp_bind, Smgr.wp_env, Smgr.wp_writeShared, Backend.writeShared_eq,
      Backend.writeAll_append]
    exact hw _ _ hs
  | immedsync reln forknum =>
    simp only [SmgrCall.run, neonImmedsync, wp_ite, wp_throw, wp_write, wp_pure]
    split_ifs <;> first | exact ⟨h, hs⟩ | exact ⟨h.write _, hs⟩
  | startUnloggedBuild reln =>
    simp only [SmgrCall.run, wp_bind, wp_pure]
    exact neonStartUnloggedBuild_step h hs reln (hn reln .main)
  | finishUnloggedBuildPhase1 reln => exact frame (neonFinishUnloggedBuildPhase1_step h reln)
  | endUnloggedBuild reln =>
    simp only [SmgrCall.run, wp_bind, wp_pure]
    exact frame (neonEndUnloggedBuild_step reln)
  | xactEnd event => exact frame (atEOXactNeon_step h event)
  | adaptor o => exact wp_lift_keeps h (ho o hop)

theorem SmgrReachable.sane {E : Env → Prop} {O : Op → Prop} (h : SmgrReachable E O b s) :
    b.Sane := by
  induction h with
  | init => exact .inl inv_init
  | step _ hop _ hrun ih =>
    have htrue : ∀ {α : Type} (x : Smgr α) (e : Env) (s : Backend),
        Smgr.wp x e (fun _ _ => True) (fun _ => True) s :=
      fun _ _ _ => Smgr.wp_of_forall (fun _ _ => trivial) fun _ => trivial
    exact (wp_done hrun (SmgrCall.run_step (P := fun _ => True) ih trivial (fun _ _ _ => trivial)
      (fun _ _ => htrue _ _ _) _ hop fun _ _ => htrue _ _ _)).1

/-- The ring invariant, with zeroed `UNUSED` cells and a connection that carries exactly
the requests in flight, holds in every state reached through the whole storage-manager
interface: every callback of `neon_smgr` and the adaptor's operations but a resize,
interleaved with unlogged-build calls and transaction ends, each returning or raising
`ERROR`, under a transport whose failed `flush` and `receive` run the disconnect hook. -/
theorem smgrReachable_sound {b : Statics} {s : Backend}
    (h : SmgrReachable Env.DisconnectsOnFailure (fun op => ¬ op.IsResize) b s) :
    Sound s ∧ s.Wired [] := by
  induction h with
  | init cap flush hcap => exact ⟨sound_neonInit cap flush hcap, wired_neonInit cap flush⟩
  | step hb hop he hrun ih =>
    have hk := (wp_done hrun (SmgrCall.run_step (P := Kept _) hb.sane (Kept.refl ih.1)
      (fun _ ws ht => ht.writeAll ws) (fun _ _ => neonNblocks_wp he ih.1 _ _) _ hop
      fun o ho => Op.run_wp he ih.1 o ho)).2
    exact ⟨hk.sound, hk.wired ih.2⟩

theorem smgrReachable_sound_prefetched :
    ∃ b s t, (SmgrCall.adaptor (.prefetch .sample .main 0)).run .init .steadyWalsender
        (neonInit 4 0) = .done (.ok (), .init) s ∧
      (SmgrCall.startUnloggedBuild .sample).run .init .steadyWalsender s =
        .done (.error .indexNotEmpty, b) t ∧
      Sound t ∧ t.Wired [] :=
  ⟨_, _, _, rfl, rfl, smgrReachable_sound (.step (.step (.init 4 0 (by decide))
    (by simp [SmgrCall.Admits, Op.IsResize]) Env.steadyWalsender_disconnectsOnFailure
      (show (SmgrCall.adaptor (.prefetch .sample .main 0)).run _ _ _ = _ from rfl))
    (by exact trivial) Env.steadyWalsender_disconnectsOnFailure
      (show (SmgrCall.startUnloggedBuild .sample).run _ _ _ = _ from rfl))⟩

/-- Every call on the relation `r` is served by local disk: reads, sizes, existence tests
and prefetches return `md.c`'s answer and leave the backend as it was; an extension is one
`mdextend`, and a write, a truncation or a creation one call to `md.c`. No page-server
request, no WAL record, no relation-size cache entry. -/
def ServedLocally (r : SMgrRelation) : Prop :=
  ∀ (e : Env) (b : Statics) (t : Backend) (forknum : ForkNumber) (blkno nblocks : BlockNumber)
    (buffer : List UInt8) (isRedo : Bool),
    neonRead r forknum blkno e t = .done (e.mdread ⟨r.rnode, forknum, blkno⟩) t ∧
    neonNblocks r forknum e t = .done (e.mdnblocks r.rnode forknum) t ∧
    neonExists r forknum e t = .done (e.mdexists r.rnode forknum) t ∧
    neonPrefetch r forknum blkno e t = .done (e.mdprefetch ⟨r.rnode, forknum, blkno⟩) t ∧
    neonExtend r forknum blkno buffer e t =
      .done () (t.writeShared (.mdextend r.rnode forknum blkno buffer)) ∧
    neonWrite r forknum blkno buffer b e t =
      .done (.ok (), b.write (.mdwrite r.rnode forknum blkno buffer)) t ∧
    neonTruncate r forknum nblocks b e t =
      .done (.ok (), b.write (.mdtruncate r.rnode forknum nblocks)) t ∧
    neonCreate r forknum isRedo b e t = .done (.ok (), b.write (.mdcreate r.rnode forknum isRedo)) t

theorem servedLocally_of_local {r : SMgrRelation}
    (hr : r.relpersistence = RELPERSISTENCE_UNLOGGED ∨ r.relpersistence = RELPERSISTENCE_TEMP) :
    ServedLocally r := by
  obtain ⟨rnode, p⟩ := r
  intro e b t forknum blkno nblocks buffer isRedo
  simp only at hr
  rcases hr with rfl | rfl <;> exact ⟨rfl, rfl, rfl, rfl, rfl, rfl, rfl, rfl⟩

/-- In every reachable state whose build `Assert`s all held, a relation is recorded exactly
while a build is in progress, and the relation recorded is served by local disk. -/
theorem unloggedBuild_stays_local {E : Env → Prop} {O : Op → Prop} {b : Statics}
    {s : Backend} (h : SmgrReachable E O b s) (ha : b.assertFailures = []) :
    (b.unloggedBuildRel = none ↔ b.unloggedBuildPhase = .notInProgress) ∧
      ∀ r, b.unloggedBuildRel = some r → ServedLocally r := by
  have hi := h.sane.resolve_right fun h => h ha
  exact ⟨hi.idle, fun r hr => servedLocally_of_local ((hi.unlogged r hr).imp_right And.right)⟩

theorem unloggedBuild_stays_local_started :
    ∃ b s, (SmgrCall.startUnloggedBuild .sample).run .init
        (.steady (fun _ => .nblocksResponse 0) .walsender) (neonInit 4 0) = .done (.ok (), b) s ∧
      b.unloggedBuildRel = some ⟨⟨1, 1, 1⟩, RELPERSISTENCE_UNLOGGED⟩ ∧ b.assertFailures = [] ∧
      (b.unloggedBuildRel = none ↔ b.unloggedBuildPhase = .notInProgress) ∧
      ∀ r, b.unloggedBuildRel = some r → ServedLocally r :=
  ⟨_, _, rfl, rfl, rfl, unloggedBuild_stays_local (E := fun _ => True) (O := fun _ => True)
    (.step (.init 4 0 (by decide)) (by exact trivial) trivial
      (show (SmgrCall.startUnloggedBuild .sample).run _
        (.steady (fun _ => .nblocksResponse 0) .walsender) _ = _ from rfl)) rfl⟩

end PagestoreSmgr
