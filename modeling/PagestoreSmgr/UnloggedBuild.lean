import PagestoreSmgr.Statics
import PagestoreSmgr.Adaptor
import Mathlib.Tactic.SplitIfs

/-!
# Unlogged index builds

`neon_start_unlogged_build`, `neon_finish_unlogged_build_phase_1`,
`neon_end_unlogged_build` and the transaction callback `AtEOXact_neon`, over the
statics `unlogged_build_rel` and `unlogged_build_phase`. A relation is its
`SMgrRelation` entry, one per `rnode`, so the pointer test
`unlogged_build_rel == reln` compares `rnode`s; a call that changes the entry's
`smgr_relpersistence` returns the entry as it leaves it. `smgrnblocks` is `neon_nblocks`:
its cached-size shortcut applies in recovery only.

The statics agree (`Statics.Inv`) in every state unless a build `Assert` has failed
(`Statics.Sane`); the step lemmas say so of each call.
-/

set_option autoImplicit false

namespace PagestoreSmgr

/-- The loop of `neon_end_unlogged_build` that removes the local copy, fork by fork. -/
def removeLocalCopy (rnode : RelFileNode) : List ForkNumber → SmgrM Unit
  | [] => pure ()
  | forknum :: forks => do
    SmgrM.write (.forgetCachedRelsize rnode forknum)
    SmgrM.write (.mdclose rnode forknum)
    SmgrM.write (.mdunlink rnode forknum true)
    removeLocalCopy rnode forks

/-- `neon_start_unlogged_build`. A permanent relation must be empty; it is then made to
look unlogged and created on local disk. Returns the relation as the call leaves it. -/
def neonStartUnloggedBuild (reln : SMgrRelation) : SmgrM SMgrRelation := do
  let b ← SmgrM.get
  if b.unloggedBuildPhase ≠ .notInProgress then SmgrM.throw .alreadyInProgress
  else do
    SmgrM.check (b.unloggedBuildRel = none) .relIsNull
    let p := reln.relpersistence
    if p = Char.ofNat 0 then SmgrM.throw (.smgr (.unknownPersistence "smgr_start_unlogged_build"))
    else if p = RELPERSISTENCE_PERMANENT then do
      let n ← SmgrM.lift (neonNblocks reln .main)
      if n ≠ 0 then SmgrM.throw .indexNotEmpty
      else do
        let reln := { reln with relpersistence := RELPERSISTENCE_UNLOGGED }
        SmgrM.modify fun b => { b with unloggedBuildRel := some reln, unloggedBuildPhase := .phase1 }
        SmgrM.write (.mdcreate reln.rnode .main false)
        pure reln
    else if p = RELPERSISTENCE_TEMP ∨ p = RELPERSISTENCE_UNLOGGED then do
      SmgrM.modify fun b => { b with unloggedBuildRel := some reln, unloggedBuildPhase := .notPermanent }
      pure reln
    else SmgrM.throw (.smgr (.unknownRelpersistence p))

/-- `neon_finish_unlogged_build_phase_1`. -/
def neonFinishUnloggedBuildPhase1 (reln : SMgrRelation) : SmgrM Unit := do
  let b ← SmgrM.get
  SmgrM.check (b.unloggedBuildRel.map SMgrRelation.rnode = some reln.rnode) (.relIs reln.rnode)
  if b.unloggedBuildPhase = .notPermanent then pure ()
  else do
    SmgrM.check (b.unloggedBuildPhase = .phase1) (.phaseIs .phase1)
    SmgrM.check (reln.relpersistence = RELPERSISTENCE_UNLOGGED) (.relpersistenceUnlogged reln.rnode)
    SmgrM.modify fun b => { b with unloggedBuildPhase := .phase2 }

/-- `neon_end_unlogged_build`. A permanent relation is made to look permanent again and its
local copy is removed. Returns the relation as the call leaves it. -/
def neonEndUnloggedBuild (reln : SMgrRelation) : SmgrM SMgrRelation := do
  let b ← SmgrM.get
  SmgrM.check (b.unloggedBuildRel.map SMgrRelation.rnode = some reln.rnode) (.relIs reln.rnode)
  let reln ←
    if b.unloggedBuildPhase ≠ .notPermanent then do
      SmgrM.check (b.unloggedBuildPhase = .phase2) (.phaseIs .phase2)
      SmgrM.check (reln.relpersistence = RELPERSISTENCE_UNLOGGED)
        (.relpersistenceUnlogged reln.rnode)
      let reln := { reln with relpersistence := RELPERSISTENCE_PERMANENT }
      removeLocalCopy reln.rnode allForks
      pure reln
    else pure reln
  SmgrM.modify Statics.reset
  pure reln

/-- `AtEOXact_neon`: an abort forgets a build in progress; a commit or a prepare with one
raises `ERROR` after forgetting it. -/
def atEOXactNeon : XactEvent → SmgrM Unit
  | .abort | .parallelAbort => SmgrM.modify Statics.reset
  | .commit | .parallelCommit | .prepare | .preCommit | .parallelPreCommit | .prePrepare => do
    let b ← SmgrM.get
    if b.unloggedBuildPhase ≠ .notInProgress then do
      SmgrM.modify Statics.reset
      SmgrM.throw .notProperlyFinished
    else pure ()

/-! ## What the statics keep -/

namespace Statics

/-- The statics agree: a relation is recorded exactly while a build is in progress, and it
reads as local, `UNLOGGED`, or `TEMP` for the build of a temporary relation. -/
structure Inv (b : Statics) : Prop where
  idle : b.unloggedBuildRel = none ↔ b.unloggedBuildPhase = .notInProgress
  unlogged : ∀ r, b.unloggedBuildRel = some r → r.relpersistence = RELPERSISTENCE_UNLOGGED ∨
    b.unloggedBuildPhase = .notPermanent ∧ r.relpersistence = RELPERSISTENCE_TEMP

def Sane (b : Statics) : Prop := b.Inv ∨ b.assertFailures ≠ []

variable {b : Statics}

theorem inv_init : init.Inv := ⟨⟨fun _ => rfl, fun _ => rfl⟩, fun _ h => Option.noConfusion h⟩

theorem inv_reset (b : Statics) : b.reset.Inv :=
  ⟨⟨fun _ => rfl, fun _ => rfl⟩, fun _ h => Option.noConfusion h⟩

theorem Inv.of_build {r : SMgrRelation} (hr : b.unloggedBuildRel = some r)
    (hp : b.unloggedBuildPhase ≠ .notInProgress)
    (hu : r.relpersistence = RELPERSISTENCE_UNLOGGED ∨
      b.unloggedBuildPhase = .notPermanent ∧ r.relpersistence = RELPERSISTENCE_TEMP) : b.Inv :=
  ⟨⟨fun h => Option.noConfusion (hr.symm.trans h), fun h => absurd h hp⟩,
    fun _ h => Option.some.inj (hr.symm.trans h) ▸ hu⟩

theorem check_of {c : Prop} [Decidable c] (a : BuildAssertion) (h : c) : b.check c a = b := by
  simp [check, h]

@[simp] theorem check_true (a : BuildAssertion) : b.check True a = b := check_of a trivial

theorem Sane.check {c : Prop} [Decidable c] {a : BuildAssertion} (h : b.Sane) :
    (b.check c a).Sane := by
  by_cases hc : c
  · rwa [check_of a hc]
  · exact .inr (by simp [Statics.check, hc])

theorem Sane.write (h : b.Sane) (w : LocalWrite) : (b.write w).Sane :=
  h.imp (fun hi => ⟨hi.idle, hi.unlogged⟩) id

theorem Sane.finish (h : b.Sane) (reln : SMgrRelation) :
    ({ ((b.check (b.unloggedBuildRel.map SMgrRelation.rnode = some reln.rnode)
          (.relIs reln.rnode)).check (b.unloggedBuildPhase = .phase1) (.phaseIs .phase1)).check
          (reln.relpersistence = RELPERSISTENCE_UNLOGGED) (.relpersistenceUnlogged reln.rnode) with
        unloggedBuildPhase := .phase2 } : Statics).Sane := by
  by_cases hf : (((b.check (b.unloggedBuildRel.map SMgrRelation.rnode = some reln.rnode)
      (.relIs reln.rnode)).check (b.unloggedBuildPhase = .phase1) (.phaseIs .phase1)).check
      (reln.relpersistence = RELPERSISTENCE_UNLOGGED) (.relpersistenceUnlogged reln.rnode)).assertFailures = []
  · simp only [check_assertFailures_eq_nil] at hf
    obtain ⟨-, hp, hr, hb⟩ := hf
    have hi := h.resolve_right fun h => h hb
    obtain ⟨r, hr', -⟩ := Option.map_eq_some'.1 hr
    refine .inl (Inv.of_build (r := r) hr' nofun (.inl ?_))
    exact (hi.unlogged r hr').resolve_right fun h => by rw [hp] at h; exact nomatch h.1
  · exact .inr hf

end Statics

open Statics SmgrM

variable {e : Env} {b : Statics} {s : Backend}

def localCopyWrites (rnode : RelFileNode) (forknum : ForkNumber) : List LocalWrite :=
  [.forgetCachedRelsize rnode forknum, .mdclose rnode forknum, .mdunlink rnode forknum true]

theorem removeLocalCopy_wp {Q : Unit → Statics → Backend → Prop}
    {R : CallError → Statics → Backend → Prop} (rnode : RelFileNode) (forks : List ForkNumber) :
    ∀ b, SmgrM.wp (removeLocalCopy rnode forks) e Q R b s ↔
      Q () { b with writes := b.writes ++ forks.flatMap (localCopyWrites rnode) } s := by
  induction forks with
  | nil => intro b; simp [removeLocalCopy]
  | cons f fs ih =>
    intro b
    simp only [removeLocalCopy, wp_bind, wp_write, ih]
    simp [Statics.write, localCopyWrites]

section Step

variable {P : Backend → Prop}

theorem neonStartUnloggedBuild_step (h : b.Sane) (hs : P s) (reln : SMgrRelation)
    (hn : Smgr.wp (neonNblocks reln .main) e (fun _ => P) P s) :
    SmgrM.wp (neonStartUnloggedBuild reln) e (fun _ b' t => b'.Sane ∧ P t)
      (fun _ b' t => b'.Sane ∧ P t) b s := by
  have h1 := h.check (c := b.unloggedBuildRel = none) (a := .relIsNull)
  simp only [neonStartUnloggedBuild, wp_bind, wp_get, wp_ite, wp_throw, wp_check, wp_pure,
    wp_modify, wp_write]
  split_ifs with hp h0 hperm hloc
  · exact ⟨h, hs⟩
  · exact ⟨h1, hs⟩
  · refine wp_lift (Smgr.wp_conseq hn (fun n t ht => ?_) fun t ht _ => ⟨h1, ht⟩)
    split_ifs
    · exact ⟨h1, ht⟩
    · exact ⟨Sane.write (.inl (Inv.of_build rfl (by simp) (.inl rfl))) _, ht⟩
  · refine ⟨.inl (Inv.of_build rfl (by simp) ?_), hs⟩
    rcases hloc with ht | hu
    · exact .inr ⟨rfl, ht⟩
    · exact .inl hu
  · exact ⟨h1, hs⟩

theorem neonFinishUnloggedBuildPhase1_step (h : b.Sane) (reln : SMgrRelation) :
    SmgrM.wp (neonFinishUnloggedBuildPhase1 reln) e (fun _ b' t => b'.Sane ∧ t = s)
      (fun _ b' t => b'.Sane ∧ t = s) b s := by
  simp only [neonFinishUnloggedBuildPhase1, wp_bind, wp_get, wp_check, wp_ite, wp_pure, wp_modify]
  split_ifs
  · exact ⟨h.check, trivial⟩
  · exact ⟨h.finish reln, trivial⟩

theorem neonEndUnloggedBuild_step (reln : SMgrRelation) :
    SmgrM.wp (neonEndUnloggedBuild reln) e (fun _ b' t => b'.Sane ∧ t = s)
      (fun _ b' t => b'.Sane ∧ t = s) b s := by
  simp only [neonEndUnloggedBuild, wp_bind, wp_get, wp_check, wp_ite, wp_pure, wp_modify,
    removeLocalCopy_wp]
  split_ifs <;> exact ⟨.inl (inv_reset _), trivial⟩

theorem atEOXactNeon_step (h : b.Sane) (event : XactEvent) :
    SmgrM.wp (atEOXactNeon event) e (fun _ b' t => b'.Sane ∧ t = s)
      (fun _ b' t => b'.Sane ∧ t = s) b s := by
  cases event <;> simp only [atEOXactNeon, wp_bind, wp_get, wp_ite, wp_modify, wp_throw, wp_pure]
  all_goals first | exact ⟨.inl (inv_reset _), trivial⟩ |
    (split_ifs; exact ⟨.inl (inv_reset _), trivial⟩; exact ⟨h, trivial⟩)

end Step

end PagestoreSmgr
