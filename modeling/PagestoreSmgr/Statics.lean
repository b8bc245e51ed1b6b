import PagestoreSmgr.Transport

/-!
# The callbacks' statics and their monad

Besides `MyPState`, `pagestore_smgr.c` keeps the statics `unlogged_build_rel` and
`unlogged_build_phase`, and its callbacks call `md.c` for local relations. A callback is
an `SmgrM` computation: it runs on the backend as the adaptor's calls do, and it reads and
writes the statics, which also hold two ghost records: the `Assert`s of the build calls
found false, and the calls to `md.c` and `forget_cached_relsize`, in order. An `ERROR`
leaves the statics as the callback had set them, and an adaptor call's `ERROR` inside it
becomes the callback's.
-/

set_option autoImplicit false

namespace PagestoreSmgr

inductive UnloggedBuildPhase where
  | notInProgress
  | phase1
  | phase2
  | notPermanent
  deriving DecidableEq, Repr

/-- The `Assert`s of the build calls. -/
inductive BuildAssertion where
  /-- `Assert(unlogged_build_rel == NULL)` -/
  | relIsNull
  /-- `Assert(unlogged_build_rel == reln)` -/
  | relIs (rnode : RelFileNode)
  /-- `Assert(unlogged_build_phase == phase)` -/
  | phaseIs (phase : UnloggedBuildPhase)
  /-- `Assert(reln->smgr_relpersistence == RELPERSISTENCE_UNLOGGED)` -/
  | relpersistenceUnlogged (rnode : RelFileNode)
  deriving DecidableEq, Repr

/-- The callbacks' calls to `md.c`, on local relations, and to `forget_cached_relsize`. -/
inductive LocalWrite where
  | mdopen (rnode : RelFileNode)
  | mdclose (rnode : RelFileNode) (forknum : ForkNumber)
  | mdcreate (rnode : RelFileNode) (forknum : ForkNumber) (isRedo : Bool)
  | mdunlink (rnode : RelFileNode) (forknum : ForkNumber) (isRedo : Bool)
  | mdwrite (rnode : RelFileNode) (forknum : ForkNumber) (blocknum : BlockNumber)
      (buffer : List UInt8)
  | mdtruncate (rnode : RelFileNode) (forknum : ForkNumber) (nblocks : BlockNumber)
  | mdwriteback (rnode : RelFileNode) (forknum : ForkNumber) (blocknum nblocks : BlockNumber)
  | mdimmedsync (rnode : RelFileNode) (forknum : ForkNumber)
  | forgetCachedRelsize (rnode : RelFileNode) (forknum : ForkNumber)
  deriving DecidableEq, Repr

/-- The callbacks' `ERROR` exits: the adaptor's, for the calls they make and the messages
they share with it, and the build calls' own. -/
inductive CallError where
  | smgr (err : SmgrError)
  /-- "unlogged relation build is already in progress" -/
  | alreadyInProgress
  /-- "cannot perform unlogged index build, index is not empty " -/
  | indexNotEmpty
  /-- "unlogged index build was not properly finished" -/
  | notProperlyFinished
  deriving DecidableEq, Repr

/-- The events `AtEOXact_neon` is registered for: the cases of its switch. -/
inductive XactEvent where
  | commit
  | parallelCommit
  | abort
  | parallelAbort
  | prepare
  | preCommit
  | parallelPreCommit
  | prePrepare
  deriving DecidableEq, Repr

/-- The statics, with the ghost records of the build `Assert`s found false and of the local
writes. -/
structure Statics where
  unloggedBuildRel : Option SMgrRelation
  unloggedBuildPhase : UnloggedBuildPhase
  assertFailures : List BuildAssertion
  writes : List LocalWrite
  deriving DecidableEq, Repr

def allForks : List ForkNumber := [.main, .fsm, .visibilitymap, .init]

namespace Statics

variable (b : Statics)

def init : Statics := ⟨none, .notInProgress, [], []⟩

/-- `unlogged_build_rel = NULL; unlogged_build_phase = UNLOGGED_BUILD_NOT_IN_PROGRESS;` -/
@[simps]
def reset : Statics := { b with unloggedBuildRel := none, unloggedBuildPhase := .notInProgress }

@[simps unloggedBuildRel unloggedBuildPhase writes]
def check (c : Prop) [Decidable c] (a : BuildAssertion) : Statics :=
  { b with assertFailures := if c then b.assertFailures else b.assertFailures ++ [a] }

@[simps unloggedBuildRel unloggedBuildPhase assertFailures]
def write (w : LocalWrite) : Statics := { b with writes := b.writes ++ [w] }

theorem check_assertFailures_eq_nil {c : Prop} [Decidable c] (a : BuildAssertion) :
    (b.check c a).assertFailures = [] ↔ c ∧ b.assertFailures = [] := by
  by_cases h : c <;> simp [check, h]

end Statics

/-- A callback, from the statics it starts with to its result and the statics it leaves, as
a call on the backend. -/
def SmgrM (α : Type) : Type := Statics → Smgr (Except CallError α × Statics)

namespace SmgrM

variable {α β : Type}

def bind (x : SmgrM α) (f : α → SmgrM β) : SmgrM β := fun b =>
  Smgr.bind (x b) fun
    | (.ok a, b') => f a b'
    | (.error err, b') => pure (.error err, b')

instance : Monad SmgrM where
  pure a := fun b => pure (.ok a, b)
  bind := bind

def get : SmgrM Statics := fun b => pure (.ok b, b)

def modify (f : Statics → Statics) : SmgrM Unit := fun b => pure (.ok (), f b)

def throw (err : CallError) : SmgrM α := fun b => pure (.error err, b)

def env : SmgrM Env := fun b e s => .done (.ok e, b) s

def check (c : Prop) [Decidable c] (a : BuildAssertion) : SmgrM Unit := modify (·.check c a)

def write (w : LocalWrite) : SmgrM Unit := modify (·.write w)

def lift (x : Smgr α) : SmgrM α := fun b e s =>
  match x e s with
  | .done a t => .done (.ok a, b) t
  | .raise err t => .done (.error (.smgr err), b) t
  | .crash c t => .crash c t
  | .blocked => .blocked
  | .outOfFuel => .outOfFuel

/-- The weakest precondition of a callback, `Q` on return and `R` on `ERROR`; as for the
adaptor's calls, a crash, a block or running out of fuel meets every post-condition. -/
def wp (x : SmgrM α) (e : Env) (Q : α → Statics → Backend → Prop)
    (R : CallError → Statics → Backend → Prop) (b : Statics) (s : Backend) : Prop :=
  Smgr.wp (x b) e (fun r t => match r with
    | (.ok a, b') => Q a b' t
    | (.error err, b') => R err b' t) (fun _ => False) s

variable {x : SmgrM α} {f : α → SmgrM β} {e : Env} {b : Statics} {s : Backend}
  {Q Q' : α → Statics → Backend → Prop} {R R' : CallError → Statics → Backend → Prop}

@[simp] theorem wp_pure (a : α) : wp (pure a) e Q R b s ↔ Q a b s := Iff.rfl

@[simp] theorem wp_bind {Q : β → Statics → Backend → Prop} :
    wp (x >>= f) e Q R b s ↔ wp x e (fun a b' t => wp (f a) e Q R b' t) R b s := by
  show Smgr.wp (Smgr.bind (x b) _) e _ _ s ↔ _
  unfold wp Smgr.wp Smgr.bind
  cases x b e s with
  | done r t => obtain ⟨_ | _, _⟩ := r <;> rfl
  | _ => rfl

@[simp] theorem wp_env {Q : Env → Statics → Backend → Prop} : wp env e Q R b s ↔ Q e b s :=
  Iff.rfl

@[simp] theorem wp_get {Q : Statics → Statics → Backend → Prop} :
    wp get e Q R b s ↔ Q b b s := Iff.rfl

@[simp] theorem wp_modify {Q : Unit → Statics → Backend → Prop} (g : Statics → Statics) :
    wp (modify g) e Q R b s ↔ Q () (g b) s := Iff.rfl

@[simp] theorem wp_check {Q : Unit → Statics → Backend → Prop} {c : Prop} [Decidable c]
    (a : BuildAssertion) : wp (check c a) e Q R b s ↔ Q () (b.check c a) s := Iff.rfl

@[simp] theorem wp_write {Q : Unit → Statics → Backend → Prop} (w : LocalWrite) :
    wp (write w) e Q R b s ↔ Q () (b.write w) s := Iff.rfl

@[simp] theorem wp_throw (err : CallError) : wp (throw err) e Q R b s ↔ R err b s := Iff.rfl

@[simp] theorem wp_ite {c : Prop} [Decidable c] (x y : SmgrM α) :
    wp (if c then x else y) e Q R b s ↔ if c then wp x e Q R b s else wp y e Q R b s := by
  split <;> rfl

theorem wp_lift {x : Smgr α}
    (h : Smgr.wp x e (fun a t => Q a b t) (fun t => ∀ err, R (.smgr err) b t) s) :
    wp (lift x) e Q R b s := by
  revert h
  unfold wp lift Smgr.wp
  dsimp only
  cases x e s with
  | raise err t => exact fun h => h err
  | _ => exact id

theorem wp_done {P : Statics → Backend → Prop} {r : Except CallError α}
    {b' : Statics} {s' : Backend} (hrun : x b e s = .done (r, b') s')
    (h : wp x e (fun _ => P) (fun _ => P) b s) : P b' s' := by
  unfold wp Smgr.wp at h
  rw [hrun] at h
  cases r <;> exact h

theorem wp_conseq (h : wp x e Q R b s) (hq : ∀ a b' t, Q a b' t → Q' a b' t)
    (hr : ∀ err b' t, R err b' t → R' err b' t) : wp x e Q' R' b s :=
  Smgr.wp_mono h fun r t => by
    obtain ⟨_ | _, _⟩ := r
    · exact hr _ _ _
    · exact hq _ _ _

end SmgrM

theorem Smgr.wp_of_forall {α : Type} {x : Smgr α} {e : Env} {s : Backend}
    {Q : α → Backend → Prop} {R : Backend → Prop} (hq : ∀ a t, Q a t) (hr : ∀ t, R t) :
    Smgr.wp x e Q R s := by
  unfold Smgr.wp
  split
  · exact hq _ _
  · exact hr _
  · trivial

end PagestoreSmgr
