import PagestoreSmgr.Adaptor
import Mathlib.Tactic.SplitIfs

/-!
# Invariants a computation keeps

`Keeps P x`: from a state where `P` holds, `x` leaves one where it holds, on return and on
`ERROR`, in every environment. A function keeps `P` when each step of its `do` block does, so
the rules below follow the primitives of `Smgr`; a rule for a primitive that updates the state
asks `P` to be closed under that update.
-/

set_option autoImplicit false

namespace PagestoreSmgr

/-- `x` keeps `P`. Irreducible, so that the rules below apply by the shape of the computation
alone. -/
@[irreducible] def Smgr.Keeps {α : Type} (P : Env → Backend → Prop) (x : Smgr α) : Prop :=
  ∀ e s, P e s → Smgr.wp x e (fun _ t => P e t) (P e) s

namespace Smgr.Keeps

variable {P : Env → Backend → Prop} {α β : Type} {x y : Smgr α} {f : α → Smgr β}

theorem intro (h : ∀ e s, P e s → Smgr.wp x e (fun _ t => P e t) (P e) s) : Keeps P x := by
  unfold Keeps; exact h

theorem wp (h : Keeps P x) {e : Env} {s : Backend} (hs : P e s) :
    Smgr.wp x e (fun _ t => P e t) (P e) s := by
  unfold Keeps at h; exact h e s hs

theorem pure (a : α) : Keeps P (Pure.pure a : Smgr α) := .intro fun _ _ h => h

theorem bind (hx : Keeps P x) (hf : ∀ a, Keeps P (f a)) : Keeps P (x >>= f) :=
  .intro fun _ _ h => Smgr.wp_bind.2 (Smgr.wp_mono (hx.wp h) fun a _ ht => (hf a).wp ht)

theorem get : Keeps P Smgr.get := .intro fun _ _ h => h

theorem env : Keeps P Smgr.env := .intro fun _ _ h => h

theorem modify {g : Backend → Backend} (hg : ∀ {e s}, P e s → P e (g s)) :
    Keeps P (Smgr.modify g) := .intro fun _ _ h => hg h

theorem modifyGet {g : Backend → Backend × α} (hg : ∀ {e s}, P e s → P e (g s).1) :
    Keeps P (Smgr.modifyGet g) := .intro fun _ _ h => hg h

theorem writeShared {w : SharedWrite} (hw : ∀ {e s}, P e s → P e (s.writeShared w)) :
    Keeps P (Smgr.writeShared w) := .intro fun _ _ h => hw h

theorem getPrfSlot {k : Nat} (hk : ∀ {e s}, P e s → P e (s.assertSlot k)) :
    Keeps P (PagestoreSmgr.getPrfSlot k) := .intro fun _ _ h => hk h

theorem raise (err : SmgrError) : Keeps P (Smgr.raise err : Smgr α) := .intro fun _ _ h => h

theorem crash (c : Crash) : Keeps P (Smgr.crash c : Smgr α) := .intro fun _ _ _ => trivial

theorem outOfFuel : Keeps P (Smgr.outOfFuel : Smgr α) := .intro fun _ _ _ => trivial

theorem ite {c : Prop} [Decidable c] (hx : Keeps P x) (hy : Keeps P y) :
    Keeps P (if c then x else y) := by
  split_ifs
  · exact hx
  · exact hy

end Smgr.Keeps

/-- No run of `x` crashes: each returns, raises `ERROR`, blocks for good or runs out of fuel. -/
@[irreducible] def Smgr.NoCrash {α : Type} (x : Smgr α) : Prop :=
  ∀ e s c t, x e s ≠ .crash c t

namespace Smgr.NoCrash

variable {α β : Type} {x y : Smgr α} {f : α → Smgr β}

theorem intro (h : ∀ e s c t, x e s ≠ .crash c t) : NoCrash x := by
  unfold NoCrash; exact h

theorem apply (h : NoCrash x) (e : Env) (s : Backend) (c : Crash) (t : Backend) :
    x e s ≠ .crash c t := by
  unfold NoCrash at h; exact h e s c t

theorem pure (a : α) : NoCrash (Pure.pure a : Smgr α) := .intro fun _ _ _ _ => nofun

theorem bind_at {e : Env} {s : Backend} (hx : ∀ c t, x e s ≠ .crash c t)
    (hf : ∀ a, NoCrash (f a)) (c : Crash) (t : Backend) : (x >>= f) e s ≠ .crash c t := fun h => by
  rcases Smgr.bind_crash.1 h with h | ⟨a, _, -, h⟩
  · exact hx _ _ h
  · exact (hf a).apply _ _ _ _ h

theorem bind (hx : NoCrash x) (hf : ∀ a, NoCrash (f a)) : NoCrash (x >>= f) :=
  .intro fun e s => bind_at (hx.apply e s) hf

theorem get : NoCrash Smgr.get := .intro fun _ _ _ _ => nofun

theorem env : NoCrash Smgr.env := .intro fun _ _ _ _ => nofun

theorem modify (g : Backend → Backend) : NoCrash (Smgr.modify g) := .intro fun _ _ _ _ => nofun

theorem modifyGet (g : Backend → Backend × α) : NoCrash (Smgr.modifyGet g) :=
  .intro fun _ _ _ _ => nofun

theorem getPrfSlot (k : Nat) : NoCrash (PagestoreSmgr.getPrfSlot k) := .intro fun _ _ _ _ => nofun

theorem outOfFuel : NoCrash (Smgr.outOfFuel : Smgr α) := .intro fun _ _ _ _ => nofun

theorem ite {c : Prop} [Decidable c] (hx : NoCrash x) (hy : NoCrash y) :
    NoCrash (if c then x else y) := by
  split_ifs <;> assumption

theorem pageServerSend (r : NeonRequest) : NoCrash (PagestoreSmgr.pageServerSend r) :=
  .intro fun _ _ _ _ h => by
    unfold PagestoreSmgr.pageServerSend at h
    split at h <;> nomatch h

theorem pageServerFlush : NoCrash PagestoreSmgr.pageServerFlush :=
  .intro fun _ _ _ _ h => by
    unfold PagestoreSmgr.pageServerFlush at h
    split at h <;> nomatch h

theorem pageServerReceive : NoCrash PagestoreSmgr.pageServerReceive :=
  .intro fun _ _ _ _ h => by
    unfold PagestoreSmgr.pageServerReceive at h
    repeat' split at h
    all_goals nomatch h

end Smgr.NoCrash

end PagestoreSmgr
