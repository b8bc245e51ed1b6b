import PagestoreSmgr.Flushed

/-!
# Requests over a transport that works

Take a transport whose `send`, `flush` and `receive` all succeed, with fuel for one round
of each busy loop. Then `page_server_request` returns: it never blocks in `receive` and
never spins out of fuel, and what it returns is the page server's answer to its request.
`neon_exists`, `neon_nblocks` and `neon_dbsize` therefore return the server's answer, or
raise the `ERROR` for an answer of another kind.

`Smgr.wp` lets a crash, a block or a spin meet every post-condition; `Smgr.twp` does not.
A wait for a position before `ring_flush` finds its request on the wire (`Flushed`).
-/

set_option autoImplicit false

namespace PagestoreSmgr

open Backend

/-- A transport whose every call succeeds, with fuel for one round of each busy loop. -/
def Env.Reliable (e : Env) : Prop :=
  (∀ n, e.send n = .ok) ∧ (∀ n, e.flush n = .ok) ∧ (∀ n, e.receive n = .ok) ∧ 0 < e.fuel

theorem Env.Reliable.disconnectsOnFailure {e : Env} (he : e.Reliable) : e.DisconnectsOnFailure :=
  ⟨fun n h => Reply.noConfusion (he.2.1 n ▸ h), fun n h => Reply.noConfusion (he.2.2.1 n ▸ h)⟩

theorem Env.steady_reliable (answer : NeonRequest → NeonResponse) (xlog : XLogEnv) :
    (Env.steady answer xlog).Reliable :=
  ⟨fun _ => rfl, fun _ => rfl, fun _ => rfl, Nat.zero_lt_succ 3⟩

namespace Smgr

variable {α β : Type} {x : Smgr α} {f : α → Smgr β} {e : Env} {s : Backend}
  {Q Q' : α → Backend → Prop} {R : Backend → Prop}

/-- The total weakest precondition of `x` in `e`: `x` returns, with `Q`, or raises `ERROR`,
with `R`; it neither crashes, blocks for good nor runs out of fuel. -/
def twp (x : Smgr α) (e : Env) (Q : α → Backend → Prop) (R : Backend → Prop) (s : Backend) :
    Prop :=
  match x e s with
  | .done a t => Q a t
  | .raise _ t => R t
  | _ => False

@[simp] theorem twp_pure (a : α) : twp (pure a) e Q R s ↔ Q a s := Iff.rfl

@[simp] theorem twp_bind {Q : β → Backend → Prop} :
    twp (x >>= f) e Q R s ↔ twp x e (fun a t => twp (f a) e Q R t) R s := by
  show (match bind x f e s with | .done a t => _ | .raise _ t => _ | _ => False) ↔
    match x e s with | .done a t => _ | .raise _ t => _ | _ => False
  unfold bind
  cases x e s <;> rfl

@[simp] theorem twp_get {Q : Backend → Backend → Prop} : twp get e Q R s ↔ Q s s := Iff.rfl

@[simp] theorem twp_env {Q : Env → Backend → Prop} : twp env e Q R s ↔ Q e s := Iff.rfl

@[simp] theorem twp_modify {Q : Unit → Backend → Prop} (g : Backend → Backend) :
    twp (modify g) e Q R s ↔ Q () (g s) := Iff.rfl

@[simp] theorem twp_writeShared {Q : Unit → Backend → Prop} (w : SharedWrite) :
    twp (writeShared w) e Q R s ↔ Q () (s.writeShared w) := Iff.rfl

@[simp] theorem twp_modifyGet (g : Backend → Backend × α) :
    twp (modifyGet g) e Q R s ↔ Q (g s).2 (g s).1 := Iff.rfl

@[simp] theorem twp_raise (err : SmgrError) : twp (raise err) e Q R s ↔ R s := Iff.rfl

@[simp] theorem twp_ite {c : Prop} [Decidable c] (x y : Smgr α) :
    twp (if c then x else y) e Q R s ↔ if c then twp x e Q R s else twp y e Q R s := by
  split <;> rfl

theorem twp_mono (h : twp x e Q R s) (hq : ∀ a t, Q a t → Q' a t) : twp x e Q' R s := by
  unfold twp at *
  split at h <;> simp_all

theorem twp_wp (h : twp x e Q R s) : wp x e Q R s := by
  unfold twp wp at *
  split at h <;> simp_all

theorem twp_done_or_raise (h : twp x e Q R s) :
    (∃ a t, x e s = .done a t ∧ Q a t) ∨ ∃ err t, x e s = .raise err t ∧ R t := by
  unfold twp at h
  split at h
  · exact .inl ⟨_, _, ‹_›, h⟩
  · exact .inr ⟨_, _, ‹_›, h⟩
  · exact h.elim

theorem twp_of_wp (h : wp x e Q R s) (ht : twp x e Q' R s) :
    twp x e (fun a t => Q a t ∧ Q' a t) R s := by
  unfold twp wp at *
  split at ht <;> simp_all

theorem twp_of_wp_imp (hx : twp x e Q' R s) (h : wp x e (fun a t => Q' a t → Q a t) R s) :
    twp x e Q R s :=
  twp_mono (twp_of_wp h hx) fun _ _ h => h.1 h.2

end Smgr

section Transport

variable {e : Env} {s : Backend} {Q : Bool → Backend → Prop} {R : Backend → Prop}

theorem twp_pageServerSend (he : e.Reliable) (r : NeonRequest) :
    Smgr.twp (pageServerSend r) e Q R s ↔ Q true { s.nextCall with outbuf := s.outbuf ++ [r] } := by
  simp only [Smgr.twp, pageServerSend, he.1]

theorem twp_pageServerFlush (he : e.Reliable) :
    Smgr.twp pageServerFlush e Q R s ↔
      Q true { s.nextCall with wire := s.wire ++ s.outbuf, outbuf := [] } := by
  simp only [Smgr.twp, pageServerFlush, he.2.1]

theorem twp_pageServerReceive (he : e.Reliable) {Q : Option Response → Backend → Prop}
    {r : NeonRequest} {rest : List NeonRequest} (hw : s.wire = r :: rest) :
    Smgr.twp pageServerReceive e Q R s ↔
      Q (some ⟨s.calls, r, e.answer s.calls r⟩) { s.nextCall with wire := rest } := by
  simp only [Smgr.twp, pageServerReceive, he.2.2.1, hw]

@[simp] theorem twp_getPrfSlot {Q : Nat → Backend → Prop} (k : Nat) :
    Smgr.twp (getPrfSlot k) e Q R s ↔ Q (s.cell k) (s.assertSlot k) := Iff.rfl

theorem sendFlushLoop_twp (he : e.Reliable) (r : NeonRequest) {n : Nat} (hn : 0 < n)
    {Q : Unit → Backend → Prop} : Smgr.twp (sendFlushLoop r n) e Q R s ↔
      Q () { s.nextCall.nextCall with wire := s.wire ++ (s.outbuf ++ [r]), outbuf := [] } := by
  obtain ⟨m, rfl⟩ : ∃ m, n = m + 1 := ⟨n - 1, by omega⟩
  simp only [sendFlushLoop, Smgr.twp_bind, twp_pageServerSend he, twp_pageServerFlush he, ite_true,
    Smgr.twp_pure]
  exact Iff.rfl

end Transport

variable {e : Env} {R : Backend → Prop}

theorem prefetchRead_twp (he : e.Reliable) {s : Backend} (hs : Sound s)
    (hRF : s.ringReceive < s.ringFlush) (hw : s.wire ≠ []) :
    Smgr.twp (prefetchRead (s.cell s.ringReceive)) e (fun b t => b = true ∧ t.outbuf = s.outbuf ∧
      Sound t ∧ Calm s t ∧ t.ringReceive = s.ringReceive + 1 ∧ t.ringFlush = s.ringFlush) R s := by
  obtain ⟨r, rest, hrw⟩ := List.exists_cons_of_ne_nil hw
  have hp : Smgr.wp (prefetchRead (s.cell s.ringReceive)) e (fun b t => b = true →
      Sound t ∧ Calm s t ∧ t.ringReceive = s.ringReceive + 1 ∧ t.ringFlush = s.ringFlush) R s :=
    prefetchRead_wp he.disconnectsOnFailure hs hRF (fun t ht hc hR hF _ => ⟨ht, hc, hR, hF⟩)
      fun h => Bool.noConfusion h
  have ht : Smgr.twp (prefetchRead (s.cell s.ringReceive)) e
      (fun b t => b = true ∧ t.outbuf = s.outbuf) R s := by
    simp only [prefetchRead, Smgr.twp_bind, twp_pageServerReceive he hrw, Smgr.twp_modify,
      Smgr.twp_pure]
    exact ⟨trivial, rfl⟩
  exact Smgr.twp_mono (Smgr.twp_of_wp hp ht) fun b t ⟨h, hb, ho⟩ => ⟨hb, ho, h hb⟩

theorem receiveLoop_twp (he : e.Reliable) (k : Nat) {x : List NeonRequest} :
    ∀ n (s : Backend), Sound s → s.Wired x → s.Flushed x → k < s.ringFlush →
      k + 1 ≤ s.ringReceive + n → Smgr.twp (receiveLoop k n) e (fun b t => b = true ∧ Sound t ∧
        t.Wired x ∧ t.Flushed x ∧ t.outbuf = s.outbuf) R s := by
  intro n
  induction n with
  | zero => intro s hs hw hf _ _; exact ⟨rfl, hs, hw, hf, rfl⟩
  | succ n ih =>
    intro s hs hw hf hkF hn
    have ho := hs.inv.order
    simp only [receiveLoop, Smgr.twp_bind, Smgr.twp_get]
    split_ifs with hRk
    · simp only [Smgr.twp_bind, twp_getPrfSlot, assertSlot_of_mem s _ ⟨ho.1, by omega⟩]
      refine Smgr.twp_mono (prefetchRead_twp he hs (by omega) (hw.wire_ne_nil hf (by omega) ho.2.2))
        fun b t ⟨hb, hot, ht, hc, hR, hF⟩ => ?_
      subst hb
      have hft : t.Flushed x := by
        unfold Flushed at hf ⊢
        rw [hot, hF, hc.frame.unused]
        exact hf
      simp only [ite_true]
      exact Smgr.twp_mono (ih t ht (hc.wired x hw) hft (by omega) (by omega))
        fun _ u ⟨hb, hu, hwu, hfu, hou⟩ => ⟨hb, hu, hwu, hfu, hou.trans hot⟩
    · exact ⟨rfl, hs, hw, hf, rfl⟩

theorem prefetchWaitFor_twp (he : e.Reliable) {x : List NeonRequest} {k : Nat} {s : Backend}
    (hs : Sound s) (hw : s.Wired x) (hf : s.Flushed x) (hk : k < s.ringUnused) :
    Smgr.twp (prefetchWaitFor k) e (fun b t => b = true ∧ Sound t ∧ t.Wired x ∧ t.Flushed x ∧
      (s.outbuf = [] → t.outbuf = [])) R s := by
  have ho := hs.inv.order
  simp only [prefetchWaitFor, Smgr.twp_bind, Smgr.twp_get]
  split_ifs with hF
  · simp only [Smgr.twp_bind, twp_pageServerFlush he, ite_true, Smgr.twp_modify, Smgr.twp_pure,
      Smgr.twp_get]
    have hm : Sound { s.nextCall with wire := s.wire ++ s.outbuf, outbuf := [] } := hs.congr rfl
    refine Smgr.twp_mono (receiveLoop_twp he k _ _ hm.flushAll hw.flush.flushAll ?_ hk ?_)
      fun _ t ⟨hb, ht, hwt, hft, hot⟩ => ⟨hb, ht, hwt, hft, fun _ => hot⟩
    · show 0 + s.ringUnused ≤ s.ringUnused + x.length
      omega
    · show k + 1 ≤ s.ringReceive + (k + 1 - s.ringReceive)
      omega
  · simp only [Smgr.twp_pure, ite_true, Smgr.twp_bind, Smgr.twp_get]
    exact Smgr.twp_mono (receiveLoop_twp he k _ s hs hw hf (by omega) (by omega))
      fun _ t ⟨hb, ht, hwt, hft, hot⟩ => ⟨hb, ht, hwt, hft, fun h => hot.trans h⟩

theorem consumePrefetchResponses_twp (he : e.Reliable) {x : List NeonRequest} {s : Backend}
    (hs : Sound s) (hw : s.Wired x) (hf : s.Flushed x) :
    Smgr.twp consumePrefetchResponses e (fun _ t => Sound t ∧ t.Wired x ∧ t.Flushed x ∧
      t.ringReceive = t.ringUnused ∧ (s.outbuf = [] → t.outbuf = []) ∧
      t.readaheadBufferSize = s.readaheadBufferSize) R s := by
  have ht : Smgr.twp consumePrefetchResponses e
      (fun _ t => Sound t ∧ t.Wired x ∧ t.Flushed x ∧ (s.outbuf = [] → t.outbuf = [])) R s := by
    have ho := hs.inv.order
    simp only [consumePrefetchResponses, Smgr.twp_bind, Smgr.twp_get]
    split_ifs with hRU
    · simp only [Smgr.twp_bind, Smgr.twp_pure]
      exact Smgr.twp_mono (prefetchWaitFor_twp he hs hw hf (by omega)) fun _ _ h => h.2
    · exact ⟨hs, hw, hf, id⟩
  exact Smgr.twp_mono (Smgr.twp_of_wp (consumePrefetchResponses_wp he.disconnectsOnFailure hs) ht)
    fun _ _ ⟨⟨_, hfr, hRU, _⟩, ht, hwt, hft, hot⟩ => ⟨ht, hwt, hft, hRU, hot, hfr.cap⟩

theorem requestLoop_twp (he : e.Reliable) (r : NeonRequest) {n : Nat} (hn : 0 < n) {s : Backend}
    (hs : Sound s) (hw : s.Wired []) :
    Smgr.twp (requestLoop r n) e (fun resp t => resp.answers = r ∧ resp.msg = e.answer resp.id r ∧
      Sound t ∧ t.Wired [] ∧ t.ringReceive = t.ringUnused ∧
      t.readaheadBufferSize = s.readaheadBufferSize) R s := by
  obtain ⟨m, rfl⟩ : ∃ m, n = m + 1 := ⟨n - 1, by omega⟩
  have hm : Sound { s.nextCall.nextCall with wire := s.wire ++ (s.outbuf ++ [r]), outbuf := [] } :=
    hs.congr rfl
  have hwm := ((hw.send r).flush).flushAll
  simp only [requestLoop, Smgr.twp_bind, Smgr.twp_env, sendFlushLoop_twp he r he.2.2.2,
    Smgr.twp_modify]
  refine Smgr.twp_mono (consumePrefetchResponses_twp he hm.flushAll hwm ?_)
    fun _ t ⟨ht, hwt, _, hRU, hot, hcap⟩ => ?_
  · show 0 + s.ringUnused ≤ s.ringUnused + 1
    omega
  · have hwire : t.wire = [r] := hwt.wire_eq hRU (hot rfl)
    simp only [twp_pageServerReceive he hwire, Smgr.twp_pure]
    exact ⟨trivial, trivial, ht.congr rfl, (hwt.answer hRU hwire).2, hRU, hcap⟩

/-- Over a transport that works, `page_server_request(req)` from a sound state whose connection
carries only the requests in flight returns: it neither blocks nor runs out of fuel, and it
returns the page server's answer to `req`, with the pipeline drained and the connection empty. -/
theorem pageServerRequest_returns {s : Backend} (hs : Sound s) (hw : s.Wired []) (he : e.Reliable)
    (r : NeonRequest) :
    Smgr.twp (pageServerRequest r) e (fun resp t => resp.answers = r ∧
      resp.msg = e.answer resp.id r ∧ Sound t ∧ t.Wired [] ∧ t.ringReceive = t.ringUnused)
      (fun _ => False) s := by
  simp only [pageServerRequest, Smgr.twp_bind, Smgr.twp_env]
  exact Smgr.twp_mono (requestLoop_twp he r he.2.2.2 hs hw) fun _ _ h => ⟨h.1, h.2.1, h.2.2.1,
    h.2.2.2.1, h.2.2.2.2.1⟩

theorem pageServerRequest_returns_prefetched :
    ∃ s, runOps .steadyWalsender [.prefetch .sample .main 0] (neonInit 4 0) = .done () s ∧
      Sound s ∧ s.Wired [] ∧ Env.steadyWalsender.Reliable ∧
      Smgr.twp (pageServerRequest (.dbSizeRequest true 0 1)) .steadyWalsender (fun resp t =>
        resp.answers = .dbSizeRequest true 0 1 ∧
        resp.msg = Env.steadyWalsender.answer resp.id (.dbSizeRequest true 0 1) ∧ Sound t ∧
        t.Wired [] ∧ t.ringReceive = t.ringUnused) (fun _ => False) s :=
  have h := Backend.Matched.kept (runOps_reachable Env.steadyWalsender_disconnectsOnFailure
    [.prefetch .sample .main 0] (.init 4 0 (by decide)) (by simp [Op.IsResize]) rfl)
  ⟨_, rfl, h.1, h.2, Env.steady_reliable _ _,
    pageServerRequest_returns h.1 h.2 (Env.steady_reliable _ _) _⟩

end PagestoreSmgr
