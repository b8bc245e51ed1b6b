import PagestoreSmgr.Connection

/-!
# Waiting for responses

`prefetch_read`, the receive loop of `prefetch_wait_for`, `prefetch_wait_for` itself and
`consume_prefetch_responses`, under a transport whose failed `flush` and `receive` run
the disconnect hook. A wait for position `k` always ends past `k`: either every response
up to `k` was stored and nothing else the pipeline reads changed (`Calm`), or the hook
ran, emptied the pipeline and dropped the tags of the requests it retired (`Settled`).
-/

set_option autoImplicit false

namespace PagestoreSmgr

open Backend

/-- `t` is `s` with responses stored and the connection advanced: the hash and
`ring_last` are as they were, and the connection still carries the requests in flight. -/
structure Calm (s t : Backend) : Prop where
  frame : Frame s t
  hash : t.prfHash = s.prfHash
  last : t.ringLast = s.ringLast
  wired : ∀ x, s.Wired x → t.Wired x

def Settled (u : BufferTag) (s t : Backend) : Prop :=
  (t.ringReceive = t.ringUnused ∧ t.prfHash u = none) ∨
    (t.prfHash = s.prfHash ∧ t.ringLast = s.ringLast)

/-- What a wait for position `k` from `s` leaves in `t`. -/
structure Waited (k : Nat) (s t : Backend) : Prop where
  sound : Sound t
  frame : Frame s t
  past : k < t.ringReceive
  settled : ∀ u, s.prfHash u = some (s.cell k) → Settled u s t
  wired : ∀ x, s.Wired x → t.Wired x ∨ t.Wired []

namespace Waited

variable {k : Nat} {s t u : Backend}

theorem refl (hs : Sound s) (hk : k < s.ringReceive) : Waited k s s :=
  ⟨hs, .refl s, hk, fun _ _ => .inr ⟨rfl, rfl⟩, fun _ h => .inl h⟩

theorem disconnect (hs : Sound s) (hR : s.ringReceive ≤ k) (hk : k < s.ringUnused) :
    Waited k s (disconnect s) := by
  obtain ⟨h₁, h₂, h₃, -⟩ := hs.disconnected
  have hL := hs.inv.order.1
  refine ⟨h₁, h₂, by omega, fun u hu => .inl ⟨by rw [h₃, h₂.unused], ?_⟩,
    fun x hx => .inr (hx.disconnect hs)⟩
  obtain ⟨-, rfl⟩ := hs.live_of_hash (by omega) hk hu
  exact hs.disconnect_drops hR hk

theorem of_calm (h₂ : Waited k t u) (h₁ : Calm s t) : Waited k s u where
  sound := h₂.sound
  frame := h₁.frame.trans h₂.frame
  past := h₂.past
  settled := fun v hv => by
    have hc : t.cell k = s.cell k := by simp only [cell, h₁.frame.cap]
    rcases h₂.settled v (by rw [h₁.hash, hc]; exact hv) with h | ⟨hh, hl⟩
    · exact .inl h
    · exact .inr ⟨hh.trans h₁.hash, hl.trans h₁.last⟩
  wired := fun x hx => h₂.wired x (h₁.wired x hx)

theorem retirable {p : Nat} (h : Waited p s t) (hp : s.Live p) {v : BufferTag}
    (hv : s.prfHash v = some (s.cell p)) :
    (t.prfBuffer (s.cell p)).myRingIndex < t.ringReceive ∨
      (t.prfBuffer (s.cell p)).myRingIndex = t.ringUnused := by
  have hc : t.cell p = s.cell p := by simp only [cell, h.frame.cap]
  rcases h.settled v hv with ⟨hRU, -⟩ | ⟨hh, hL⟩
  · have := h.sound.index_le (c := s.cell p) (by rw [← hc]; exact Nat.mod_lt _ h.sound.inv.cap_pos)
    omega
  · have := hp.1; have := hp.2.1; have := h.frame.unused
    obtain ⟨hl, -⟩ := h.sound.live_of_hash (k := p) (by omega) (by omega) (by rw [hh, hv, hc])
    exact .inl (hc ▸ (h.sound.inv.index p hl).trans_lt h.past)

end Waited

variable {e : Env} {R : Backend → Prop}

theorem prefetchRead_wp (he : e.DisconnectsOnFailure) {s : Backend} (hs : Sound s)
    (hRF : s.ringReceive < s.ringFlush) {Q : Bool → Backend → Prop}
    (hok : ∀ t, Sound t → Calm s t → t.ringReceive = s.ringReceive + 1 →
      t.ringFlush = s.ringFlush → Q true t)
    (hd : Q false (disconnect s)) : Smgr.wp (prefetchRead (s.cell s.ringReceive)) e Q R s := by
  have ho := hs.inv.order
  unfold prefetchRead
  rw [Smgr.wp_bind]
  refine wp_pageServerReceive he (fun r rest hw => ?_) hd
  simp only [Smgr.wp_bind, Smgr.wp_modify, Smgr.wp_pure]
  refine hok _ (hs.store hRF (fun _ => rfl) rfl rfl rfl rfl rfl rfl rfl rfl)
    ⟨⟨rfl, rfl, le_rfl, fun c hc => ?_, fun _ h => h⟩, rfl, rfl, fun x hx => ?_⟩ rfl rfl
  · show (if c = s.cell s.ringReceive then _ else s.prfBuffer c) = s.prfBuffer c
    rw [if_neg (Ne.symm (hc _ ho.1 (by omega)))]
  · refine (hx.store hs (by omega) hw ⟨s.calls, r, e.answer s.calls r⟩ rfl ?_ ?_ ?_ ?_ ?_ ?_ ?_).2
    exacts [fun _ => rfl, rfl, rfl, rfl, rfl, rfl, rfl]

theorem receiveLoop_wp (he : e.DisconnectsOnFailure) (k : Nat) :
    ∀ n (s : Backend), Sound s → k < s.ringFlush → k + 1 ≤ s.ringReceive + n →
      Smgr.wp (receiveLoop k n) e (fun _ t => Waited k s t) R s := by
  intro n
  induction n with
  | zero => intro s hs _ hn; exact Waited.refl hs (by omega)
  | succ n ih =>
    intro s hs hkF hn
    have ho := hs.inv.order
    simp only [receiveLoop, Smgr.wp_bind, Smgr.wp_get]
    split_ifs with hRk
    · simp only [Smgr.wp_bind, wp_getPrfSlot, assertSlot_of_mem s _ ⟨ho.1, by omega⟩]
      refine prefetchRead_wp he hs (by omega) (fun t ht hc hR hF => ?_)
        (Waited.disconnect hs hRk (by omega))
      rw [if_pos rfl]
      exact Smgr.wp_mono (ih t ht (by omega) (by omega)) fun _ u hu => hu.of_calm hc
    · exact Waited.refl hs (by omega)

theorem prefetchWaitFor_wp (he : e.DisconnectsOnFailure) {k : Nat} {s : Backend} (hs : Sound s)
    (hk : k < s.ringUnused) : Smgr.wp (prefetchWaitFor k) e (fun _ t => Waited k s t) R s := by
  have ho := hs.inv.order
  simp only [prefetchWaitFor, Smgr.wp_bind, Smgr.wp_get]
  split_ifs with hF
  · rw [Smgr.wp_bind]
    refine wp_pageServerFlush he ?_ ?_
    · simp only [ite_true, Smgr.wp_modify, Smgr.wp_pure, Smgr.wp_bind, Smgr.wp_get]
      have hm : Sound { s.nextCall with wire := s.wire ++ s.outbuf, outbuf := [] } := hs.congr rfl
      refine Smgr.wp_mono (receiveLoop_wp he k _ _ hm.flushAll (by exact hk)
        (by show k + 1 ≤ s.ringReceive + (k + 1 - s.ringReceive); omega))
        fun _ t h => h.of_calm ⟨⟨rfl, rfl, le_rfl, fun _ _ => rfl, fun _ h => h⟩, rfl, rfl,
          fun x hx => hx.flush.flushAll⟩
    · exact Waited.disconnect hs (by omega) hk
  · simp only [Smgr.wp_pure, ite_true, Smgr.wp_bind, Smgr.wp_get]
    exact receiveLoop_wp he k _ s hs (by omega) (by omega)

theorem consumePrefetchResponses_wp (he : e.DisconnectsOnFailure) {s : Backend} (hs : Sound s) :
    Smgr.wp consumePrefetchResponses e (fun _ t => Sound t ∧ Frame s t ∧
      t.ringReceive = t.ringUnused ∧ ∀ x, s.Wired x → t.Wired x ∨ t.Wired []) R s := by
  have ho := hs.inv.order
  simp only [consumePrefetchResponses, Smgr.wp_bind, Smgr.wp_get]
  split_ifs with hRU
  · rw [Smgr.wp_bind]
    refine Smgr.wp_mono (prefetchWaitFor_wp he hs (by omega)) fun _ t h => ?_
    have := h.frame.unused; have := h.past; have := h.sound.inv.order
    exact ⟨h.sound, h.frame, by omega, h.wired⟩
  · exact ⟨hs, .refl s, by omega, fun _ h => .inl h⟩

end PagestoreSmgr
