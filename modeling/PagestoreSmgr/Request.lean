import PagestoreSmgr.Register

/-!
# Requests outside the prefetch ring

`page_server_request` sends its request, drains the pipeline and then receives. Under a
transport whose failed `flush` and `receive` run the disconnect hook, the response it
returns answers the request it sent, and the connection is matched with the ring again.
-/

set_option autoImplicit false

namespace PagestoreSmgr

open Backend

variable {e : Env} {R : Backend → Prop}

theorem sendFlushLoop_wp (he : e.DisconnectsOnFailure) (r : NeonRequest) (n : Nat) :
    ∀ s : Backend, Sound s →
      Smgr.wp (sendFlushLoop r n) e (fun _ t => Sound t ∧ (s.Wired [] → t.Wired [r])) R s := by
  induction n with
  | zero => intro s _; trivial
  | succ n ih =>
    intro s hs
    simp only [sendFlushLoop, Smgr.wp_bind]
    refine wp_pageServerSend ?_ ?_ ?_
    · have hm : Sound { s.nextCall with outbuf := s.outbuf ++ [r] } := hs.congr rfl
      simp only [ite_true, Smgr.wp_bind]
      refine wp_pageServerFlush he ?_ ?_
      · exact ⟨hs.congr rfl, fun h => (h.send r).flush⟩
      · simp only [Bool.false_eq_true, ite_false]
        exact Smgr.wp_mono (ih _ hm.disconnected.1) fun _ t ⟨ht, hw⟩ =>
          ⟨ht, fun h => hw ((h.send r).disconnect hm)⟩
    · simp only [Bool.false_eq_true, ite_false]
      exact Smgr.wp_mono (ih _ (hs.congr rfl)) fun _ t ⟨ht, hw⟩ => ⟨ht, fun h => hw h.nextCall⟩
    · simp only [Bool.false_eq_true, ite_false]
      exact Smgr.wp_mono (ih _ hs.disconnected.1) fun _ t ⟨ht, hw⟩ =>
        ⟨ht, fun h => hw (h.disconnect hs)⟩

theorem requestLoop_wp (he : e.DisconnectsOnFailure) (r : NeonRequest) (n : Nat) :
    ∀ s : Backend, Sound s → Smgr.wp (requestLoop r n) e
      (fun resp t => Sound t ∧ (s.Wired [] → t.Wired [] ∧ resp.answers = r)) R s := by
  induction n with
  | zero => intro s _; trivial
  | succ n ih =>
    intro s hs
    simp only [requestLoop, Smgr.wp_bind, Smgr.wp_env]
    refine Smgr.wp_mono (sendFlushLoop_wp he r _ s hs) fun _ t ⟨ht, hw⟩ => ?_
    simp only [Smgr.wp_modify, Smgr.wp_bind]
    refine Smgr.wp_mono (consumePrefetchResponses_wp he ht.flushAll) fun _ u hu => ?_
    obtain ⟨hu, -, hRU, hw'⟩ := hu
    refine wp_pageServerReceive he (fun r' rest hwire => ?_) ?_
    · refine ⟨hu.congr rfl, fun h => ?_⟩
      rcases hw' _ (hw h).flushAll with h' | h'
      · obtain ⟨rfl, h''⟩ := h'.answer hRU hwire
        exact ⟨h'', rfl⟩
      · exact (h'.not_answer hRU hwire).elim
    · obtain ⟨h₁, -⟩ := hu.disconnected
      exact Smgr.wp_mono (ih _ h₁) fun resp v ⟨hv, hw''⟩ =>
        ⟨hv, fun h => hw'' ((hw' _ (hw h).flushAll).elim (·.disconnect hu) (·.disconnect hu))⟩

theorem pageServerRequest_wp (he : e.DisconnectsOnFailure) {s : Backend} (hs : Sound s)
    (r : NeonRequest) : Smgr.wp (pageServerRequest r) e
      (fun resp t => Sound t ∧ (s.Wired [] → t.Wired [] ∧ resp.answers = r)) R s := by
  simp only [pageServerRequest, Smgr.wp_bind, Smgr.wp_env]
  exact requestLoop_wp he r _ s hs

end PagestoreSmgr
