import PagestoreSmgr.Sound

/-!
# The connection carries the requests in flight

The page-server connection is a FIFO: the requests flushed to the wire, then those still
in the output buffer. `Wired x s` says that it holds the requests of the slots in flight,
oldest first, followed by the requests `x` of a synchronous `page_server_request`, and
that every live slot asks for its own page and holds only the answer to its request.
This module proves what each write of the pipeline does to it.
-/

set_option autoImplicit false

namespace PagestoreSmgr

open Backend

/-- The requests of the slots at positions `[a, b)`, in ring order. -/
def Backend.reqs (s : Backend) (a b : Nat) : List NeonRequest :=
  (List.range' a (b - a)).map fun p => (s.slotAt p).sent

/-- A slot asks for its own page, and the response it holds answers its request. -/
def PrefetchRequest.Answers (v : PrefetchRequest) : Prop :=
  (∃ latest lsn,
    v.sent = .getPageRequest latest lsn v.buftag.rnode v.buftag.forkNum v.buftag.blockNum) ∧
  ∀ r, v.response = some r → r.answers = v.sent

structure Backend.Wired (x : List NeonRequest) (s : Backend) : Prop where
  conn : s.wire ++ s.outbuf = s.reqs s.ringReceive s.ringUnused ++ x
  live : ∀ v ∈ s.liveIn s.ringLast s.ringUnused, v.Answers

theorem wired_neonInit (cap flush : Nat) : (neonInit cap flush).Wired [] :=
  ⟨rfl, fun _ hv => by simp [liveIn, neonInit] at hv⟩

namespace Backend

theorem reqs_self (s : Backend) (a : Nat) : s.reqs a a = [] := by simp [reqs]

theorem reqs_cons (s : Backend) {a b : Nat} (h : a < b) :
    s.reqs a b = (s.slotAt a).sent :: s.reqs (a + 1) b := by
  rw [reqs, show b - a = b - (a + 1) + 1 by omega, List.range'_succ, List.map_cons]; rfl

theorem reqs_snoc (s : Backend) {a b : Nat} (h : a ≤ b) :
    s.reqs a (b + 1) = s.reqs a b ++ [(s.slotAt b).sent] := by
  rw [reqs, reqs, show b + 1 - a = b - a + 1 by omega, List.range'_1_concat, List.map_append,
    Nat.add_sub_cancel' h]; rfl

theorem reqs_congr {s t : Backend} {a b : Nat}
    (h : ∀ p, a ≤ p → p < b → t.slotAt p = s.slotAt p) : t.reqs a b = s.reqs a b :=
  List.map_congr_left fun p hp => by
    rw [List.mem_range'_1] at hp
    rw [h p hp.1 (by omega)]

end Backend

theorem answers_write {s t : Backend} {a b k : Nat} {w : PrefetchRequest}
    (h : ∀ v ∈ s.liveIn a b, v.Answers)
    (slot : ∀ p, a ≤ p → p < b → t.slotAt p = if p = k then w else s.slotAt p)
    (hw : w.status ≠ .unused → w.Answers) : ∀ v ∈ t.liveIn a b, v.Answers := by
  intro v hv
  obtain ⟨p, h₁, h₂, hp⟩ := mem_liveIn.1 hv
  rw [slot p h₁ h₂] at hp
  split_ifs at hp
  · obtain ⟨hl, rfl⟩ := PrefetchRequest.view_eq_some.1 hp
    exact hw hl
  · exact h v (mem_liveIn.2 ⟨p, h₁, h₂, hp⟩)

namespace Backend.Wired

variable {s t : Backend} {x : List NeonRequest}

theorem answers (h : s.Wired x) {p : Nat} (hp : s.Live p) : (s.slotAt p).Answers :=
  h.live { s.slotAt p with myRingIndex := 0 } (mem_liveIn.2 ⟨p, hp.1, hp.2.1, PrefetchRequest.view_eq_some.2 ⟨hp.2.2, rfl⟩⟩)

theorem ring (h : s.Wired x) (hf : RingFrame s t) (hq : Quiet s t) : t.Wired x where
  conn := by
    have hw : t.wire = s.wire := congrArg (·.2.2.2.2.1) hf.conn
    have ho : t.outbuf = s.outbuf := congrArg (·.2.2.2.2.2.1) hf.conn
    rw [hw, ho, h.conn, hq.receive, hf.unused, reqs_congr fun p h₁ h₂ => hq.inflight p h₁ h₂]
  live := fun v hv => h.live v (hf.sub.subset hv)

theorem send (h : s.Wired x) (r : NeonRequest) :
    { s.nextCall with outbuf := s.outbuf ++ [r] }.Wired (x ++ [r]) where
  conn := by
    show s.wire ++ (s.outbuf ++ [r]) = s.reqs s.ringReceive s.ringUnused ++ (x ++ [r])
    rw [← List.append_assoc, h.conn, List.append_assoc]
  live := h.live

theorem flush (h : s.Wired x) :
    { s.nextCall with wire := s.wire ++ s.outbuf, outbuf := [] }.Wired x where
  conn := by
    show s.wire ++ s.outbuf ++ [] = _
    rw [List.append_nil, h.conn]; rfl
  live := h.live

theorem nextCall (h : s.Wired x) : s.nextCall.Wired x := ⟨h.conn, h.live⟩

theorem assertSlot (h : s.Wired x) (k : Nat) : (s.assertSlot k).Wired x := ⟨h.conn, h.live⟩

theorem flushAll (h : s.Wired x) : { s with ringFlush := s.ringUnused }.Wired x :=
  ⟨h.conn, h.live⟩

theorem disconnect (h : s.Wired x) (hs : Sound s) : (disconnect s).Wired [] := by
  have h' : Sound s.nextCall.dropConnection := hs.congr rfl
  obtain ⟨-, -, hf, hR, -⟩ := prefetchOnPsDisconnect_inv h'.inv h'.zeroed
  refine ⟨?_, fun v hv => h.live v (hf.sub.subset hv)⟩
  have hw : (PagestoreSmgr.disconnect s).wire = [] := congrArg (·.2.2.2.2.1) hf.conn
  have ho : (PagestoreSmgr.disconnect s).outbuf = [] := congrArg (·.2.2.2.2.2.1) hf.conn
  rw [hw, ho]
  unfold PagestoreSmgr.disconnect
  rw [hR, hf.unused, reqs_self]

theorem fill (h : s.Wired x) (hs : Sound s) (v : PrefetchRequest) :
    (s.setCell (s.cell s.ringUnused) v).Wired x := by
  have slot : ∀ p, s.ringLast ≤ p → p < s.ringUnused →
      (s.setCell (s.cell s.ringUnused) v).slotAt p = s.slotAt p := fun p h₁ h₂ => by
    rw [setCell_slotAt, if_neg (hs.inv.cell_unused_ne h₁ h₂)]
  have := hs.inv.order
  refine ⟨?_, fun w hw => h.live w ?_⟩
  · show s.wire ++ s.outbuf = _
    rw [h.conn, setCell_ringReceive, setCell_ringUnused,
      reqs_congr fun p h₁ h₂ => slot p (by omega) h₂]
  · rwa [setCell_ringLast, setCell_ringUnused, liveIn_congr slot] at hw

theorem store (h : s.Wired x) (hs : Sound s) (hRU : s.ringReceive < s.ringUnused)
    {r : NeonRequest} {rest : List NeonRequest} (hw : s.wire = r :: rest) (resp : Response)
    (hresp : resp.answers = r)
    (hbuf : ∀ c, t.prfBuffer c = if c = s.cell s.ringReceive then
      { s.slotAt s.ringReceive with status := .received, response := some resp } else s.prfBuffer c)
    (hL : t.ringLast = s.ringLast) (hU : t.ringUnused = s.ringUnused)
    (hcap : t.readaheadBufferSize = s.readaheadBufferSize) (hR : t.ringReceive = s.ringReceive + 1)
    (hwire : t.wire = rest) (hout : t.outbuf = s.outbuf) :
    r = (s.slotAt s.ringReceive).sent ∧ t.Wired x := by
  obtain ⟨hLR, -, -⟩ := hs.inv.order
  have slot : ∀ p, s.ringLast ≤ p → p < s.ringUnused → t.slotAt p = if p = s.ringReceive then
      { s.slotAt s.ringReceive with status := .received, response := some resp } else s.slotAt p :=
    fun p h₁ h₂ => by
      rw [slotAt, show t.cell p = s.cell p by simp only [cell, hcap], hbuf]
      simp only [hs.inv.cell_eq_iff h₁ h₂ hLR hRU]
      rfl
  have hc := h.conn
  rw [hw, s.reqs_cons hRU, List.cons_append, List.cons_append, List.cons.injEq] at hc
  have hlive : s.Live s.ringReceive :=
    ⟨hLR, hRU, by rw [(hs.inv.requested _ le_rfl hRU).1]; decide⟩
  refine ⟨hc.1, ⟨?_, ?_⟩⟩
  · rw [hwire, hout, hc.2, hR, hU]
    congr 1
    exact reqs_congr fun p h₁ h₂ => by rw [slot p (by omega) h₂, if_neg (by omega)]
  · rw [hL, hU]
    exact answers_write h.live slot fun _ =>
      ⟨(h.answers hlive).1, fun r' hr' => by
        cases hr'
        exact hresp.trans hc.1⟩

theorem issue (h : s.Wired [(s.slotAt s.ringUnused).sent]) (hs : Sound s) {latest : Bool}
    {lsn : XLogRecPtr}
    (hroom : s.ringUnused + 2 ≤ s.ringLast + s.readaheadBufferSize)
    (hreq : ((s.slotAt s.ringUnused).sent = .getPageRequest latest lsn
      (s.slotAt s.ringUnused).buftag.rnode (s.slotAt s.ringUnused).buftag.forkNum
      (s.slotAt s.ringUnused).buftag.blockNum))
    (hbuf : t.prfBuffer =
      (s.setCell (s.cell s.ringUnused) { s.slotAt s.ringUnused with status := .requested }).prfBuffer)
    (hL : t.ringLast = s.ringLast) (hR : t.ringReceive = s.ringReceive)
    (hU : t.ringUnused = s.ringUnused + 1) (hcap : t.readaheadBufferSize = s.readaheadBufferSize)
    (hwire : t.wire = s.wire) (hout : t.outbuf = s.outbuf) : t.Wired [] := by
  obtain ⟨hLR, hRF, hFU⟩ := hs.inv.order
  have slot : ∀ p, s.ringLast ≤ p → p < s.ringUnused + 1 → t.slotAt p =
      if p = s.ringUnused then { s.slotAt s.ringUnused with status := .requested }
      else s.slotAt p := fun p h₁ h₂ => by
    rw [slotAt, show t.cell p = s.cell p by simp only [cell, hcap], hbuf, setCell_prfBuffer]
    simp only [cell_eq_cell_iff (s := s) h₁ (by omega) (by omega : s.ringLast ≤ s.ringUnused)
      (by omega)]
    rfl
  have hz : (s.slotAt s.ringUnused).response = none := (hs.zeroed _ hs.unused_slot).1
  have hnil : s.liveIn s.ringUnused (s.ringUnused + 1) = [] :=
    s.liveIn_eq_nil fun p h₁ h₂ => by rw [show p = s.ringUnused by omega]; exact hs.unused_slot
  refine ⟨?_, ?_⟩
  · have e : t.reqs s.ringReceive s.ringUnused = s.reqs s.ringReceive s.ringUnused :=
      reqs_congr fun p h₁ h₂ => by rw [slot p (by omega) (by omega), if_neg (by omega)]
    rw [hwire, hout, h.conn, hR, hU, List.append_nil, t.reqs_snoc (by omega), e,
      slot _ (by omega) (by omega), if_pos rfl]
  · rw [hL, hU]
    refine answers_write (fun v hv => h.live v ?_) slot fun _ => ⟨⟨latest, lsn, hreq⟩,
      fun r hr => absurd (hz.symm.trans hr) (by simp)⟩
    rwa [s.liveIn_append (by omega) (Nat.le_succ _), hnil, List.append_nil] at hv

theorem pop (h : s.Wired x) (hRU : s.ringReceive = s.ringUnused) {r : NeonRequest}
    {rest : List NeonRequest} (hw : s.wire = r :: rest) :
    x = r :: rest ++ s.outbuf := by
  have hc := h.conn
  rw [hRU, reqs_self, List.nil_append, hw] at hc
  exact hc.symm

theorem answer {r : NeonRequest} (h : s.Wired [r]) (hRU : s.ringReceive = s.ringUnused) {r' : NeonRequest}
    {rest : List NeonRequest} (hw : s.wire = r' :: rest) :
    r' = r ∧ { s.nextCall with wire := rest }.Wired [] := by
  obtain ⟨rfl, hc⟩ := List.cons.inj (h.pop hRU hw)
  obtain ⟨rfl, ho⟩ := List.append_eq_nil.1 hc.symm
  refine ⟨rfl, ?_, h.live⟩
  show [] ++ s.outbuf = s.reqs s.ringReceive s.ringUnused ++ []
  rw [ho, hRU, reqs_self]

theorem not_answer (h : s.Wired []) (hRU : s.ringReceive = s.ringUnused) {r' : NeonRequest}
    {rest : List NeonRequest} (hw : s.wire = r' :: rest) : False := by
  cases h.pop hRU hw

end Backend.Wired

end PagestoreSmgr
