import PagestoreSmgr.Adaptor
import Mathlib.Data.Nat.ModEq

/-!
# The ring invariant

`Inv` is the invariant of `PrefetchState` between operations: the four ring
counters are ordered and span fewer than `readahead_buffer_size` positions;
positions `[ring_receive, ring_unused)` are `REQUESTED`, positions
`[ring_last, ring_receive)` are `RECEIVED` or holes, and the slot at
`ring_last` is no hole; cells outside the window are `UNUSED`; the two
counters count what they name; and `prf_hash` indexes exactly the live slots
by tag. `Inv₀` drops the clause about `ring_last`, which retiring a slot breaks
and `prefetch_cleanup_trailing_unused` restores.
-/

set_option autoImplicit false

namespace PagestoreSmgr

namespace Backend

def Live (s : Backend) (p : Nat) : Prop :=
  s.ringLast ≤ p ∧ p < s.ringUnused ∧ (s.slotAt p).status ≠ .unused

def countReceived (s : Backend) : Nat :=
  (List.range' s.ringLast (s.ringReceive - s.ringLast)).countP
    fun p => (s.slotAt p).status = .received

theorem range'_split {a b c : Nat} (h₁ : a ≤ b) (h₂ : b ≤ c) :
    List.range' a (c - a) = List.range' a (b - a) ++ List.range' b (c - b) := by
  have h := List.range'_append_1 a (b - a) (c - b)
  rw [Nat.add_sub_cancel' h₁] at h
  rw [h]
  congr 1
  omega

theorem cell_inj {s : Backend} {L p q : Nat} (hp : L ≤ p) (hp' : p < L + s.readaheadBufferSize)
    (hq : L ≤ q) (hq' : q < L + s.readaheadBufferSize) (h : s.cell p = s.cell q) : p = q :=
  Nat.le_antisymm (Nat.ModEq.le_of_lt_add h (by omega)) (Nat.ModEq.le_of_lt_add h.symm (by omega))

theorem cell_eq_cell_iff {s : Backend} {L p q : Nat} (hp : L ≤ p) (hp' : p < L + s.readaheadBufferSize)
    (hq : L ≤ q) (hq' : q < L + s.readaheadBufferSize) : s.cell p = s.cell q ↔ p = q :=
  ⟨cell_inj hp hp' hq hq', congrArg s.cell⟩

theorem slotAt_setCell {s : Backend} {L p q : Nat} (v : PrefetchRequest) (hp : L ≤ p)
    (hp' : p < L + s.readaheadBufferSize) (hq : L ≤ q) (hq' : q < L + s.readaheadBufferSize) :
    (s.setCell (s.cell q) v).slotAt p = if p = q then v else s.slotAt p := by
  simp only [setCell_slotAt, cell_eq_cell_iff hp hp' hq hq']

def HashIndexes (s : Backend) : Prop :=
  ∀ t c, s.prfHash t = some c ↔
    c < s.readaheadBufferSize ∧ (s.prfBuffer c).status ≠ .unused ∧ (s.prfBuffer c).buftag = t

theorem HashIndexes.congr {s t : Backend} (h : s.HashIndexes) (hb : t.prfBuffer = s.prfBuffer)
    (hh : t.prfHash = s.prfHash) (hc : t.readaheadBufferSize = s.readaheadBufferSize) :
    t.HashIndexes := by
  intro u c; rw [hb, hh, hc]; exact h u c

theorem HashIndexes.retire {s : Backend} (h : s.HashIndexes) {c : Nat} {t : BufferTag}
    (hc : c < s.readaheadBufferSize) (hl : (s.prfBuffer c).status ≠ .unused)
    (ht : (s.prfBuffer c).buftag = t) : ((s.hashDelete t).setCell c .empty).HashIndexes := by
  have hct := (h t c).2 ⟨hc, hl, ht⟩
  intro u d
  simp only [setCell_prfHash, hashDelete_prfHash, setCell_prfBuffer, hashDelete_prfBuffer,
    setCell_readaheadBufferSize, hashDelete_readaheadBufferSize]
  by_cases hu : u = t
  · subst hu
    simp only [if_true, reduceCtorEq, false_iff]
    rintro ⟨hd, hl', ht'⟩
    split_ifs at hl' ht' with hdc
    · exact hl' rfl
    · exact hdc (Option.some.inj (((h u d).2 ⟨hd, hl', ht'⟩).symm.trans hct))
  · rw [if_neg hu, h u d]
    by_cases hdc : d = c
    · subst hdc; simp [ht, Ne.symm hu]
    · simp [hdc]

theorem HashIndexes.place {s : Backend} (h : s.HashIndexes) {c : Nat} {v : PrefetchRequest}
    {t : BufferTag} (hc : c < s.readaheadBufferSize) (hu : (s.prfBuffer c).status = .unused)
    (hv : v.status ≠ .unused) (ht : v.buftag = t) (hfresh : s.prfHash t = none) :
    ((s.setCell c v).hashInsert t c).HashIndexes := by
  intro u d
  rw [hashInsert_prfHash_of_none _ _ (by simpa using hfresh)]
  simp only [hashInsert_prfBuffer, hashInsert_readaheadBufferSize, setCell_prfHash,
    setCell_prfBuffer, setCell_readaheadBufferSize]
  by_cases hu' : u = t
  · subst hu'
    simp only [if_true, Option.some.injEq]
    constructor
    · rintro rfl; simp [hc, hv, ht]
    · rintro ⟨hd, hl, ht'⟩
      split_ifs at hl ht' with hdc
      · exact hdc.symm
      · exact absurd ((h u d).2 ⟨hd, hl, ht'⟩) (by simp [hfresh])
  · rw [if_neg hu', h u d]
    by_cases hdc : d = c
    · subst hdc; simp [hu, ht, Ne.symm hu']
    · simp [hdc]

end Backend

open Backend

/-- Every `UNUSED` cell holds a `NULL` response and a ring index no later than
`ring_unused`: `neon_init` zeroes the ring, `prefetch_set_unused` clears each slot it
retires (`MemSet`), and only the slot being filled at `ring_unused` is written while
`UNUSED`. `prefetch_do_request` relies on it (`Assert(slot->response == NULL)`). -/
def Backend.Zeroed (s : Backend) : Prop :=
  ∀ c, (s.prfBuffer c).status = .unused →
    (s.prfBuffer c).response = none ∧ (s.prfBuffer c).myRingIndex ≤ s.ringUnused

theorem zeroed_neonInit (cap flush : Nat) : (neonInit cap flush).Zeroed :=
  fun _ _ => ⟨rfl, Nat.zero_le _⟩

structure Inv₀ (s : Backend) : Prop where
  order : s.ringLast ≤ s.ringReceive ∧ s.ringReceive ≤ s.ringFlush ∧ s.ringFlush ≤ s.ringUnused
  bound : s.ringUnused + 1 ≤ s.ringLast + s.readaheadBufferSize
  requested : ∀ p, s.ringReceive ≤ p → p < s.ringUnused →
    (s.slotAt p).status = .requested ∧ (s.slotAt p).response = none
  received : ∀ p, s.ringLast ≤ p → p < s.ringReceive →
    (s.slotAt p).status = .received ∧ (s.slotAt p).response.isSome ∨ (s.slotAt p).status = .unused
  outside : ∀ c < s.readaheadBufferSize, (∀ p, s.ringLast ≤ p → p < s.ringUnused → s.cell p ≠ c) →
    (s.prfBuffer c).status = .unused
  index : ∀ p, s.Live p → (s.slotAt p).myRingIndex = p
  inflight : s.nRequestsInflight = ((s.ringUnused - s.ringReceive : Nat) : Int)
  buffered : s.nResponsesBuffered = (s.countReceived : Int)
  hash : s.HashIndexes

structure Inv (s : Backend) extends Inv₀ s : Prop where
  lastLive : s.ringLast < s.ringReceive → (s.slotAt s.ringLast).status ≠ .unused

theorem inv_neonInit (cap flush : Nat) (h : 0 < cap) : Inv (neonInit cap flush) where
  order := by simp [neonInit]
  bound := by simp [neonInit]; omega
  requested := fun p h₁ h₂ => by simp [neonInit] at h₁ h₂
  received := fun p h₁ h₂ => by simp [neonInit] at h₁ h₂
  outside := fun c _ _ => rfl
  index := fun p hp => by simp [Live, neonInit] at hp
  inflight := rfl
  buffered := rfl
  hash := fun t c => by simp [neonInit]
  lastLive := fun h => by simp [neonInit] at h

theorem Inv₀.congr {s t : Backend} (h : Inv₀ s) (e : t.ring = s.ring) : Inv₀ t := by
  obtain ⟨⟩ := s; obtain ⟨⟩ := t
  simp only [ring, Prod.mk.injEq] at e
  obtain ⟨rfl, rfl, rfl, rfl, rfl, rfl, rfl, rfl, rfl⟩ := e
  exact ⟨h.order, h.bound, h.requested, h.received, h.outside, h.index, h.inflight, h.buffered,
    h.hash⟩

theorem Inv.congr {s t : Backend} (h : Inv s) (e : t.ring = s.ring) : Inv t :=
  ⟨h.toInv₀.congr e, by
    obtain ⟨⟩ := s; obtain ⟨⟩ := t
    simp only [ring, Prod.mk.injEq] at e
    obtain ⟨rfl, rfl, rfl, rfl, rfl, rfl, rfl, rfl, rfl⟩ := e
    exact h.lastLive⟩

theorem Inv₀.cap_pos {s : Backend} (h : Inv₀ s) : 0 < s.readaheadBufferSize := by
  have := h.bound; have := h.order; omega

theorem Inv₀.cell_eq_iff {s : Backend} (h : Inv₀ s) {p q : Nat} (hp : s.ringLast ≤ p)
    (hp' : p < s.ringUnused) (hq : s.ringLast ≤ q) (hq' : q < s.ringUnused) :
    s.cell p = s.cell q ↔ p = q := by
  have := h.bound
  exact cell_eq_cell_iff hp (by omega) hq (by omega)

theorem Inv₀.hash_live {s : Backend} (h : Inv₀ s) (t : BufferTag) (c : Nat) :
    s.prfHash t = some c ↔ ∃ p, s.Live p ∧ s.cell p = c ∧ (s.slotAt p).buftag = t := by
  rw [h.hash]
  constructor
  · rintro ⟨hc, hl, ht⟩
    by_contra hn
    refine hl (h.outside c hc fun p h₁ h₂ hpc => hn ⟨p, ⟨h₁, h₂, ?_⟩, hpc, ?_⟩)
    all_goals rwa [slotAt, hpc]
  · rintro ⟨p, hp, rfl, rfl⟩
    exact ⟨Nat.mod_lt _ h.cap_pos, hp.2.2, rfl⟩

theorem Inv₀.tag_inj {s : Backend} (h : Inv₀ s) {p q : Nat} (hp : s.Live p) (hq : s.Live q)
    (he : (s.slotAt p).buftag = (s.slotAt q).buftag) : p = q := by
  have h₁ := (h.hash _ _).2 ⟨Nat.mod_lt p h.cap_pos, hp.2.2, he⟩
  have h₂ := (h.hash _ _).2 ⟨Nat.mod_lt q h.cap_pos, hq.2.2, rfl⟩
  have := h.bound
  exact cell_inj hp.1 (by have := hp.2.1; omega) hq.1 (by have := hq.2.1; omega)
    (Option.some.inj (h₁.symm.trans h₂))

theorem Inv₀.skip {s : Backend} (h : Inv₀ s) {m : Nat} (hm : s.ringLast ≤ m) (hm' : m ≤ s.ringReceive)
    (hu : ∀ p, s.ringLast ≤ p → p < m → (s.slotAt p).status = .unused) :
    Inv₀ { s with ringLast := m } where
  order := ⟨hm', h.order.2⟩
  bound := by have := h.bound; simp; omega
  requested := h.requested
  received := fun p h₁ h₂ => h.received p (by simp at h₁; omega) h₂
  outside := fun c hc hn => by
    by_cases hp : ∃ p, s.ringLast ≤ p ∧ p < m ∧ s.cell p = c
    · obtain ⟨p, h₁, h₂, rfl⟩ := hp
      exact hu p h₁ h₂
    · exact h.outside c hc fun p h₁ h₂ hpc => by
        by_cases hpm : p < m
        · exact hp ⟨p, h₁, hpm, hpc⟩
        · exact hn p (by simp; omega) h₂ hpc
  index := fun p hp => h.index p ⟨by have := hp.1; simp at this; omega, hp.2⟩
  inflight := h.inflight
  buffered := by
    show s.nResponsesBuffered = ((List.range' m (s.ringReceive - m)).countP
      fun p => (s.slotAt p).status = .received : Nat)
    rw [h.buffered, countReceived, range'_split hm hm', List.countP_append,
      List.countP_eq_zero.2 fun p hp => by
        simp only [List.mem_range'_1] at hp
        simp [hu p hp.1 (by omega)]]
    simp
  hash := h.hash

theorem cleanupLoop_eq (n : Nat) (s : Backend) (hlr : s.ringLast ≤ s.ringReceive)
    (hru : s.ringReceive ≤ s.ringUnused) :
    ∃ m, cleanupLoop n s = { s with ringLast := m } ∧ s.ringLast ≤ m ∧ m ≤ s.ringReceive ∧
      (∀ p, s.ringLast ≤ p → p < m → (s.slotAt p).status = .unused) ∧
      (m < s.ringReceive → s.ringLast + n ≤ m ∨ (s.slotAt m).status ≠ .unused) := by
  induction n generalizing s with
  | zero => exact ⟨s.ringLast, rfl, le_rfl, hlr, fun p h₁ h₂ => by omega, fun _ => .inl le_rfl⟩
  | succ n ih =>
    simp only [cleanupLoop]
    by_cases hl : s.ringLast < s.ringReceive
    · rw [if_pos hl, assertSlot_of_mem s _ ⟨le_rfl, by omega⟩]
      by_cases hu : (s.slotAt s.ringLast).status = .unused
      · rw [if_pos hu]
        obtain ⟨m, heq, h₁, h₂, h₃, h₄⟩ := ih { s with ringLast := s.ringLast + 1 } hl hru
        refine ⟨m, heq, by simp at h₁; omega, h₂, fun p hp hpm => ?_, fun hm => ?_⟩
        · rcases Nat.eq_or_lt_of_le hp with rfl | hp
          · exact hu
          · exact h₃ p hp hpm
        · rcases h₄ hm with h | h
          · exact .inl (by simp at h; omega)
          · exact .inr h
      · exact ⟨s.ringLast, by simp [hu], le_rfl, hlr, fun p h₁ h₂ => by omega, fun _ => .inr hu⟩
    · exact ⟨s.ringLast, by simp [hl], le_rfl, hlr, fun p h₁ h₂ => by omega, fun h => absurd h hl⟩

theorem prefetchCleanupTrailingUnused_eq {s : Backend} (hlr : s.ringLast ≤ s.ringReceive)
    (hru : s.ringReceive ≤ s.ringUnused) :
    ∃ m, prefetchCleanupTrailingUnused s = { s with ringLast := m } ∧ s.ringLast ≤ m ∧
      m ≤ s.ringReceive ∧ (∀ p, s.ringLast ≤ p → p < m → (s.slotAt p).status = .unused) ∧
      (m < s.ringReceive → (s.slotAt m).status ≠ .unused) := by
  obtain ⟨m, heq, h₁, h₂, h₃, h₄⟩ := cleanupLoop_eq (s.ringReceive - s.ringLast) s hlr hru
  exact ⟨m, heq, h₁, h₂, h₃, fun hm => (h₄ hm).resolve_left (by omega)⟩

theorem inv_cleanup {s : Backend} (h : Inv₀ s) : Inv (prefetchCleanupTrailingUnused s) := by
  obtain ⟨m, heq, h₁, h₂, h₃, h₄⟩ :=
    prefetchCleanupTrailingUnused_eq h.order.1 (h.order.2.1.trans h.order.2.2)
  rw [heq]
  exact ⟨h.skip h₁ h₂ h₃, h₄⟩

end PagestoreSmgr
