import PagestoreSmgr.Invariant
import Mathlib.Data.List.Basic

/-!
# Compaction keeps the received responses, in order

`compact_prefetch_buffers` slides the `RECEIVED` slots of `[ring_last, ring_receive)`
up over the holes between them. What a slot holds apart from its position is its
`view`; `liveIn a b` lists the views of the live slots at positions `[a, b)`. The
second loop keeps `MoveInv`: below the search index nothing has changed, the gap
`[search, empty]` is unused, and above it sit, in order and at their own positions,
the live slots the state had from the search index up.
-/

set_option autoImplicit false

namespace PagestoreSmgr

namespace PrefetchRequest

def view (r : PrefetchRequest) : Option PrefetchRequest :=
  if r.status = .unused then none else some { r with myRingIndex := 0 }

theorem view_of_unused {r : PrefetchRequest} (h : r.status = .unused) : r.view = none := by
  simp [view, h]

@[simp] theorem view_myRingIndex (r : PrefetchRequest) (k : Nat) :
    ({ r with myRingIndex := k } : PrefetchRequest).view = r.view := by
  simp [view]

theorem view_eq_some {r v : PrefetchRequest} :
    r.view = some v ↔ r.status ≠ .unused ∧ { r with myRingIndex := 0 } = v := by
  unfold view; split_ifs with h <;> simp [h]

end PrefetchRequest

namespace Backend

/-- The live slots at positions `[a, b)`, in ring order, apart from their positions. -/
def liveIn (s : Backend) (a b : Nat) : List PrefetchRequest :=
  (List.range' a (b - a)).filterMap fun p => (s.slotAt p).view

theorem liveIn_append (s : Backend) {a b c : Nat} (h₁ : a ≤ b) (h₂ : b ≤ c) :
    s.liveIn a c = s.liveIn a b ++ s.liveIn b c := by
  rw [liveIn, range'_split h₁ h₂, List.filterMap_append]; rfl

theorem liveIn_cons (s : Backend) {a b : Nat} (h : a < b) :
    s.liveIn a b = (s.slotAt a).view.toList ++ s.liveIn (a + 1) b := by
  rw [liveIn, show b - a = b - (a + 1) + 1 by omega, List.range'_succ, List.filterMap_cons]
  cases (s.slotAt a).view <;> rfl

theorem mem_liveIn {s : Backend} {a b : Nat} {v : PrefetchRequest} :
    v ∈ s.liveIn a b ↔ ∃ p, a ≤ p ∧ p < b ∧ (s.slotAt p).view = some v := by
  simp only [liveIn, List.mem_filterMap, List.mem_range'_1]
  exact ⟨fun ⟨p, ⟨h₁, h₂⟩, h₃⟩ => ⟨p, h₁, by omega, h₃⟩, fun ⟨p, h₁, h₂, h₃⟩ => ⟨p, ⟨h₁, by omega⟩, h₃⟩⟩

theorem liveIn_congr {s t : Backend} {a b : Nat}
    (h : ∀ p, a ≤ p → p < b → t.slotAt p = s.slotAt p) : t.liveIn a b = s.liveIn a b :=
  List.filterMap_congr fun p hp => by
    rw [List.mem_range'_1] at hp
    rw [h p hp.1 (by omega)]

theorem liveIn_eq_nil (s : Backend) {a b : Nat}
    (h : ∀ p, a ≤ p → p < b → (s.slotAt p).status = .unused) : s.liveIn a b = [] :=
  List.filterMap_eq_nil_iff.2 fun p hp => by
    rw [List.mem_range'_1] at hp
    exact PrefetchRequest.view_of_unused (h p hp.1 (by omega))

theorem countP_received_eq_length (s : Backend) {a b : Nat}
    (h : ∀ p, a ≤ p → p < b → (s.slotAt p).status = .received ∨ (s.slotAt p).status = .unused) :
    (List.range' a (b - a)).countP (fun p => (s.slotAt p).status = .received) =
      (s.liveIn a b).length := by
  rw [liveIn, List.length_filterMap_eq_countP]
  refine List.countP_congr fun p hp => ?_
  rw [List.mem_range'_1] at hp
  rcases h p hp.1 (by omega) with h' | h' <;> simp [PrefetchRequest.view, h']

end Backend

open Backend

theorem Inv₀.countReceived_eq {s : Backend} (h : Inv₀ s) :
    s.countReceived = (s.liveIn s.ringLast s.ringReceive).length :=
  s.countP_received_eq_length fun p h₁ h₂ => (h.received p h₁ h₂).imp_left (·.1)

theorem compactFind_eq (s : Backend) (e : Nat) {k : Nat} (hL : s.ringLast ≤ k)
    (hU : k ≤ s.ringUnused) :
    (∃ h, s.ringLast ≤ h ∧ h < k ∧ (s.slotAt h).status = .unused ∧
        (∀ p, h < p → p < k → (s.slotAt p).status ≠ .unused) ∧ compactFind s e k = (s, h, h)) ∨
      ((∀ p, s.ringLast ≤ p → p < k → (s.slotAt p).status ≠ .unused) ∧
        compactFind s e k = (s, s.ringLast, e)) := by
  induction k with
  | zero => exact .inr ⟨fun p _ h => absurd h (Nat.not_lt_zero p), by simp [compactFind]; omega⟩
  | succ k ih =>
    by_cases hk : s.ringLast < k + 1
    · rw [compactFind, if_pos hk, assertSlot_of_mem s k ⟨by omega, by omega⟩]
      by_cases hu : (s.slotAt k).status = .unused
      · exact .inl ⟨k, by omega, by omega, hu, fun p h₁ h₂ => by omega, by simp [hu]⟩
      · rw [if_neg hu]
        have below : ∀ p, p < k + 1 → p ≠ k → p < k := fun p h₁ h₂ => by omega
        rcases ih (by omega) (by omega) with ⟨h, h₁, h₂, h₃, h₄, h₅⟩ | ⟨h₁, h₂⟩
        · refine .inl ⟨h, h₁, by omega, h₃, fun p hp hp' => ?_, h₅⟩
          by_cases hpk : p = k
          · exact hpk ▸ hu
          · exact h₄ p hp (below p hp' hpk)
        · refine .inr ⟨fun p hp hp' => ?_, h₂⟩
          by_cases hpk : p = k
          · exact hpk ▸ hu
          · exact h₁ p hp (below p hp' hpk)
    · rw [compactFind, if_neg hk]
      exact .inr ⟨fun p h₁ h₂ => by omega, by simp; omega⟩

theorem compactMoveSlot_eq {t : Backend} {i j : Nat} (hj : t.ringLast ≤ j ∧ j < t.ringUnused)
    (hi : (t.slotAt i).status = .received) (hu : (t.slotAt j).status = .unused)
    (hij : t.cell i ≠ t.cell j) :
    compactMoveSlot t i j =
      (((t.hashDelete (t.slotAt i).buftag).setCell (t.cell i) .empty).setCell (t.cell j)
        { t.slotAt i with myRingIndex := j }).hashInsert (t.slotAt i).buftag (t.cell j) := by
  simp only [compactMoveSlot, assertSlot_of_mem t j hj, check_of _ _ hi, check_of _ _ hu,
    setCell_cell, hashDelete_cell, hashInsert_cell]
  simp only [setCell, hashDelete, hashInsert, if_true]
  congr 1
  funext c
  by_cases hc : c = t.cell i
  · subst hc; simp [hij]
  · simp [hc]

section Maps

variable {s t : Backend} (h : ∃ buf hash, t = { s with prfBuffer := buf, prfHash := hash })
include h

theorem maps_setCell (c : Nat) (v : PrefetchRequest) :
    ∃ buf hash, t.setCell c v = { s with prfBuffer := buf, prfHash := hash } := by
  obtain ⟨_, _, rfl⟩ := h; exact ⟨_, _, rfl⟩

theorem maps_hashDelete (u : BufferTag) :
    ∃ buf hash, t.hashDelete u = { s with prfBuffer := buf, prfHash := hash } := by
  obtain ⟨_, _, rfl⟩ := h; exact ⟨_, _, rfl⟩

theorem maps_hashInsert (u : BufferTag) (c : Nat) :
    ∃ buf hash, t.hashInsert u c = { s with prfBuffer := buf, prfHash := hash } := by
  obtain ⟨_, _, rfl⟩ := h; exact ⟨_, _, rfl⟩

end Maps

structure MoveInv (s t : Backend) (search empty nMoved : Nat) : Prop where
  frame : ∃ buf hash, t = { s with prfBuffer := buf, prfHash := hash }
  range : s.ringLast ≤ search ∧ search ≤ empty ∧ empty < s.ringReceive
  below : ∀ p, s.ringLast ≤ p → p < search → t.slotAt p = s.slotAt p
  gap : ∀ p, search ≤ p → p ≤ empty → (t.slotAt p).status = .unused
  moved : t.liveIn (empty + 1) s.ringReceive = s.liveIn search s.ringReceive
  placed : ∀ p, empty < p → p < s.ringReceive → (t.slotAt p).status = .received ∧
    (t.slotAt p).response.isSome ∧ (t.slotAt p).myRingIndex = p
  above : ∀ p, s.ringReceive ≤ p → p < s.ringUnused → t.slotAt p = s.slotAt p
  outside : ∀ c, (∀ p, s.ringLast ≤ p → p < s.ringUnused → s.cell p ≠ c) →
    t.prfBuffer c = s.prfBuffer c
  hash : t.HashIndexes
  fresh : ∀ u, s.prfHash u = none → t.prfHash u = none
  zeroed : s.Zeroed → t.Zeroed
  unmoved : nMoved = 0 → t = s

namespace MoveInv

variable {s t : Backend} {k j n : Nat}

theorem ring_eq (h : MoveInv s t k j n) : t.ringLast = s.ringLast ∧ t.ringReceive = s.ringReceive ∧
    t.ringUnused = s.ringUnused ∧ t.readaheadBufferSize = s.readaheadBufferSize := by
  obtain ⟨_, _, rfl⟩ := h.frame; exact ⟨rfl, rfl, rfl, rfl⟩

theorem start (hs : Inv s) (h₁ : s.ringLast ≤ k) (h₂ : k < s.ringReceive)
    (hu : (s.slotAt k).status = .unused)
    (hl : ∀ p, k < p → p < s.ringReceive → (s.slotAt p).status ≠ .unused) : MoveInv s s k k 0 where
  frame := ⟨_, _, rfl⟩
  range := ⟨h₁, le_rfl, h₂⟩
  below := fun _ _ _ => rfl
  gap := fun p hp hp' => le_antisymm hp' hp ▸ hu
  moved := by rw [s.liveIn_cons h₂, PrefetchRequest.view_of_unused hu]; rfl
  placed := fun p hp hp' => by
    have hr := (hs.received p (by omega) hp').resolve_right (hl p hp hp')
    exact ⟨hr.1, hr.2, hs.index p ⟨by omega, by have := hs.order; omega, hl p hp hp'⟩⟩
  above := fun _ _ _ => rfl
  outside := fun _ _ => rfl
  hash := hs.hash
  fresh := fun _ h => h
  zeroed := id
  unmoved := fun _ => rfl

theorem skip (h : MoveInv s t (k + 1) j n) (hk : s.ringLast ≤ k)
    (hu : (t.slotAt k).status = .unused) : MoveInv s t k j n where
  frame := h.frame
  range := ⟨hk, by have := h.range; omega, h.range.2.2⟩
  below := fun p h₁ h₂ => h.below p h₁ (by omega)
  gap := fun p h₁ h₂ => by
    rcases Nat.eq_or_lt_of_le h₁ with rfl | h₁
    · exact hu
    · exact h.gap p h₁ h₂
  moved := by
    have hs : (s.slotAt k).status = .unused := by rw [← h.below k hk (by omega)]; exact hu
    rw [h.moved, s.liveIn_cons (a := k) (by have := h.range; omega),
      PrefetchRequest.view_of_unused hs]
    rfl
  placed := h.placed
  above := h.above
  outside := h.outside
  hash := h.hash
  fresh := h.fresh
  zeroed := h.zeroed
  unmoved := h.unmoved

theorem move (hs : Inv s) (h : MoveInv s t (k + 1) j n) (hk : s.ringLast ≤ k)
    (hl : (t.slotAt k).status ≠ .unused) :
    MoveInv s (compactMoveSlot t k j) k (j - 1) (n + 1) := by
  obtain ⟨-, hkj, hjR⟩ := h.range
  obtain ⟨hL, hR, hU, hcap⟩ := h.ring_eq
  have ho := hs.order
  have hc : ∀ p, t.cell p = s.cell p := fun p => by simp only [cell, hcap]
  have hsk : t.slotAt k = s.slotAt k := h.below k hk (by omega)
  have hrec := (hs.received k hk (by omega)).resolve_right (hsk ▸ hl)
  have hju : (t.slotAt j).status = .unused := h.gap j (by omega) le_rfl
  have hcell : ∀ p q, s.ringLast ≤ p → p < s.ringUnused → s.ringLast ≤ q → q < s.ringUnused →
      (t.cell p = t.cell q ↔ p = q) := fun p q h₁ h₂ h₃ h₄ => by
    rw [hc, hc]; exact hs.cell_eq_iff h₁ h₂ h₃ h₄
  have hkj' : t.cell k ≠ t.cell j := fun e => by
    have := (hcell k j hk (by omega) (by omega) (by omega)).1 e; omega
  have heq := compactMoveSlot_eq (t := t) ⟨by omega, by omega⟩ (hsk ▸ hrec.1) hju hkj'
  have slot : ∀ p, s.ringLast ≤ p → p < s.ringUnused → (compactMoveSlot t k j).slotAt p =
      if p = j then { t.slotAt k with myRingIndex := j } else if p = k then .empty
      else t.slotAt p := fun p h₁ h₂ => by
    rw [heq]
    simp only [hashInsert_slotAt, setCell_slotAt, setCell_cell, hashDelete_cell,
      hashDelete_slotAt, hcell p j h₁ h₂ (by omega) (by omega),
      hcell p k h₁ h₂ hk (by omega)]
  have pos : 0 < t.readaheadBufferSize := hcap ▸ hs.cap_pos
  have hbuf : ∀ c, (compactMoveSlot t k j).prfBuffer c = if c = t.cell j then
      { t.slotAt k with myRingIndex := j } else if c = t.cell k then .empty else t.prfBuffer c :=
    fun c => by rw [heq]; simp only [hashInsert_prfBuffer, setCell_prfBuffer, hashDelete_prfBuffer]
  have hhash : ∀ u, (compactMoveSlot t k j).prfHash u =
      if u = (t.slotAt k).buftag then some (t.cell j) else t.prfHash u := fun u => by
    rw [heq, hashInsert_prfHash_of_none _ _ (by simp)]
    simp only [setCell_prfHash, hashDelete_prfHash]
    split_ifs <;> rfl
  refine ⟨?_, ⟨hk, by omega, by omega⟩, fun p h₁ h₂ => ?_, fun p h₁ h₂ => ?_, ?_,
    fun p h₁ h₂ => ?_, fun p h₁ h₂ => ?_, fun c hn => ?_, ?_, fun u hu => ?_, fun hz c hc => ?_,
    fun h => absurd h n.succ_ne_zero⟩
  · rw [heq]
    exact maps_hashInsert (maps_setCell (maps_setCell (maps_hashDelete h.frame _) _ _) _ _) _ _
  · rw [slot p h₁ (by omega), if_neg (by omega), if_neg (by omega)]
    exact h.below p h₁ (by omega)
  · rw [slot p (by omega) (by omega), if_neg (by omega)]
    split_ifs
    · rfl
    · exact h.gap p (by omega) (by omega)
  · have e : (compactMoveSlot t k j).liveIn (j + 1) s.ringReceive = t.liveIn (j + 1) s.ringReceive :=
      liveIn_congr fun p h₁ h₂ => by rw [slot p (by omega) (by omega), if_neg (by omega),
        if_neg (by omega)]
    rw [Nat.sub_add_cancel (by omega : 1 ≤ j), liveIn_cons _ hjR, e, h.moved,
      slot j (by omega) (by omega), if_pos rfl, PrefetchRequest.view_myRingIndex, hsk,
      ← s.liveIn_cons (by omega)]
  · rw [slot p (by omega) (by omega)]
    by_cases hpj : p = j
    · rw [if_pos hpj, hsk]; exact ⟨hrec.1, hrec.2, hpj.symm⟩
    · rw [if_neg hpj, if_neg (by omega)]; exact h.placed p (by omega) h₂
  · rw [slot p (by omega) h₂, if_neg (by omega), if_neg (by omega)]
    exact h.above p h₁ h₂
  · rw [hbuf, hc, hc, if_neg (hn j (by omega) (by omega)).symm, if_neg (hn k hk (by omega)).symm]
    exact h.outside c hn
  · rw [heq]
    refine (h.hash.retire (c := t.cell k) (t := (t.slotAt k).buftag) (Nat.mod_lt _ pos) hl rfl).place
      (c := t.cell j)
      (by simpa using Nat.mod_lt _ pos) ?_ hl rfl (by simp)
    simpa [hkj'.symm] using hju
  · have hlive : (s.slotAt k).status ≠ .unused := by rw [hrec.1]; decide
    have hk' : s.prfHash (s.slotAt k).buftag = some (s.cell k) :=
      (hs.hash _ (s.cell k)).2 ⟨Nat.mod_lt _ hs.cap_pos, hlive, rfl⟩
    have hne : u ≠ (t.slotAt k).buftag := by
      rintro rfl; rw [hsk, hk'] at hu; exact Option.some_ne_none _ hu
    rw [hhash, if_neg hne]
    exact h.fresh u hu
  · rw [hbuf] at hc ⊢
    split_ifs at hc ⊢ with h₁ h₂
    · exact absurd (hsk ▸ hc) (by rw [hrec.1]; decide)
    · exact ⟨rfl, Nat.zero_le _⟩
    · rw [heq, hashInsert_ringUnused, setCell_ringUnused, setCell_ringUnused,
        hashDelete_ringUnused]
      exact h.zeroed hz c hc

theorem inv₀ (hs : Inv s) (h : MoveInv s t s.ringLast j n) : Inv₀ t := by
  obtain ⟨-, hj, hjR⟩ := h.range
  have ho := hs.order
  have received : ∀ p, s.ringLast ≤ p → p < s.ringReceive → (t.slotAt p).status = .received ∧
      (t.slotAt p).response.isSome ∨ (t.slotAt p).status = .unused := fun p h₁ h₂ =>
    if hp : p ≤ j then .inr (h.gap p h₁ hp)
    else .inl ⟨(h.placed p (by omega) h₂).1, (h.placed p (by omega) h₂).2.1⟩
  have hcount : t.countReceived = s.countReceived := by
    obtain ⟨hL, hR, -⟩ := h.ring_eq
    rw [countReceived, hL, hR, countP_received_eq_length t fun p h₁ h₂ =>
      (received p h₁ h₂).imp_left (·.1), hs.countReceived_eq,
      liveIn_append _ (Nat.le_succ_of_le hj) (by omega),
      liveIn_eq_nil _ fun p h₁ h₂ => h.gap p h₁ (by omega), h.moved]
    rfl
  obtain ⟨buf, hash, rfl⟩ := h.frame
  refine ⟨ho, hs.bound, fun p h₁ h₂ => h.above p h₁ h₂ ▸ hs.requested p h₁ h₂, received,
    fun c hc hn => h.outside c hn ▸ hs.outside c hc hn, fun p hp => ?_, hs.inflight,
    hcount ▸ hs.buffered, h.hash⟩
  obtain ⟨h₁, h₂, h₃⟩ := hp
  by_cases hpR : p < s.ringReceive
  · exact (h.placed p (by by_contra; exact h₃ (h.gap p h₁ (by omega))) hpR).2.2
  · rw [h.above p (by omega) h₂]
    exact hs.index p ⟨h₁, h₂, h.above p (by omega) h₂ ▸ h₃⟩

theorem liveIn_eq (hs : Inv s) (h : MoveInv s t s.ringLast j n) :
    t.liveIn s.ringLast s.ringUnused = s.liveIn s.ringLast s.ringUnused := by
  obtain ⟨-, hj, hjR⟩ := h.range
  have hRU := hs.order.2.1.trans hs.order.2.2
  rw [liveIn_append _ (Nat.le_succ_of_le hj) (by omega : j + 1 ≤ s.ringUnused),
    liveIn_eq_nil _ fun p h₁ h₂ => h.gap p h₁ (by omega),
    liveIn_append _ (by omega : j + 1 ≤ s.ringReceive) hRU, h.moved, liveIn_congr h.above,
    ← liveIn_append _ hs.order.1 hRU]
  rfl

end MoveInv

theorem compactMove_inv {s : Backend} (hs : Inv s) (k : Nat) :
    ∀ t j n, MoveInv s t k j n →
      ∃ t' j' n', compactMove t j n k = (t', n') ∧ MoveInv s t' s.ringLast j' n' := by
  induction k with
  | zero =>
    intro t j n h
    have : s.ringLast = 0 := by have := h.range; omega
    exact ⟨t, j, n, rfl, this ▸ h⟩
  | succ k ih =>
    intro t j n h
    obtain ⟨hL, hR, hU, -⟩ := h.ring_eq
    have hr := h.range
    by_cases hk : s.ringLast < k + 1
    · have ha : t.assertSlot k = t := assertSlot_of_mem t k ⟨by omega, by have := hs.order; omega⟩
      rw [compactMove, if_pos (hL ▸ hk), ha]
      by_cases hu : (t.slotAt k).status = .unused
      · rw [if_pos hu]; exact ih t j n (h.skip (by omega) hu)
      · rw [if_neg hu]; exact ih _ _ _ (h.move hs (by omega) hu)
    · rw [compactMove, if_neg (hL ▸ hk)]
      exact ⟨t, j, n, rfl, (show k + 1 = s.ringLast by omega) ▸ h⟩

theorem compactMove_of_le (t : Backend) (e n : Nat) {k : Nat} (hk : k ≤ t.ringLast) :
    compactMove t e n k = (t, n) := by
  cases k with
  | zero => rfl
  | succ k => rw [compactMove, if_neg (by omega)]

theorem compactPrefetchBuffers_cases {s : Backend} (hs : Inv s) :
    ((∀ p, s.ringLast ≤ p → p < s.ringReceive → (s.slotAt p).status ≠ .unused) ∧
        compactPrefetchBuffers s = (s, false)) ∨
      ((∃ p, s.ringLast ≤ p ∧ p < s.ringReceive ∧ (s.slotAt p).status = .unused) ∧
        ∃ t j n, MoveInv s t s.ringLast j n ∧
          compactPrefetchBuffers s = (prefetchCleanupTrailingUnused t, true)) := by
  have ho := hs.order
  by_cases hRL : s.ringReceive = s.ringLast
  · exact .inl ⟨fun p h₁ h₂ => by omega, by rw [compactPrefetchBuffers, if_pos hRL]⟩
  rcases compactFind_eq s s.ringLast (k := s.ringReceive) ho.1 (ho.2.1.trans ho.2.2) with
    ⟨h, h₁, h₂, hu, hl, hf⟩ | ⟨hl, hf⟩
  · obtain ⟨t, j, n, hm, hi⟩ := compactMove_inv hs h s h 0 (MoveInv.start hs h₁ h₂ hu hl)
    have hn : 0 < n := by
      refine Nat.pos_of_ne_zero fun hn => ?_
      have hL := hi.gap s.ringLast le_rfl hi.range.2.1
      rw [hi.unmoved hn] at hL
      exact hs.lastLive (by omega) hL
    refine .inr ⟨⟨h, h₁, h₂, hu⟩, t, j, n, hi, ?_⟩
    simp only [compactPrefetchBuffers, if_neg hRL, hf, hm, if_pos hn]
  · refine .inl ⟨hl, ?_⟩
    simp only [compactPrefetchBuffers, if_neg hRL, hf, compactMove_of_le s _ 0 le_rfl]
    rfl

theorem compactPrefetchBuffers_advances {s : Backend} (hs : Inv s)
    (h : (compactPrefetchBuffers s).2 = true) : s.ringLast < (compactPrefetchBuffers s).1.ringLast := by
  rcases compactPrefetchBuffers_cases hs with ⟨-, he⟩ | ⟨-, t, j, n, hi, he⟩
  · rw [he] at h; cases h
  · have hinv := hi.inv₀ hs
    obtain ⟨hL, hR, -, -⟩ := hi.ring_eq
    obtain ⟨m, hc, h₁, -, -, h₄⟩ :=
      prefetchCleanupTrailingUnused_eq hinv.order.1 (hinv.order.2.1.trans hinv.order.2.2)
    obtain ⟨-, hj, hjR⟩ := hi.range
    have hjm : j < m := Nat.lt_of_not_le fun hmj => h₄ (by omega) (hi.gap m (by omega) hmj)
    rw [he, hc]
    show s.ringLast < m
    omega

theorem compactPrefetchBuffers_correct {s : Backend} (hs : Inv s) :
    let r := compactPrefetchBuffers s
    r.1 = { s with ringLast := r.1.ringLast, prfBuffer := r.1.prfBuffer, prfHash := r.1.prfHash } ∧
      r.1.liveIn r.1.ringLast r.1.ringUnused = s.liveIn s.ringLast s.ringUnused ∧ Inv r.1 ∧
      (∀ p, r.1.ringLast ≤ p → p < r.1.ringReceive → (r.1.slotAt p).status ≠ .unused) ∧
      (r.2 = true ↔ ∃ p, s.ringLast ≤ p ∧ p < s.ringReceive ∧ (s.slotAt p).status = .unused) ∧
      (r.2 = true → s.ringLast < r.1.ringLast) ∧ (r.2 = false → r.1 = s) := by
  rcases compactPrefetchBuffers_cases hs with ⟨hl, he⟩ | ⟨hole, t, j, n, hi, he⟩
  · rw [he]
    exact ⟨rfl, rfl, hs, hl, by simpa using fun p h₁ h₂ => hl p h₁ h₂, by simp, fun _ => rfl⟩
  · have hinv := hi.inv₀ hs
    obtain ⟨hL, hR, hU, -⟩ := hi.ring_eq
    obtain ⟨m, hc, h₁, h₂, h₃, h₄⟩ :=
      prefetchCleanupTrailingUnused_eq hinv.order.1 (hinv.order.2.1.trans hinv.order.2.2)
    obtain ⟨-, hj, hjR⟩ := hi.range
    have hjm : j < m := Nat.lt_of_not_le fun hmj =>
      h₄ (by omega) (hi.gap m (by omega) hmj)
    have hlive : t.liveIn m t.ringUnused = s.liveIn s.ringLast s.ringUnused := by
      have hmU : m ≤ t.ringUnused := h₂.trans (hinv.order.2.1.trans hinv.order.2.2)
      rw [← hi.liveIn_eq hs, ← hL, ← hU, liveIn_append t h₁ hmU, liveIn_eq_nil t h₃]
      rfl
    rw [he, hc]
    obtain ⟨buf, hash, rfl⟩ := hi.frame
    refine ⟨rfl, hlive, hc ▸ inv_cleanup hinv, fun p (hp : m ≤ p) hp' hu => ?_,
      by simpa using hole, fun _ => show s.ringLast < m by omega, by simp⟩
    cases (hi.placed p (by omega) hp').1.symm.trans hu

end PagestoreSmgr
