import PagestoreSmgr.Types
import Mathlib.Logic.Function.Basic
import Mathlib.Algebra.Group.Nat.Basic
import Mathlib.Algebra.Group.Int

/-!
# The page-server message codec

`nm_pack_request` writes a request with the senders of PostgreSQL's `pqformat.c`;
`nm_unpack_response` reads a response with its `pq_getmsg*` readers, each of which raises
on a body too short for it, and ends with `pq_getmsgend`, which raises on trailing bytes.
Integers go in network order. The tag numbers and `BLCKSZ` come from headers the source
only includes, so the codec is stated for every numbering that gives distinct tags
distinct bytes.

A response is accepted exactly when it is a response tag followed by that kind's body and
nothing else (`nmUnpackResponse_ok_iff`), and a packed request reads back, under the
layout of the protocol specification, as the request itself.
-/

set_option autoImplicit false

namespace PagestoreSmgr

/-- The constants of `pagestore_client.h` and `pg_config.h` the codec reads: the byte of
each message tag, distinct for distinct tags (all nine are case labels of the `switch` in
`nm_unpack_response`), and `BLCKSZ`. -/
structure Codes where
  tag : NeonMessageTag → UInt8
  tag_inj : Function.Injective tag
  blcksz : Nat

/-- The values of `ForkNumber` in `common/relpath.h`. -/
def ForkNumber.toByte : ForkNumber → UInt8
  | .main => 0
  | .fsm => 1
  | .visibilitymap => 2
  | .init => 3

/-- The fork a byte names, if any. -/
def ForkNumber.ofByte? (b : UInt8) : Option ForkNumber :=
  if b = 0 then some .main else if b = 1 then some .fsm
  else if b = 2 then some .visibilitymap else if b = 3 then some .init else none

@[simp] theorem ForkNumber.ofByte?_toByte (f : ForkNumber) : ForkNumber.ofByte? f.toByte = some f := by
  cases f <;> rfl

def bigEndian : Nat → Nat → List UInt8
  | 0, _ => []
  | w + 1, n => bigEndian w (n / 256) ++ [n.toUInt8]

def ofBigEndian (bs : List UInt8) : Nat := bs.foldl (fun acc b => acc * 256 + b.toNat) 0

@[simp] theorem length_bigEndian (w n : Nat) : (bigEndian w n).length = w := by
  induction w generalizing n with
  | zero => rfl
  | succ w ih => simp [bigEndian, ih]

theorem ofBigEndian_append_singleton (bs : List UInt8) (b : UInt8) :
    ofBigEndian (bs ++ [b]) = ofBigEndian bs * 256 + b.toNat := by
  simp [ofBigEndian, List.foldl_append]

theorem ofBigEndian_bigEndian (w n : Nat) : ofBigEndian (bigEndian w n) = n % 256 ^ w := by
  induction w generalizing n with
  | zero => simp [bigEndian, ofBigEndian, Nat.mod_one]
  | succ w ih =>
    rw [bigEndian, ofBigEndian_append_singleton, ih, Nat.pow_succ, Nat.mul_comm (256 ^ w), Nat.mod_mul]
    show n / 256 % 256 ^ w * 256 + n % 256 = _
    omega

/-- The `ereport(ERROR)` exits of `pqformat.c`'s readers and of `nm_unpack_response`. -/
inductive PqError where
  /-- Raised by `pq_getmsgbyte`: "no data left in message". -/
  | noDataLeft
  /-- Raised by `pq_copymsgbytes` and `pq_getmsgbytes`: "insufficient data left in message". -/
  | insufficientData
  /-- Raised by `pq_getmsgrawstring`: "invalid string in message". -/
  | invalidString
  /-- Raised by `pq_getmsgend`: "invalid message format". -/
  | invalidMessageFormat
  /-- Raised by `nm_unpack_response`: "unexpected neon message tag 0x%02x". -/
  | unexpectedNeonMessageTag (tag : UInt8)
  deriving DecidableEq, Repr

/-! A message is read from its cursor on: each reader returns what it read and the bytes
after it. -/

/-- `pq_getmsgbyte`. -/
def pqGetmsgbyte : List UInt8 → Except PqError (UInt8 × List UInt8)
  | [] => .error .noDataLeft
  | b :: rest => .ok (b, rest)

/-- `pq_getmsgbytes`, and `pq_copymsgbytes` under the integer readers. -/
def pqGetmsgbytes (datalen : Nat) (msg : List UInt8) : Except PqError (List UInt8 × List UInt8) :=
  if datalen ≤ msg.length then .ok (msg.take datalen, msg.drop datalen) else .error .insufficientData

/-- `pq_getmsgint(msg, b)`: an unsigned integer of `b` bytes in network order. -/
def pqGetmsgint (b : Nat) (msg : List UInt8) : Except PqError (Nat × List UInt8) :=
  (pqGetmsgbytes b msg).map fun r => (ofBigEndian r.1, r.2)

def int64OfBits (u : Nat) : Int := if u < 2 ^ 63 then u else (u : Int) - 2 ^ 64

/-- `pq_getmsgint64`. -/
def pqGetmsgint64 (msg : List UInt8) : Except PqError (Int × List UInt8) :=
  (pqGetmsgbytes 8 msg).map fun r => (int64OfBits (ofBigEndian r.1), r.2)

/-- `pq_getmsgrawstring`: the bytes up to the next `NUL`, which is consumed. A `StringInfo`
keeps a `NUL` past its end, so `strlen` stops there; a string that reaches the end is
invalid. -/
def pqGetmsgrawstring : List UInt8 → Except PqError (List UInt8 × List UInt8)
  | [] => .error .invalidString
  | b :: rest =>
    if b = 0 then .ok ([], rest) else (pqGetmsgrawstring rest).map fun r => (b :: r.1, r.2)

/-- `pq_getmsgend`. -/
def pqGetmsgend (msg : List UInt8) : Except PqError Unit :=
  if msg = [] then .ok () else .error .invalidMessageFormat

def cString (bs : List UInt8) : String := ⟨bs.map fun b => Char.ofNat b.toNat⟩

/-- `nm_unpack_response`. -/
def nmUnpackResponse (c : Codes) (s : List UInt8) : Except PqError NeonResponse := do
  let (tag, s) ← pqGetmsgbyte s
  if tag = c.tag .existsResponse then
    let (b, s) ← pqGetmsgbyte s
    pqGetmsgend s
    pure (.existsResponse (b != 0))
  else if tag = c.tag .nblocksResponse then
    let (n, s) ← pqGetmsgint 4 s
    pqGetmsgend s
    pure (.nblocksResponse n.toUInt32)
  else if tag = c.tag .getPageResponse then
    let (page, s) ← pqGetmsgbytes c.blcksz s
    pqGetmsgend s
    pure (.getPageResponse page)
  else if tag = c.tag .dbSizeResponse then
    let (n, s) ← pqGetmsgint64 s
    pqGetmsgend s
    pure (.dbSizeResponse n)
  else if tag = c.tag .errorResponse then
    let (msgtext, s) ← pqGetmsgrawstring s
    pqGetmsgend s
    pure (.errorResponse (cString msgtext))
  else .error (.unexpectedNeonMessageTag tag)

theorem except_bind_eq_ok {ε α β : Type} {x : Except ε α} {f : α → Except ε β} {b : β} :
    x >>= f = .ok b ↔ ∃ a, x = .ok a ∧ f a = .ok b := by
  cases x <;> simp [bind, Except.bind]

theorem except_map_eq_ok {ε α β : Type} {x : Except ε α} {f : α → β} {b : β} :
    x.map f = .ok b ↔ ∃ a, x = .ok a ∧ f a = b := by
  cases x <;> simp [Except.map]

theorem pqGetmsgbyte_eq_ok {msg rest : List UInt8} {b : UInt8} :
    pqGetmsgbyte msg = .ok (b, rest) ↔ msg = b :: rest := by
  cases msg <;> simp [pqGetmsgbyte]

theorem pqGetmsgbytes_eq_ok {n : Nat} {msg bs rest : List UInt8} :
    pqGetmsgbytes n msg = .ok (bs, rest) ↔ bs.length = n ∧ msg = bs ++ rest := by
  unfold pqGetmsgbytes
  split
  next h =>
    simp only [Except.ok.injEq, Prod.mk.injEq]
    constructor
    · rintro ⟨rfl, rfl⟩; simp [Nat.min_eq_left h]
    · rintro ⟨rfl, rfl⟩; simp
  next h =>
    simp only [reduceCtorEq, false_iff, not_and]
    rintro rfl rfl; simp at h

theorem pqGetmsgint_eq_ok {b n : Nat} {msg rest : List UInt8} :
    pqGetmsgint b msg = .ok (n, rest) ↔ ∃ bs, (bs.length = b ∧ msg = bs ++ rest) ∧ n = ofBigEndian bs := by
  simp only [pqGetmsgint, except_map_eq_ok, Prod.exists, pqGetmsgbytes_eq_ok, Prod.mk.injEq]
  constructor
  · rintro ⟨bs, rest, h, rfl, rfl⟩; exact ⟨bs, h, rfl⟩
  · rintro ⟨bs, h, rfl⟩; exact ⟨bs, rest, h, rfl, rfl⟩

theorem pqGetmsgint64_eq_ok {n : Int} {msg rest : List UInt8} :
    pqGetmsgint64 msg = .ok (n, rest) ↔
      ∃ bs, (bs.length = 8 ∧ msg = bs ++ rest) ∧ n = int64OfBits (ofBigEndian bs) := by
  simp only [pqGetmsgint64, except_map_eq_ok, Prod.exists, pqGetmsgbytes_eq_ok, Prod.mk.injEq]
  constructor
  · rintro ⟨bs, rest, h, rfl, rfl⟩; exact ⟨bs, h, rfl⟩
  · rintro ⟨bs, h, rfl⟩; exact ⟨bs, rest, h, rfl, rfl⟩

theorem pqGetmsgend_eq_ok {msg : List UInt8} {u : Unit} : pqGetmsgend msg = .ok u ↔ msg = [] := by
  unfold pqGetmsgend; split <;> simp [*]

theorem pqGetmsgrawstring_eq_ok {msg str rest : List UInt8} :
    pqGetmsgrawstring msg = .ok (str, rest) ↔ 0 ∉ str ∧ msg = str ++ 0 :: rest := by
  induction msg generalizing str with
  | nil => cases str <;> simp [pqGetmsgrawstring]
  | cons b msg ih =>
    unfold pqGetmsgrawstring
    split
    next hb =>
      subst hb
      cases str <;> simp [eq_comm]
      exact fun h₁ _ h₂ => absurd h₂ h₁
    next hb =>
      rw [except_map_eq_ok]
      constructor
      · rintro ⟨⟨str', rest'⟩, h, he⟩
        obtain ⟨rfl, rfl⟩ := Prod.mk.inj he
        obtain ⟨h₁, rfl⟩ := ih.1 h
        simp [h₁, Ne.symm hb]
      · rintro ⟨h₁, h₂⟩
        cases str with
        | nil => exact absurd (List.cons.inj h₂).1 hb
        | cons a str =>
          obtain ⟨rfl, rfl⟩ := List.cons.inj h₂
          exact ⟨(str, rest), ih.2 ⟨fun h => h₁ (List.mem_cons_of_mem _ h), rfl⟩, rfl⟩

/-- `s` is the tag of `r`'s kind followed by exactly that kind's body in the protocol's
layout, and `r` carries the fields that body encodes (an `Exists` byte reads as whether
it is nonzero). Modelled from the spec. -/
def Encodes (c : Codes) (r : NeonResponse) (s : List UInt8) : Prop :=
  match r with
  | .existsResponse e => ∃ b : UInt8, s = [c.tag .existsResponse, b] ∧ e = (b != 0)
  | .nblocksResponse n =>
    ∃ bs, bs.length = 4 ∧ s = c.tag .nblocksResponse :: bs ∧ n = (ofBigEndian bs).toUInt32
  | .getPageResponse page => page.length = c.blcksz ∧ s = c.tag .getPageResponse :: page
  | .errorResponse m =>
    ∃ str, 0 ∉ str ∧ s = c.tag .errorResponse :: (str ++ [0]) ∧ m = cString str
  | .dbSizeResponse d =>
    ∃ bs, bs.length = 8 ∧ s = c.tag .dbSizeResponse :: bs ∧ d = int64OfBits (ofBigEndian bs)

theorem toUInt32_of_toNat {n : UInt32} {m : Nat} (h : n.toNat = m) : m.toUInt32 = n :=
  UInt32.toNat.inj (by rw [← h]; exact Nat.mod_eq_of_lt n.toNat_lt_size)

theorem pqGetmsgbytes_all {n : Nat} {bs : List UInt8} (h : bs.length = n) :
    pqGetmsgbytes n bs = .ok (bs, []) :=
  pqGetmsgbytes_eq_ok.2 ⟨h, (List.append_nil _).symm⟩

theorem pqGetmsgbytes_append {n : Nat} {bs : List UInt8} (h : bs.length = n) (x : List UInt8) :
    pqGetmsgbytes n (bs ++ x) = .ok (bs, x) :=
  pqGetmsgbytes_eq_ok.2 ⟨h, rfl⟩

theorem encodes_unpack (c : Codes) {s : List UInt8} {r : NeonResponse} (h : Encodes c r s) :
    nmUnpackResponse c s = .ok r := by
  have hne : ∀ {a b : NeonMessageTag}, a ≠ b → c.tag a ≠ c.tag b := c.tag_inj.ne
  cases r with
  | existsResponse e =>
    obtain ⟨b, rfl, rfl⟩ := h
    simp [nmUnpackResponse, pqGetmsgbyte, pqGetmsgend, bind, Except.bind, pure, Except.pure]
  | nblocksResponse n =>
    obtain ⟨bs, hl, rfl, rfl⟩ := h
    simp [nmUnpackResponse, pqGetmsgbyte, pqGetmsgend, bind, Except.bind, hne, pqGetmsgint,
      pqGetmsgbytes_all hl, Except.map, pure, Except.pure]
  | getPageResponse page =>
    obtain ⟨hl, rfl⟩ := h
    simp [nmUnpackResponse, pqGetmsgbyte, pqGetmsgend, bind, Except.bind, hne,
      pqGetmsgbytes_all hl, pure, Except.pure]
  | errorResponse m =>
    obtain ⟨str, h0, rfl, rfl⟩ := h
    have hs : pqGetmsgrawstring (str ++ [0]) = .ok (str, []) := pqGetmsgrawstring_eq_ok.2 ⟨h0, rfl⟩
    simp [nmUnpackResponse, pqGetmsgbyte, pqGetmsgend, bind, Except.bind, hne, hs, pure, Except.pure]
  | dbSizeResponse d =>
    obtain ⟨bs, hl, rfl, rfl⟩ := h
    simp [nmUnpackResponse, pqGetmsgbyte, pqGetmsgend, bind, Except.bind, hne, pqGetmsgint64,
      pqGetmsgbytes_all hl, Except.map, pure, Except.pure]

theorem unpack_encodes (c : Codes) {s : List UInt8} {r : NeonResponse}
    (h : nmUnpackResponse c s = .ok r) : Encodes c r s := by
  simp only [nmUnpackResponse, except_bind_eq_ok, Prod.exists, pqGetmsgbyte_eq_ok] at h
  obtain ⟨t, rest, rfl, h⟩ := h
  repeat' split at h
  -- one goal per response tag; an unknown tag raises, and `simp` closes its goal
  all_goals
    subst_vars
    simp only [except_bind_eq_ok, Prod.exists, pqGetmsgbyte_eq_ok, pqGetmsgint_eq_ok,
      pqGetmsgbytes_eq_ok, pqGetmsgint64_eq_ok, pqGetmsgrawstring_eq_ok, pqGetmsgend_eq_ok, pure,
      Except.pure, Except.ok.injEq, exists_const, exists_and_left, exists_eq_left, reduceCtorEq] at h
  · obtain ⟨a, _, rfl, rfl, rfl⟩ := h; exact ⟨a, rfl, rfl⟩
  · obtain ⟨_, _, ⟨bs, ⟨hl, rfl⟩, rfl⟩, rfl, rfl⟩ := h; exact ⟨bs, hl, by simp, rfl⟩
  · obtain ⟨page, _, ⟨hl, rfl⟩, rfl, rfl⟩ := h; exact ⟨hl, by simp⟩
  · obtain ⟨_, _, ⟨bs, ⟨hl, rfl⟩, rfl⟩, rfl, rfl⟩ := h; exact ⟨bs, hl, by simp, rfl⟩
  · obtain ⟨str, _, ⟨h0, rfl⟩, rfl, rfl⟩ := h; exact ⟨str, h0, by simp, rfl⟩

theorem nmUnpackResponse_ok_iff (c : Codes) (s : List UInt8) (r : NeonResponse) :
    nmUnpackResponse c s = .ok r ↔ Encodes c r s :=
  ⟨unpack_encodes c, encodes_unpack c⟩

def encodeResponse (c : Codes) : NeonResponse → List UInt8
  | .existsResponse e => [c.tag .existsResponse, if e then 1 else 0]
  | .nblocksResponse n => c.tag .nblocksResponse :: bigEndian 4 n.toNat
  | .getPageResponse page => c.tag .getPageResponse :: page
  | .errorResponse m => c.tag .errorResponse :: (m.data.map fun ch => ch.toNat.toUInt8) ++ [0]
  | .dbSizeResponse d => c.tag .dbSizeResponse :: bigEndian 8 (d % 2 ^ 64).toNat

/-- The responses the C types can hold: a page of `BLCKSZ` bytes, a message of nonzero
bytes, and a size that fits an `int64`. -/
def NeonResponse.WellFormed (c : Codes) : NeonResponse → Prop
  | .getPageResponse page => page.length = c.blcksz
  | .errorResponse m => ∀ ch ∈ m.data, 0 < ch.toNat ∧ ch.toNat < 256
  | .dbSizeResponse d => -2 ^ 63 ≤ d ∧ d < 2 ^ 63
  | _ => True

theorem int64OfBits_of_lt {d : Int} (h₁ : -2 ^ 63 ≤ d) (h₂ : d < 2 ^ 63) :
    int64OfBits ((d % 2 ^ 64).toNat % 256 ^ 8) = d := by
  unfold int64OfBits; split <;> omega

theorem encodes_encodeResponse (c : Codes) {r : NeonResponse} (h : r.WellFormed c) :
    Encodes c r (encodeResponse c r) := by
  cases r with
  | existsResponse e => exact ⟨_, rfl, by cases e <;> rfl⟩
  | nblocksResponse n =>
    refine ⟨_, length_bigEndian 4 _, rfl, ?_⟩
    rw [ofBigEndian_bigEndian]
    exact (toUInt32_of_toNat (Nat.mod_eq_of_lt n.toNat_lt_size).symm).symm
  | getPageResponse page => exact ⟨h, rfl⟩
  | errorResponse m =>
    have hb : ∀ ch ∈ m.data, ch.toNat.toUInt8.toNat = ch.toNat := fun ch hc =>
      Nat.mod_eq_of_lt (h ch hc).2
    refine ⟨_, fun h0 => ?_, rfl, ?_⟩
    · obtain ⟨ch, hc, h0⟩ := List.mem_map.1 h0
      have := congrArg UInt8.toNat h0
      rw [hb ch hc] at this
      exact absurd this (Nat.pos_iff_ne_zero.1 (h ch hc).1)
    · obtain ⟨l⟩ := m
      show String.mk l = String.mk _
      rw [List.map_map]
      congr 1
      exact ((List.map_congr_left fun ch hc => by simp [hb ch hc]).trans (List.map_id l)).symm
  | dbSizeResponse d =>
    exact ⟨_, length_bigEndian 8 _, rfl, by rw [ofBigEndian_bigEndian, int64OfBits_of_lt h.1 h.2]⟩

/-- `nm_unpack_response` accepts exactly a response tag followed by that kind's body and
nothing more, and reads back every response the C types can hold as itself. -/
theorem nmUnpackResponse_accepts_encodings (c : Codes) :
    (∀ s r, nmUnpackResponse c s = .ok r ↔ Encodes c r s) ∧
      ∀ r, r.WellFormed c → nmUnpackResponse c (encodeResponse c r) = .ok r :=
  ⟨nmUnpackResponse_ok_iff c, fun _ h => encodes_unpack c (encodes_encodeResponse c h)⟩

def Codes.sample : Codes where
  tag
    | .existsRequest => 0
    | .nblocksRequest => 1
    | .getPageRequest => 2
    | .dbSizeRequest => 3
    | .existsResponse => 100
    | .nblocksResponse => 101
    | .getPageResponse => 102
    | .errorResponse => 103
    | .dbSizeResponse => 104
  tag_inj a b h := by cases a <;> cases b <;> first | rfl | exact absurd h (by decide)
  blcksz := 8192

/-- An `Exists` body of `2` reads as `true`, though no response encodes to it: the bytes
accepted are more than the encodings of the responses. -/
theorem nmUnpackResponse_exists_two_bodies :
    nmUnpackResponse .sample [100, 2] = .ok (.existsResponse true) ∧
      ∀ r, encodeResponse .sample r ≠ [100, 2] := by
  refine ⟨rfl, fun r => ?_⟩
  cases r with
  | existsResponse b => cases b <;> decide
  | _ => simp [encodeResponse, Codes.sample]

theorem nmUnpackResponse_trailing (c : Codes) {r : NeonResponse} {s x : List UInt8}
    (h : Encodes c r s) (hx : x ≠ []) : nmUnpackResponse c (s ++ x) = .error .invalidMessageFormat := by
  have hne : ∀ {a b : NeonMessageTag}, a ≠ b → c.tag a ≠ c.tag b := c.tag_inj.ne
  cases r with
  | existsResponse e =>
    obtain ⟨b, rfl, rfl⟩ := h
    simp [nmUnpackResponse, pqGetmsgbyte, pqGetmsgend, bind, Except.bind, hx]
  | nblocksResponse n =>
    obtain ⟨bs, hl, rfl, rfl⟩ := h
    simp [nmUnpackResponse, pqGetmsgbyte, pqGetmsgend, bind, Except.bind, hne, pqGetmsgint,
      pqGetmsgbytes_append hl, Except.map, hx]
  | getPageResponse page =>
    obtain ⟨hl, rfl⟩ := h
    simp [nmUnpackResponse, pqGetmsgbyte, pqGetmsgend, bind, Except.bind, hne,
      pqGetmsgbytes_append hl, hx]
  | errorResponse m =>
    obtain ⟨str, h0, rfl, rfl⟩ := h
    have hs : pqGetmsgrawstring (str ++ 0 :: x) = .ok (str, x) := pqGetmsgrawstring_eq_ok.2 ⟨h0, rfl⟩
    simp [nmUnpackResponse, pqGetmsgbyte, pqGetmsgend, bind, Except.bind, hne, hs, hx]
  | dbSizeResponse d =>
    obtain ⟨bs, hl, rfl, rfl⟩ := h
    simp [nmUnpackResponse, pqGetmsgbyte, pqGetmsgend, bind, Except.bind, hne, pqGetmsgint64,
      pqGetmsgbytes_append hl, Except.map, hx]

theorem nmUnpackResponse_unexpected_tag (c : Codes) {t : UInt8}
    (ht : ∀ r : NeonResponse, c.tag r.tag ≠ t) (rest : List UInt8) :
    nmUnpackResponse c (t :: rest) = .error (.unexpectedNeonMessageTag t) := by
  have h₁ := ht (.existsResponse true)
  have h₂ := ht (.nblocksResponse 0)
  have h₃ := ht (.getPageResponse [])
  have h₄ := ht (.dbSizeResponse 0)
  have h₅ := ht (.errorResponse "")
  simp only [NeonResponse.tag] at h₁ h₂ h₃ h₄ h₅
  simp [nmUnpackResponse, pqGetmsgbyte, bind, Except.bind, Ne.symm h₁, Ne.symm h₂, Ne.symm h₃,
    Ne.symm h₄, Ne.symm h₅]

/-- `nm_unpack_response` says what is wrong with what it refuses: bytes after a complete
response raise "invalid message format", and a first byte that is no response's tag raises
"unexpected neon message tag" with that byte. -/
theorem nmUnpackResponse_errors (c : Codes) :
    (∀ r s x, Encodes c r s → x ≠ [] → nmUnpackResponse c (s ++ x) = .error .invalidMessageFormat) ∧
      ∀ t rest, (∀ r : NeonResponse, c.tag r.tag ≠ t) →
        nmUnpackResponse c (t :: rest) = .error (.unexpectedNeonMessageTag t) :=
  ⟨fun _ _ _ h hx => nmUnpackResponse_trailing c h hx,
    fun _ rest ht => nmUnpackResponse_unexpected_tag c ht rest⟩

theorem nmUnpackResponse_errors_sample :
    Encodes .sample (.existsResponse true) [100, 1] ∧
      nmUnpackResponse .sample ([100, 1] ++ [7]) = .error .invalidMessageFormat ∧
      (∀ r : NeonResponse, Codes.sample.tag r.tag ≠ 2) ∧
      nmUnpackResponse .sample [2] = .error (.unexpectedNeonMessageTag 2) :=
  have ht : ∀ r : NeonResponse, Codes.sample.tag r.tag ≠ 2 := fun r => by
    cases r <;> simp [NeonResponse.tag, Codes.sample]
  ⟨⟨1, rfl, rfl⟩, (nmUnpackResponse_errors .sample).1 (.existsResponse true) [100, 1] [7]
    ⟨1, rfl, rfl⟩ (List.cons_ne_nil _ _), ht, (nmUnpackResponse_errors .sample).2 2 [] ht⟩

/-- `pq_sendint32`. -/
def pqSendint32 (i : UInt32) : List UInt8 := bigEndian 4 i.toNat

/-- `pq_sendint64`. -/
def pqSendint64 (i : UInt64) : List UInt8 := bigEndian 8 i.toNat

/-- The byte `pq_sendbyte` writes for a `bool`. -/
def byteOfBool (b : Bool) : UInt8 := if b then 1 else 0

/-- `nm_pack_request`. Its `ERROR` for a response tag has no counterpart here: the model's
requests are the four request kinds. -/
def nmPackRequest (c : Codes) : NeonRequest → List UInt8
  | .existsRequest latest lsn rnode forknum =>
    [c.tag .existsRequest, byteOfBool latest] ++ pqSendint64 lsn ++ pqSendint32 rnode.spcNode ++
      pqSendint32 rnode.dbNode ++ pqSendint32 rnode.relNode ++ [forknum.toByte]
  | .nblocksRequest latest lsn rnode forknum =>
    [c.tag .nblocksRequest, byteOfBool latest] ++ pqSendint64 lsn ++ pqSendint32 rnode.spcNode ++
      pqSendint32 rnode.dbNode ++ pqSendint32 rnode.relNode ++ [forknum.toByte]
  | .dbSizeRequest latest lsn dbNode =>
    [c.tag .dbSizeRequest, byteOfBool latest] ++ pqSendint64 lsn ++ pqSendint32 dbNode
  | .getPageRequest latest lsn rnode forknum blkno =>
    [c.tag .getPageRequest, byteOfBool latest] ++ pqSendint64 lsn ++ pqSendint32 rnode.spcNode ++
      pqSendint32 rnode.dbNode ++ pqSendint32 rnode.relNode ++ [forknum.toByte] ++
      pqSendint32 blkno

def parseRelFork (s : List UInt8) : Option (RelFileNode × ForkNumber × List UInt8) := do
  let (spcNode, s) ← (pqGetmsgint 4 s).toOption
  let (dbNode, s) ← (pqGetmsgint 4 s).toOption
  let (relNode, s) ← (pqGetmsgint 4 s).toOption
  let (fork, s) ← (pqGetmsgbyte s).toOption
  let forknum ← ForkNumber.ofByte? fork
  pure (⟨spcNode.toUInt32, dbNode.toUInt32, relNode.toUInt32⟩, forknum, s)

/-- A request read back in the protocol's request layout: the tag, `u8 latest`, `u64 lsn`,
then the kind's fields, and nothing after them. Modelled from the spec; the page server's
decoder is not in this repository. -/
def parseRequest (c : Codes) (s : List UInt8) : Option NeonRequest := do
  let (tag, s) ← (pqGetmsgbyte s).toOption
  let (latest, s) ← (pqGetmsgbyte s).toOption
  let (lsn, s) ← (pqGetmsgint 8 s).toOption
  let latest := latest != 0
  let lsn := lsn.toUInt64
  if tag = c.tag .dbSizeRequest then
    let (dbNode, s) ← (pqGetmsgint 4 s).toOption
    (pqGetmsgend s).toOption
    pure (.dbSizeRequest latest lsn dbNode.toUInt32)
  else
    let (rnode, forknum, s) ← parseRelFork s
    if tag = c.tag .existsRequest then
      (pqGetmsgend s).toOption
      pure (.existsRequest latest lsn rnode forknum)
    else if tag = c.tag .nblocksRequest then
      (pqGetmsgend s).toOption
      pure (.nblocksRequest latest lsn rnode forknum)
    else if tag = c.tag .getPageRequest then
      let (blkno, s) ← (pqGetmsgint 4 s).toOption
      (pqGetmsgend s).toOption
      pure (.getPageRequest latest lsn rnode forknum blkno.toUInt32)
    else none

theorem pqGetmsgint_append (w n : Nat) (rest : List UInt8) :
    pqGetmsgint w (bigEndian w n ++ rest) = .ok (n % 256 ^ w, rest) := by
  rw [pqGetmsgint_eq_ok]; exact ⟨_, ⟨length_bigEndian w n, rfl⟩, (ofBigEndian_bigEndian w n).symm⟩

theorem pqGetmsgint_append_of_lt {w n : Nat} (h : n < 256 ^ w) (rest : List UInt8) :
    pqGetmsgint w (bigEndian w n ++ rest) = .ok (n, rest) := by
  rw [pqGetmsgint_append, Nat.mod_eq_of_lt h]

@[simp] theorem pqSendint32_read (i : UInt32) (rest : List UInt8) :
    pqGetmsgint 4 (pqSendint32 i ++ rest) = .ok (i.toNat, rest) :=
  pqGetmsgint_append_of_lt i.toNat_lt_size rest

@[simp] theorem pqSendint64_read (i : UInt64) (rest : List UInt8) :
    pqGetmsgint 8 (pqSendint64 i ++ rest) = .ok (i.toNat, rest) :=
  pqGetmsgint_append_of_lt i.toNat_lt_size rest

@[simp] theorem byteOfBool_ne_zero (b : Bool) : (byteOfBool b != 0) = b := by cases b <;> rfl

@[simp] theorem toUInt32_toNat (n : UInt32) : n.toNat.toUInt32 = n := toUInt32_of_toNat rfl

@[simp] theorem toUInt64_toNat (n : UInt64) : n.toNat.toUInt64 = n :=
  UInt64.toNat.inj (Nat.mod_eq_of_lt n.toNat_lt_size)

@[simp] theorem pqSendint32_read_all (i : UInt32) : pqGetmsgint 4 (pqSendint32 i) = .ok (i.toNat, []) := by
  simpa using pqSendint32_read i []

@[simp] theorem parseRelFork_pack (rnode : RelFileNode) (f : ForkNumber) (rest : List UInt8) :
    parseRelFork (pqSendint32 rnode.spcNode ++ (pqSendint32 rnode.dbNode ++
      (pqSendint32 rnode.relNode ++ f.toByte :: rest))) = some (rnode, f, rest) := by
  simp [parseRelFork, pqGetmsgbyte, Except.toOption, bind, Option.bind]

theorem parseRequest_nmPackRequest_eq (c : Codes) (r : NeonRequest) :
    parseRequest c (nmPackRequest c r) = some r := by
  have hne : ∀ {a b : NeonMessageTag}, a ≠ b → c.tag a ≠ c.tag b := c.tag_inj.ne
  cases r <;> simp [parseRequest, nmPackRequest, pqGetmsgbyte, pqGetmsgend, hne, bind,
    Option.bind, Except.toOption]

/-- A request packed by `nm_pack_request` reads back, in the protocol's request layout, as
itself with no byte left over, so distinct requests are packed into distinct bytes. -/
theorem nmPackRequest_parses_back (c : Codes) :
    (∀ r, parseRequest c (nmPackRequest c r) = some r) ∧ Function.Injective (nmPackRequest c) :=
  ⟨parseRequest_nmPackRequest_eq c, fun r₁ r₂ h => Option.some.inj <|
    (parseRequest_nmPackRequest_eq c r₁).symm.trans (h ▸ parseRequest_nmPackRequest_eq c r₂)⟩

example : nmPackRequest .sample (.existsRequest true 5 ⟨1, 2, 3⟩ .fsm) =
    [0, 1, 0, 0, 0, 0, 0, 0, 0, 5, 0, 0, 0, 1, 0, 0, 0, 2, 0, 0, 0, 3, 1] := by decide

end PagestoreSmgr
