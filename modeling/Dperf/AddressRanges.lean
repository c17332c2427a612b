import Dperf.Neighbour

/-!
The address ranges in memory: `struct ip_range`, `ip_range_init`, `ip_range_add` and
`ip_range_exist`.

* `IpRangeMem`: the struct with its two arrays. `addrs` are the addresses `list[0..num)`.
* `Represents`: the struct holds a range of the configuration. A new range does
  (`ipRangeInit_represents`), and what is added to it follows `ipRangeAdd`
  (`ipRangeAdd_represents`).
* `IpRange.Kept`: the last bytes of a range are distinct, and none is 255. The last byte 0 is the
  one of the start, or it is free.
* `ipRange_never`: a range that starts at the last byte 0 has an address that the comment forbids;
  any other takes the address 0 for one of its own.
-/

namespace Dperf

/-! ### What a range keeps -/

/-- The last bytes of a range are distinct, and none is 255. Only the one of the start may be 0. -/
structure IpRange.Kept (r : IpRange) : Prop extends r.Sound where
  nodup : (r.list.map (· &&& 0xff)).Nodup
  low : ∀ a ∈ r.list, (a &&& 0xff).toNat < 255
  ne_zero : ∀ a ∈ r.list, a ≠ 0
  start_mem : r.start.ip ∈ r.list
  free : r.start.lastByte ≠ 0 → r.valid 0 = 0

lemma ipRangeInit_kept {start : IpAddr} {num : Int32} {r : IpRange}
    (h : ipRangeInit start num = some r) : r.start = start ∧ r.Kept := by
  have hsound := ipRangeInit_sound h
  obtain ⟨k, hk, -, hlt, hlist, hlast, hvalid⟩ := ipRangeInit_some h
  have hbyte := toNat_lastByte start
  have hmem : ∀ a, a ∈ r.list ↔ ∃ i < k, start.ip + UInt32.ofNat i = a := by
    intro a
    rw [hlist]
    simp only [List.mem_map, List.mem_range]
  have hlow : ∀ i < k, (start.ip + UInt32.ofNat i &&& 0xff).toNat = start.lastByte.toNat + i := by
    intro i hi
    rw [toNat_and_ff, toNat_add_ofNat hlt hi]
    omega
  rw [ipRangeInit] at h
  split_ifs at h with hbad
  have hstart : r.start = start := by rw [← Option.some.inj h]
  rw [not_or] at hbad
  refine ⟨hstart, hsound, ?_, fun a ha => ?_, fun a ha hzero => ?_, ?_, fun hne => ?_⟩
  · rw [hlist, List.map_map]
    refine List.nodup_range.map_on fun i hi j hj heq => ?_
    have heq' := congrArg UInt32.toNat heq
    rw [Function.comp_apply, Function.comp_apply, hlow i (List.mem_range.mp hi),
      hlow j (List.mem_range.mp hj)] at heq'
    omega
  · obtain ⟨i, hi, rfl⟩ := (hmem a).mp ha
    rw [hlow i hi]
    omega
  · obtain ⟨i, hi, rfl⟩ := (hmem a).mp ha
    -- the sum does not wrap, and its first part is not 0
    have hsum := toNat_add_ofNat hlt hi
    rw [hzero, UInt32.toNat_zero] at hsum
    exact hbad.1 (UInt32.toNat_inj.mp (by rw [UInt32.toNat_zero]; omega))
  · rw [hstart, hmem]
    exact ⟨0, hk, UInt32.add_zero _⟩
  · rw [hstart] at hne
    have hpos : 0 < start.lastByte.toNat :=
      Nat.pos_of_ne_zero fun hz => hne (UInt32.toNat_inj.mp hz)
    rw [hvalid, if_neg]
    rw [UInt32.toNat_sub, UInt32.toNat_zero]
    omega

lemma ipRangeAdd_kept {r r' : IpRange} {addr : IpAddr} (h : r.Kept)
    (hadd : ipRangeAdd r addr = some r') : r'.start = r.start ∧ r'.Kept := by
  have hsound := ipRangeAdd_sound h.toSound hadd
  have hlist := (ipRangeAdd_some hadd).1
  rw [ipRangeAdd] at hadd
  dsimp only at hadd
  split_ifs at hadd with hlen hpad hbyte hfree
  have hstart : r'.start = r.start := by rw [← Option.some.inj hadd]
  have hvalid : r'.valid = Function.update r.valid addr.lastByte addr.ip := by
    rw [← Option.some.inj hadd]
  rw [not_or] at hbyte
  have hlow := toNat_and_ff addr.ip
  -- the new address has a last byte that none of the others has
  have hnew : addr.ip &&& 0xff ∉ r.list.map (· &&& 0xff) := by
    intro hmem
    obtain ⟨a, ha, heq⟩ := List.mem_map.mp hmem
    have hzero := h.listed a ha
    rw [heq] at hzero
    exact h.ne_zero a ha (hzero.symm.trans hfree)
  refine ⟨hstart, hsound, ?_, ?_, ?_, ?_, fun hne => ?_⟩
  · rw [hlist, List.map_append]
    exact h.nodup.append (List.nodup_singleton _) (by simpa using hnew)
  · rw [hlist]
    intro a ha
    rcases List.mem_append.mp ha with ha | ha
    · exact h.low a ha
    · have hne : (addr.ip &&& 0xff).toNat ≠ 255 := fun heq => hbyte.2 (UInt32.toNat_inj.mp heq)
      rw [List.mem_singleton.mp ha]
      omega
  · rw [hlist]
    intro a ha
    rcases List.mem_append.mp ha with ha | ha
    · exact h.ne_zero a ha
    · rw [List.mem_singleton.mp ha]
      intro hzero
      rw [IpAddr.lastByte, hzero] at hbyte
      exact hbyte.1 rfl
  · rw [hlist, hstart]
    exact List.mem_append_left _ h.start_mem
  · rw [hvalid, Function.update_of_ne (Ne.symm hbyte.1)]
    rw [hstart] at hne
    exact h.free hne

lemma IpRange.Kept.valid_zero {r : IpRange} (h : r.Kept) :
    r.valid 0 = 0 ↔ r.start.lastByte ≠ 0 := by
  refine ⟨fun hfree hzero => ?_, h.free⟩
  have hlisted := h.listed _ h.start_mem
  rw [← IpAddr.lastByte, hzero, hfree] at hlisted
  exact h.ne_zero _ h.start_mem hlisted.symm

namespace Wire

open Memory

/-! ### The struct -/

/-- `ipaddr_last_byte`, which is also `byte[15]`. -/
def In6Addr.lastByte (a : In6Addr) : UInt8 := a.bytes.getD 15 0

/-- `struct ip_range`. -/
structure IpRangeMem where
  start : In6Addr
  list : ℕ → UInt32
  valid : ℕ → UInt32
  num : UInt8

namespace IpRangeMem

/-- A zeroed range. -/
def zero : IpRangeMem := ⟨⟨0, 0, 0, 0⟩, fun _ => 0, fun _ => 0, 0⟩

/-- A turn of the loop of `ip_range_init`. -/
def ipRangeInitStep (lastByte ip : UInt32) (r : IpRangeMem) (i : ℕ) : IpRangeMem :=
  let t := htonl (htonl ip + UInt32.ofNat i)
  { r with
    list := Function.update r.list i t
    valid := Function.update r.valid (lastByte + UInt32.ofNat i).toNat t }

/-- `ip_range_init`: what it returns, and the range that it leaves. -/
def ipRangeInit (r : IpRangeMem) (start : In6Addr) (num : Int32) : Int32 × IpRangeMem :=
  let lastByte := start.lastByte.toUInt32
  let ip := start.w3
  if ip = 0 ∨ num ≤ 0 ∨ 255 ≤ lastByte + num.toUInt32 - 1 then (-1, r)
  else
    let r := (List.range num.toUInt32.toNat).foldl (ipRangeInitStep lastByte ip) r
    (0, { r with start := start, num := num.toUInt32.toUInt8 })

/-- `ip_range_add`: what it returns, and the range that it leaves. -/
def ipRangeAdd (r : IpRangeMem) (addr : In6Addr) : Int32 × IpRangeMem :=
  if r.num = 0 ∨ 255 ≤ r.num then (-1, r)
  else if r.start.bytes.take 14 ≠ addr.bytes.take 14 then (-1, r)
  else
    let last := addr.lastByte
    if last = 0 ∨ last = 255 then (-1, r)
    else if r.valid last.toNat = 0 then
      (0, { r with
        list := Function.update r.list r.num.toNat addr.w3
        valid := Function.update r.valid last.toNat addr.w3
        num := r.num + 1 })
    else (-1, r)

/-- `ip_range_exist`. -/
def ipRangeExist (r : IpRangeMem) (ip : UInt32) : Bool :=
  Wire.ipRangeExist (fun b => r.valid b.toNat) ip

/-- One call of `ip_range_add` after the other. -/
def addAll (r : IpRangeMem) (addrs : List In6Addr) : IpRangeMem :=
  addrs.foldl (fun r addr => (r.ipRangeAdd addr).2) r

/-- The addresses of the range, `list[0..num)`. -/
def addrs (r : IpRangeMem) : List UInt32 := (List.range r.num.toNat).map r.list

/-- A refused start leaves the range as it was. -/
lemma ipRangeInit_unchanged (r : IpRangeMem) {start : In6Addr} {num : Int32}
    (h : (r.ipRangeInit start num).1 = -1) : (r.ipRangeInit start num).2 = r := by
  rw [ipRangeInit] at h ⊢
  dsimp only at h ⊢
  split_ifs at h ⊢ with hbad
  · rfl
  · have hzero : (0 : Int32) = -1 := h
    exact absurd hzero (by decide)

/-- A refused address leaves the range as it was. -/
lemma ipRangeAdd_unchanged (r : IpRangeMem) {addr : In6Addr} (h : (r.ipRangeAdd addr).1 = -1) :
    (r.ipRangeAdd addr).2 = r := by
  rw [ipRangeAdd] at h ⊢
  dsimp only at h ⊢
  split_ifs at h ⊢ with hnum hpre hlast hfree
  · rfl
  · rfl
  · rfl
  · have hzero : (0 : Int32) = -1 := h
    exact absurd hzero (by decide)
  · rfl

end IpRangeMem

/-! ### Addresses in memory -/

/-- The address that stands in memory. -/
def hostAddr (a : In6Addr) : IpAddr where
  pad := BitVec.ofNat 96 (a.w0.toNat + 2 ^ 32 * a.w1.toNat + 2 ^ 64 * a.w2.toNat)
  ip := htonl a.w3

section Addr

variable {a b : In6Addr}

lemma toNat_pad_hostAddr (a : In6Addr) :
    (hostAddr a).pad.toNat = a.w0.toNat + 2 ^ 32 * a.w1.toNat + 2 ^ 64 * a.w2.toNat := by
  have h0 := a.w0.toNat_lt
  have h1 := a.w1.toNat_lt
  have h2 := a.w2.toNat_lt
  rw [hostAddr, BitVec.toNat_ofNat]
  exact Nat.mod_eq_of_lt (by omega)

/-- Every sixteen bytes are an address: `hostAddr` is the one that stands in them. -/
lemma inMemory_hostAddr (a : In6Addr) : inMemory (hostAddr a) = a := by
  have h0 := a.w0.toNat_lt
  have h1 := a.w1.toNat_lt
  have hw : ∀ {n : ℕ} {w : UInt32}, n % 2 ^ 32 = w.toNat → UInt32.ofNat n = w := by
    intro n w h
    apply UInt32.toNat_inj.mp
    rw [UInt32.toNat_ofNat', h]
  rw [inMemory, toNat_pad_hostAddr]
  congr
  · exact hw (by omega)
  · exact hw (by omega)
  · have h2 := a.w2.toNat_lt
    exact hw (by omega)
  · exact htonl_htonl a.w3

lemma le16_injective : Function.Injective le16 := by
  intro v w h
  obtain ⟨hlo, htail⟩ := List.cons.inj h
  have hhi := (List.cons.inj htail).1
  have hv := v.toNat_lt
  have hw := w.toNat_lt
  replace hlo := congrArg UInt8.toNat hlo
  replace hhi := congrArg UInt8.toNat hhi
  rw [UInt8.toNat_ofNat', UInt8.toNat_ofNat'] at hlo hhi
  apply UInt16.toNat_inj.mp
  omega

lemma le32_injective : Function.Injective le32 := by
  intro v w h
  obtain ⟨hlo, hhi⟩ := List.append_inj h rfl
  have hv := v.toNat_lt
  have hw := w.toNat_lt
  replace hlo := congrArg UInt16.toNat (le16_injective hlo)
  replace hhi := congrArg UInt16.toNat (le16_injective hhi)
  rw [UInt16.toNat_ofNat', UInt16.toNat_ofNat'] at hlo hhi
  apply UInt32.toNat_inj.mp
  omega

/-- The parts of an address that `ip_range_add` compares. -/
lemma take_bytes (a : In6Addr) :
    a.bytes.take 14 = le32 a.w0 ++ le32 a.w1 ++ le32 a.w2 ++ le16 (UInt16.ofNat a.w3.toNat) := by
  rw [In6Addr.bytes, le32, le32, le32, le32]
  rfl

lemma htons_injective : Function.Injective htons := Function.LeftInverse.injective htons_htons

/-- The upper half of an address in network order is the lower half of the word. -/
lemma htonl_shiftRight (v : UInt32) :
    (htonl v >>> 16).toNat = (htons (UInt16.ofNat v.toNat)).toNat := by
  have hhi := (htons (UInt16.ofNat (v.toNat / 65536))).toNat_lt
  rw [toNat_shift, toNat_htonl]
  omega

/-- The first 14 bytes are the upper words and the upper half of the last one. -/
lemma take_bytes_inj :
    a.bytes.take 14 = b.bytes.take 14 ↔
      (hostAddr a).pad = (hostAddr b).pad ∧ (hostAddr a).ip >>> 16 = (hostAddr b).ip >>> 16 := by
  have hpad : (hostAddr a).pad = (hostAddr b).pad ↔ a.w0 = b.w0 ∧ a.w1 = b.w1 ∧ a.w2 = b.w2 := by
    have h0 := a.w0.toNat_lt
    have h0' := b.w0.toNat_lt
    have h1 := a.w1.toNat_lt
    have h1' := b.w1.toNat_lt
    rw [← BitVec.toNat_inj, toNat_pad_hostAddr, toNat_pad_hostAddr, ← UInt32.toNat_inj,
      ← UInt32.toNat_inj, ← UInt32.toNat_inj]
    omega
  have hhalf : (hostAddr a).ip >>> 16 = (hostAddr b).ip >>> 16 ↔
      UInt16.ofNat a.w3.toNat = UInt16.ofNat b.w3.toNat := by
    rw [← UInt32.toNat_inj, hostAddr, hostAddr, htonl_shiftRight, htonl_shiftRight,
      UInt16.toNat_inj, htons_injective.eq_iff]
  rw [hpad, hhalf, take_bytes, take_bytes]
  constructor
  · intro h
    obtain ⟨h, h3⟩ := List.append_inj h rfl
    obtain ⟨h, h2⟩ := List.append_inj h rfl
    obtain ⟨h0, h1⟩ := List.append_inj h rfl
    exact ⟨⟨le32_injective h0, le32_injective h1, le32_injective h2⟩, le16_injective h3⟩
  · rintro ⟨⟨h0, h1, h2⟩, h3⟩
    rw [h0, h1, h2, h3]

/-- The last byte is the same in both forms. -/
lemma toUInt32_lastByte (a : In6Addr) : a.lastByte.toUInt32 = (hostAddr a).lastByte := by
  have hbyte : a.lastByte = UInt8.ofNat ((UInt16.ofNat (a.w3.toNat / 65536)).toNat / 256) := by
    rw [In6Addr.lastByte, In6Addr.bytes, le32, le32, le32, le32]
    rfl
  have hw := a.w3.toNat_lt
  apply UInt32.toNat_inj.mp
  rw [UInt8.toNat_toUInt32, hbyte, toNat_lastByte, hostAddr, toNat_htonl]
  simp only [toNat_htons, UInt8.toNat_ofNat', UInt16.toNat_ofNat']
  omega

end Addr

/-! ### The struct holds a range -/

/-- The struct holds the range. -/
structure Represents (m : IpRangeMem) (r : IpRange) : Prop where
  start : hostAddr m.start = r.start
  num : m.num.toNat = r.list.length
  addrs : m.addrs = r.list.map htonl
  valid : ∀ b : UInt8, m.valid b.toNat = htonl (r.valid b.toUInt32)

/-- The arrays after the loop of `ip_range_init`: by induction on the turns. -/
lemma foldl_ipRangeInitStep {lastByte : UInt32} (ip : UInt32) (m : IpRangeMem) {k : ℕ}
    (hk : lastByte.toNat + k ≤ 255) :
    let m' := (List.range k).foldl (IpRangeMem.ipRangeInitStep lastByte ip) m
    (∀ i < k, m'.list i = htonl (htonl ip + UInt32.ofNat i)) ∧
      ∀ j, m'.valid j = if lastByte.toNat ≤ j ∧ j < lastByte.toNat + k then
        htonl (htonl ip + UInt32.ofNat (j - lastByte.toNat)) else m.valid j := by
  induction k with
  | zero =>
      refine ⟨nofun, fun j => ?_⟩
      rw [if_neg (by omega)]
      rfl
  | succ k ih =>
      obtain ⟨hlist, hvalid⟩ := ih (by omega)
      have hindex : (lastByte + UInt32.ofNat k).toNat = lastByte.toNat + k := by
        have hof : (UInt32.ofNat k).toNat = k :=
          UInt32.toNat_ofNat_of_lt' (by change _ < 2 ^ 32; omega)
        rw [UInt32.toNat_add, hof]
        exact Nat.mod_eq_of_lt (by omega)
      dsimp only
      rw [List.range_succ, List.foldl_append, List.foldl_cons, List.foldl_nil,
        IpRangeMem.ipRangeInitStep, hindex]
      refine ⟨fun i hi => ?_, fun j => ?_⟩
      · dsimp only
        by_cases hik : i = k
        · rw [hik, Function.update_self]
        · rw [Function.update_of_ne hik]
          exact hlist i (by omega)
      · dsimp only
        by_cases hjk : j = lastByte.toNat + k
        · rw [hjk, Function.update_self, if_pos (by omega), Nat.add_sub_cancel_left]
        · rw [Function.update_of_ne hjk, hvalid]
          exact if_congr (by omega) rfl rfl

/-- A new range is the one of the configuration. -/
lemma ipRangeInit_represents {start : In6Addr} {num : Int32}
    (h : (IpRangeMem.zero.ipRangeInit start num).1 = 0) :
    ∃ r, ipRangeInit (hostAddr start) num = some r ∧
      Represents (IpRangeMem.zero.ipRangeInit start num).2 r := by
  by_cases hbad : start.w3 = 0 ∨ num ≤ 0 ∨ 255 ≤ start.lastByte.toUInt32 + num.toUInt32 - 1
  · rw [IpRangeMem.ipRangeInit] at h
    dsimp only at h
    rw [if_pos hbad] at h
    have hzero : (-1 : Int32) = 0 := h
    exact absurd hzero (by decide)
  · have hhost : ¬ ((hostAddr start).ip = 0 ∨ num ≤ 0 ∨
        255 ≤ (hostAddr start).lastByte + num.toUInt32 - 1) := by
      rwa [← toUInt32_lastByte, hostAddr, htonl_eq_zero]
    obtain ⟨r, hr, hstart, hlen⟩ : ∃ r, ipRangeInit (hostAddr start) num = some r ∧
        r.start = hostAddr start ∧ r.list.length = num.toUInt32.toNat :=
      ⟨_, if_neg hhost, rfl, by rw [List.length_map, List.length_range]⟩
    obtain ⟨k, -, hk, -, hrlist, hlast, hrvalid⟩ := ipRangeInit_some hr
    refine ⟨r, hr, ?_⟩
    have hnum : num.toUInt32.toNat = k := by
      rw [← hlen, hrlist, List.length_map, List.length_range]
    have hnum8 : num.toUInt32.toUInt8.toNat = k := by
      rw [UInt32.toNat_toUInt8, hnum]
      exact Nat.mod_eq_of_lt (by omega)
    rw [← toUInt32_lastByte] at hlast
    obtain ⟨hlist, hvalid⟩ := foldl_ipRangeInitStep start.w3 IpRangeMem.zero hlast
    rw [IpRangeMem.ipRangeInit]
    dsimp only
    rw [if_neg hbad, hnum]
    refine ⟨hstart.symm, ?_, ?_, fun b => ?_⟩
    · rw [hlen, hnum]
      exact hnum8
    · rw [hrlist, List.map_map, IpRangeMem.addrs]
      dsimp only
      rw [hnum8]
      exact List.map_congr_left fun i hi => hlist i (List.mem_range.mp hi)
    · dsimp only
      rw [hvalid, hrvalid, ← toUInt32_lastByte]
      have hb := b.toNat_lt
      have hsub : (b.toUInt32 - start.lastByte.toUInt32).toNat =
          (2 ^ 32 - start.lastByte.toNat + b.toNat) % 2 ^ 32 := by
        rw [UInt32.toNat_sub, UInt8.toNat_toUInt32, UInt8.toNat_toUInt32]
      rw [UInt8.toNat_toUInt32] at hlast ⊢
      by_cases hin : start.lastByte.toNat ≤ b.toNat ∧ b.toNat < start.lastByte.toNat + k
      · have hdiff : b.toUInt32 - start.lastByte.toUInt32 =
            UInt32.ofNat (b.toNat - start.lastByte.toNat) := by
          apply UInt32.toNat_inj.mp
          rw [hsub, UInt32.toNat_ofNat']
          omega
        rw [if_pos hin, if_pos (by omega), hdiff]
        rfl
      · rw [if_neg hin, if_neg (by omega)]
        rfl

/-- An address more follows `ipRangeAdd`; a refused one changes neither. -/
lemma ipRangeAdd_represents {m : IpRangeMem} {r : IpRange} (h : Represents m r) (addr : In6Addr) :
    Represents (m.ipRangeAdd addr).2 ((ipRangeAdd r (hostAddr addr)).getD r) := by
  have hlast := toUInt32_lastByte addr
  have hnum : (m.num = 0 ∨ 255 ≤ m.num) ↔ r.list.length = 0 ∨ 255 ≤ r.list.length := by
    rw [← h.num, ← UInt8.toNat_inj, UInt8.le_iff_toNat_le]
    rfl
  have hpre : m.start.bytes.take 14 ≠ addr.bytes.take 14 ↔
      r.start.pad ≠ (hostAddr addr).pad ∨ r.start.ip >>> 16 ≠ (hostAddr addr).ip >>> 16 := by
    rw [ne_eq, take_bytes_inj, h.start, not_and_or]
  have hbyte : (addr.lastByte = 0 ∨ addr.lastByte = 255) ↔
      (hostAddr addr).lastByte = 0 ∨ (hostAddr addr).lastByte = 255 := by
    rw [← hlast, ← UInt32.toNat_inj, ← UInt32.toNat_inj, ← UInt8.toNat_inj, ← UInt8.toNat_inj,
      UInt8.toNat_toUInt32]
    rfl
  have hfree : m.valid addr.lastByte.toNat = 0 ↔ r.valid (hostAddr addr).lastByte = 0 := by
    rw [h.valid, htonl_eq_zero, hlast]
  rw [IpRangeMem.ipRangeAdd, ipRangeAdd]
  dsimp only
  by_cases hfull : m.num = 0 ∨ 255 ≤ m.num
  · rw [if_pos hfull, if_pos (hnum.mp hfull)]
    exact h
  rw [if_neg hfull, if_neg (mt hnum.mpr hfull)]
  by_cases hother : m.start.bytes.take 14 ≠ addr.bytes.take 14
  · rw [if_pos hother, if_pos (hpre.mp hother)]
    exact h
  rw [if_neg hother, if_neg (mt hpre.mpr hother)]
  by_cases hbad : addr.lastByte = 0 ∨ addr.lastByte = 255
  · rw [if_pos hbad, if_pos (hbyte.mp hbad)]
    exact h
  rw [if_neg hbad, if_neg (mt hbyte.mpr hbad)]
  by_cases hnew : m.valid addr.lastByte.toNat = 0
  swap
  · rw [if_neg hnew, if_neg (mt hfree.mpr hnew)]
    exact h
  rw [if_pos hnew, if_pos (hfree.mp hnew), Option.getD_some]
  -- the place behind the last address is written
  have hsucc : (m.num + 1).toNat = m.num.toNat + 1 := by
    rw [not_or, UInt8.le_iff_toNat_le] at hfull
    have hlt : m.num.toNat < 255 := not_le.mp hfull.2
    rw [UInt8.toNat_add]
    exact Nat.mod_eq_of_lt (by change _ + 1 < _; omega)
  refine ⟨h.start, ?_, ?_, fun b => ?_⟩
  · rw [List.length_append, List.length_singleton, ← h.num]
    exact hsucc
  · have hback : htonl (hostAddr addr).ip = addr.w3 := htonl_htonl addr.w3
    rw [List.map_append, List.map_singleton, ← h.addrs, hback, IpRangeMem.addrs, IpRangeMem.addrs]
    dsimp only
    rw [hsucc, List.range_succ, List.map_append, List.map_singleton, Function.update_self]
    congr 1
    refine List.map_congr_left fun i hi => Function.update_of_ne ?_ _ _
    exact (List.mem_range.mp hi).ne
  · dsimp only
    by_cases hb : b = addr.lastByte
    · rw [hb, Function.update_self, hlast, Function.update_self]
      exact (htonl_htonl addr.w3).symm
    · have hb' : b.toUInt32 ≠ (hostAddr addr).lastByte := by
        rwa [← hlast, ne_eq, UInt8.toUInt32_inj]
      rw [Function.update_of_ne (mt UInt8.toNat_inj.mp hb), Function.update_of_ne hb', h.valid]

/-! ### Runs -/

/-- The last byte of an address in network order. -/
def lastByteOf (ip : UInt32) : ℕ := (htonl ip).toNat % 256

/-- What the checks of addresses ask of a range: its addresses and their last bytes are distinct,
no last byte is 0 or 255, and the test for an address is right. -/
structure IpRangeMem.Right (m : IpRangeMem) : Prop where
  distinct : m.addrs.Nodup
  lastBytes : (m.addrs.map lastByteOf).Nodup
  usable : ∀ a ∈ m.addrs, 1 ≤ lastByteOf a ∧ lastByteOf a ≤ 254
  exist : ∀ ip, m.ipRangeExist ip = true ↔ ip ∈ m.addrs

namespace Represents

variable {m : IpRangeMem} {r : IpRange}

lemma mem_addrs (h : Represents m r) (ip : UInt32) : ip ∈ m.addrs ↔ htonl ip ∈ r.list := by
  rw [h.addrs, List.mem_map]
  constructor
  · rintro ⟨a, ha, rfl⟩
    rwa [htonl_htonl]
  · intro ha
    exact ⟨_, ha, htonl_htonl ip⟩

/-- Distinct last bytes, and so distinct addresses. -/
lemma nodup (h : Represents m r) (hk : r.Kept) :
    m.addrs.Nodup ∧ (m.addrs.map lastByteOf).Nodup := by
  have hbytes : m.addrs.map lastByteOf = (r.list.map (· &&& 0xff)).map UInt32.toNat := by
    rw [h.addrs, List.map_map, List.map_map]
    refine List.map_congr_left fun a _ => ?_
    rw [Function.comp_apply, Function.comp_apply, lastByteOf, htonl_htonl, toNat_and_ff]
  have hnodup : (m.addrs.map lastByteOf).Nodup := by
    rw [hbytes]
    exact hk.nodup.map fun _ _ => UInt32.toNat_inj.mp
  exact ⟨hnodup.of_map lastByteOf, hnodup⟩

/-- The last bytes can be used unless the range starts at the last byte 0. -/
lemma usable_iff (h : Represents m r) (hk : r.Kept) :
    (∀ a ∈ m.addrs, 1 ≤ lastByteOf a ∧ lastByteOf a ≤ 254) ↔ r.start.lastByte ≠ 0 := by
  constructor
  · intro husable hzero
    have hstart : htonl r.start.ip ∈ m.addrs := by
      rw [h.mem_addrs, htonl_htonl]
      exact hk.start_mem
    have hone := (husable _ hstart).1
    rw [lastByteOf, htonl_htonl, ← toNat_lastByte, hzero, UInt32.toNat_zero] at hone
    omega
  · intro hne a ha
    have hmem := (h.mem_addrs a).mp ha
    have hlow := hk.low _ hmem
    rw [toNat_and_ff] at hlow
    refine ⟨Nat.pos_of_ne_zero fun hzero => ?_, by rw [lastByteOf]; omega⟩
    -- the entry of the last byte 0 is free
    have hand : htonl a &&& 0xff = 0 := by
      apply UInt32.toNat_inj.mp
      rw [toNat_and_ff]
      exact hzero
    have hlisted := hk.listed _ hmem
    rw [hand, hk.free hne] at hlisted
    exact hk.ne_zero _ hmem hlisted.symm

/-- The test is right for every address but 0, and for 0 if the range starts at the last byte 0. -/
lemma exist_iff (h : Represents m r) (hk : r.Kept) (ip : UInt32) :
    (m.ipRangeExist ip = true ↔ ip ∈ m.addrs) ↔ ip ≠ 0 ∨ r.start.lastByte = 0 := by
  have hvalid : (fun b : UInt8 => m.valid b.toNat) = fun b => htonl (r.valid b.toUInt32) :=
    funext h.valid
  have hnot : ip = 0 → ip ∉ m.addrs := by
    rintro rfl hmem
    exact hk.ne_zero _ ((h.mem_addrs 0).mp hmem) rfl
  rw [IpRangeMem.ipRangeExist, hvalid, ipRangeExist_iff hk.toSound, ← h.mem_addrs, hk.valid_zero]
  tauto

/-- No range is as it should be. -/
lemma not_right (h : Represents m r) (hk : r.Kept) : ¬ m.Right := by
  intro hright
  have hne := (h.usable_iff hk).mp hright.usable
  exact ((h.exist_iff hk 0).mp (hright.exist 0)).elim (fun hz => hz rfl) hne

/-- A run of `ip_range_add`: by induction on the addresses. -/
lemma addAll (h : Represents m r) (hk : r.Kept) (addrs : List In6Addr) :
    ∃ r', r'.start = r.start ∧ r'.Kept ∧ Represents (m.addAll addrs) r' := by
  induction addrs generalizing m r with
  | nil => exact ⟨r, rfl, hk, h⟩
  | cons addr addrs ih =>
      have hstep := ipRangeAdd_represents h addr
      rcases hadd : Dperf.ipRangeAdd r (hostAddr addr) with _ | r₁
      · rw [hadd] at hstep
        exact ih hstep hk
      · rw [hadd] at hstep
        obtain ⟨hstart, hk₁⟩ := ipRangeAdd_kept hk hadd
        obtain ⟨r', hstart', hk', h'⟩ := ih hstep hk₁
        exact ⟨r', hstart'.trans hstart, hk', h'⟩

end Represents

/-- **Address ranges.** A refused call leaves the range as it was. After any run from a zeroed range
the addresses have distinct last bytes; these are in 1..254 if and only if the start does not have
the last byte 0, and the test for an address is right if and only if the address is not 0 or the
start has the last byte 0. So that no range is right as a whole. -/
theorem ipRange_never (start : In6Addr) (num : Int32) (addrs : List In6Addr) :
    (∀ m : IpRangeMem, (m.ipRangeInit start num).1 = -1 → (m.ipRangeInit start num).2 = m) ∧
    (∀ (m : IpRangeMem) (addr : In6Addr), (m.ipRangeAdd addr).1 = -1 → (m.ipRangeAdd addr).2 = m) ∧
    ((IpRangeMem.zero.ipRangeInit start num).1 = 0 →
      let m := (IpRangeMem.zero.ipRangeInit start num).2.addAll addrs
      m.addrs.Nodup ∧ (m.addrs.map lastByteOf).Nodup ∧
        ((∀ a ∈ m.addrs, 1 ≤ lastByteOf a ∧ lastByteOf a ≤ 254) ↔ start.lastByte ≠ 0) ∧
        (∀ ip, (m.ipRangeExist ip = true ↔ ip ∈ m.addrs) ↔ ip ≠ 0 ∨ start.lastByte = 0) ∧
        ¬ m.Right) := by
  refine ⟨fun m h => m.ipRangeInit_unchanged h, fun m addr h => m.ipRangeAdd_unchanged h,
    fun h => ?_⟩
  obtain ⟨r₀, hinit, hrep₀⟩ := ipRangeInit_represents h
  obtain ⟨hstart₀, hk₀⟩ := ipRangeInit_kept hinit
  obtain ⟨r, hstart, hk, hrep⟩ := hrep₀.addAll hk₀ addrs
  have hzero : r.start.lastByte = 0 ↔ start.lastByte = 0 := by
    rw [hstart, hstart₀, ← toUInt32_lastByte, ← UInt32.toNat_inj, ← UInt8.toNat_inj,
      UInt8.toNat_toUInt32]
    rfl
  obtain ⟨hnodup, hbytes⟩ := hrep.nodup hk
  refine ⟨hnodup, hbytes, ?_, fun ip => ?_, hrep.not_right hk⟩
  · rw [hrep.usable_iff hk, ne_eq, hzero]
  · rw [hrep.exist_iff hk, hzero]

/-- Two addresses from 10.0.0.1 on, and 10.0.0.9. -/
theorem ipRange_never_three :
    let m := (IpRangeMem.zero.ipRangeInit ⟨0, 0, 0, htonl 0x0a000001⟩ 2).2.addAll
      [⟨0, 0, 0, htonl 0x0a000009⟩]
    (∀ a ∈ m.addrs, 1 ≤ lastByteOf a ∧ lastByteOf a ≤ 254) ∧ ¬ m.Right := by
  have h := (ipRange_never ⟨0, 0, 0, htonl 0x0a000001⟩ 2
    [⟨0, 0, 0, htonl 0x0a000009⟩]).2.2 (by decide)
  exact ⟨h.2.2.1.mpr (by decide), h.2.2.2.2⟩

/-- 10.0.0.0 is accepted, and the range of 10.0.0.1 takes the address 0 for its own. -/
theorem ipRange_zero :
    (IpRangeMem.zero.ipRangeInit ⟨0, 0, 0, htonl 0x0a000000⟩ 1).1 = 0 ∧
    ¬ (IpRangeMem.zero.ipRangeInit ⟨0, 0, 0, htonl 0x0a000000⟩ 1).2.Right ∧
    (IpRangeMem.zero.ipRangeInit ⟨0, 0, 0, htonl 0x0a000001⟩ 1).1 = 0 ∧
    ¬ (IpRangeMem.zero.ipRangeInit ⟨0, 0, 0, htonl 0x0a000001⟩ 1).2.Right := by
  refine ⟨by decide, fun h => ?_, by decide, fun h => ?_⟩
  · have hone := (h.usable (htonl 0x0a000000) (by decide)).1
    exact absurd hone (by decide)
  · have hmem := (h.exist 0).mp (by decide)
    exact absurd hmem (by decide)

end Wire

end Dperf
