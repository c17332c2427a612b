import Dperf.Receive
import Dperf.Recycled

/-!
The lengths in a received frame: which bytes the TCP handlers read, and whether the frame has them.

* `GivesTcp`: the frame that `ipv4_input` or `ipv6_input` gives to its TCP handler.
* `InFrame`: the TCP header and the payload of `tcp_data_get` lie in that frame, one behind the
  other. Nothing on the way compares the lengths in the headers with the length of the frame.
* `Trimmed`: what is left of a frame without its options.
* `framesSafe_iff`: the lengths of the received frame that are read in bounds.
-/

namespace Dperf.Wire

open Memory

variable {n : ℕ} {m : RteMbuf}

/-! ### What is read -/

/-- Where `tcp_data_get` finds the payload. -/
def RteMbuf.payload (m : RteMbuf) : ℕ :=
  (if m.version = 4 then 34 else 54) + m.headers.th.off.toNat * 4

/-- The TCP header and the payload lie in the frame, and the data offset does not point into the
TCP header. -/
structure InFrame (m : RteMbuf) : Prop where
  header : mbufTcpHdr m.data + 20 ≤ m.dataLen
  thOff : 5 ≤ m.headers.th.off.toNat
  payload : m.payload + (tcpDataGet m.headers).2.toNat ≤ m.dataLen

/-- A function of the run loop gives the frame `m'` to its TCP handler. -/
def GivesTcp (input : L4Input n → L4Input n → L4Input n) (m m' : RteMbuf) : Prop :=
  ∀ tcpInput udpInput s, input tcpInput udpInput m s = tcpInput m' s

/-- The bytes of IP options that `ipv4_trim_options` takes out. -/
def ipv4Skip (m : RteMbuf) : ℕ := (m.data 14 &&& 0xF).toNat * 4 - 20

/-- The bytes of destination options that `ipv6_trim_options` takes out. -/
def ipv6Skip (m : RteMbuf) : ℕ := if m.data 20 = 60 then (m.data 55).toNat * 8 + 8 else 0

/-- A frame that gets to a TCP handler has the headers that are moved over its options, the TCP
header, and the payload. -/
def FramesSafe (n : ℕ) (p : PortSpace) (m : RteMbuf) : Prop :=
  (∀ m', GivesTcp (n := n) (ipv4Input p) m m' → 34 + ipv4Skip m ≤ m.dataLen ∧ InFrame m') ∧
  ∀ m', GivesTcp (n := n) (ipv6Input p) m m' → 54 + ipv6Skip m ≤ m.dataLen ∧ InFrame m'

/-! ### Which frames get there -/

/-- The tests of `ipv4_input` on the way to the TCP handler. -/
structure Ipv4ToTcp (m : RteMbuf) : Prop where
  type : get16 m.data 12 = htons 0x0800
  cksum : (m.ipCksumBad || m.l4CksumBad) = false
  whole : isFragmented m = false
  ihl : ¬ m.data 14 &&& 0xF < 5
  proto : m.data 23 = 6

/-- The tests of `ipv6_input` on the way to the TCP handler. -/
structure Ipv6ToTcp (m : RteMbuf) : Prop where
  type : get16 m.data 12 = htons 0x86DD
  cksum : m.l4CksumBad = false
  proto : m.data 20 = 6 ∨ m.data 20 = 60 ∧ m.data 54 = 6

/-- The frame after `ipv4_trim_options`, if it is called. -/
def ipv4Trimmed (m : RteMbuf) : RteMbuf :=
  if m.data 14 &&& 0xF ≠ 5 then (ipv4TrimOptions m).getD m else m

/-- The frame after `ipv6_trim_options`, if it is called. -/
def ipv6Trimmed (m : RteMbuf) : RteMbuf := if m.data 20 = 60 then (ipv6TrimOptions m).2 else m

lemma ipv4Input_gives (p : PortSpace) (h : Ipv4ToTcp m) :
    GivesTcp (n := n) (ipv4Input p) m (ipv4Trimmed m) := by
  intro tcpInput udpInput s
  rw [ipv4Input, ipv4Trimmed]
  dsimp only
  rw [if_pos h.type, h.cksum, h.whole, h.proto]
  by_cases hihl : m.data 14 &&& 0xF ≠ 5
  · rw [if_pos hihl, if_pos hihl, ipv4TrimOptions]
    dsimp only
    rw [if_neg h.ihl]
    rfl
  · rw [if_neg hihl, if_neg hihl]
    rfl

lemma ipv4Input_other (p : PortSpace) (h : ¬ Ipv4ToTcp m) (tcpInput tcpInput' udpInput : L4Input n)
    (s : Core n) : ipv4Input p tcpInput udpInput m s = ipv4Input p tcpInput' udpInput m s := by
  rw [ipv4Input, ipv4Input]
  dsimp only
  by_cases htype : get16 m.data 12 = htons 0x0800
  swap
  · rw [if_neg htype, if_neg htype]
  rw [if_pos htype, if_pos htype]
  by_cases hck : (m.ipCksumBad || m.l4CksumBad) = true
  · rw [if_pos hck, if_pos hck]
  rw [if_neg hck, if_neg hck]
  by_cases hfrag : isFragmented m = true
  · rw [if_pos hfrag, if_pos hfrag]
  rw [if_neg hfrag, if_neg hfrag]
  cases htrim : (if m.data 14 &&& 0xF ≠ 5 then ipv4TrimOptions m else some m) with
  | none => rfl
  | some m₁ =>
      dsimp only
      by_cases hproto : m.data 23 = 6
      · -- all tests are passed
        have hlow : ¬ m.data 14 &&& 0xF < 5 := by
          intro hlow
          by_cases hihl : m.data 14 &&& 0xF = 5
          · rw [hihl] at hlow
            exact absurd hlow (by decide)
          · rw [if_pos hihl, ipv4TrimOptions] at htrim
            dsimp only at htrim
            rw [if_pos hlow] at htrim
            cases htrim
        exact absurd ⟨htype, by simpa using hck, by simpa using hfrag, hlow, hproto⟩ h
      · rw [if_neg hproto, if_neg hproto]

lemma ipv6Input_gives (p : PortSpace) (h : Ipv6ToTcp m) :
    GivesTcp (n := n) (ipv6Input p) m (ipv6Trimmed m) := by
  intro tcpInput udpInput s
  rw [ipv6Input, ipv6Trimmed]
  dsimp only
  rw [if_pos h.type, h.cksum]
  rcases h.proto with hproto | ⟨hopt, hproto⟩
  · rw [hproto]
    rfl
  · rw [if_pos hopt, if_pos hopt, ipv6TrimOptions]
    dsimp only
    rw [hproto]
    rfl

lemma ipv6Input_other (p : PortSpace) (h : ¬ Ipv6ToTcp m) (tcpInput tcpInput' udpInput : L4Input n)
    (s : Core n) : ipv6Input p tcpInput udpInput m s = ipv6Input p tcpInput' udpInput m s := by
  have hdispatch : ∀ {proto : UInt8} (m₁ : RteMbuf), proto ≠ 6 →
      ipv6Dispatch p tcpInput udpInput proto m₁ s =
        ipv6Dispatch p tcpInput' udpInput proto m₁ s := by
    intro proto m₁ hproto
    rw [ipv6Dispatch, ipv6Dispatch, if_neg hproto, if_neg hproto]
  rw [ipv6Input, ipv6Input]
  dsimp only
  by_cases htype : get16 m.data 12 = htons 0x86DD
  swap
  · rw [if_neg htype, if_neg htype]
  rw [if_pos htype, if_pos htype]
  by_cases hck : m.l4CksumBad = true
  · rw [if_pos hck, if_pos hck]
  rw [if_neg hck, if_neg hck]
  by_cases hopt : m.data 20 = 60
  · rw [if_pos hopt, if_pos hopt]
    refine hdispatch _ fun hproto => ?_
    rw [ipv6TrimOptions] at hproto
    dsimp only at hproto
    split_ifs at hproto with hagain
    · cases hproto
    · exact h ⟨htype, by simpa using hck, .inr ⟨hopt, hproto⟩⟩
  · rw [if_neg hopt, if_neg hopt]
    exact hdispatch _ fun hproto => h ⟨htype, by simpa using hck, .inl hproto⟩

/-- A worker that holds nothing. -/
def Core.idle (n : ℕ) : Core n where
  worker := { pool := fun _ => {} }
  nic :=
    { issued := 0, freed := [], freePool := ⟨[], mbufFreePool_room⟩
      txQueue := ⟨0, [], txQueue_room⟩
      sent := [], kniMbufQueue := none, kni := [], calls := 0 }

lemma Core.idle_ne (n : ℕ) : (Core.idle n).onNic (mbufFree 0) ≠ Core.idle n := fun h => by
  cases congrArg (fun s => s.nic.freed) h

section Gives

variable {input : L4Input n → L4Input n → L4Input n} {m₁ m' : RteMbuf}

/-- There is one frame that a handler is given. -/
lemma GivesTcp.unique (h : GivesTcp input m m₁) (h' : GivesTcp input m m') : m' = m₁ := by
  classical
  by_contra hne
  have heq := h (fun x s => if x = m' then s.onNic (mbufFree 0) else s) (fun _ s => s) (.idle n)
  rw [h' _ _ _, if_pos rfl, if_neg fun hm => hne hm.symm] at heq
  exact Core.idle_ne n heq

/-- Where the handler does not matter, it is given nothing. -/
lemma not_givesTcp (h : ∀ tcpInput tcpInput' udpInput s,
    input tcpInput udpInput m s = input tcpInput' udpInput m s) : ¬ GivesTcp input m m' := by
  intro hgives
  have heq := h (fun _ s => s.onNic (mbufFree 0)) (fun _ s => s) (fun _ s => s) (.idle n)
  rw [hgives, hgives] at heq
  exact Core.idle_ne n heq

end Gives

/-! ### What is left of a frame -/

/-- The first `h` bytes of `data` are moved over the `skip` bytes behind them. -/
def moved (data : Mem) (h skip : ℕ) : Mem := fun i => put data skip (bytes data h) (i + skip)

section Moved

variable {data : Mem} {h skip i : ℕ}

lemma moved_lt (hi : i < h) : moved data h skip i = data i := by
  have hlen : i < (bytes data h).length := by
    rw [bytes, List.length_map, List.length_range]
    exact hi
  rw [moved, Nat.add_comm, put_of_mem hlen]
  simp only [bytes, List.getElem_map, List.getElem_range]

lemma moved_ge (hi : h ≤ i) : moved data h skip i = data (i + skip) := by
  rw [moved, put_ne]
  rw [bytes, List.length_map, List.length_range]
  omega

lemma get16_moved (hi : i + 1 < h) : get16 (moved data h skip) i = get16 data i := by
  rw [get16, get16, moved_lt (by omega), moved_lt hi]

end Moved

/-- What a TCP handler sees of the frame `m` in `m'`: `skip` bytes are gone before the TCP header,
which is at `hdr`, and the lengths are `totLen` and `plen`. -/
structure Trimmed (m m' : RteMbuf) (hdr skip : ℕ) (totLen plen : UInt16) : Prop where
  dataLen : m'.dataLen = m.dataLen - skip
  version : m'.version = m.version
  tcp : mbufTcpHdr m'.data = hdr
  off : m'.headers.th.off = m.data (hdr + skip + 12) >>> 4
  totLen : m'.headers.totLen = totLen
  ip6Plen : m'.headers.ip6Plen = plen

/-- The version keeps its four bits when the header length gets new ones. -/
lemma version_setIhl (x : UInt8) : ((x &&& 0xF0) ||| 5) >>> 4 = x >>> 4 := by
  rcases x with ⟨⟨x, hx⟩⟩
  revert x
  decide +kernel

/-- `ipv4_trim_options` on a frame that has its options. -/
lemma ipv4TrimOptions_eq (hihl : ¬ m.data 14 &&& 0xF < 5) (hskip : ipv4Skip m ≤ m.dataLen) :
    ipv4TrimOptions m = some { m with
      data := moved (put (put m.data 14 [(m.data 14 &&& 0xF0) ||| 5]) 16
        (le16 (htons (htons (get16 m.data 16) - UInt16.ofNat (ipv4Skip m))))) 34 (ipv4Skip m),
      dataLen := m.dataLen - ipv4Skip m } := by
  rw [ipv4TrimOptions]
  dsimp only
  rw [if_neg hihl, RteMbuf.adj]
  dsimp only
  rw [← ipv4Skip, if_neg (not_lt.mpr hskip)]
  rfl

/-- The frame after `ipv4_trim_options`, which has its options. -/
lemma ipv4Trimmed_eq (h : Ipv4ToTcp m) (hihl : m.data 14 &&& 0xF ≠ 5)
    (hskip : ipv4Skip m ≤ m.dataLen) :
    ipv4Trimmed m = { m with
      data := moved (put (put m.data 14 [(m.data 14 &&& 0xF0) ||| 5]) 16
        (le16 (htons (htons (get16 m.data 16) - UInt16.ofNat (ipv4Skip m))))) 34 (ipv4Skip m),
      dataLen := m.dataLen - ipv4Skip m } := by
  rw [ipv4Trimmed, if_pos hihl, ipv4TrimOptions_eq h.ihl hskip, Option.getD_some]

/-- `ipv6_trim_options` on a frame that has its options. -/
lemma ipv6TrimOptions_eq (hopt : m.data 20 = 60) (hproto : m.data 54 ≠ 60)
    (hskip : ipv6Skip m ≤ m.dataLen) :
    ipv6TrimOptions m = (m.data 54, { m with
      data := moved (put (put m.data 18 (le16 (htons (htons (get16 m.data 18) -
        UInt16.ofNat (ipv6Skip m))))) 20 [m.data 54]) 54 (ipv6Skip m),
      dataLen := m.dataLen - ipv6Skip m }) := by
  have hlen : ((m.data 55).toUInt16 * 8 + 8) = UInt16.ofNat (ipv6Skip m) := by
    rw [ipv6Skip, if_pos hopt, UInt16.ofNat_add, UInt16.ofNat_mul, ← UInt8.toNat_toUInt16,
      UInt16.ofNat_toNat]
    rfl
  have hlen' : ((m.data 55).toUInt16 * 8 + 8).toNat = ipv6Skip m := by
    have hbyte := (m.data 55).toNat_lt
    rw [hlen, UInt16.toNat_ofNat_of_lt']
    rw [ipv6Skip, if_pos hopt]
    change _ < 2 ^ 16
    omega
  rw [ipv6TrimOptions]
  dsimp only
  rw [if_neg hproto, hlen', hlen, RteMbuf.adj]
  dsimp only
  rw [if_neg (not_lt.mpr hskip)]
  rfl

/-- The frame after `ipv6_trim_options`, which has its options. -/
lemma ipv6Trimmed_eq (h : Ipv6ToTcp m) (hopt : m.data 20 = 60) (hskip : ipv6Skip m ≤ m.dataLen) :
    ipv6Trimmed m = { m with
      data := moved (put (put m.data 18 (le16 (htons (htons (get16 m.data 18) -
        UInt16.ofNat (ipv6Skip m))))) 20 [m.data 54]) 54 (ipv6Skip m),
      dataLen := m.dataLen - ipv6Skip m } := by
  have hproto : m.data 54 ≠ 60 := by
    rcases h.proto with h6 | ⟨-, h6⟩
    · rw [h6] at hopt
      exact absurd hopt (by decide)
    · rw [h6]
      decide
  rw [ipv6Trimmed, if_pos hopt, ipv6TrimOptions_eq hopt hproto hskip]

/-- `ipv4_trim_options` on a frame that has its options. -/
lemma ipv4Trimmed_trimmed (h : Ipv4ToTcp m) (hskip : ipv4Skip m ≤ m.dataLen) :
    Trimmed m (ipv4Trimmed m) 34 (ipv4Skip m)
      (htons (get16 m.data 16) - UInt16.ofNat (ipv4Skip m)) (htons (get16 m.data 18)) := by
  by_cases hihl : m.data 14 &&& 0xF = 5
  · have hzero : ipv4Skip m = 0 := by
      rw [ipv4Skip, hihl]
      rfl
    have htcp : mbufTcpHdr m.data = 34 := by
      rw [mbufTcpHdr, if_pos h.type]
    rw [ipv4Trimmed, if_neg (not_not.mpr hihl), hzero]
    refine ⟨rfl, rfl, htcp, ?_, ?_, rfl⟩
    · rw [RteMbuf.headers, htcp]
    · rw [RteMbuf.headers]
      exact (UInt16.sub_zero _).symm
  · rw [ipv4Trimmed_eq h hihl hskip]
    set data := put (put m.data 14 [(m.data 14 &&& 0xF0) ||| 5]) 16
      (le16 (htons (htons (get16 m.data 16) - UInt16.ofNat (ipv4Skip m)))) with hdata
    have htype : get16 (moved data 34 (ipv4Skip m)) 12 = htons 0x0800 := by
      rw [get16_moved (by decide), hdata, get16_put_ne (.inl (by decide)),
        get16_put_ne (.inl (by decide)), h.type]
    have hversion : (moved data 34 (ipv4Skip m) 14) >>> 4 = m.data 14 >>> 4 := by
      have hbyte : put m.data 14 [(m.data 14 &&& 0xF0) ||| 5] (14 + 0) =
          (m.data 14 &&& 0xF0) ||| 5 := put_of_mem Nat.zero_lt_one
      rw [moved_lt (by decide), hdata, put_ne (.inl (by decide)), hbyte, version_setIhl]
    have htcp : mbufTcpHdr (moved data 34 (ipv4Skip m)) = 34 := by
      rw [mbufTcpHdr, if_pos htype]
    refine ⟨rfl, hversion, htcp, ?_, ?_, ?_⟩
    · rw [RteMbuf.headers]
      dsimp only
      rw [htcp, moved_ge (by decide), hdata, put_ne (.inr (by rw [length_le16]; omega)),
        put_ne (.inr (by rw [List.length_singleton]; omega)), Nat.add_right_comm]
    · rw [RteMbuf.headers]
      dsimp only
      rw [get16_moved (by decide), hdata, get16_put, htons_htons]
    · rw [RteMbuf.headers]
      dsimp only
      rw [get16_moved (by decide), hdata, get16_put_ne (.inr (by rw [length_le16])),
        get16_put_ne (.inr (by rw [List.length_singleton]; omega))]

/-- `ipv6_trim_options` on a frame that has its options. -/
lemma ipv6Trimmed_trimmed (h : Ipv6ToTcp m) (hskip : ipv6Skip m ≤ m.dataLen) :
    Trimmed m (ipv6Trimmed m) 54 (ipv6Skip m) (htons (get16 m.data 16))
      (htons (get16 m.data 18) - UInt16.ofNat (ipv6Skip m)) := by
  have hne : ¬ htons 0x86DD = htons 0x0800 := by decide
  by_cases hopt : m.data 20 = 60
  · rw [ipv6Trimmed_eq h hopt hskip]
    set data := put (put m.data 18 (le16 (htons (htons (get16 m.data 18) -
      UInt16.ofNat (ipv6Skip m))))) 20 [m.data 54] with hdata
    have htype : get16 (moved data 54 (ipv6Skip m)) 12 = htons 0x86DD := by
      rw [get16_moved (by decide), hdata, get16_put_ne (.inl (by decide)),
        get16_put_ne (.inl (by decide)), h.type]
    have hversion : (moved data 54 (ipv6Skip m) 14) >>> 4 = m.data 14 >>> 4 := by
      rw [moved_lt (by decide), hdata, put_ne (.inl (by decide)), put_ne (.inl (by decide))]
    have htcp : mbufTcpHdr (moved data 54 (ipv6Skip m)) = 54 := by
      rw [mbufTcpHdr, htype, if_neg hne]
    refine ⟨rfl, hversion, htcp, ?_, ?_, ?_⟩
    · rw [RteMbuf.headers]
      dsimp only
      rw [htcp, moved_ge (by decide), hdata, put_ne (.inr (by rw [List.length_singleton]; omega)),
        put_ne (.inr (by rw [length_le16]; omega)), Nat.add_right_comm]
    · rw [RteMbuf.headers]
      dsimp only
      rw [get16_moved (by decide), hdata, get16_put_ne (.inl (by decide)),
        get16_put_ne (.inl (by decide))]
    · rw [RteMbuf.headers]
      dsimp only
      rw [get16_moved (by decide), hdata, get16_put_ne (.inl (by decide)), get16_put, htons_htons]
  · have hzero : ipv6Skip m = 0 := by
      rw [ipv6Skip, if_neg hopt]
    have htcp : mbufTcpHdr m.data = 54 := by
      rw [mbufTcpHdr, h.type, if_neg hne]
    rw [ipv6Trimmed, if_neg hopt, hzero]
    refine ⟨rfl, rfl, htcp, ?_, rfl, ?_⟩
    · rw [RteMbuf.headers, htcp]
    · rw [RteMbuf.headers]
      exact (UInt16.sub_zero _).symm

/-! ### Which lengths are read in bounds -/

/-- The length that the data offset field of a TCP header at `th` stands for. -/
def tcpOff (m : RteMbuf) (th : ℕ) : ℕ := (m.data (th + 12) >>> 4).toNat * 4

/-- The lengths of a frame to `ipv4_input`: it has a TCP header behind its options, of five words at
least; `tot_len` has room for the headers and is not beyond the frame. If `version` is not 4,
`tcp_data_get` takes the identification for `ip6_plen`. -/
structure Ipv4Consistent (m : RteMbuf) : Prop where
  header : 54 + ipv4Skip m ≤ m.dataLen
  thOff : 20 ≤ tcpOff m (34 + ipv4Skip m)
  length : if m.version = 4 then
      20 + ipv4Skip m + tcpOff m (34 + ipv4Skip m) ≤ (htons (get16 m.data 16)).toNat ∧
        14 + (htons (get16 m.data 16)).toNat ≤ m.dataLen
    else tcpOff m (34 + ipv4Skip m) ≤ (htons (get16 m.data 18)).toNat ∧
      54 + ipv4Skip m + (htons (get16 m.data 18)).toNat ≤ m.dataLen

/-- The lengths of a frame to `ipv6_input`: it has a TCP header behind its options, of five words at
least; `ip6_plen` has room for the options and the header and is not beyond the frame. If `version`
is 4, `tcp_data_get` takes the flow label for `tot_len`. -/
structure Ipv6Consistent (m : RteMbuf) : Prop where
  header : 74 + ipv6Skip m ≤ m.dataLen
  thOff : 20 ≤ tcpOff m (54 + ipv6Skip m)
  length : if m.version = 4 then
      20 + tcpOff m (54 + ipv6Skip m) ≤ (htons (get16 m.data 16)).toNat ∧
        14 + ipv6Skip m + (htons (get16 m.data 16)).toNat ≤ m.dataLen
    else ipv6Skip m + tcpOff m (54 + ipv6Skip m) ≤ (htons (get16 m.data 18)).toNat ∧
      54 + (htons (get16 m.data 18)).toNat ≤ m.dataLen

lemma ipv4Consistent_iff : Ipv4Consistent m ↔ 20 ≤ tcpOff m (34 + ipv4Skip m) ∧
    54 + ipv4Skip m ≤ m.dataLen ∧ if m.version = 4 then
      20 + ipv4Skip m + tcpOff m (34 + ipv4Skip m) ≤ (htons (get16 m.data 16)).toNat ∧
        14 + (htons (get16 m.data 16)).toNat ≤ m.dataLen
    else tcpOff m (34 + ipv4Skip m) ≤ (htons (get16 m.data 18)).toNat ∧
      54 + ipv4Skip m + (htons (get16 m.data 18)).toNat ≤ m.dataLen :=
  ⟨fun h => ⟨h.thOff, h.header, h.length⟩,
    fun ⟨hoff, hheader, hlength⟩ => ⟨hheader, hoff, hlength⟩⟩

lemma ipv6Consistent_iff : Ipv6Consistent m ↔ 20 ≤ tcpOff m (54 + ipv6Skip m) ∧
    74 + ipv6Skip m ≤ m.dataLen ∧ if m.version = 4 then
      20 + tcpOff m (54 + ipv6Skip m) ≤ (htons (get16 m.data 16)).toNat ∧
        14 + ipv6Skip m + (htons (get16 m.data 16)).toNat ≤ m.dataLen
    else ipv6Skip m + tcpOff m (54 + ipv6Skip m) ≤ (htons (get16 m.data 18)).toNat ∧
      54 + (htons (get16 m.data 18)).toNat ≤ m.dataLen :=
  ⟨fun h => ⟨h.thOff, h.header, h.length⟩,
    fun ⟨hoff, hheader, hlength⟩ => ⟨hheader, hoff, hlength⟩⟩

/-- A difference in 16 bits that wraps is too long for any frame. -/
lemma add_sub_le_iff {a b : UInt16} {d len : ℕ} (hlen : len < 65536) (hd : b.toNat ≤ d) :
    d + (a - b).toNat ≤ len ↔ b.toNat ≤ a.toNat ∧ d + a.toNat ≤ len + b.toNat := by
  have ha := a.toNat_lt
  have hb := b.toNat_lt
  rw [UInt16.toNat_sub]
  rcases Nat.lt_or_ge a.toNat b.toNat with hlt | hge
  · rw [Nat.mod_eq_of_lt (by omega)]
    omega
  · have hsum : 2 ^ 16 - b.toNat + a.toNat = 2 ^ 16 + (a.toNat - b.toNat) := by omega
    rw [hsum, Nat.add_mod_left, Nat.mod_eq_of_lt (by omega)]
    omega

/-- The same length in the 16 bits of `tcp_data_get`. -/
def tcpOff16 (m : RteMbuf) (th : ℕ) : UInt16 := (m.data (th + 12) >>> 4).toUInt16 * 4

/-- `data_len` of `tcp_data_get`, for a TCP header that was at `th`. -/
def payloadLen (m : RteMbuf) (th : ℕ) (totLen plen : UInt16) : UInt16 :=
  if m.version = 4 then totLen - (20 + tcpOff16 m th) else plen - tcpOff16 m th

/-- A frame is read in bounds by the lengths that the handler sees. -/
lemma Trimmed.inFrame_iff {m' : RteMbuf} {hdr skip : ℕ} {totLen plen : UInt16}
    (h : Trimmed m m' hdr skip totLen plen) : InFrame m' ↔
      20 ≤ tcpOff m (hdr + skip) ∧ hdr + 20 ≤ m.dataLen - skip ∧
        (if m.version = 4 then 34 else 54) + tcpOff m (hdr + skip) +
          (payloadLen m (hdr + skip) totLen plen).toNat ≤ m.dataLen - skip := by
  have hversion : m'.headers.version = m.version := h.version
  have hpay : (tcpDataGet m'.headers).2 = payloadLen m (hdr + skip) totLen plen := by
    rw [tcpDataGet, payloadLen, hversion, h.off, h.totLen, h.ip6Plen]
    split_ifs
    · rfl
    · rfl
  have hoff : 5 ≤ m'.headers.th.off.toNat ↔ 20 ≤ tcpOff m (hdr + skip) := by
    rw [h.off, tcpOff]
    omega
  constructor
  · intro hin
    have hheader := hin.header
    have hpayload := hin.payload
    rw [h.tcp, h.dataLen] at hheader
    rw [RteMbuf.payload, h.version, h.off, h.dataLen, hpay] at hpayload
    exact ⟨hoff.mp hin.thOff, hheader, hpayload⟩
  · rintro ⟨hthOff, hheader, hpayload⟩
    refine ⟨?_, hoff.mpr hthOff, ?_⟩
    · rwa [h.tcp, h.dataLen]
    · rwa [RteMbuf.payload, h.version, h.off, h.dataLen, hpay]

/-- The 16-bit numbers of `tcp_data_get`. -/
lemma toNat_tcpOff (m : RteMbuf) (th : ℕ) :
    (tcpOff16 m th).toNat = tcpOff m th ∧ (20 + tcpOff16 m th).toNat = 20 + tcpOff m th ∧
      tcpOff m th ≤ 60 := by
  have hbyte := (m.data (th + 12)).toNat_lt
  have hoff : (m.data (th + 12) >>> 4).toNat ≤ 15 := by
    have hdiv : (m.data (th + 12) >>> 4).toNat = (m.data (th + 12)).toNat / 16 := by
      rw [UInt8.toNat_shiftRight]
      exact Nat.shiftRight_eq_div_pow _ 4
    omega
  have hmul : (tcpOff16 m th).toNat = tcpOff m th := by
    rw [tcpOff16, UInt16.toNat_mul, UInt8.toNat_toUInt16]
    exact Nat.mod_eq_of_lt (by change _ * 4 < 2 ^ 16; omega)
  have hmax : tcpOff m th ≤ 60 := by
    rw [tcpOff]
    omega
  refine ⟨hmul, ?_, hmax⟩
  rw [UInt16.toNat_add, hmul]
  exact Nat.mod_eq_of_lt (by change 20 + _ < 2 ^ 16; omega)

lemma ipv4Skip_le (m : RteMbuf) : ipv4Skip m ≤ 40 := by
  have hle : (m.data 14 &&& 0xF).toNat ≤ 15 := by
    rw [UInt8.toNat_and]
    exact Nat.and_le_right
  rw [ipv4Skip]
  omega

lemma ipv6Skip_le (m : RteMbuf) : ipv6Skip m ≤ 2048 := by
  have hbyte := (m.data 55).toNat_lt
  rw [ipv6Skip]
  split_ifs <;> omega

/-- The bounds of a header and a payload behind `skip` bytes, without a difference. -/
lemma fits_iff {len hdr skip start off pay a b : ℕ}
    (hiff : start + off + skip + pay ≤ len ↔ b ≤ a ∧ start + off + skip + a ≤ len + b) :
    (hdr + skip ≤ len ∧ hdr + 20 ≤ len - skip ∧ start + off + pay ≤ len - skip) ↔
      hdr + 20 + skip ≤ len ∧ b ≤ a ∧ start + off + skip + a ≤ len + b := by
  constructor
  · rintro ⟨-, hheader, hpayload⟩
    exact ⟨by omega, hiff.mp (by omega)⟩
  · rintro ⟨hheader, hlength⟩
    have hfit := hiff.mpr hlength
    exact ⟨by omega, by omega, by omega⟩

/-- What `ipv4_input` gives to a TCP handler is in bounds exactly if the lengths are consistent. -/
lemma ipv4Trimmed_inFrame_iff (h : Ipv4ToTcp m) (hlen : m.dataLen < 65536) :
    34 + ipv4Skip m ≤ m.dataLen ∧ InFrame (ipv4Trimmed m) ↔ Ipv4Consistent m := by
  by_cases hskip : ipv4Skip m ≤ m.dataLen
  swap
  · exact ⟨fun hin => by omega, fun hcon => by have := hcon.header; omega⟩
  obtain ⟨hoff, hoff', hmax⟩ := toNat_tcpOff m (34 + ipv4Skip m)
  have hle := ipv4Skip_le m
  have hskip16 : (UInt16.ofNat (ipv4Skip m)).toNat = ipv4Skip m :=
    UInt16.toNat_ofNat_of_lt' (by change _ < 2 ^ 16; omega)
  rw [(ipv4Trimmed_trimmed h hskip).inFrame_iff, payloadLen, and_left_comm]
  by_cases hv : m.version = 4
  · have hassoc : htons (get16 m.data 16) - UInt16.ofNat (ipv4Skip m) -
        (20 + tcpOff16 m (34 + ipv4Skip m)) = htons (get16 m.data 16) -
          (UInt16.ofNat (ipv4Skip m) + (20 + tcpOff16 m (34 + ipv4Skip m))) := by grind
    rw [if_pos hv, if_pos hv, hassoc]
    have hsum : (UInt16.ofNat (ipv4Skip m) + (20 + tcpOff16 m (34 + ipv4Skip m))).toNat =
        ipv4Skip m + (20 + tcpOff m (34 + ipv4Skip m)) := by
      rw [UInt16.toNat_add, hskip16, hoff']
      exact Nat.mod_eq_of_lt (by omega)
    have hiff := add_sub_le_iff (a := htons (get16 m.data 16)) hlen
      (d := 34 + tcpOff m (34 + ipv4Skip m) + ipv4Skip m) (le_of_eq_of_le hsum (by omega))
    rw [hsum] at hiff
    rw [fits_iff hiff, ipv4Consistent_iff, if_pos hv]
    omega
  · rw [if_neg hv, if_neg hv]
    have hiff := add_sub_le_iff (a := htons (get16 m.data 18)) hlen
      (d := 54 + tcpOff m (34 + ipv4Skip m) + ipv4Skip m) (le_of_eq_of_le hoff (by omega))
    rw [hoff] at hiff
    rw [fits_iff hiff, ipv4Consistent_iff, if_neg hv]
    omega

/-- What `ipv6_input` gives to a TCP handler is in bounds exactly if the lengths are consistent. -/
lemma ipv6Trimmed_inFrame_iff (h : Ipv6ToTcp m) (hlen : m.dataLen < 65536) :
    54 + ipv6Skip m ≤ m.dataLen ∧ InFrame (ipv6Trimmed m) ↔ Ipv6Consistent m := by
  by_cases hskip : ipv6Skip m ≤ m.dataLen
  swap
  · exact ⟨fun hin => by omega, fun hcon => by have := hcon.header; omega⟩
  obtain ⟨hoff, hoff', hmax⟩ := toNat_tcpOff m (54 + ipv6Skip m)
  have hle := ipv6Skip_le m
  have hskip16 : (UInt16.ofNat (ipv6Skip m)).toNat = ipv6Skip m :=
    UInt16.toNat_ofNat_of_lt' (by change _ < 2 ^ 16; omega)
  rw [(ipv6Trimmed_trimmed h hskip).inFrame_iff, payloadLen, and_left_comm]
  by_cases hv : m.version = 4
  · rw [if_pos hv, if_pos hv]
    have hiff := add_sub_le_iff (a := htons (get16 m.data 16)) hlen
      (d := 34 + tcpOff m (54 + ipv6Skip m) + ipv6Skip m) (le_of_eq_of_le hoff' (by omega))
    rw [hoff'] at hiff
    rw [fits_iff hiff, ipv6Consistent_iff, if_pos hv]
    omega
  · have hassoc : htons (get16 m.data 18) - UInt16.ofNat (ipv6Skip m) -
        tcpOff16 m (54 + ipv6Skip m) = htons (get16 m.data 18) -
          (UInt16.ofNat (ipv6Skip m) + tcpOff16 m (54 + ipv6Skip m)) := by grind
    rw [if_neg hv, if_neg hv, hassoc]
    have hsum : (UInt16.ofNat (ipv6Skip m) + tcpOff16 m (54 + ipv6Skip m)).toNat =
        ipv6Skip m + tcpOff m (54 + ipv6Skip m) := by
      rw [UInt16.toNat_add, hskip16, hoff]
      exact Nat.mod_eq_of_lt (by omega)
    have hiff := add_sub_le_iff (a := htons (get16 m.data 18)) hlen
      (d := 54 + tcpOff m (54 + ipv6Skip m) + ipv6Skip m) (le_of_eq_of_le hsum (by omega))
    rw [hsum] at hiff
    rw [fits_iff hiff, ipv6Consistent_iff, if_neg hv]
    omega

/-- **Lengths in a frame.** Whatever the handlers, the TCP headers and payloads that they are given
lie in the received frame if and only if the frames that get to them have consistent lengths. -/
theorem framesSafe_iff (n : ℕ) (p : PortSpace) (m : RteMbuf) (hlen : m.dataLen < 65536) :
    FramesSafe n p m ↔
      (Ipv4ToTcp m → Ipv4Consistent m) ∧ (Ipv6ToTcp m → Ipv6Consistent m) := by
  refine and_congr ?_ ?_
  · by_cases h : Ipv4ToTcp m
    · rw [← ipv4Trimmed_inFrame_iff h hlen]
      constructor
      · exact fun hsafe _ => hsafe _ (ipv4Input_gives p h)
      · intro hsafe m' hm'
        rw [(ipv4Input_gives p h).unique hm']
        exact hsafe h
    · exact ⟨fun _ h' => absurd h' h,
        fun _ m' hm' => absurd hm' (not_givesTcp (ipv4Input_other p h))⟩
  · by_cases h : Ipv6ToTcp m
    · rw [← ipv6Trimmed_inFrame_iff h hlen]
      constructor
      · exact fun hsafe _ => hsafe _ (ipv6Input_gives p h)
      · intro hsafe m' hm'
        rw [(ipv6Input_gives p h).unique hm']
        exact hsafe h
    · exact ⟨fun _ h' => absurd h' h,
        fun _ m' hm' => absurd hm' (not_givesTcp (ipv6Input_other p h))⟩

/-- An acknowledgement without options or payload: 54 bytes, `tot_len` as given. -/
def ackFrame (totLen : UInt16) : RteMbuf where
  id := 0
  data := put (put (put (put (put (fun _ => 0) 12 (le16 (htons 0x0800))) 14 [0x45]) 16
    (le16 (htons totLen))) 23 [6]) 46 [0x50, 0x10]
  dataLen := 54
  ipCksumBad := false
  l4CksumBad := false

/-- A port with one queue and no kernel interface. -/
def PortSpace.single : PortSpace where
  w := .single false false
  d :=
    { txBurst := fun _ => 0, pktmbufAlloc := fun _ => true, ringEnqueue := fun _ => true
      ringDequeueBulk := fun _ => true }
  queueId := 0
  txBurst := 1
  vtepIp := 0
  vni := 0
  neighIgnore := false
  portIpv6 := false
  localIp := ⟨0, 0, 0, 0⟩
  gatewayIp := ⟨0, 0, 0, 0⟩
  localIpRange := ⟨⟨0, 0, 0, 0⟩, fun _ => 0⟩
  vtepLocal := fun _ => 0
  bond := false
  bondMode := 0
  pciNum := 1
  kni := false
  localIp_eq := rfl

/-- The frame of 54 bytes with `tot_len` 40 is read in bounds. -/
theorem framesSafe_ack : FramesSafe 1 .single (ackFrame 40) :=
  (framesSafe_iff 1 .single (ackFrame 40) (by decide)).mpr
    ⟨fun _ => ⟨by decide, by decide, by decide⟩, fun h => absurd h.type (by decide)⟩

/-- The frame of 54 bytes with `tot_len` 1500 gets to the TCP handler, which takes 1460 bytes behind
its end for the payload. -/
theorem framesSafe_overread : (ackFrame 1500).dataLen < 65536 ∧
    ∀ p, ¬ FramesSafe 1 p (ackFrame 1500) := by
  refine ⟨by decide, fun p hsafe => ?_⟩
  have htcp : Ipv4ToTcp (ackFrame 1500) := ⟨by decide, by decide, by decide, by decide, by decide⟩
  have hcon := (ipv4Trimmed_inFrame_iff htcp (by decide)).mp (hsafe.1 _ (ipv4Input_gives p htcp))
  exact absurd hcon.length (by decide)

end Dperf.Wire
