import Dperf.Frames
import Dperf.Lib.Segments

/-!
Frames with options: what the handlers see of them.

* `Ipv4Frame`, `Ipv6Frame`: well-formed frames in their parts. `strip` takes the options out and
  adjusts the lengths.
* `ipv4Input_stripped`, `ipv6Input_stripped`: a handler of `ipv4_input` or `ipv6_input` is given
  the stripped frame.
* `ipv6InputTurns`: `ipv6_input` with its loop, which ends in the second turn.
-/

namespace Dperf.Wire

open Memory

variable {n : ℕ}

/-! ### Frames in their parts -/

/-- The bytes of a received frame. -/
def RteMbuf.frame (m : RteMbuf) : List UInt8 := bytes m.data m.dataLen

/-- An IPv4 frame: `macs`, the two Ethernet addresses; `upper`, the header from the identification
to the time to live; `lower`, the checksum and the addresses; `payload`, all behind the options. -/
structure Ipv4Frame where
  macs : List UInt8
  tos : UInt8
  totLen : ℕ
  upper : List UInt8
  proto : UInt8
  lower : List UInt8
  options : List UInt8
  payload : List UInt8
  length_macs : macs.length = 12
  length_upper : upper.length = 5
  length_lower : lower.length = 10
  length_options : 4 ∣ options.length ∧ options.length ≤ 40
  totLen_ge : 20 + options.length ≤ totLen
  totLen_lt : totLen < 65536

namespace Ipv4Frame

/-- The header length in words. -/
def ihl (f : Ipv4Frame) : ℕ := 5 + f.options.length / 4

/-- The bytes of the frame. -/
def bytes (f : Ipv4Frame) : List UInt8 :=
  f.macs ++ (le16 (htons 0x0800) ++ ([UInt8.ofNat (4 * 16 + f.ihl), f.tos] ++
    (le16 (htons (UInt16.ofNat f.totLen)) ++ (f.upper ++ ([f.proto] ++ (f.lower ++
      (f.options ++ f.payload)))))))

/-- The frame without its options. -/
def strip (f : Ipv4Frame) : Ipv4Frame where
  macs := f.macs
  tos := f.tos
  totLen := f.totLen - f.options.length
  upper := f.upper
  proto := f.proto
  lower := f.lower
  options := []
  payload := f.payload
  length_macs := f.length_macs
  length_upper := f.length_upper
  length_lower := f.length_lower
  length_options := ⟨dvd_zero 4, Nat.zero_le 40⟩
  totLen_ge := Nat.le_sub_of_add_le f.totLen_ge
  totLen_lt := (Nat.sub_le _ _).trans_lt f.totLen_lt

lemma length_bytes (f : Ipv4Frame) :
    f.bytes.length = 34 + f.options.length + f.payload.length := by
  simp only [bytes, List.length_append, length_le16, List.length_cons, List.length_nil,
    f.length_macs, f.length_upper, f.length_lower]
  omega

lemma ihl_strip (f : Ipv4Frame) : f.strip.ihl = 5 + 0 := by
  simp [ihl, strip]

/-- A frame without options stays as it is. -/
lemma strip_eq {f : Ipv4Frame} (h : f.options = []) : f.strip = f := by
  cases f
  cases h
  rfl

/-- The parts of a frame in memory. -/
lemma stands_bytes_iff (f : Ipv4Frame) {data : Mem} :
    Stands data 0 f.bytes ↔ Stands data 0 f.macs ∧ Stands data 12 (le16 (htons 0x0800)) ∧
      Stands data 14 [UInt8.ofNat (4 * 16 + f.ihl), f.tos] ∧
      Stands data 16 (le16 (htons (UInt16.ofNat f.totLen))) ∧ Stands data 18 f.upper ∧
      Stands data 23 [f.proto] ∧ Stands data 24 f.lower ∧ Stands data 34 f.options ∧
      Stands data (34 + f.options.length) f.payload := by
  simp only [bytes, stands_append, f.length_macs, f.length_upper, f.length_lower, length_le16,
    List.length_cons, List.length_nil, Nat.zero_add, Nat.reduceAdd]

end Ipv4Frame

/-- An IPv6 frame with one header of destination options, or without: `flow`, the version, the
class and the flow label; `addrs`, the addresses; `options`, the header behind its two first
bytes; behind it all that is left. -/
structure Ipv6Frame where
  macs : List UInt8
  flow : List UInt8
  plen : ℕ
  hop : UInt8
  addrs : List UInt8
  proto : UInt8
  options : List UInt8
  payload : List UInt8
  length_macs : macs.length = 12
  length_flow : flow.length = 4
  length_addrs : addrs.length = 32
  length_options : options = [] ∨ 8 ∣ options.length + 2 ∧ options.length + 2 ≤ 2048
  proto_ne : proto ≠ 60
  plen_ge : (if options = [] then 0 else options.length + 2) ≤ plen
  plen_lt : plen < 65536

namespace Ipv6Frame

/-- The header of destination options. -/
def header (f : Ipv6Frame) : List UInt8 :=
  if f.options = [] then []
  else f.proto :: UInt8.ofNat ((f.options.length + 2) / 8 - 1) :: f.options

/-- The bytes of the frame. -/
def bytes (f : Ipv6Frame) : List UInt8 :=
  f.macs ++ (le16 (htons 0x86DD) ++ (f.flow ++ (le16 (htons (UInt16.ofNat f.plen)) ++
    ([if f.options = [] then f.proto else 60] ++ ([f.hop] ++ (f.addrs ++
      (f.header ++ f.payload)))))))

/-- The frame without its options. -/
def strip (f : Ipv6Frame) : Ipv6Frame where
  macs := f.macs
  flow := f.flow
  plen := f.plen - f.header.length
  hop := f.hop
  addrs := f.addrs
  proto := f.proto
  options := []
  payload := f.payload
  length_macs := f.length_macs
  length_flow := f.length_flow
  length_addrs := f.length_addrs
  length_options := .inl rfl
  proto_ne := f.proto_ne
  plen_ge := Nat.zero_le _
  plen_lt := (Nat.sub_le _ _).trans_lt f.plen_lt

lemma length_header_le (f : Ipv6Frame) : f.header.length ≤ f.plen := by
  have hge := f.plen_ge
  rw [header]
  split_ifs with hnil
  · exact Nat.zero_le _
  · rwa [if_neg hnil] at hge

lemma length_bytes (f : Ipv6Frame) :
    f.bytes.length = 54 + f.header.length + f.payload.length := by
  simp only [bytes, List.length_append, length_le16, List.length_cons, List.length_nil,
    f.length_macs, f.length_flow, f.length_addrs]
  omega

/-- A frame without options stays as it is. -/
lemma strip_eq {f : Ipv6Frame} (h : f.options = []) : f.strip = f := by
  cases f
  cases h
  rfl

/-- The parts of a frame in memory. -/
lemma stands_bytes_iff (f : Ipv6Frame) {data : Mem} :
    Stands data 0 f.bytes ↔ Stands data 0 f.macs ∧ Stands data 12 (le16 (htons 0x86DD)) ∧
      Stands data 14 f.flow ∧ Stands data 18 (le16 (htons (UInt16.ofNat f.plen))) ∧
      Stands data 20 [if f.options = [] then f.proto else 60] ∧ Stands data 21 [f.hop] ∧
      Stands data 22 f.addrs ∧ Stands data 54 f.header ∧
      Stands data (54 + f.header.length) f.payload := by
  simp only [bytes, stands_append, f.length_macs, f.length_flow, f.length_addrs, length_le16,
    List.length_cons, List.length_nil, Nat.zero_add, Nat.reduceAdd]

end Ipv6Frame

/-! ### The options are taken out -/

section Moved

variable {data : Mem} {h skip off : ℕ} {l : List UInt8}

/-- What stands in the headers is moved with them. -/
lemma stands_moved_lt (hl : off + l.length ≤ h) (hs : Stands data off l) :
    Stands (moved data h skip) off l := by
  intro i hi
  rw [moved_lt (by omega)]
  exact hs i hi

/-- What stands behind the options is found behind the headers. -/
lemma stands_moved_ge (hl : h ≤ off) (hs : Stands data (off + skip) l) :
    Stands (moved data h skip) off l := by
  intro i hi
  rw [moved_ge (by omega), Nat.add_right_comm]
  exact hs i hi

end Moved

/-- `m'` is the mbuf `m` with another frame. -/
def SameMbuf (m m' : RteMbuf) : Prop := m' = { m with data := m'.data, dataLen := m'.dataLen }

lemma frame_eq_iff {m : RteMbuf} {l : List UInt8} :
    m.frame = l ↔ m.dataLen = l.length ∧ Stands m.data 0 l := by
  rw [stands_bytes, RteMbuf.frame]
  constructor
  · rintro rfl
    have hlen : (bytes m.data m.dataLen).length = m.dataLen := by
      rw [bytes, List.length_map, List.length_range]
    exact ⟨hlen.symm, by rw [hlen]⟩
  · rintro ⟨hlen, hs⟩
    rw [hlen, hs]

/-- The header length of a frame in its byte, and the byte without options. -/
lemma ihl_byte {k : ℕ} (hk : k ≤ 10) :
    UInt8.ofNat (4 * 16 + (5 + k)) &&& 0xF = UInt8.ofNat (5 + k) ∧
      (UInt8.ofNat (4 * 16 + (5 + k)) &&& 0xF0) ||| 5 = UInt8.ofNat (4 * 16 + (5 + 0)) := by
  revert k
  decide

/-- The header length that `ipv4_trim_options` reads. -/
lemma ipv4Skip_frame {m : RteMbuf} {f : Ipv4Frame} (hm : m.frame = f.bytes) :
    ipv4Skip m = f.options.length ∧ ¬ m.data 14 &&& 0xF < 5 ∧
      (m.data 14 &&& 0xF0) ||| 5 = UInt8.ofNat (4 * 16 + (5 + 0)) := by
  obtain ⟨-, hs⟩ := frame_eq_iff.mp hm
  obtain ⟨-, -, hver, -⟩ := f.stands_bytes_iff.mp hs
  have hk := (stands_cons.mp hver).1
  obtain ⟨k, hoptlen⟩ := f.length_options.1
  have hmax := f.length_options.2
  have hihl : f.ihl = 5 + k := by
    rw [Ipv4Frame.ihl, hoptlen, Nat.mul_div_cancel_left _ (by decide)]
  obtain ⟨hnibble, hfive⟩ := ihl_byte (k := k) (by omega)
  rw [hihl] at hk
  refine ⟨?_, ?_, by rw [hk, hfive]⟩
  · rw [ipv4Skip, hk, hnibble, UInt8.toNat_ofNat']
    omega
  · rw [hk, hnibble, UInt8.lt_iff_toNat_lt, UInt8.toNat_ofNat']
    change ¬ _ < 5
    omega

/-- `ipv4_trim_options` strips a frame. -/
lemma ipv4TrimOptions_frame {m : RteMbuf} {f : Ipv4Frame} (hm : m.frame = f.bytes) :
    ∃ m', ipv4TrimOptions m = some m' ∧ SameMbuf m m' ∧ m'.frame = f.strip.bytes := by
  obtain ⟨hlen, hs⟩ := frame_eq_iff.mp hm
  rw [f.length_bytes] at hlen
  obtain ⟨hmacs, htype, hver, htot, hupper, hproto, hlower, hopt, hpay⟩ := f.stands_bytes_iff.mp hs
  have htos := (stands_cons.mp hver).2
  obtain ⟨hskip, hnotlow, hfive⟩ := ipv4Skip_frame hm
  have hmax := f.length_options.2
  have hge := f.totLen_ge
  have hlt := f.totLen_lt
  have hsub : htons (get16 m.data 16) - UInt16.ofNat (ipv4Skip m) =
      UInt16.ofNat (f.totLen - f.options.length) := by
    rw [htot.get16_eq, htons_htons, hskip, UInt16.ofNat_sub (by omega)]
  have htrim := ipv4TrimOptions_eq hnotlow (by omega)
  rw [hsub, hfive] at htrim
  generalize hdata : put (put m.data 14 [UInt8.ofNat (4 * 16 + (5 + 0))]) 16
    (le16 (htons (UInt16.ofNat (f.totLen - f.options.length)))) = data at htrim
  -- what is not written
  have hkept : ∀ {off : ℕ} {l : List UInt8}, Stands m.data off l →
      off + l.length ≤ 14 ∨ 18 ≤ off → Stands data off l := by
    intro off l hl hoff
    rw [← hdata]
    exact (hl.put_ne (by rw [List.length_singleton]; omega)).put_ne (by rw [length_le16]; omega)
  have hver' : Stands data 14 [UInt8.ofNat (4 * 16 + (5 + 0)), f.tos] := by
    rw [← hdata]
    exact (stands_cons.mpr ⟨put_head, htos.put_ne (.inr le_rfl)⟩).put_ne (.inl le_rfl)
  have htot' : Stands data 16 (le16 (htons (UInt16.ofNat (f.totLen - f.options.length)))) := by
    rw [← hdata]
    exact stands_put
  refine ⟨_, htrim, rfl, frame_eq_iff.mpr ⟨?_, f.strip.stands_bytes_iff.mpr ⟨?_, ?_, ?_, ?_, ?_, ?_,
    ?_, stands_nil, ?_⟩⟩⟩
  · rw [f.strip.length_bytes]
    show m.dataLen - ipv4Skip m = 34 + 0 + f.payload.length
    omega
  · have hlast : 0 + f.macs.length ≤ 14 := by rw [f.length_macs]; omega
    exact stands_moved_lt (by rw [f.strip.length_macs]; omega) (hkept hmacs (.inl hlast))
  · exact stands_moved_lt (by rw [length_le16]; omega) (hkept htype (.inl le_rfl))
  · rw [f.ihl_strip]
    exact stands_moved_lt (by rw [List.length_cons, List.length_singleton]; omega) hver'
  · exact stands_moved_lt (by rw [length_le16]; omega) htot'
  · exact stands_moved_lt (by rw [f.strip.length_upper]; omega) (hkept hupper (.inr le_rfl))
  · exact stands_moved_lt (by rw [List.length_singleton]; omega) (hkept hproto (.inr (by omega)))
  · exact stands_moved_lt (by rw [f.strip.length_lower]) (hkept hlower (.inr (by omega)))
  · have hoff : 34 + f.strip.options.length + ipv4Skip m = 34 + f.options.length := by
      rw [hskip]
      show 34 + 0 + _ = _
      omega
    refine stands_moved_ge (Nat.le_add_right _ _) ?_
    rw [hoff]
    exact hkept hpay (.inr (by omega))

/-- The destination options that `ipv6_trim_options` reads. -/
lemma ipv6Skip_frame {m : RteMbuf} {f : Ipv6Frame} (hm : m.frame = f.bytes)
    (hne : f.options ≠ []) :
    m.data 20 = 60 ∧ m.data 54 = f.proto ∧ ipv6Skip m = f.header.length := by
  obtain ⟨-, hs⟩ := frame_eq_iff.mp hm
  obtain ⟨-, -, -, -, hnext, -, -, hopt, -⟩ := f.stands_bytes_iff.mp hs
  obtain ⟨hdvd, hmax⟩ := f.length_options.resolve_left hne
  obtain ⟨k, hk⟩ := hdvd
  have hheader : f.header = f.proto :: UInt8.ofNat (k - 1) :: f.options := by
    rw [Ipv6Frame.header, if_neg hne, hk, Nat.mul_div_cancel_left _ (by decide)]
  rw [if_neg hne] at hnext
  rw [hheader] at hopt
  have hnext60 := (stands_cons.mp hnext).1
  obtain ⟨hproto, hopt'⟩ := stands_cons.mp hopt
  have hbyte := (stands_cons.mp hopt').1
  refine ⟨hnext60, hproto, ?_⟩
  rw [ipv6Skip, if_pos hnext60, hbyte, UInt8.toNat_ofNat', hheader, List.length_cons,
    List.length_cons]
  omega

/-- `ipv6_trim_options` strips a frame that has options. -/
lemma ipv6TrimOptions_frame {m : RteMbuf} {f : Ipv6Frame} (hm : m.frame = f.bytes)
    (hne : f.options ≠ []) :
    ∃ m', ipv6TrimOptions m = (f.proto, m') ∧ SameMbuf m m' ∧ m'.frame = f.strip.bytes := by
  obtain ⟨hlen, hs⟩ := frame_eq_iff.mp hm
  rw [f.length_bytes] at hlen
  obtain ⟨hmacs, htype, hflow, hplen, hnext, hhop, haddrs, hopt, hpay⟩ := f.stands_bytes_iff.mp hs
  obtain ⟨hnext60, hproto, hskip⟩ := ipv6Skip_frame hm hne
  have hge := f.length_header_le
  have hlt := f.plen_lt
  have hsub : htons (get16 m.data 18) - UInt16.ofNat (ipv6Skip m) =
      UInt16.ofNat (f.plen - f.header.length) := by
    rw [hplen.get16_eq, htons_htons, hskip, UInt16.ofNat_sub (by omega)]
  have hne60 : m.data 54 ≠ 60 := by
    rw [hproto]
    exact f.proto_ne
  have htrim := ipv6TrimOptions_eq hnext60 hne60 (by omega)
  rw [hsub, hproto] at htrim
  generalize hdata : put (put m.data 18 (le16 (htons (UInt16.ofNat (f.plen - f.header.length)))))
    20 [f.proto] = data at htrim
  -- what is not written
  have hkept : ∀ {off : ℕ} {l : List UInt8}, Stands m.data off l →
      off + l.length ≤ 18 ∨ 21 ≤ off → Stands data off l := by
    intro off l hl hoff
    rw [← hdata]
    exact (hl.put_ne (by rw [length_le16]; omega)).put_ne (by rw [List.length_singleton]; omega)
  have hplen' : Stands data 18 (le16 (htons (UInt16.ofNat (f.plen - f.header.length)))) := by
    rw [← hdata]
    exact stands_put.put_ne (.inl le_rfl)
  have hnext' : Stands data 20 [f.proto] := by
    rw [← hdata]
    exact stands_put
  refine ⟨_, htrim, rfl, frame_eq_iff.mpr ⟨?_, f.strip.stands_bytes_iff.mpr ⟨?_, ?_, ?_, ?_, ?_, ?_,
    ?_, stands_nil, ?_⟩⟩⟩
  · rw [f.strip.length_bytes]
    show m.dataLen - ipv6Skip m = 54 + 0 + f.payload.length
    omega
  · have hlast : 0 + f.macs.length ≤ 18 := by rw [f.length_macs]; omega
    exact stands_moved_lt (by rw [f.strip.length_macs]; omega) (hkept hmacs (.inl hlast))
  · have hlast : 12 + (le16 (htons 0x86DD)).length ≤ 18 := by rw [length_le16]; omega
    exact stands_moved_lt (by rw [length_le16]; omega) (hkept htype (.inl hlast))
  · have hlast : 14 + f.flow.length ≤ 18 := by rw [f.length_flow]
    exact stands_moved_lt (by rw [f.strip.length_flow]; omega) (hkept hflow (.inl hlast))
  · exact stands_moved_lt (by rw [length_le16]; omega) hplen'
  · exact stands_moved_lt (by rw [List.length_singleton]; omega) hnext'
  · exact stands_moved_lt (by rw [List.length_singleton]; omega) (hkept hhop (.inr le_rfl))
  · exact stands_moved_lt (by rw [f.strip.length_addrs]) (hkept haddrs (.inr (by omega)))
  · have hoff : 54 + f.strip.header.length + ipv6Skip m = 54 + f.header.length := by
      rw [hskip]
      show 54 + 0 + _ = _
      omega
    refine stands_moved_ge (Nat.le_add_right _ _) ?_
    rw [hoff]
    exact hkept hpay (.inr (by omega))

/-! ### What the handlers are given -/

section Input

variable (p : PortSpace)

/-- The dispatch of `ipv4_input` by the protocol. -/
def ipv4Dispatch (tcpInput udpInput : L4Input n) (proto : UInt8) (m : RteMbuf) (s : Core n) :
    Core n :=
  if proto = 6 then tcpInput m s
  else if proto = 17 then udpInput m s
  else if proto = 1 then icmpProcess p m s
  else otherProtocol p m s

/-- The handlers of `ipv4_input` are given the frame without its options. -/
lemma ipv4Input_stripped {m : RteMbuf} {f : Ipv4Frame} (hm : m.frame = f.bytes)
    (hck : (m.ipCksumBad || m.l4CksumBad) = false) (hfrag : isFragmented m = false) :
    ∃ m', SameMbuf m m' ∧ m'.frame = f.strip.bytes ∧ ∀ tcpInput udpInput (s : Core n),
      ipv4Input p tcpInput udpInput m s = ipv4Dispatch p tcpInput udpInput f.proto m' s := by
  obtain ⟨-, hs⟩ := frame_eq_iff.mp hm
  obtain ⟨-, htype, hver, -, -, hproto, -⟩ := f.stands_bytes_iff.mp hs
  have hproto' := (stands_cons.mp hproto).1
  -- `m'` is what is left after the options
  have hinput : ∀ m', (if m.data 14 &&& 0xF ≠ 5 then ipv4TrimOptions m else some m) = some m' →
      ∀ tcpInput udpInput (s : Core n),
        ipv4Input p tcpInput udpInput m s = ipv4Dispatch p tcpInput udpInput f.proto m' s := by
    intro m' htrim tcpInput udpInput s
    rw [ipv4Input]
    dsimp only
    rw [if_pos htype.get16_eq, hck, hfrag, hproto', htrim]
    rfl
  by_cases hihl : m.data 14 &&& 0xF = 5
  · have hnil : f.options = [] := by
      obtain ⟨k, hk⟩ := f.length_options.1
      have hmax := f.length_options.2
      have hbyte := (stands_cons.mp hver).1
      rw [Ipv4Frame.ihl, hk, Nat.mul_div_cancel_left _ (by decide)] at hbyte
      have hfive := congrArg UInt8.toNat hihl
      rw [hbyte, (ihl_byte (by omega)).1, UInt8.toNat_ofNat'] at hfive
      change _ = 5 at hfive
      exact List.length_eq_zero_iff.mp (by omega)
    exact ⟨m, rfl, by rw [f.strip_eq hnil, hm], hinput m (if_neg (not_not.mpr hihl))⟩
  · obtain ⟨m', htrim, hsame, hframe⟩ := ipv4TrimOptions_frame hm
    exact ⟨m', hsame, hframe, hinput m' ((if_pos hihl).trans htrim)⟩

/-- The handlers of `ipv6_input` are given the frame without its options. -/
lemma ipv6Input_stripped {m : RteMbuf} {f : Ipv6Frame} (hm : m.frame = f.bytes)
    (hck : m.l4CksumBad = false) :
    ∃ m', SameMbuf m m' ∧ m'.frame = f.strip.bytes ∧ ∀ tcpInput udpInput (s : Core n),
      ipv6Input p tcpInput udpInput m s = ipv6Dispatch p tcpInput udpInput f.proto m' s := by
  obtain ⟨-, hs⟩ := frame_eq_iff.mp hm
  obtain ⟨-, htype, -, -, hnext, -⟩ := f.stands_bytes_iff.mp hs
  have hnext' := (stands_cons.mp hnext).1
  by_cases hnil : f.options = []
  · rw [if_pos hnil] at hnext'
    have hne : ¬ m.data 20 = 60 := by
      rw [hnext']
      exact f.proto_ne
    refine ⟨m, rfl, by rw [f.strip_eq hnil, hm], fun tcpInput udpInput s => ?_⟩
    rw [ipv6Input]
    dsimp only
    rw [if_pos htype.get16_eq, hck, if_neg Bool.false_ne_true, if_neg hne, hnext']
  · rw [if_neg hnil] at hnext'
    obtain ⟨m', htrim, hsame, hframe⟩ := ipv6TrimOptions_frame hm hnil
    refine ⟨m', hsame, hframe, fun tcpInput udpInput s => ?_⟩
    rw [ipv6Input]
    dsimp only
    rw [if_pos htype.get16_eq, hck, if_neg Bool.false_ne_true, if_pos hnext', htrim]

/-! ### The loop of `ipv6_input` -/

/-- `repeat:` of `ipv6_input`, for a number of turns; `none` if they do not suffice. -/
def ipv6Repeat (tcpInput udpInput : L4Input n) :
    ℕ → UInt8 → RteMbuf → Core n → Option (Core n)
  | 0, _, _, _ => none
  | turns + 1, proto, m, s =>
      if proto = 6 then some (tcpInput m s)
      else if proto = 17 then some (udpInput m s)
      else if proto = 58 then some (icmp6Process p m s)
      else if proto = 60 then
        let r := ipv6TrimOptions m
        ipv6Repeat tcpInput udpInput turns r.1 r.2 s
      else some (otherProtocol p m s)

/-- `ipv6_input` with its loop. -/
def ipv6InputTurns (turns : ℕ) (tcpInput udpInput : L4Input n) (m : RteMbuf) (s : Core n) :
    Option (Core n) :=
  if get16 m.data 12 = htons 0x86DD then
    if m.l4CksumBad then some (s.onNic (mbufFree m.id))
    else ipv6Repeat p tcpInput udpInput turns (m.data 20) m s
  else some (otherProtocol p m s)

/-- A turn for any protocol but `IPPROTO_DSTOPTS` is the last one. -/
lemma ipv6Repeat_last (tcpInput udpInput : L4Input n) (turns : ℕ) {proto : UInt8}
    (hne : proto ≠ 60) (m : RteMbuf) (s : Core n) :
    ipv6Repeat p tcpInput udpInput (turns + 1) proto m s =
      some (ipv6Dispatch p tcpInput udpInput proto m s) := by
  rw [ipv6Repeat, ipv6Dispatch, if_neg hne]
  split_ifs <;> rfl

/-- `ipv6_trim_options` does not return `IPPROTO_DSTOPTS`. -/
lemma ipv6TrimOptions_ne (m : RteMbuf) : (ipv6TrimOptions m).1 ≠ 60 := by
  rw [ipv6TrimOptions]
  dsimp only
  split_ifs with hproto
  · show (0 : UInt8) ≠ 60
    decide
  · exact hproto

/-- The loop ends in the second turn, whatever is received. -/
lemma ipv6InputTurns_eq (tcpInput udpInput : L4Input n) (m : RteMbuf) (s : Core n) {turns : ℕ}
    (h : 2 ≤ turns) :
    ipv6InputTurns p turns tcpInput udpInput m s = some (ipv6Input p tcpInput udpInput m s) := by
  obtain ⟨turns, rfl⟩ := Nat.exists_eq_add_of_le' h
  rw [ipv6InputTurns, ipv6Input]
  dsimp only
  by_cases htype : get16 m.data 12 = htons 0x86DD
  swap
  · rw [if_neg htype, if_neg htype]
  rw [if_pos htype, if_pos htype]
  by_cases hck : m.l4CksumBad = true
  · rw [if_pos hck, if_pos hck]
  rw [if_neg hck, if_neg hck]
  by_cases hopt : m.data 20 = 60
  · rw [if_pos hopt, ← ipv6Repeat_last p tcpInput udpInput turns (ipv6TrimOptions_ne m), hopt]
    rfl
  · rw [if_neg hopt]
    exact ipv6Repeat_last p tcpInput udpInput (turns + 1) hopt m s

end Input

/-- **Options.** For every well-formed frame with IP options, or with one header of destination
options, the handler is given the same mbuf with the stripped frame, and the loop of `ipv6_input`
ends for every frame. -/
theorem options_stripped (p : PortSpace) :
    (∀ (f : Ipv4Frame) (m : RteMbuf), m.frame = f.bytes →
      (m.ipCksumBad || m.l4CksumBad) = false → isFragmented m = false →
        ∃ m', SameMbuf m m' ∧ m'.frame = f.strip.bytes ∧ ∀ tcpInput udpInput (s : Core n),
          ipv4Input p tcpInput udpInput m s = ipv4Dispatch p tcpInput udpInput f.proto m' s) ∧
    (∀ (f : Ipv6Frame) (m : RteMbuf), m.frame = f.bytes → m.l4CksumBad = false →
        ∃ m', SameMbuf m m' ∧ m'.frame = f.strip.bytes ∧ ∀ tcpInput udpInput (s : Core n),
          ipv6Input p tcpInput udpInput m s = ipv6Dispatch p tcpInput udpInput f.proto m' s) ∧
    ∀ (m : RteMbuf) tcpInput udpInput (s : Core n) turns, 2 ≤ turns →
      ipv6InputTurns p turns tcpInput udpInput m s = some (ipv6Input p tcpInput udpInput m s) :=
  ⟨fun _ _ hm hck hfrag => ipv4Input_stripped p hm hck hfrag,
    fun _ _ hm hck => ipv6Input_stripped p hm hck,
    fun m tcpInput udpInput s _ h => ipv6InputTurns_eq p tcpInput udpInput m s h⟩

/-- An mbuf with a received frame. -/
def RteMbuf.received (l : List UInt8) : RteMbuf where
  id := 0
  data := fun i => l.getD i 0
  dataLen := l.length
  ipCksumBad := false
  l4CksumBad := false

lemma frame_received (l : List UInt8) : (RteMbuf.received l).frame = l :=
  frame_eq_iff.mpr ⟨rfl, stands_getD⟩

/-- A datagram with the router alert option. -/
def routerAlert : Ipv4Frame where
  macs := List.replicate 12 0
  tos := 0
  totLen := 32
  upper := [0, 0, 0, 0, 64]
  proto := 17
  lower := [0, 0, 10, 0, 0, 1, 10, 0, 0, 2]
  options := [148, 4, 0, 0]
  payload := [0x27, 0x0f, 0x27, 0x0f, 0, 8, 0, 0]
  length_macs := rfl
  length_upper := rfl
  length_lower := rfl
  length_options := ⟨⟨1, rfl⟩, by decide⟩
  totLen_ge := by decide
  totLen_lt := by decide

/-- A datagram with six bytes of padding as its destination options. -/
def paddedDatagram : Ipv6Frame where
  macs := List.replicate 12 0
  flow := [0x60, 0, 0, 0]
  plen := 16
  hop := 64
  addrs := List.replicate 32 0
  proto := 17
  options := [1, 4, 0, 0, 0, 0]
  payload := [0x27, 0x0f, 0x27, 0x0f, 0, 8, 0, 0]
  length_macs := rfl
  length_flow := rfl
  length_addrs := rfl
  length_options := .inr ⟨⟨1, rfl⟩, by decide⟩
  proto_ne := by decide
  plen_ge := by decide
  plen_lt := by decide

/-- Both datagrams are stripped. -/
theorem options_stripped_datagrams :
    (∃ m', m'.frame = routerAlert.strip.bytes ∧ ∀ tcpInput udpInput (s : Core 1),
      ipv4Input .single tcpInput udpInput (.received routerAlert.bytes) s = udpInput m' s) ∧
    ∃ m', m'.frame = paddedDatagram.strip.bytes ∧ ∀ tcpInput udpInput (s : Core 1),
      ipv6Input .single tcpInput udpInput (.received paddedDatagram.bytes) s = udpInput m' s := by
  obtain ⟨h4, h6, -⟩ := options_stripped (n := 1) .single
  obtain ⟨m', -, hm', heq⟩ := h4 routerAlert _ (frame_received _) rfl rfl
  obtain ⟨m'', -, hm'', heq'⟩ := h6 paddedDatagram _ (frame_received _) rfl
  exact ⟨⟨m', hm', heq⟩, m'', hm'', heq'⟩

end Dperf.Wire
