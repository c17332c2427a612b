import Dperf.Basic

/-!
The socket table of `socket.h`: where the socket of a 4-tuple lies in the pool, and how a
client picks the next socket to open.

* `SocketTable`: the geometry that `socket_table_init` computes. The bounds that keep an
  index inside the pool are fields, so a lookup yields an index of the pool
  (`portTableGet_lt`).
* `socketServerLookup`, `socketClientLookup`: the lookups without the RSS hand-over, which
  touches the tables of two workers and is in `Rss`.
* `socketTableGetSocket`: the round robin over the pool. It yields nothing where the
  source reads outside the pool or does not return.
-/

namespace Dperf

/-- `struct socket_table` with its pool of `n` sockets; `ht low` is the place in the pool
of the port table of the client address with these low 16 bits. -/
structure SocketTable (n : ℕ) where
  serverIpNum : UInt32
  serverIpMin : UInt32
  serverIpMax : UInt32
  serverPortNum : UInt16
  serverPortMin : UInt16
  serverPortMax : UInt16
  clientPortNum : UInt16
  clientPortMin : UInt16
  clientPortMax : UInt16
  serverIpPortNum : UInt32
  clientHop : Bool
  rss : Bool
  rssId : UInt8
  rssNum : UInt8
  ht : UInt16 → Option ℕ
  serverIp_eq : serverIpMax.toNat + 1 = serverIpMin.toNat + serverIpNum.toNat
  serverPort_eq : serverPortMax.toNat + 1 = serverPortMin.toNat + serverPortNum.toNat
  clientPort_eq : clientPortMax.toNat + 1 = clientPortMin.toNat + clientPortNum.toNat
  serverIpPort_eq : serverIpPortNum.toNat = serverPortNum.toNat * serverIpNum.toNat
  inPool : ∀ low base, ht low = some base →
    base + clientPortNum.toNat * serverIpPortNum.toNat ≤ n
  pool_lt : n < 2 ^ 32

namespace SocketTable

variable {n : ℕ} (st : SocketTable n)

/-- `socket_port_table_get`: the place in the pool, the index computed in 32 bits. -/
def portTableGet (base : ℕ) (clientPort serverPort : UInt16) (serverIp : UInt32) : ℕ :=
  base + ((clientPort - st.clientPortMin).toUInt32 * st.serverIpPortNum
    + (serverPort - st.serverPortMin).toUInt32 * st.serverIpNum
    + (serverIp - st.serverIpMin)).toNat

/-- The range test of `socket_common_lookup`. -/
def inRange (clientPort serverPort : UInt16) (serverIp : UInt32) : Prop :=
  clientPort ≠ 0 ∧ st.serverIpMin ≤ serverIp ∧ serverIp ≤ st.serverIpMax ∧
    st.clientPortMin ≤ clientPort ∧ clientPort ≤ st.clientPortMax ∧
    st.serverPortMin ≤ serverPort ∧ serverPort ≤ st.serverPortMax

instance (cp sp : UInt16) (sip : UInt32) : Decidable (st.inRange cp sp sip) :=
  inferInstanceAs (Decidable (_ ∧ _ ∧ _ ∧ _ ∧ _ ∧ _ ∧ _))

/-- The mixed-radix index of a port table stays below the size of the table. -/
lemma index_lt {c p i C P I : ℕ} (hc : c < C) (hp : p < P) (hi : i < I) :
    c * (P * I) + p * I + i < C * (P * I) := by
  have h1 : p * I + i < P * I := by
    calc p * I + i < p * I + I := by omega
      _ = (p + 1) * I := by ring
      _ ≤ P * I := Nat.mul_le_mul_right I hp
  calc c * (P * I) + p * I + i < c * (P * I) + P * I := by omega
    _ = (c + 1) * (P * I) := by ring
    _ ≤ C * (P * I) := Nat.mul_le_mul_right _ hc

/-- The 32-bit index of an entry in range does not wrap in a table of less than `2 ^ 32`
sockets. -/
lemma toNat_index {cp sp : UInt16} {sip : UInt32} (h : st.inRange cp sp sip)
    (hsize : st.clientPortNum.toNat * st.serverIpPortNum.toNat < 2 ^ 32) :
    ((cp - st.clientPortMin).toUInt32 * st.serverIpPortNum
      + (sp - st.serverPortMin).toUInt32 * st.serverIpNum + (sip - st.serverIpMin)).toNat
      = (cp.toNat - st.clientPortMin.toNat) * st.serverIpPortNum.toNat
        + (sp.toNat - st.serverPortMin.toNat) * st.serverIpNum.toNat
        + (sip.toNat - st.serverIpMin.toNat) ∧
    (cp.toNat - st.clientPortMin.toNat) * st.serverIpPortNum.toNat
        + (sp.toNat - st.serverPortMin.toNat) * st.serverIpNum.toNat
        + (sip.toNat - st.serverIpMin.toNat)
      < st.clientPortNum.toNat * st.serverIpPortNum.toNat := by
  obtain ⟨-, hi1, hi2, hc1, hc2, hp1, hp2⟩ := h
  rw [UInt32.le_iff_toNat_le] at hi1 hi2
  rw [UInt16.le_iff_toNat_le] at hc1 hc2 hp1 hp2
  have e1 := st.serverIp_eq
  have e2 := st.serverPort_eq
  have e3 := st.clientPort_eq
  have hc : (cp - st.clientPortMin).toNat = cp.toNat - st.clientPortMin.toNat :=
    UInt16.toNat_sub_of_le _ _ (UInt16.le_iff_toNat_le.mpr hc1)
  have hp : (sp - st.serverPortMin).toNat = sp.toNat - st.serverPortMin.toNat :=
    UInt16.toNat_sub_of_le _ _ (UInt16.le_iff_toNat_le.mpr hp1)
  have hi : (sip - st.serverIpMin).toNat = sip.toNat - st.serverIpMin.toNat :=
    UInt32.toNat_sub_of_le _ _ (UInt32.le_iff_toNat_le.mpr hi1)
  have hlt := index_lt (c := cp.toNat - st.clientPortMin.toNat) (C := st.clientPortNum.toNat)
    (p := sp.toNat - st.serverPortMin.toNat) (P := st.serverPortNum.toNat)
    (i := sip.toNat - st.serverIpMin.toNat) (I := st.serverIpNum.toNat)
    (by omega) (by omega) (by omega)
  rw [← st.serverIpPort_eq] at hlt
  refine ⟨?_, hlt⟩
  simp only [UInt32.toNat_add, UInt32.toNat_mul, UInt16.toNat_toUInt32, hc, hp, hi]
  simp only [Nat.mod_add_mod, Nat.add_mod_mod]
  exact Nat.mod_eq_of_lt (by omega)

/-- A lookup that passes the range test stays inside the pool. -/
lemma portTableGet_lt {low : UInt16} {base : ℕ} (hb : st.ht low = some base) {cp sp : UInt16}
    {sip : UInt32} (h : st.inRange cp sp sip) : st.portTableGet base cp sp sip < n := by
  have hin := st.inPool low base hb
  have hn := st.pool_lt
  obtain ⟨hidx, hlt⟩ := st.toNat_index h (by omega)
  rw [portTableGet, hidx]
  omega

/-- `socket_common_lookup`. -/
def commonLookup (clientIp serverIp : UInt32) (clientPort serverPort : UInt16) :
    Option (Fin n) :=
  match hb : st.ht clientIp.toUInt16 with
  | none => none
  | some base =>
      if h : st.inRange clientPort serverPort serverIp then
        some ⟨st.portTableGet base clientPort serverPort serverIp, st.portTableGet_lt hb h⟩
      else none

end SocketTable

section Lookup

variable {n : ℕ} (st : SocketTable n) (pool : Fin n → Socket) (m : Mbuf)

/-- `socket_server_lookup`. -/
def socketServerLookup : Option (Fin n) :=
  (st.commonLookup m.saddr m.daddr m.th.sport m.th.dport).filter fun i =>
    (pool i).laddr = m.daddr ∧ (pool i).faddr = m.saddr

/-- `socket_client_lookup` without the RSS check. -/
def socketClientLookup : Option (Fin n) :=
  (st.commonLookup m.daddr m.saddr m.th.dport m.th.sport).filter fun i =>
    (pool i).laddr = m.daddr ∧ (pool i).faddr = m.saddr

end Lookup

section GetSocket

variable {n : ℕ} (st : SocketTable n) (pool : Fin n → Socket)

/-- `socket_table_get_socket_rss`, with a bound on the turns of its loop: the socket and
the new `next`, or nothing where the source does not return or reads past the pool. -/
def socketTableGetSocketRss : ℕ → UInt32 → Option (Fin n × UInt32)
  | 0, _ => none
  | fuel + 1, next =>
      if h : next.toNat < n then
        let sk := pool ⟨next.toNat, h⟩
        let next' := next + 1
        -- avoid incorrectly hashed sockets
        if sk.lport.toNat % st.rssNum.toNat ≠ st.rssId.toNat ∨ sk.laddr = 0 then
          socketTableGetSocketRss fuel (if n ≤ next'.toNat then 0 else next')
        else some (⟨next.toNat, h⟩, next')
      else none

/-- `socket_table_get_socket`. -/
def socketTableGetSocket (fuel : ℕ) (next : UInt32) : Option (Fin n × UInt32) :=
  let r :=
    if st.rss = false then
      if h : next.toNat < n then
        let next' := next + 1
        some ((⟨next.toNat, h⟩ : Fin n), if n ≤ next'.toNat then 0 else next')
      else none
    else socketTableGetSocketRss st pool fuel next
  r.map fun p =>
    if st.clientHop then
      let next' := p.2 + 65535
      (p.1, if n ≤ next'.toNat then 0 else next')
    else p

end GetSocket

end Dperf
