import Mathlib.Tactic

/-!
The data `dperf` works on: the configuration and work space a handler reads
(`config.h`, `work_space.h`), the socket it is called on (`socket.h`), the
counters it bumps (`net_stats.h`), the packets it receives and sends.

* `Socket`: one entry of the socket pool, with the source's bit fields
  (`retrans:3`, `keepalive_request_num:15`, `http_frags:7`) as `Fin` types that
  wrap as the C fields do.
* `WorkSpace`: what stays fixed while one handler runs, the time of
  `ws->time` included; `WorkSpace.at` moves the clock between two handlers.
* `View`: what one call on one socket reads and writes. `View.link` is the place
  of `sk->node` relative to the entry of the call, `View.trace` the list of what
  the call did on the socket that an observer can tell (`Obs`).

Addresses and ports are kept in host order throughout, so `ntohl` and `ntohs`
do not appear. The build is the one of the `Makefile`: `HTTP_PARSE` defined,
`DPERF_DEBUG` not.
-/

namespace Dperf

/-! ### TCP flags and states -/

/-- `TH_FIN`. -/
def thFin : UInt8 := 0x01
/-- `TH_SYN`. -/
def thSyn : UInt8 := 0x02
/-- `TH_RST`. -/
def thRst : UInt8 := 0x04
/-- `TH_PUSH`. -/
def thPush : UInt8 := 0x08
/-- `TH_ACK`. -/
def thAck : UInt8 := 0x10
/-- `TH_URG`. -/
def thUrg : UInt8 := 0x20

/-- The C test `flags & mask`. -/
def hasFlag (flags mask : UInt8) : Bool := flags &&& mask != 0

lemma and_or_distrib (f g m : UInt8) : (f ||| g) &&& m = (f &&& m) ||| (g &&& m) := by
  rw [← UInt8.toBitVec_inj]
  ext i hi
  simp [Bool.and_or_distrib_right]

lemma hasFlag_or (f g m : UInt8) : hasFlag (f ||| g) m = (hasFlag f m || hasFlag g m) := by
  rw [hasFlag, hasFlag, hasFlag, and_or_distrib, Bool.eq_iff_iff]
  simp only [bne_iff_ne, Bool.or_eq_true, ne_eq, UInt8.or_eq_zero_iff]
  tauto

lemma hasFlag_comm (f m : UInt8) : hasFlag f m = hasFlag m f := by
  rw [hasFlag, hasFlag, UInt8.and_comm]

lemma hasFlag_mask_or (f a b : UInt8) : hasFlag f (a ||| b) = (hasFlag f a || hasFlag f b) := by
  rw [hasFlag_comm, hasFlag_or, hasFlag_comm a, hasFlag_comm b]

/-- The socket states of `socket.h`, in the order of its `enum`. -/
inductive SkState where
  | closed | listen | synSent | synReceived | established | closeWait
  | finWait1 | closing | lastAck | finWait2 | timeWait
  deriving DecidableEq, Repr, Inhabited

/-- The value of a state in the `enum`, the source comparing states with `<`. -/
def SkState.num : SkState → ℕ
  | closed => 0
  | listen => 1
  | synSent => 2
  | synReceived => 3
  | established => 4
  | closeWait => 5
  | finWait1 => 6
  | closing => 7
  | lastAck => 8
  | finWait2 => 9
  | timeWait => 10

instance : LT SkState := ⟨fun a b => a.num < b.num⟩

instance : LE SkState := ⟨fun a b => a.num ≤ b.num⟩

instance : DecidableLT SkState := fun a b => inferInstanceAs (Decidable (a.num < b.num))

instance : DecidableLE SkState := fun a b => inferInstanceAs (Decidable (a.num ≤ b.num))

/-- The parser states of `http_parse.h`. -/
inductive HttpState where
  | init | headerBegin | headerLineEnd | headerDone | chunkSize | chunkSizeEnd
  | chunkData | chunkDataEnd | chunkTrailerBegin | chunkTrailer | chunkEnd
  | bodyDone | error
  deriving DecidableEq, Repr, Inhabited

/-! ### Configuration and work space -/

/-- `RETRANSMIT_NUM_MAX`. -/
def retransmitNumMax : ℕ := 4
/-- `SEND_WINDOW_MAX`. -/
def sendWindowMax : UInt8 := 16
/-- `TCP_ACK_DELAY_MAX`. -/
def tcpAckDelayMax : ℕ := 1024
/-- `MBUF_DATA_SIZE`. -/
def mbufDataSize : ℕ := 1024 * 10

/-- `HTTP_METH_GET` and `HTTP_METH_POST`. -/
inductive HttpMethod where
  | get | post
  deriving DecidableEq, Repr, Inhabited

/-- The two values of `cfg->protocol`. -/
inductive Protocol where
  | tcp | udp
  deriving DecidableEq, Repr, Inhabited

/-- The fields of `struct config` that the handlers read, in `g_config` or through
the copy that `work_space_new` makes of them (`ws->server`, `ws->http`,
`ws->flood`, `ws->fast_close`, `ws->disable_ack`). `duration` is the value of
`(uint64_t)(g_config.duration)`. -/
structure Config where
  protocol : Protocol
  server : Bool
  keepalive : Bool
  flood : Bool
  http : Bool
  fastClose : Bool
  disableAck : Bool
  tcpRst : Bool
  httpMethod : HttpMethod
  pipeline : UInt8
  duration : UInt64
  retransmitTimeout : UInt64
  keepaliveRequestInterval : UInt64
  keepaliveRequestNum : Int
  deriving Repr

/-- The payload of a packet template (`struct mbuf_data`): the pushes that build a
template never write past `MBUF_DATA_SIZE`. -/
structure MbufData where
  bytes : List UInt8
  fits : bytes.length ≤ mbufDataSize

/-- `data_len` of a template, a `uint16_t`. -/
def MbufData.dataLen (p : MbufData) : UInt16 := p.bytes.length.toUInt16

lemma MbufData.toNat_dataLen (p : MbufData) : p.dataLen.toNat = p.bytes.length := by
  have h := p.fits
  rw [mbufDataSize] at h
  simp [dataLen]
  omega

/-- What `ws` and the globals hold while a handler runs. `second` is
`ws->time.second.count`, `tsc` is `ws->time.tsc`; `tcpData` is the template of
`ws->tcp_data` (the templates `ws->tcp` and `ws->tcp_opt` carry no payload);
`mbufAlloc n` says whether the `n`-th call of `rte_pktmbuf_alloc` succeeds. -/
structure WorkSpace where
  cfg : Config
  kni : Bool
  vxlan : Bool
  localIp : UInt32
  sendWindow : UInt32
  payloadSize : UInt32
  tcpData : MbufData
  tscPerSec : UInt64
  mbufAlloc : ℕ → Bool
  tsc : UInt64
  second : UInt64
  stop : Bool

/-- One reading of the clock, with the stop request of the control thread. -/
structure Clock where
  tsc : UInt64
  second : UInt64
  stop : Bool
  deriving Repr, DecidableEq

/-- The work space at another time. -/
def WorkSpace.at (ws : WorkSpace) (c : Clock) : WorkSpace :=
  { ws with tsc := c.tsc, second := c.second, stop := c.stop }

/-- `work_space_in_duration`. -/
def workSpaceInDuration (ws : WorkSpace) : Bool :=
  decide (ws.second < ws.cfg.duration) && !ws.stop

@[simp] lemma WorkSpace.at_cfg (ws : WorkSpace) (c : Clock) : (ws.at c).cfg = ws.cfg := rfl

@[simp] lemma WorkSpace.at_sendWindow (ws : WorkSpace) (c : Clock) :
    (ws.at c).sendWindow = ws.sendWindow := rfl

@[simp] lemma WorkSpace.at_tcpData (ws : WorkSpace) (c : Clock) :
    (ws.at c).tcpData = ws.tcpData := rfl

@[simp] lemma WorkSpace.at_mbufAlloc (ws : WorkSpace) (c : Clock) :
    (ws.at c).mbufAlloc = ws.mbufAlloc := rfl

/-! ### Sockets -/

/-- The values of the bit field `retrans`. -/
instance neZero_retrans : NeZero 8 := ⟨Nat.succ_ne_zero 7⟩

/-- The values of the bit field `keepalive_request_num`. -/
instance neZero_keepaliveRequestNum : NeZero 32768 := ⟨Nat.succ_ne_zero 32767⟩

/-- The values of the bit field `http_frags`. -/
instance neZero_httpFrags : NeZero 128 := ⟨Nat.succ_ne_zero 127⟩

/-- `struct socket` without its checksums and its list node; the node is kept by
the timer queues. -/
structure Socket where
  rcvNxt : UInt32 := 0
  sndNxt : UInt32 := 0
  sndUna : UInt32 := 0
  flags : UInt8 := 0
  state : SkState := .closed
  retrans : Fin 8 := 0
  keepalive : Bool := false
  keepaliveRequestNum : Fin 32768 := 0
  timerTsc : UInt64 := 0
  laddr : UInt32 := 0
  faddr : UInt32 := 0
  lport : UInt16 := 0
  fport : UInt16 := 0
  httpLength : Int64 := 0
  httpParseState : HttpState := .init
  httpFlags : UInt8 := 0
  httpAck : Bool := false
  httpFrags : Fin 128 := 0
  sndWindow : UInt8 := 0
  sndMax : UInt32 := 0
  deriving DecidableEq, Inhabited

/-! ### Counters -/

/-- The counters of `struct net_stats` that the TCP, UDP and timer code bumps. -/
structure NetStats where
  pktLost : UInt64 := 0
  socketDup : UInt64 := 0
  socketOpen : UInt64 := 0
  socketClose : UInt64 := 0
  socketError : UInt64 := 0
  tcpTx : UInt64 := 0
  synRx : UInt64 := 0
  synTx : UInt64 := 0
  finRx : UInt64 := 0
  finTx : UInt64 := 0
  rstRx : UInt64 := 0
  rstTx : UInt64 := 0
  synRt : UInt64 := 0
  finRt : UInt64 := 0
  ackRt : UInt64 := 0
  pushRt : UInt64 := 0
  ackDup : UInt64 := 0
  http2xx : UInt64 := 0
  tcpReq : UInt64 := 0
  httpGet : UInt64 := 0
  httpPost : UInt64 := 0
  tcpRsp : UInt64 := 0
  httpError : UInt64 := 0
  tcpDrop : UInt64 := 0
  udpTx : UInt64 := 0
  udpRt : UInt64 := 0
  udpDrop : UInt64 := 0
  rttTsc : UInt64 := 0
  rttNum : UInt64 := 0
  socketCurrent : UInt64 := 0
  deriving DecidableEq, Inhabited

/-- The socket counters, the part of `net_stats` that tracks the sockets of a pool. -/
def NetStats.sockets (s : NetStats) : UInt64 × UInt64 × UInt64 :=
  (s.socketOpen, s.socketClose, s.socketCurrent)

/-! ### Packets -/

/-- The fields of `struct tcphdr` that the code reads; a UDP header is read through
it for its ports. -/
structure Tcphdr where
  sport : UInt16
  dport : UInt16
  seq : UInt32
  ack : UInt32
  off : UInt8
  flags : UInt8
  deriving DecidableEq, Repr

/-- A received packet: the IP version, the low 32 bits of the addresses, `tot_len` of
an IPv4 and `ip6_plen` of an IPv6 header, the L4 header, and the bytes found from
`th_off` on. -/
structure Mbuf where
  version : UInt8
  saddr : UInt32
  daddr : UInt32
  totLen : UInt16
  ip6Plen : UInt16
  th : Tcphdr
  data : List UInt8
  deriving DecidableEq, Repr

/-- A TCP segment given to the transmit queue. -/
structure Segment where
  saddr : UInt32
  daddr : UInt32
  sport : UInt16
  dport : UInt16
  flags : UInt8
  seq : UInt32
  ack : UInt32
  data : List UInt8
  deriving DecidableEq, Repr

/-- The sequence numbers a segment occupies: its payload, and one for `SYN` and for
`FIN`. -/
def Segment.seqLen (s : Segment) : ℕ :=
  s.data.length + (if hasFlag s.flags thSyn then 1 else 0) + (if hasFlag s.flags thFin then 1 else 0)

/-! ### One call on one socket -/

/-- The three timer queues of a worker. -/
inductive TimerKind where
  | retransmit | keepalive | timeout
  deriving DecidableEq, Repr

/-- The place of `sk->node`: where it was when the call began, linked to itself, or
linked at the tail of a queue. -/
inductive Link where
  | kept | self | tail (q : TimerKind)
  deriving DecidableEq, Repr

/-- What a call does on its socket that can be told from outside: it opens the connection
or closes it (`current` is `socket_current` before the decrement), hands a segment or
datagram to the transmit queue (with `snd_una` and `snd_nxt` at that moment; `fresh` is
the number of sequence numbers taken for it, none for a repetition), takes the `SYN-ACK`
that it waited for, goes on with a segment that `tcp_check_sequence` let pass (`len` is its
payload and `FIN`), or passes a payload to `http_parse_request`. -/
inductive Obs where
  | opened (sndNxt rcvNxt : UInt32)
  | closed (current : UInt64)
  | sent (seg : Segment) (sndUna sndNxt : UInt32) (fresh : ℕ)
  | datagram (lport fport : UInt16) (laddr faddr : UInt32)
  | synAck (seq ack : UInt32)
  | accepted (seq ack : UInt32) (len : ℕ)
  | request (seq : UInt32) (data : List UInt8)
  deriving DecidableEq, Repr

/-- What a function called on one socket of a worker reads and writes. -/
structure View where
  sk : Socket
  link : Link := .kept
  stats : NetStats := {}
  trace : List Obs := []
  allocs : ℕ := 0

/-- A counter update. -/
def View.count (v : View) (f : NetStats → NetStats) : View := { v with stats := f v.stats }

/-- Append to the trace. -/
def View.log (v : View) (o : Obs) : View := { v with trace := v.trace ++ [o] }

@[simp] lemma View.count_sk (v : View) (f : NetStats → NetStats) : (v.count f).sk = v.sk := rfl
@[simp] lemma View.count_link (v : View) (f : NetStats → NetStats) : (v.count f).link = v.link := rfl
@[simp] lemma View.count_trace (v : View) (f : NetStats → NetStats) :
    (v.count f).trace = v.trace := rfl
@[simp] lemma View.count_allocs (v : View) (f : NetStats → NetStats) :
    (v.count f).allocs = v.allocs := rfl
@[simp] lemma View.log_sk (v : View) (o : Obs) : (v.log o).sk = v.sk := rfl
@[simp] lemma View.log_link (v : View) (o : Obs) : (v.log o).link = v.link := rfl
@[simp] lemma View.log_stats (v : View) (o : Obs) : (v.log o).stats = v.stats := rfl
@[simp] lemma View.log_trace (v : View) (o : Obs) : (v.log o).trace = v.trace ++ [o] := rfl
@[simp] lemma View.log_allocs (v : View) (o : Obs) : (v.log o).allocs = v.allocs := rfl

end Dperf
