import Dperf.System

/-!
Resets in answer to packets without a socket.

* `Worker.segments`: the segments that a worker has given to the transmit queue.
* `answersRst`: the worker answers a packet without a socket by a reset. The flags of the
  packet are not looked at: a reset is answered like any other segment
  (`l4Process_rst_iff`).
* `Exchange`: two hosts and the segments on the way between them. The resets that one
  segment without a socket sets off are finitely many exactly if one of the two hosts does
  not answer (`resets_finite_iff`).
-/

namespace Dperf

variable {n : ℕ}

/-! ### Segments sent -/

/-- The segment that an observation on a socket hands to the transmit queue. -/
def Obs.segment : Obs → Option Segment
  | .sent seg _ _ _ => some seg
  | _ => none

/-- The segment that is handed to the transmit queue. -/
def Out.segment {ι : Type} : Out ι → Option Segment
  | .sk _ o => o.segment
  | .rst seg => some seg
  | .kni _ => none

/-- The segments that a worker has given to the transmit queue. -/
def Worker.segments (w : Worker n) : List Segment := w.trace.filterMap Out.segment

/-- The resets among them that answer a packet without a socket. -/
def Worker.resets (w : Worker n) : ℕ := w.trace.countP fun o => o matches .rst _

lemma Worker.segments_put (w : Worker n) (i : Fin n) (v : View) :
    (w.put i v).segments = w.segments ++ v.trace.filterMap Obs.segment := by
  simp only [segments, put, List.filterMap_append, List.filterMap_map]
  rfl

/-- A worker answers a packet for `daddr` without a socket by a reset. -/
def answersRst (ws : WorkSpace) (daddr : UInt32) : Bool :=
  ws.cfg.tcpRst && !ws.vxlan && !(ws.kni && daddr == ws.localIp)

/-- What becomes of a TCP packet without a socket. -/
lemma noSocket_tcp {ws : WorkSpace} (hp : ws.cfg.protocol = .tcp) (m : Mbuf) (w : Worker n) :
    (noSocket ws m w).pool = w.pool ∧
      (noSocket ws m w).segments =
        w.segments ++ (if answersRst ws m.daddr then [tcpRstSegment m] else []) ∧
      (noSocket ws m w).resets =
        w.resets + (if answersRst ws m.daddr then 1 else 0) := by
  rw [noSocket, answersRst, hp]
  by_cases hk : (ws.kni && m.daddr == ws.localIp) = true
  · rw [if_pos hk]
    simp [hk, Worker.log, Worker.segments, Worker.resets, Out.segment, List.countP_append]
  · rw [if_neg hk]
    simp only [Bool.not_eq_true] at hk
    cases hr : ws.cfg.tcpRst with
    | false => simp [Worker.count, Worker.segments, Worker.resets]
    | true =>
        rw [if_pos rfl, tcpReplyRst]
        cases hv : ws.vxlan with
        | true => simp [Worker.count, Worker.segments, Worker.resets]
        | false =>
            simp [hk, Worker.count, Worker.log, Worker.segments, Worker.resets, Out.segment,
              List.countP_append]

/-- A reset for a socket is not answered. -/
lemma tcpProcessRst_segments (v : View) :
    (tcpProcessRst v).trace.filterMap Obs.segment = v.trace.filterMap Obs.segment := by
  rw [tcpProcessRst]
  split_ifs with h
  · rw [socketClose, if_pos h, View.count_trace]
    simp [socketNodeDel, Obs.segment]
  · rfl

/-- A reset for a socket goes to `tcp_process_rst`, whatever other flags it has. -/
lemma l4Input_rst {ws : WorkSpace} (hp : ws.cfg.protocol = .tcp) {m : Mbuf}
    (hr : hasFlag m.th.flags thRst = true) (v : View) :
    l4Input ws m v = (.none, tcpProcessRst (v.count (tcpFlagsRxCount m.th.flags))) := by
  have hdata : ¬ (hasFlag m.th.flags (thSyn ||| thRst) = false ∧
      hasFlag m.th.flags thAck = true) := by
    rw [hasFlag_mask_or, hr, Bool.or_true]
    simp
  have hne : ∀ f, hasFlag f thRst = false → m.th.flags ≠ f := by
    rintro f hf rfl
    rw [hf] at hr
    cases hr
  rw [l4Input, hp]
  cases ws.cfg.server with
  | true =>
      rw [tcpServerInput]
      dsimp only
      rw [if_neg hdata, if_neg (hne thSyn (by decide)), if_pos hr]
  | false =>
      rw [tcpClientInput]
      dsimp only
      rw [if_neg hdata, if_neg (hne (thSyn ||| thAck) (by decide)), if_pos hr]

/-- The answer to a reset: one segment exactly if there is no socket and the worker answers
such packets. -/
lemma l4Process_rst {ws : WorkSpace} (hp : ws.cfg.protocol = .tcp) {m : Mbuf}
    (hr : hasFlag m.th.flags thRst = true) (found : Option (Fin n)) (w : Worker n) :
    (l4Process ws m found w).segments = w.segments ++
      (if found = none ∧ answersRst ws m.daddr then [tcpRstSegment m] else []) := by
  cases found with
  | none =>
      rw [l4Process, (noSocket_tcp hp m w).2.1]
      simp
  | some i =>
      rw [l4Process, l4Input_rst hp hr, tcpAckDelayRest, Worker.segments_put,
        tcpProcessRst_segments]
      simp [Worker.view]

/-! ### Two hosts -/

/-- A packet with the addresses, the ports, the numbers and the flags of a segment. -/
structure Mbuf.Carries (m : Mbuf) (seg : Segment) : Prop where
  saddr : m.saddr = seg.saddr
  daddr : m.daddr = seg.daddr
  sport : m.th.sport = seg.sport
  dport : m.th.dport = seg.dport
  seq : m.th.seq = seg.seq
  ack : m.th.ack = seg.ack
  flags : m.th.flags = seg.flags

/-- A packet that carries a segment. -/
def Segment.mbuf (seg : Segment) : Mbuf where
  version := 4
  saddr := seg.saddr
  daddr := seg.daddr
  totLen := 40 + seg.data.length.toUInt16
  ip6Plen := 0
  th :=
    { sport := seg.sport, dport := seg.dport, seq := seg.seq, ack := seg.ack, off := 5
      flags := seg.flags }
  data := seg.data

lemma Segment.mbuf_carries (seg : Segment) : seg.mbuf.Carries seg :=
  ⟨rfl, rfl, rfl, rfl, rfl, rfl, rfl⟩

/-- Two TCP hosts, and a segment on its way to the host `dest` that matches no socket on
either side: neither it at `dest` nor an answer to it at the other host. -/
structure Hosts where
  n : Bool → ℕ
  st : ∀ b, SocketTable (n b)
  ws : Bool → WorkSpace
  worker : ∀ b, Worker (n b)
  dest : Bool
  seg : Segment
  tcp : ∀ b, (ws b).cfg.protocol = .tcp
  unmatched : ∀ m : Mbuf, m.saddr = seg.saddr → m.daddr = seg.daddr → m.th.sport = seg.sport →
    m.th.dport = seg.dport → socketLookup (st dest) (ws dest) (worker dest).pool m = none
  unmatchedBack : ∀ m : Mbuf, m.saddr = seg.daddr → m.daddr = seg.saddr →
    m.th.sport = seg.dport → m.th.dport = seg.sport →
      socketLookup (st !dest) (ws !dest) (worker !dest).pool m = none

/-- The two workers, and the segments on their way, each with the host it goes to. -/
structure Exchange (n : Bool → ℕ) where
  worker : ∀ b, Worker (n b)
  flight : List (Bool × Segment)

/-- The resets of both hosts. -/
def Exchange.resets {n : Bool → ℕ} (x : Exchange n) : ℕ :=
  (x.worker true).resets + (x.worker false).resets

namespace Hosts

variable (h : Hosts)

/-- The segment is on its way. -/
def start : Exchange h.n := ⟨h.worker, [(h.dest, h.seg)]⟩

/-- The host `b` takes a packet that carries the segment `seg`, at some time. -/
def deliver (x : Exchange h.n) (b : Bool) (c : Clock) (m : Mbuf) (flight : List (Bool × Segment)) :
    Exchange h.n :=
  let w := recvPacket (h.st b) ((h.ws b).at c) .tcp m (x.worker b)
  { worker := Function.update x.worker b w
    flight := flight ++ (w.segments.drop (x.worker b).segments.length).map fun seg => (!b, seg) }

/-- One of the segments on their way arrives. What the host sends goes to the other. -/
inductive Step : Exchange h.n → Exchange h.n → Prop
  | deliver {x : Exchange h.n} {l₁ l₂ : List (Bool × Segment)} {b : Bool} {seg : Segment} {m : Mbuf}
      (hx : x.flight = l₁ ++ (b, seg) :: l₂) (hm : m.Carries seg) (c : Clock) :
      Step x (h.deliver x b c m (l₁ ++ l₂))

/-- The host `b` answers a segment of this exchange. -/
def Answers (b : Bool) : Prop :=
  answersRst (h.ws b) (if b = h.dest then h.seg.daddr else h.seg.saddr) = true

instance (b : Bool) : Decidable (h.Answers b) :=
  inferInstanceAs (Decidable (answersRst _ _ = true))

/-- A segment between the two hosts, on its way to the host `b`. -/
def Between (b : Bool) (seg : Segment) : Prop :=
  if b = h.dest then
    seg.saddr = h.seg.saddr ∧ seg.daddr = h.seg.daddr ∧ seg.sport = h.seg.sport ∧
      seg.dport = h.seg.dport
  else
    seg.saddr = h.seg.daddr ∧ seg.daddr = h.seg.saddr ∧ seg.sport = h.seg.dport ∧
      seg.dport = h.seg.sport

/-- No socket has changed, and at most one segment is on its way. -/
structure Good (x : Exchange h.n) : Prop where
  pool : ∀ b, (x.worker b).pool = (h.worker b).pool
  flight : x.flight = [] ∨ ∃ b seg, x.flight = [(b, seg)] ∧ h.Between b seg

lemma good_start : h.Good h.start :=
  ⟨fun _ => rfl, .inr ⟨h.dest, h.seg, rfl, by rw [Between, if_pos rfl]; exact ⟨rfl, rfl, rfl, rfl⟩⟩⟩

variable {h}

/-- No host finds a socket for a segment between the two. -/
lemma Good.lookup {x : Exchange h.n} (hx : h.Good x) {b : Bool} {seg : Segment} {m : Mbuf}
    (hb : h.Between b seg) (hm : m.Carries seg) (c : Clock) :
    socketLookup (h.st b) ((h.ws b).at c) (x.worker b).pool m = none := by
  rw [hx.pool b]
  rw [Between] at hb
  split_ifs at hb with hd
  · obtain ⟨h1, h2, h3, h4⟩ := hb
    subst hd
    exact h.unmatched m (hm.saddr.trans h1) (hm.daddr.trans h2) (hm.sport.trans h3)
      (hm.dport.trans h4)
  · obtain ⟨h1, h2, h3, h4⟩ := hb
    obtain rfl : b = !h.dest := by
      cases b <;> cases hdest : h.dest <;> simp_all
    exact h.unmatchedBack m (hm.saddr.trans h1) (hm.daddr.trans h2) (hm.sport.trans h3)
      (hm.dport.trans h4)

/-- The answer goes to the other host. -/
lemma between_answer {b : Bool} {seg : Segment} {m : Mbuf} (hb : h.Between b seg)
    (hm : m.Carries seg) : h.Between (!b) (tcpRstSegment m) := by
  rw [Between] at hb ⊢
  obtain ⟨h1, h2, h3, h4, -, -, -⟩ := hm
  have hne : (!b) = h.dest ↔ ¬ b = h.dest := by
    cases b <;> cases h.dest <;> simp
  split_ifs at hb with hd
  · rw [if_neg (fun h => hne.mp h hd)]
    exact ⟨h2.trans hb.2.1, h1.trans hb.1, h4.trans hb.2.2.2, h3.trans hb.2.2.1⟩
  · rw [if_pos (hne.mpr hd)]
    exact ⟨h2.trans hb.2.1, h1.trans hb.1, h4.trans hb.2.2.2, h3.trans hb.2.2.1⟩

/-- The segment that arrives is answered as the host answers, and nothing else happens. -/
lemma deliver_good {x : Exchange h.n} (hx : h.Good x) {b : Bool} {seg : Segment} {m : Mbuf}
    (hb : h.Between b seg) (hm : m.Carries seg) (c : Clock) :
    h.Good (h.deliver x b c m []) ∧
      (h.Answers b → (h.deliver x b c m []).flight = [(!b, tcpRstSegment m)] ∧
        (h.deliver x b c m []).resets = x.resets + 1) ∧
      (¬ h.Answers b → (h.deliver x b c m []).flight = [] ∧
        (h.deliver x b c m []).resets = x.resets) := by
  have hdaddr : m.daddr = if b = h.dest then h.seg.daddr else h.seg.saddr := by
    rw [hm.daddr]
    rw [Between] at hb
    split_ifs at hb ⊢ with hd
    · exact hb.2.1
    · exact hb.2.1
  have hrecv : recvPacket (h.st b) ((h.ws b).at c) .tcp m (x.worker b) =
      noSocket ((h.ws b).at c) m (x.worker b) := by
    rw [recvPacket, WorkSpace.at_cfg, if_pos (h.tcp b).symm, hx.lookup hb hm c, l4Process]
  have hp : ((h.ws b).at c).cfg.protocol = .tcp := h.tcp b
  obtain ⟨hpool, hsegs, hresets⟩ := noSocket_tcp hp m (x.worker b)
  have hans : answersRst ((h.ws b).at c) m.daddr = true ↔ h.Answers b := by
    rw [hdaddr]
    rfl
  have hflight : (h.deliver x b c m []).flight =
      (if answersRst ((h.ws b).at c) m.daddr then [tcpRstSegment m] else []).map
        fun seg => (!b, seg) := by
    rw [deliver, hrecv, hsegs, List.drop_left, List.nil_append]
  have hcount : (h.deliver x b c m []).resets =
      x.resets + if answersRst ((h.ws b).at c) m.daddr then 1 else 0 := by
    rw [Exchange.resets, Exchange.resets, deliver, hrecv]
    cases b with
    | true =>
        simp only [Function.update_self, ne_eq, Bool.false_eq_true, not_false_eq_true,
          Function.update_of_ne]
        omega
    | false =>
        simp only [Function.update_self, ne_eq, Bool.true_eq_false, not_false_eq_true,
          Function.update_of_ne]
        omega
  refine ⟨⟨fun b' => ?_, ?_⟩, fun ha => ?_, fun ha => ?_⟩
  · by_cases hbb : b' = b
    · subst hbb
      rw [deliver, hrecv]
      simp only [Function.update_self]
      rw [hpool, hx.pool]
    · rw [deliver]
      simp only [Function.update_of_ne hbb]
      exact hx.pool b'
  · rw [hflight]
    split_ifs
    · exact .inr ⟨!b, tcpRstSegment m, rfl, between_answer hb hm⟩
    · exact .inl rfl
  · rw [hflight, hcount, if_pos (hans.mpr ha), if_pos (hans.mpr ha)]
    exact ⟨rfl, rfl⟩
  · rw [hflight, hcount, if_neg (fun h => ha (hans.mp h)), if_neg (fun h => ha (hans.mp h))]
    exact ⟨rfl, rfl⟩

variable (h)

/-- Two hosts that both answer go on for ever. -/
lemma exists_resets (hboth : ∀ b, h.Answers b) (k : ℕ) :
    ∃ x, Relation.ReflTransGen h.Step h.start x ∧ h.Good x ∧
      (∃ b seg, x.flight = [(b, seg)] ∧ h.Between b seg) ∧ k ≤ x.resets := by
  induction k with
  | zero =>
      refine ⟨h.start, .refl, h.good_start, ⟨h.dest, h.seg, rfl, ?_⟩, Nat.zero_le _⟩
      rw [Between, if_pos rfl]
      exact ⟨rfl, rfl, rfl, rfl⟩
  | succ k ih =>
      obtain ⟨x, hrun, hx, ⟨b, seg, hf, hb⟩, hk⟩ := ih
      obtain ⟨hgood, hyes, -⟩ := deliver_good hx hb seg.mbuf_carries ⟨0, 0, false⟩
      obtain ⟨hflight, hcount⟩ := hyes (hboth b)
      have hstep : h.Step x (h.deliver x b ⟨0, 0, false⟩ seg.mbuf ([] ++ [])) :=
        .deliver hf seg.mbuf_carries ⟨0, 0, false⟩
      refine ⟨_, hrun.tail hstep, hgood,
        ⟨_, _, hflight, between_answer hb seg.mbuf_carries⟩, ?_⟩
      rw [List.append_nil, hcount]
      omega

/-- What is still to come, if one host does not answer. -/
def Bounded (x : Exchange h.n) : Prop :=
  h.Good x ∧ (x.resets ≤ h.start.resets ∨
    x.resets ≤ h.start.resets + 1 ∧ ∀ b seg, x.flight = [(b, seg)] → ¬ h.Answers b)

lemma Step.bounded (hone : ¬ ∀ b, h.Answers b) {x y : Exchange h.n} (hs : h.Step x y)
    (hx : h.Bounded x) : h.Bounded y := by
  obtain ⟨hgood, hcount⟩ := hx
  obtain ⟨hx, hm, c⟩ := hs
  rename_i l₁ l₂ b seg m
  obtain hnil | ⟨b', seg', hf, hb⟩ := hgood.flight
  · rw [hnil] at hx
    simp at hx
  · -- the one segment on its way is the one that arrives
    rw [hf, eq_comm, List.append_eq_singleton_iff] at hx
    obtain ⟨rfl, hl⟩ | ⟨-, hl⟩ := hx
    · obtain ⟨⟨rfl, rfl⟩, rfl⟩ : (b = b' ∧ seg = seg') ∧ l₂ = [] := by simpa using hl
      obtain ⟨hgood', hyes, hno⟩ := deliver_good hgood hb hm c
      refine ⟨hgood', ?_⟩
      by_cases ha : h.Answers b
      · obtain ⟨hflight, hres⟩ := hyes ha
        right
        rw [List.nil_append, hres, hflight]
        obtain hc | ⟨-, hc⟩ := hcount
        · refine ⟨by omega, fun b' seg' hf' => ?_⟩
          obtain ⟨rfl, -⟩ : (!b) = b' ∧ _ := by simpa using hf'
          intro hb'
          exact hone fun d => by cases d <;> cases b <;> assumption
        · exact absurd ha (hc b seg hf)
      · obtain ⟨hflight, hres⟩ := hno ha
        rw [List.nil_append, hres, hflight]
        obtain hc | ⟨hc, -⟩ := hcount
        · exact .inl hc
        · exact .inr ⟨hc, by simp⟩
    · simp at hl

/-- The resets that a segment without a socket sets off are finitely many exactly if one of
the two hosts does not answer such segments. -/
theorem resets_finite_iff : (∃ N, ∀ x, Relation.ReflTransGen h.Step h.start x → x.resets ≤ N) ↔
    ¬ ∀ b, h.Answers b := by
  constructor
  · rintro ⟨N, hN⟩ hboth
    obtain ⟨x, hrun, -, -, hk⟩ := h.exists_resets hboth (N + 1)
    have := hN x hrun
    omega
  · intro hone
    refine ⟨h.start.resets + 1, fun x hrun => ?_⟩
    have hb : h.Bounded x := by
      induction hrun with
      | refl => exact ⟨h.good_start, .inl le_rfl⟩
      | tail _ hs ih => exact hs.bounded h hone ih
    obtain ⟨-, hc | ⟨hc, -⟩⟩ := hb <;> omega

end Hosts

/-! ### Resets in answer to resets -/

/-- A reset is not answered exactly unless it has no socket and the worker answers such
packets; one segment without a socket sets off finitely many resets exactly unless both
hosts do. -/
theorem rst_unanswered_iff {ws : WorkSpace} (hp : ws.cfg.protocol = .tcp) {m : Mbuf}
    (hr : hasFlag m.th.flags thRst = true) (found : Option (Fin n)) (w : Worker n) (h : Hosts) :
    ((l4Process ws m found w).segments = w.segments ↔
      ¬ (found = none ∧ answersRst ws m.daddr = true)) ∧
    ((∃ N, ∀ x, Relation.ReflTransGen h.Step h.start x → x.resets ≤ N) ↔
      ¬ ∀ b, h.Answers b) := by
  refine ⟨?_, h.resets_finite_iff⟩
  rw [l4Process_rst hp hr]
  split_ifs with ha
  · simp [ha]
  · simp [ha]

/-- Two hosts with the configuration `cfg`, and a segment between two addresses that neither
has in its table. -/
def Hosts.single (cfg : Config) (hp : cfg.protocol = .tcp) (hs : cfg.server = false) : Hosts where
  n _ := 1
  st _ := SocketTable.single
  ws _ := WorkSpace.single cfg
  worker _ := Worker.single (WorkSpace.single cfg)
  dest := true
  seg := ⟨3, 4, 5, 6, thRst ||| thAck, 0, 7, []⟩
  tcp _ := hp
  unmatched m _ hd _ _ := by
    have hn : SocketTable.single.ht (UInt32.toUInt16 4) = none := by decide
    rw [socketLookup, WorkSpace.single, hs, if_neg (by simp), socketClientLookup, hd,
      SocketTable.commonLookup]
    split
    · rfl
    · rename_i h
      rw [hn] at h
      cases h
  unmatchedBack m _ hd _ _ := by
    have hn : SocketTable.single.ht (UInt32.toUInt16 3) = none := by decide
    rw [socketLookup, WorkSpace.single, hs, if_neg (by simp), socketClientLookup, hd,
      SocketTable.commonLookup]
    split
    · rfl
    · rename_i h
      rw [hn] at h
      cases h

/-- A reset for a socket is not answered, and hosts without `tcp_rst` stay silent. -/
theorem rst_unanswered_socket :
    (l4Process (WorkSpace.single .single) (.single false (thRst ||| thAck) 0 1 []) (some 0)
      (Worker.single (WorkSpace.single .single))).segments = [] ∧
    ∃ N, ∀ x, Relation.ReflTransGen
      (Hosts.single { Config.single with tcpRst := false } rfl rfl).Step
      (Hosts.single { Config.single with tcpRst := false } rfl rfl).start x → x.resets ≤ N := by
  have hp : (WorkSpace.single .single).cfg.protocol = .tcp := rfl
  have h := rst_unanswered_iff hp
    (m := .single false (thRst ||| thAck) 0 1 []) (by decide) (some 0)
    (Worker.single (WorkSpace.single .single))
    (Hosts.single { Config.single with tcpRst := false } rfl rfl)
  refine ⟨h.1.mpr (by simp), h.2.mpr fun hall => ?_⟩
  exact absurd (hall true) (by decide)

/-- A reset without a socket is answered by a reset, and two hosts of the default
configuration answer each other's resets for ever. -/
theorem rst_answered :
    (recvPacket SocketTable.single (WorkSpace.single .single) .tcp
      { Mbuf.single false (thRst ||| thAck) 0 1 [] with daddr := 4 }
      (Worker.single (WorkSpace.single .single))).segments ≠ [] ∧
    ¬ ∃ N, ∀ x, Relation.ReflTransGen (Hosts.single .single rfl rfl).Step
      (Hosts.single .single rfl rfl).start x → x.resets ≤ N := by
  refine ⟨by decide, fun h => ?_⟩
  exact (Hosts.single .single rfl rfl).resets_finite_iff.mp h (by decide)

end Dperf
