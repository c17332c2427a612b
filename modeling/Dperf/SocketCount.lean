import Mathlib.Algebra.BigOperators.Fin
import Dperf.Steady

/-!
The socket counters of `net_stats.h` against the pool, for every protocol, side and
configuration.

* `Tallied k v`: in a view of a worker with `k` other open sockets, `socket_current` is the
  number of open sockets, and no decrement found it at zero. Every function of one socket
  keeps it; the assignments to `sk->state` are checked one by one.
* `Counted`: the same for a worker; `counted_of_reach`.
* `socketCurrent_eq_open`: the law in every reachable state.
-/

namespace Dperf

/-! ### One socket -/

/-- One for an open socket. -/
def openNum (sk : Socket) : ℕ := if sk.state = .closed then 0 else 1

lemma openNum_closed {sk : Socket} (h : sk.state = .closed) : openNum sk = 0 := if_pos h

lemma openNum_open {sk : Socket} (h : sk.state ≠ .closed) : openNum sk = 1 := if_neg h

/-- The counters agree with `k` other open sockets and the one of the view; nothing sets
`SK_TIME_WAIT`, which a fast recycle would close without counting. -/
structure Tallied (k : ℕ) (v : View) : Prop where
  current : v.stats.socketCurrent.toNat = k + openNum v.sk
  balance : v.stats.socketOpen - v.stats.socketClose = v.stats.socketCurrent
  closed : ∀ cur, .closed cur ∈ v.trace → cur ≠ 0
  recycle : v.sk.state ≠ .timeWait

namespace Tallied

variable {ws : WorkSpace} {k : ℕ} {v v' : View}

/-- A change of neither the socket counters nor the openness of the socket. -/
lemma of_same (h : Tallied k v) (hs : v'.stats.sockets = v.stats.sockets)
    (ho : v'.sk.state = .closed ↔ v.sk.state = .closed) (hr : v'.sk.state ≠ .timeWait)
    (ht : ∀ cur, .closed cur ∈ v'.trace → .closed cur ∈ v.trace) : Tallied k v' := by
  have hopen : v'.stats.socketOpen = v.stats.socketOpen := congrArg Prod.fst hs
  have hclose : v'.stats.socketClose = v.stats.socketClose := congrArg (·.2.1) hs
  have hcur : v'.stats.socketCurrent = v.stats.socketCurrent := congrArg (·.2.2) hs
  have hnum : openNum v'.sk = openNum v.sk := by simp only [openNum, ho]
  exact ⟨by rw [hcur, hnum, h.current], by rw [hopen, hclose, hcur, h.balance],
    fun cur hc => h.closed cur (ht cur hc), hr⟩

/-- A change of other counters, of fields of the socket but its state, and of its node. -/
lemma touch (h : Tallied k v) (hs : v'.stats.sockets = v.stats.sockets)
    (ho : v'.sk.state = v.sk.state) (ht : v'.trace = v.trace) : Tallied k v' :=
  h.of_same hs (by rw [ho]) (ho ▸ h.recycle) (by rw [ht]; exact fun _ => id)

/-- A counter that is not about sockets. -/
lemma count {f : NetStats → NetStats} (h : Tallied k v)
    (hf : (f v.stats).sockets = v.stats.sockets) : Tallied k (v.count f) :=
  h.touch hf rfl rfl

/-- An entry of the trace that closes nothing. -/
lemma log {o : Obs} (h : Tallied k v) (ho : ∀ cur, o ≠ .closed cur) : Tallied k (v.log o) := by
  refine h.of_same rfl Iff.rfl h.recycle fun cur hc => ?_
  rcases List.mem_append.mp hc with hc | hc
  · exact hc
  · exact absurd (List.mem_singleton.mp hc).symm (ho cur)

/-- An open socket stays open under a new state. -/
lemma setState (h : Tallied k v) (ho : v.sk.state ≠ .closed) {s : SkState} (hs : s ≠ .closed)
    (hr : s ≠ .timeWait) : Tallied k { v with sk.state := s } :=
  h.of_same rfl (by simp [ho, hs]) hr fun _ => id

lemma socketClose (h : Tallied k v) : Tallied k (socketClose v) := by
  rw [Dperf.socketClose]
  split_ifs with ho
  · have hcur := h.current
    rw [openNum_open ho] at hcur
    have hne : v.stats.socketCurrent ≠ 0 := by
      intro h0
      rw [h0] at hcur
      simp at hcur
    refine ⟨?_, ?_, fun cur hc => ?_, by simp [socketNodeDel]⟩
    · have h1 : (1 : UInt64) ≤ v.stats.socketCurrent := by
        rw [UInt64.le_iff_toNat_le]
        simp
        omega
      have hsub : (v.stats.socketCurrent - 1).toNat = v.stats.socketCurrent.toNat - 1 :=
        UInt64.toNat_sub_of_le _ _ h1
      show (v.stats.socketCurrent - 1).toNat = k + 0
      omega
    · show v.stats.socketOpen - (v.stats.socketClose + 1) = v.stats.socketCurrent - 1
      rw [← h.balance]
      grind
    · rcases List.mem_append.mp hc with hc | hc
      · exact h.closed cur hc
      · have : cur = v.stats.socketCurrent := by simpa using hc
        exact this ▸ hne
  · exact h

/-- A closed socket is opened and counted. -/
lemma opened (h : Tallied k v) (hk : k + 1 < 2 ^ 64) (hc : v.sk.state = .closed)
    (hs : v'.stats = netStatsSocketOpen v.stats) (ho : v'.sk.state ≠ .closed)
    (hr : v'.sk.state ≠ .timeWait)
    (ht : ∀ cur, .closed cur ∈ v'.trace → .closed cur ∈ v.trace) : Tallied k v' := by
  have hcur := h.current
  rw [openNum_closed hc] at hcur
  refine ⟨?_, ?_, fun cur hm => h.closed cur (ht cur hm), hr⟩
  · rw [hs, openNum_open ho]
    show (v.stats.socketCurrent + 1).toNat = k + 1
    rw [UInt64.toNat_add, hcur]
    exact Nat.mod_eq_of_lt hk
  · rw [hs]
    show v.stats.socketOpen + 1 - v.stats.socketClose = v.stats.socketCurrent + 1
    rw [← h.balance]
    grind

/-! ### TCP -/

lemma reply (h : Tallied k v) (f : UInt8) : Tallied k (tcpReply ws f v) := by
  refine h.of_same (by simp) (by simp) (by simpa using h.recycle) fun cur hc => ?_
  rw [tcpReply_trace] at hc
  rcases List.mem_append.mp hc with hc | hc
  · exact hc
  · split_ifs at hc <;> simp at hc

lemma steady (ws : WorkSpace) (k : ℕ) : Steady ws (Tallied k) where
  touch h hs ho _ ht := h.touch hs ho ht
  move h ho hs hr := h.setState ho hs fun ht => h.recycle (hr ht)
  reply f h := h.reply f
  close h := h.socketClose

lemma checkSequence (h : Tallied k v) (th : Tcphdr) (dataLen : UInt16) :
    Tallied k (tcpCheckSequence ws th dataLen v).2 := by
  by_cases hr : (tcpCheckSequence ws th dataLen v).1 = false
  · exact (steady ws k).dropped h hr
  · have hs := tcpCheckSequence_step ws th dataLen v
    generalize tcpCheckSequence ws th dataLen v = r at hr hs ⊢
    cases hs with
    | accept =>
        obtain ⟨hstats, htrace⟩ := tcpAcceptInOrder_rest ws th dataLen v
        exact h.touch (by rw [hstats]) (tcpAcceptInOrder_state ..) htrace
    | simultaneous _ hf => exact h.of_same rfl (by simp [hf.1]) (by simp) fun _ => id
    | newAck => exact h.touch rfl (growWindow_state _) rfl
    | closedSocket | drop | dupAck | thirdDupAck | fastRetransmit => exact absurd rfl hr

lemma serverOpen (h : Tallied k v) (hk : k + 1 < 2 ^ 64) (hc : v.sk.state = .closed)
    (th : Tcphdr) : Tallied k (socketServerOpen th v) := by
  have he : v.sk.state ≠ .synReceived := by simp [hc]
  rw [socketServerOpen]
  dsimp only
  rw [if_pos he]
  refine Tallied.log ?_ (by simp)
  exact h.opened hk hc rfl (by simp [socketNodeDel]) (by simp [socketNodeDel]) fun _ => id

lemma serverProcessSyn (h : Tallied k v) (hk : k + 1 < 2 ^ 64) (th : Tcphdr) :
    Tallied k (tcpServerProcessSyn ws th v) := by
  rw [tcpServerProcessSyn]
  dsimp only
  rw [if_neg h.recycle]
  split_ifs with hc
  · exact (h.serverOpen hk hc th).reply _
  · exact Tallied.count (h.reply _) rfl
  · exact h
  · exact h.count rfl

lemma serverInput (h : Tallied k v) (hk : k + 1 < 2 ^ 64) (m : Mbuf) :
    Tallied k (tcpServerInput ws m v) := by
  have h₁ : Tallied k (v.count (tcpFlagsRxCount m.th.flags)) :=
    h.count (tcpFlagsRxCount_sockets _ _)
  rw [tcpServerInput]
  split_ifs
  · have h₂ : Tallied k (tcpCheckSequence ws m.th (tcpDataGet m).2
        (v.count (tcpFlagsRxCount m.th.flags))).2 := h₁.checkSequence _ _
    rw [tcpServerProcessData]
    split_ifs with hr
    · exact h₂.count rfl
    · exact (steady ws k).serverAccepted (h₂.log (by simp))
        (tcpCheckSequence_live (Bool.not_eq_false _ ▸ hr)) fun hu _ _ => hu.log (by simp)
  · exact h₁.serverProcessSyn hk _
  · exact (steady ws k).rst h₁
  · exact h₁.count rfl

lemma clientInput (h : Tallied k v) (m : Mbuf) : Tallied k (tcpClientInput ws m v).2 := by
  have h₁ : Tallied k (v.count (tcpFlagsRxCount m.th.flags)) :=
    h.count (tcpFlagsRxCount_sockets _ _)
  rw [tcpClientInput]
  split_ifs
  · have h₂ : Tallied k (tcpCheckSequence ws m.th (tcpDataGet m).2
        (v.count (tcpFlagsRxCount m.th.flags))).2 := h₁.checkSequence _ _
    rw [tcpClientProcessData]
    split_ifs
    · dsimp only
      exact h₂.count rfl
    · exact (steady ws k).clientAccepted _ (h₂.log (by simp))
  · exact (steady ws k).clientProcessSynAck h₁ fun hu hs =>
      Tallied.log (hu.of_same rfl (by simp [hs]) (by simp) fun _ => id) (by simp)
  · exact (steady ws k).rst h₁
  · dsimp only
    exact h₁.count rfl

lemma clientOpened (h : Tallied k v) (hk : k + 1 < 2 ^ 64) (hc : v.sk.state = .closed)
    (tsc : UInt64) : Tallied k (socketClientOpened ws tsc v) := by
  refine h.opened hk hc rfl (by simp [socketClientOpened, socketInitHttp])
    (by simp [socketClientOpened, socketInitHttp]) fun cur hm => ?_
  simpa [socketClientOpened] using hm

/-! ### UDP -/

lemma udpSend (h : Tallied k v) : Tallied k (udpSend ws v) := by
  have h₁ : Tallied k { v with allocs := v.allocs + 1 } := h.touch rfl rfl rfl
  rw [Dperf.udpSend, mbufCacheAlloc]
  dsimp only
  split_ifs
  · exact Tallied.log (h₁.count rfl) (by simp)
  · exact h₁

lemma udpSendRequest (h : Tallied k v) (ho : v.sk.state ≠ .closed) :
    Tallied k (udpSendRequest ws v) := by
  have h₁ := h.setState ho (s := .synSent) (by simp) (by simp)
  have h₂ : Tallied k { v with
      sk.state := .synSent
      sk.keepaliveRequestNum := v.sk.keepaliveRequestNum + 1 } := h₁.touch rfl rfl rfl
  exact h₂.udpSend

lemma udpRepeatSend (m : ℕ) : ∀ {v : View}, Tallied k v →
    Tallied k (udpRepeat (Dperf.udpSend ws) m v) := by
  induction m with
  | zero => exact fun h => h
  | succ m ih => exact fun h => ih h.udpSend

lemma udpRepeatRequest (m : ℕ) : ∀ {v : View}, Tallied k v → v.sk.state ≠ .closed →
    Tallied k (udpRepeat (Dperf.udpSendRequest ws) m v) := by
  induction m with
  | zero => exact fun h _ => h
  | succ m ih => exact fun h ho => ih (h.udpSendRequest ho) (by simp [udpSendRequest_state])

lemma udpRetransmit (h : Tallied k v) : Tallied k (udpRetransmitHandler v) := by
  rw [udpRetransmitHandler]
  refine Tallied.socketClose ?_
  split_ifs
  · exact h.count rfl
  · exact h

lemma udpKeepalive (h : Tallied k v) (ho : v.sk.state ≠ .closed) :
    Tallied k (udpSocketKeepaliveTimerHandler ws v) := by
  have hrt : Tallied k (v.count fun s => { s with udpRt := s.udpRt + 1 }) := h.count rfl
  have hreq : ∀ {u : View}, Tallied k u → u.sk.state ≠ .closed → Tallied k
      (udpRepeat (Dperf.udpSendRequest ws) (pipelineTurns ws.cfg.pipeline.toNat) u) :=
    udpRepeatRequest _
  have h₁ := hreq hrt ho
  have h₂ := hreq h ho
  rw [udpSocketKeepaliveTimerHandler]
  dsimp only
  split_ifs
  · exact h.socketClose
  · exact (steady ws k).startKeepaliveTimer h₁ _
  · exact (steady ws k).startKeepaliveTimer h₂ _
  · exact h₁
  · exact h₂
  · exact h

lemma udpClientInput (h : Tallied k v) : Tallied k (udpClientInput ws v) := by
  rw [Dperf.udpClientInput]
  dsimp only
  split_ifs with ho
  · exact Tallied.socketClose (Tallied.count (h.setState ho (by simp) (by simp)) rfl)
  · exact Tallied.udpSendRequest (h.setState ho (by simp) (by simp)) (by simp)
  · exact h.setState ho (by simp) (by simp)
  · exact h.count rfl

lemma udpStart (h : Tallied k v) (turns : ℕ) : Tallied k (udpClientStart ws turns v) := by
  have h₁ : Tallied k (udpRepeat (Dperf.udpSend ws) turns v) := udpRepeatSend _ h
  rw [udpClientStart]
  split_ifs
  · exact (steady ws k).startKeepaliveTimer h₁ _
  · exact h₁
  · exact h₁.socketClose
  · exact h₁.touch rfl rfl rfl

/-! ### Calls -/

lemma input (h : Tallied k v) (hk : k + 1 < 2 ^ 64) (m : Mbuf) : Tallied k (l4Input ws m v).2 := by
  rw [l4Input]
  split
  · exact h.serverInput hk m
  · exact h.clientInput m
  · exact h.udpSend
  · exact h.udpClientInput

/-- Every call keeps the counters; the UDP keepalive handler relies on its socket being
open. -/
theorem run (h : Tallied k v) (hk : k + 1 < 2 ^ 64) (c : Call)
    (ho : ws.cfg.protocol = .udp → c.queue ≠ none → v.sk.state ≠ .closed) :
    Tallied k (c.run ws v) := by
  have hdel : Tallied k (socketDelTimer v) := h.touch rfl rfl rfl
  cases c with
  | input m => exact h.input hk m
  | ackDone b => exact (steady ws k).ackDelayDone h b
  | ackFlush => exact (steady ws k).ackDelayFlushOne h
  | retransmit =>
      rw [Call.run]
      split
      · exact (steady ws k).doRetransmit hdel
      · exact hdel.udpRetransmit
  | keepalive =>
      rw [Call.run]
      split
      · exact (steady ws k).doKeepalive hdel
      · rename_i hp
        exact hdel.udpKeepalive (ho hp (by simp [Call.queue]))
  | timeout => exact Tallied.socketClose (hdel.count rfl)
  | launch turns =>
      rw [Call.run, socketClientOpen]
      by_cases hc : v.sk.state = .closed
      · have h₁ : Tallied k (socketClientOpened ws ws.tsc v) := h.clientOpened hk hc _
        rw [if_pos hc]
        dsimp only
        rw [if_pos rfl]
        split
        · exact (steady ws k).clientStart h₁
        · exact h₁.udpStart turns
      · rw [if_neg hc]
        exact h
  | disableKeepalive => exact h.touch rfl rfl rfl

end Tallied

/-! ### UDP queues hold open sockets -/

/-- A queued socket is open. -/
def QueuedOpen (s : Slot) : Prop := s.place ≠ none → s.sk.state ≠ .closed

lemma queuedOpen_unlinked {s : Slot} {v : View} (h : v.link = .self) : QueuedOpen (s.after v) := by
  intro hp
  simp [Slot.after, h, Link.after] at hp

lemma queuedOpen_open {s : Slot} {v : View} (h : v.sk.state ≠ .closed) :
    QueuedOpen (s.after v) := fun _ => h

lemma socketClose_link (v : View) : v.link = .self → (socketClose v).link = .self := by
  intro h
  rw [socketClose]
  split_ifs
  · rfl
  · exact h

/-- A closed UDP socket leaves the queues. -/
lemma socketClose_queuedOpen {s : Slot} {v : View} (h : QueuedOpen (s.after v)) :
    QueuedOpen (s.after (socketClose v)) := by
  rw [socketClose]
  split_ifs
  · exact queuedOpen_unlinked rfl
  · exact h

lemma udpSend_link (ws : WorkSpace) (v : View) : (udpSend ws v).link = v.link := by
  rw [udpSend, mbufCacheAlloc]
  dsimp only
  split_ifs <;> rfl

lemma udpRepeatSend_sk (ws : WorkSpace) (m : ℕ) (v : View) :
    (udpRepeat (udpSend ws) m v).sk = v.sk := by
  induction m generalizing v with
  | zero => rfl
  | succ m ih => rw [udpRepeat, ih, udpSend_sk]

lemma udpRepeatRequest_state (ws : WorkSpace) : ∀ (m : ℕ) (v : View), 0 < m →
    (udpRepeat (udpSendRequest ws) m v).sk.state = .synSent := by
  intro m
  induction m with
  | zero => exact fun v h => absurd h (lt_irrefl 0)
  | succ m ih =>
      intro v _
      rw [udpRepeat]
      cases m with
      | zero => exact udpSendRequest_state ws v
      | succ m => exact ih _ (Nat.succ_pos m)

lemma startKeepaliveTimer_state (ws : WorkSpace) (tsc : UInt64) (v : View) :
    (socketStartKeepaliveTimer ws tsc v).sk.state = v.sk.state := by
  rw [socketStartKeepaliveTimer]
  split_ifs <;> rfl

lemma queuedOpen_kept {s : Slot} {v : View} (h : QueuedOpen s) (hl : v.link = .kept)
    (hs : v.sk.state = s.sk.state) : QueuedOpen (s.after v) := by
  intro hp
  simp only [Slot.after, hl, Link.after] at hp ⊢
  exact hs ▸ h hp

lemma queuedOpen_clientInput {ws : WorkSpace} {s : Slot} {v : View}
    (h : QueuedOpen (s.after v)) : QueuedOpen (s.after (udpClientInput ws v)) := by
  rw [udpClientInput]
  dsimp only
  split_ifs
  · exact socketClose_queuedOpen (queuedOpen_open (by simp))
  · exact queuedOpen_open (by simp [udpSendRequest_state])
  · exact queuedOpen_open (by simp)
  · exact h

lemma queuedOpen_keepalive (ws : WorkSpace) (s : Slot) (v : View) :
    QueuedOpen (s.after (udpSocketKeepaliveTimerHandler ws { v with link := .self })) := by
  have hturns : 0 < pipelineTurns ws.cfg.pipeline.toNat := by
    rw [pipelineTurns]
    omega
  rw [udpSocketKeepaliveTimerHandler]
  dsimp only
  split_ifs
  · exact queuedOpen_unlinked (socketClose_link _ rfl)
  · refine queuedOpen_open ?_
    simp [startKeepaliveTimer_state, udpRepeatRequest_state ws _ _ hturns]
  · refine queuedOpen_open ?_
    simp [startKeepaliveTimer_state, udpRepeatRequest_state ws _ _ hturns]
  · exact queuedOpen_open (by simp [udpRepeatRequest_state ws _ _ hturns])
  · exact queuedOpen_open (by simp [udpRepeatRequest_state ws _ _ hturns])
  · exact queuedOpen_unlinked rfl

lemma queuedOpen_clientStart (ws : WorkSpace) (turns : ℕ) (s : Slot) {v : View}
    (hv : v.sk.state = .synSent) : QueuedOpen (s.after (udpClientStart ws turns v)) := by
  have hsk := udpRepeatSend_sk ws turns v
  rw [udpClientStart]
  split_ifs
  · exact queuedOpen_open (by simp [startKeepaliveTimer_state, hsk, hv])
  · exact queuedOpen_open (by simp [hsk, hv])
  · exact socketClose_queuedOpen (queuedOpen_open (by simp [hsk, hv]))
  · refine queuedOpen_open ?_
    simp [socketStartRetransmitTimerForce, socketAddTimer, socketQueuePush,
      socketQueueDel, socketNodeDel, hsk, hv]

/-- Every UDP call leaves only open sockets in the queues. -/
lemma queuedOpen_run {ws : WorkSpace} {s : Slot} {v : View} {c : Call} (h : QueuedOpen s)
    (hp : ws.cfg.protocol = .udp) (hm : c.Allowed ws.cfg) (hv : v.sk = s.sk)
    (hl : v.link = .kept) : QueuedOpen (s.after (c.run ws v)) := by
  have hkept : QueuedOpen (s.after v) := queuedOpen_kept h hl (by rw [hv])
  cases c with
  | input m =>
      rw [Call.run, l4Input, hp]
      split
      · cases ‹Protocol.udp = Protocol.tcp›
      · cases ‹Protocol.udp = Protocol.tcp›
      · exact queuedOpen_kept h (by rw [udpSend_link, hl]) (by rw [udpSend_sk, hv])
      · exact queuedOpen_clientInput (queuedOpen_kept h hl (by simp [hv]))
  | ackDone b =>
      have ht : ws.cfg.protocol = .tcp := hm.2
      simp [hp] at ht
  | ackFlush =>
      rw [Call.run, tcpAckDelayFlushOne]
      dsimp only
      split_ifs with _ he
      · exact queuedOpen_open (by simp [he])
      · exact queuedOpen_kept h hl (by simp [hv])
      · exact hkept
  | retransmit =>
      rw [Call.run, hp, udpRetransmitHandler]
      dsimp only
      split_ifs <;> exact queuedOpen_unlinked (socketClose_link _ rfl)
  | keepalive =>
      rw [Call.run, hp]
      exact queuedOpen_keepalive ws s v
  | timeout => exact queuedOpen_unlinked (socketClose_link _ rfl)
  | launch turns =>
      rw [Call.run, hp, socketClientOpen]
      by_cases hc : v.sk.state = .closed
      · rw [if_pos hc]
        exact queuedOpen_clientStart ws turns s rfl
      · rw [if_neg hc]
        exact hkept
  | disableKeepalive => exact queuedOpen_kept h hl (by simp [Call.run, hv])

/-! ### Workers -/

section Worker

variable {n : ℕ}

/-- The number of sockets whose state is not `SK_CLOSED`. -/
def Worker.openCount (w : Worker n) : ℕ :=
  (Finset.univ.filter fun i => (w.pool i).state ≠ .closed).card

/-- The number of open sockets but the socket `i`. -/
def Worker.otherOpen (w : Worker n) (i : Fin n) : ℕ :=
  ((Finset.univ.erase i).filter fun j => (w.pool j).state ≠ .closed).card

lemma Worker.openCount_eq (w : Worker n) (i : Fin n) :
    w.openCount = w.otherOpen i + openNum (w.pool i) := by
  have hins : (Finset.univ : Finset (Fin n)) = insert i (Finset.univ.erase i) := by simp
  rw [openCount, otherOpen, hins, Finset.filter_insert]
  by_cases hc : (w.pool i).state = .closed
  · simp [hc, openNum_closed]
  · rw [if_pos hc, Finset.card_insert_of_notMem (by simp), openNum_open hc]
    simp

lemma Worker.otherOpen_lt (w : Worker n) (i : Fin n) : w.otherOpen i < n := by
  have hsub := Finset.card_filter_le (Finset.univ.erase i)
    fun j => (w.pool j).state ≠ .closed
  have hcard : (Finset.univ.erase i).card = n - 1 := by simp
  have hn : 0 < n := i.pos
  rw [otherOpen]
  omega

lemma Worker.otherOpen_put (w : Worker n) (i : Fin n) (v : View) :
    (w.put i v).otherOpen i = w.otherOpen i := by
  rw [otherOpen, otherOpen]
  congr 1
  refine Finset.filter_congr fun j hj => ?_
  rw [pool_put_ne w (Finset.ne_of_mem_erase hj)]

/-- The socket counters of a worker agree with its pool. -/
structure Counted (ws : WorkSpace) (w : Worker n) : Prop where
  current : w.stats.socketCurrent.toNat = w.openCount
  balance : w.stats.socketOpen - w.stats.socketClose = w.stats.socketCurrent
  closed : ∀ i cur, .closed cur ∈ w.obs i → cur ≠ 0
  recycle : ∀ i, (w.pool i).state ≠ .timeWait
  queued : ws.cfg.protocol = .udp → ∀ i, QueuedOpen (w.slot i)

lemma Counted.view {ws : WorkSpace} {w : Worker n} (h : Counted ws w) (i : Fin n) :
    Tallied (w.otherOpen i) (w.view i) :=
  ⟨by rw [← show _ = w.otherOpen i + openNum (w.view i).sk from w.openCount_eq i]; exact h.current,
    h.balance, by simp [Worker.view], h.recycle i⟩

/-- A call that keeps its view tallied keeps the worker counted. -/
lemma Counted.put {ws : WorkSpace} {w : Worker n} {i : Fin n} {v : View} (h : Counted ws w)
    (hv : Tallied (w.otherOpen i) v)
    (hq : ws.cfg.protocol = .udp → QueuedOpen ((w.slot i).after v)) : Counted ws (w.put i v) := by
  refine ⟨?_, hv.balance, fun j cur hj => ?_, fun j => ?_, fun hp j => ?_⟩
  · rw [Worker.openCount_eq _ i, Worker.otherOpen_put, Worker.pool_put_self]
    exact hv.current
  · by_cases hji : j = i
    · subst hji
      rw [Worker.obs_put_self] at hj
      rcases List.mem_append.mp hj with hj | hj
      · exact h.closed _ cur hj
      · exact hv.closed cur hj
    · rw [Worker.obs_put_ne _ hji] at hj
      exact h.closed j cur hj
  · by_cases hji : j = i
    · subst hji
      rw [Worker.pool_put_self]
      exact hv.recycle
    · rw [Worker.pool_put_ne _ hji]
      exact h.recycle j
  · by_cases hji : j = i
    · subst hji
      rw [Worker.slot_put_self]
      exact hq hp
    · rw [Worker.slot_put_ne _ hji]
      exact h.queued hp j

lemma Counted.quiet {ws : WorkSpace} {w w' : Worker n} (h : Counted ws w) (hq : Quiet w w') :
    Counted ws w' := by
  have hcur : w'.stats.socketCurrent = w.stats.socketCurrent := congrArg (·.2.2) hq.sockets
  have hopen : w'.stats.socketOpen = w.stats.socketOpen := congrArg Prod.fst hq.sockets
  have hclose : w'.stats.socketClose = w.stats.socketClose := congrArg (·.2.1) hq.sockets
  refine ⟨?_, ?_, fun i cur hc => ?_, fun i => ?_, fun hp i => ?_⟩
  · rw [hcur, h.current, Worker.openCount, Worker.openCount, hq.pool]
  · rw [hopen, hclose, hcur, h.balance]
  · exact h.closed i cur (hq.obs i ▸ hc)
  · rw [hq.pool]
    exact h.recycle i
  · rw [hq.slot]
    exact h.queued hp i

/-- Turns keep the counters. -/
theorem Counted.turns {ws : WorkSpace} {inp : Grants n} {w w' : Worker n}
    (hn : n < 2 ^ 32) (h : Counted ws w) (ht : Turns ws inp w w') : Counted ws w' := by
  induction ht with
  | refl => exact h
  | @tail b c _ hbc ih =>
      cases hbc with
      | @call i k _ hp =>
          have hlt := b.otherOpen_lt i
          -- a timer call finds its socket in a queue
          have ho : ws.cfg.protocol = .udp → k.queue ≠ none → (b.view i).sk.state ≠ .closed := by
            intro hu hk
            obtain ⟨q, hq⟩ := Option.ne_none_iff_exists'.mp hk
            refine ih.queued hu i ?_
            rw [Worker.slot, Queues.place_eq_some.mpr (hp.timer q hq)]
            simp
          refine ih.put ((ih.view i).run (by omega) k ho) fun hu => ?_
          exact queuedOpen_run (ih.queued hu i) hu hp.mode rfl rfl
      | quiet hq => exact ih.quiet hq

/-- The counters do not depend on the clock. -/
lemma Counted.at {ws : WorkSpace} {w : Worker n} (h : Counted ws w) (c : Clock) :
    Counted (ws.at c) w :=
  ⟨h.current, h.balance, h.closed, h.recycle, h.queued⟩

/-- A step keeps the counters. -/
lemma Counted.step {st : SocketTable n} {ws : WorkSpace} {c : Clock} {e : Event} {w w' : Worker n}
    (h : Counted ws w) (hs : step st (ws.at c) e w = some w') : Counted ws w' := by
  have h' := (h.at c).turns st.pool_lt (step_turns hs)
  exact ⟨h'.current, h'.balance, h'.closed, h'.recycle, h'.queued⟩

/-- So does a run. -/
lemma Counted.runs {st : SocketTable n} {ws : WorkSpace} {G : Guard n} {w w' : Worker n}
    (h : Counted ws w) (hr : Runs st ws G w w') : Counted ws w' := by
  induction hr with
  | refl => exact h
  | tail _ hstep ih =>
      obtain ⟨c, e, -, hs⟩ := hstep
      exact ih.step hs

lemma Initial.counted {ws : WorkSpace} {w : Worker n} (h : Initial ws w) : Counted ws w := by
  refine ⟨?_, by rw [h.stats]; rfl, fun i cur hc => ?_, fun i => by simp [h.closed i],
    fun _ i hp => ?_⟩
  · rw [h.stats, Worker.openCount]
    simp [h.closed]
  · simp [Worker.obs, h.trace] at hc
  · simp [h.slot] at hp

/-- **The socket counters.** In every reachable state of a worker without RSS
`socket_current` is the number of its open sockets and the difference of `socket_open` and
`socket_close`, and no decrement has found `socket_current` at zero. -/
theorem socketCurrent_eq_open {st : SocketTable n} {ws : WorkSpace} {w : Worker n}
    (_hrss : st.rss = false) (h : Reach st ws anyStep w) :
    w.stats.socketCurrent.toNat = w.openCount ∧
      w.stats.socketOpen - w.stats.socketClose = w.stats.socketCurrent ∧
      ∀ i cur, .closed cur ∈ w.obs i → cur ≠ 0 := by
  obtain ⟨w₀, h₀, hr⟩ := h
  have hc := h₀.counted.runs hr
  exact ⟨hc.current, hc.balance, hc.closed⟩

/-- After one launch one socket is open. -/
theorem socketCurrent_eq_open_launch :
    ∃ w, Reach .single (.single .single) anyStep w ∧ w.stats.socketCurrent.toNat = w.openCount ∧
      w.openCount = 1 := by
  obtain ⟨w, hw, hp⟩ := reach_runEvents SocketTable.single _ anyStep
    (Worker.single_initial (.single .single)) (clientHandshake.take 1)
    (p := fun w => w.stats.socketCurrent == 1) (fun _ _ _ _ => trivial) (by decide)
  have hc := (socketCurrent_eq_open rfl hw).1
  refine ⟨w, hw, hc, ?_⟩
  rw [← hc, beq_iff_eq.mp hp]
  rfl

end Worker

end Dperf
