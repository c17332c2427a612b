import Dperf.PoolWalk
import Dperf.SocketCount

/-!
How many datagrams a UDP client sends on each socket that it opens in one batch.

* `launches`: the connections that a trace opens, with the datagrams sent on each before the next
  is opened.
* `walk`, `openings`: the sockets that the turns of a batch come to, and those of them that are
  opened. Two of them are opened if and only if two turns come to a closed socket
  (`openings_le_one_iff`).
* `udpClientLaunch_launches`: `pipeline` counts down across the batch, so that the first socket
  takes all of it.
* `udpClientLaunch_even_iff`: every socket of the batch gets the datagrams of a round of
  `udp_socket_keepalive_timer_handler` exactly if `pipeline` is at most 1 or one socket at most is
  opened.
-/

namespace Dperf

/-! ### Connections of a trace -/

section Launches

variable {ι : Type}

/-- A connection is opened. -/
def Out.isOpened : Out ι → Bool
  | .sk _ (.opened ..) => true
  | _ => false

/-- A datagram is sent on the socket `i`. -/
def Out.isDatagram [DecidableEq ι] (i : ι) : Out ι → Bool
  | .sk j (.datagram ..) => j == i
  | _ => false

/-- The connections that a trace opens, each with the datagrams sent on its socket before the next
is opened. -/
def launches [DecidableEq ι] : List (Out ι) → List (ι × ℕ)
  | [] => []
  | .sk i (.opened _ _) :: os =>
      (i, (os.takeWhile fun o => !o.isOpened).countP (Out.isDatagram i)) :: launches os
  | _ :: os => launches os

/-- A connection that is opened, `turns` datagrams, and what else is done with the socket. -/
def Opening [DecidableEq ι] (i : ι) (turns : ℕ) (s : List (Out ι)) : Prop :=
  ∃ a b lport fport laddr faddr tail,
    s = .sk i (.opened a b) ::
      (List.replicate turns (.sk i (.datagram lport fport laddr faddr)) ++ tail) ∧
    ∀ o ∈ tail, o.isOpened = false ∧ o.isDatagram i = false

/-- The trace of a batch starts with a connection, if it is not empty. -/
def StartsOpened (s : List (Out ι)) : Prop := ∀ o ∈ s.head?, o.isOpened = true

lemma launches_append [DecidableEq ι] {s : List (Out ι)} (h : ∀ o ∈ s, o.isOpened = false)
    (rest : List (Out ι)) :
    launches (s ++ rest) = launches rest := by
  induction s with
  | nil => rfl
  | cons o s ih =>
      have ho := h o List.mem_cons_self
      rw [List.cons_append, launches.eq_3, ih fun o' ho' => h o' (List.mem_cons_of_mem _ ho')]
      rintro i a b rfl
      cases ho

lemma takeWhile_startsOpened {s : List (Out ι)} (h : StartsOpened s) :
    s.takeWhile (fun o => !o.isOpened) = [] := by
  cases s with
  | nil => rfl
  | cons o s => rw [List.takeWhile_cons_of_neg (by rw [h o rfl]; exact Bool.false_ne_true)]

/-- One connection of a batch. -/
lemma launches_opening [DecidableEq ι] {i : ι} {turns : ℕ} {s rest : List (Out ι)}
    (h : Opening i turns s) (hrest : StartsOpened rest) :
    launches (s ++ rest) = (i, turns) :: launches rest := by
  obtain ⟨a, b, lport, fport, laddr, faddr, tail, rfl, htail⟩ := h
  set body := List.replicate turns (Out.sk i (.datagram lport fport laddr faddr)) ++ tail with hb
  have hquiet : ∀ o ∈ body, o.isOpened = false := by
    intro o ho
    rcases List.mem_append.mp ho with ho | ho
    · rw [List.eq_of_mem_replicate ho]
      rfl
    · exact (htail o ho).1
  have htake : (body ++ rest).takeWhile (fun o => !o.isOpened) = body := by
    rw [List.takeWhile_append_of_pos fun o ho => by rw [hquiet o ho]; rfl,
      takeWhile_startsOpened hrest, List.append_nil]
  have hcount : body.countP (Out.isDatagram i) = turns := by
    have hnone : tail.countP (Out.isDatagram i) = 0 :=
      List.countP_eq_zero.mpr fun o ho => by rw [(htail o ho).2]; exact Bool.false_ne_true
    have hself : Out.isDatagram i (.sk i (.datagram lport fport laddr faddr)) = true :=
      beq_self_eq_true i
    rw [hb, List.countP_append, hnone, List.countP_replicate, if_pos hself, Nat.add_zero]
  rw [List.cons_append, launches, htake, hcount, launches_append hquiet]

end Launches

/-! ### The sockets of a batch -/

section Walk

variable {n : ℕ} (st : SocketTable n)

/-- The sockets that `num` turns of a batch come to. -/
def walk (pool : Fin n → Socket) (fuel : ℕ) : ℕ → UInt32 → List (Fin n)
  | 0, _ => []
  | num + 1, next =>
      match socketTableGetSocket st pool fuel next with
      | none => []
      | some r => r.1 :: walk pool fuel num r.2

/-- The sockets of a walk that are opened: those that are closed, and closed again at once if
`again` says so. -/
def openings (again : Bool) : (Fin n → Bool) → List (Fin n) → List (Fin n)
  | _, [] => []
  | closed, i :: is =>
      if closed i then i :: openings again (Function.update closed i again) is
      else openings again closed is

/-- Two turns, one after the other, that would both open a socket. -/
def BothOpen (again : Bool) (closed : Fin n → Bool) (i j : Fin n) : Prop :=
  closed i = true ∧ closed j = true ∧ (i ≠ j ∨ again = true)

lemma openings_eq_nil {again : Bool} : ∀ {is : List (Fin n)} {closed : Fin n → Bool},
    openings again closed is = [] ↔ ∀ i ∈ is, closed i = false := by
  intro is
  induction is with
  | nil => exact fun {_} => iff_of_true rfl fun i hi => absurd hi List.not_mem_nil
  | cons i is ih =>
      intro closed
      rw [openings, List.forall_mem_cons]
      by_cases hi : closed i = true
      · rw [if_pos hi]
        exact iff_of_false (List.cons_ne_nil _ _) fun h => absurd (hi.symm.trans h.1) (by decide)
      · rw [if_neg hi, ih]
        exact ⟨fun h => ⟨by simpa using hi, h⟩, fun h => h.2⟩

/-- One socket at most is opened if no two turns come to a closed socket. -/
lemma openings_le_one_iff {again : Bool} : ∀ {is : List (Fin n)} {closed : Fin n → Bool},
    (openings again closed is).length ≤ 1 ↔ is.Pairwise fun i j => ¬ BothOpen again closed i j := by
  intro is
  induction is with
  | nil => exact fun {_} => iff_of_true (Nat.zero_le 1) List.Pairwise.nil
  | cons i is ih =>
      intro closed
      rw [openings, List.pairwise_cons]
      by_cases hi : closed i = true
      · -- the rest of the turns must open none
        have hrest : (∀ j ∈ is, Function.update closed i again j = false) ↔
            ∀ j ∈ is, ¬ BothOpen again closed i j := by
          refine forall₂_congr fun j _ => ?_
          by_cases hj : j = i
          · rw [hj, Function.update_self]
            simp [BothOpen, hi]
          · rw [Function.update_of_ne hj]
            simp [BothOpen, hi, Ne.symm hj]
        rw [if_pos hi, List.length_cons, Nat.succ_le_succ_iff, Nat.le_zero,
          List.length_eq_zero_iff, openings_eq_nil, hrest]
        refine ⟨fun h => ⟨h, List.pairwise_of_forall_mem_list fun j hj k hk hboth => ?_⟩,
          fun h => h.1⟩
        obtain ⟨hcj, hck, hne⟩ := hboth
        have hij : i = j ∧ again = false := by simpa [BothOpen, hi, hcj, not_or] using h j hj
        have hik : i = k ∧ again = false := by simpa [BothOpen, hi, hck, not_or] using h k hk
        rcases hne with hne | ha
        · exact hne (hij.1.symm.trans hik.1)
        · exact absurd (ha.symm.trans hij.2) (by decide)
      · rw [if_neg hi, ih]
        exact ⟨fun h => ⟨fun j _ hboth => hi hboth.1, h⟩, fun h => h.2⟩

/-- Pools that agree on what the search reads. -/
def SamePlaces (pool pool' : Fin n → Socket) : Prop :=
  ∀ i, (pool i).lport = (pool' i).lport ∧ (pool i).laddr = (pool' i).laddr

variable {st}

lemma getSocket_congr {pool pool' : Fin n → Socket} (h : SamePlaces pool pool') (fuel : ℕ)
    (next : UInt32) :
    socketTableGetSocket st pool fuel next = socketTableGetSocket st pool' fuel next := by
  have hrss : ∀ fuel next, socketTableGetSocketRss st pool fuel next =
      socketTableGetSocketRss st pool' fuel next := by
    intro fuel
    induction fuel with
    | zero => exact fun _ => rfl
    | succ fuel ih =>
        intro next
        rw [socketTableGetSocketRss, socketTableGetSocketRss]
        by_cases hn : next.toNat < n
        · rw [dif_pos hn, dif_pos hn]
          dsimp only
          rw [(h ⟨next.toNat, hn⟩).1, (h ⟨next.toNat, hn⟩).2, ih]
        · rw [dif_neg hn, dif_neg hn]
  rw [socketTableGetSocket, socketTableGetSocket, hrss]

lemma walk_congr {pool pool' : Fin n → Socket} (h : SamePlaces pool pool') (fuel : ℕ) :
    ∀ (num : ℕ) (next : UInt32), walk st pool fuel num next = walk st pool' fuel num next := by
  intro num
  induction num with
  | zero => exact fun _ => rfl
  | succ num ih =>
      intro next
      rw [walk, walk, getSocket_congr h]
      cases socketTableGetSocket st pool' fuel next with
      | none => rfl
      | some r => exact congrArg (r.1 :: ·) (ih r.2)

end Walk

/-! ### One socket -/

section Start

variable {ws : WorkSpace} {v : View}

/-- The datagram of a socket. -/
def datagramOf (sk : Socket) : Obs := .datagram sk.lport sk.fport sk.laddr sk.faddr

lemma udpRepeat_trace {send : View → View} {P : View → Prop} {o : Obs}
    (h : ∀ v, P v → (send v).trace = v.trace ++ [o] ∧ P (send v)) : ∀ (turns : ℕ) {v : View},
    P v → (udpRepeat send turns v).trace = v.trace ++ List.replicate turns o := by
  intro turns
  induction turns with
  | zero => exact fun {v} _ => (List.append_nil v.trace).symm
  | succ turns ih =>
      intro v hv
      obtain ⟨htrace, hv'⟩ := h v hv
      rw [udpRepeat, ih hv', htrace, List.replicate_succ, List.append_assoc]
      rfl

lemma udpSend_trace (ha : ∀ k, ws.mbufAlloc k = true) (v : View) :
    (udpSend ws v).trace = v.trace ++ [datagramOf v.sk] := by
  rw [udpSend, mbufCacheAlloc]
  dsimp only
  rw [if_pos (ha v.allocs)]
  rfl

/-- The datagrams of a batch. -/
lemma udpRepeatSend_trace (ha : ∀ k, ws.mbufAlloc k = true) (turns : ℕ) (v : View) :
    (udpRepeat (udpSend ws) turns v).trace =
      v.trace ++ List.replicate turns (datagramOf v.sk) := by
  refine udpRepeat_trace (P := fun u => u.sk = v.sk) (fun u hu => ?_) turns rfl
  rw [udpSend_trace ha, hu]
  exact ⟨rfl, (udpSend_sk ws u).trans hu⟩

/-- The datagrams of a round. -/
lemma udpRepeatRequest_trace (ha : ∀ k, ws.mbufAlloc k = true) (turns : ℕ) (v : View) :
    (udpRepeat (udpSendRequest ws) turns v).trace =
      v.trace ++ List.replicate turns (datagramOf v.sk) := by
  refine udpRepeat_trace (P := fun u => datagramOf u.sk = datagramOf v.sk) (fun u hu => ?_) turns
    rfl
  rw [udpSendRequest, udpSend_trace ha, udpSend_sk]
  exact ⟨congrArg (fun o => u.trace ++ [o]) hu, hu⟩

lemma startKeepaliveTimer_trace (ws : WorkSpace) (tsc : UInt64) (v : View) :
    (socketStartKeepaliveTimer ws tsc v).trace = v.trace := by
  rw [socketStartKeepaliveTimer]
  split_ifs <;> rfl

lemma startKeepaliveTimer_addr (ws : WorkSpace) (tsc : UInt64) (v : View) :
    (socketStartKeepaliveTimer ws tsc v).sk.lport = v.sk.lport ∧
      (socketStartKeepaliveTimer ws tsc v).sk.laddr = v.sk.laddr := by
  rw [socketStartKeepaliveTimer]
  split_ifs <;> exact ⟨rfl, rfl⟩

/-- A round of `udp_socket_keepalive_timer_handler`. -/
lemma keepaliveRound_trace (ha : ∀ k, ws.mbufAlloc k = true) (hd : workSpaceInDuration ws = true)
    (hl : v.sk.laddr ≠ 0) : (udpSocketKeepaliveTimerHandler ws v).trace =
      v.trace ++ List.replicate (pipelineTurns ws.cfg.pipeline.toNat) (datagramOf v.sk) := by
  rw [udpSocketKeepaliveTimerHandler, if_pos hd, if_neg hl]
  dsimp only
  split_ifs
  · rw [startKeepaliveTimer_trace, udpRepeatRequest_trace ha]
    rfl
  · rw [startKeepaliveTimer_trace, udpRepeatRequest_trace ha]
  · exact udpRepeatRequest_trace ha _ _
  · exact udpRepeatRequest_trace ha _ _

/-- A socket that is opened is closed again at once. -/
def closesAtOnce (ws : WorkSpace) : Bool := !ws.cfg.keepalive && ws.cfg.flood

/-- What a batch does with a socket that it has opened: it sends the datagrams, may close the
socket, and leaves its addresses. -/
structure Started (turns : ℕ) (closed : Bool) (v u : View) : Prop where
  trace : ∃ tail, u.trace = v.trace ++ (List.replicate turns (datagramOf v.sk) ++ tail) ∧
    (tail = [] ∨ ∃ c, tail = [.closed c])
  addr : u.sk.lport = v.sk.lport ∧ u.sk.laddr = v.sk.laddr
  state : decide (u.sk.state = .closed) = closed

/-- The socket is still open. -/
lemma started_open {turns : ℕ} {u : View} (ho : v.sk.state ≠ .closed)
    (htrace : u.trace = v.trace ++ List.replicate turns (datagramOf v.sk))
    (haddr : u.sk.lport = v.sk.lport ∧ u.sk.laddr = v.sk.laddr)
    (hstate : u.sk.state = v.sk.state) : Started turns false v u where
  trace := ⟨[], by rw [htrace, List.append_nil], .inl rfl⟩
  addr := haddr
  state := by
    rw [hstate]
    exact decide_eq_false ho

/-- The socket is closed with its datagrams sent. -/
lemma started_closed {turns : ℕ} {u : View} (ho : u.sk.state ≠ .closed) (hsk : u.sk = v.sk)
    (htrace : u.trace = v.trace ++ List.replicate turns (datagramOf v.sk)) :
    Started turns true v (socketClose u) where
  trace := by
    refine ⟨[.closed u.stats.socketCurrent], ?_, .inr ⟨_, rfl⟩⟩
    rw [socketClose, if_pos ho, View.count_trace, socketNodeDel, ← List.append_assoc, ← htrace]
    rfl
  addr := by
    rw [socketClose, if_pos ho, ← hsk]
    exact ⟨rfl, rfl⟩
  state := decide_eq_true (socketClose_closed u)

lemma udpClientStart_spec (ha : ∀ k, ws.mbufAlloc k = true) (turns : ℕ)
    (hk : v.sk.keepalive = ws.cfg.keepalive) (ho : v.sk.state ≠ .closed) :
    Started turns (closesAtOnce ws) v (udpClientStart ws turns v) := by
  have htrace := udpRepeatSend_trace ha turns v
  have hsk := udpRepeatSend_sk ws turns v
  have haddr : (udpRepeat (udpSend ws) turns v).sk.lport = v.sk.lport ∧
      (udpRepeat (udpSend ws) turns v).sk.laddr = v.sk.laddr := by
    rw [hsk]
    exact ⟨rfl, rfl⟩
  have hstate : (udpRepeat (udpSend ws) turns v).sk.state = v.sk.state := by rw [hsk]
  rw [udpClientStart, hsk, hk]
  by_cases hkeep : ws.cfg.keepalive = true
  · have hopen : closesAtOnce ws = false := by rw [closesAtOnce, hkeep]; rfl
    rw [if_pos hkeep, hopen]
    split_ifs
    · refine started_open ho ((startKeepaliveTimer_trace ..).trans htrace) ?_ ?_
      · have hkept := startKeepaliveTimer_addr ws ws.tsc (udpRepeat (udpSend ws) turns v)
        rwa [hsk] at hkept
      · rw [startKeepaliveTimer_state, hstate]
    · exact started_open ho htrace haddr hstate
  · rw [if_neg hkeep]
    rw [Bool.not_eq_true] at hkeep
    by_cases hflood : ws.cfg.flood = true
    · have hclose : closesAtOnce ws = true := by rw [closesAtOnce, hkeep, hflood]; rfl
      rw [if_pos hflood, hclose]
      exact started_closed (by rwa [hsk]) hsk htrace
    · have hopen : closesAtOnce ws = false := by
        rw [closesAtOnce, Bool.eq_false_of_not_eq_true hflood, Bool.and_false]
      rw [if_neg hflood, hopen]
      exact started_open ho htrace haddr hstate

end Start

/-! ### The batch -/

section Batch

variable {n : ℕ} {st : SocketTable n} {ws : WorkSpace} {fuel : ℕ}

/-- The closed sockets of a worker. -/
def Worker.closed (w : Worker n) (i : Fin n) : Bool := decide ((w.pool i).state = .closed)

lemma closed_put (w : Worker n) (next : UInt32) (i : Fin n) (u : View) :
    (Worker.put { w with next := next } i u).closed =
      Function.update w.closed i (decide (u.sk.state = .closed)) := by
  funext j
  rw [Worker.closed]
  by_cases hj : j = i
  · rw [hj, Function.update_self, Worker.pool_put_self]
  · rw [Function.update_of_ne hj, Worker.pool_put_ne _ hj, Worker.closed]

lemma samePlaces_put {w : Worker n} {next : UInt32} {i : Fin n} {u : View}
    (hu : u.sk.lport = (w.pool i).lport ∧ u.sk.laddr = (w.pool i).laddr) :
    SamePlaces (Worker.put { w with next := next } i u).pool w.pool := by
  intro j
  by_cases hj : j = i
  · rw [hj, Worker.pool_put_self]
    exact hu
  · rw [Worker.pool_put_ne _ hj]
    exact ⟨rfl, rfl⟩

/-- One turn of the loop of `udp_client_launch`. -/
lemma launchOne_spec (ha : ∀ k, ws.mbufAlloc k = true) {turns : ℕ} {w : Worker n}
    {r : Bool × Worker n}
    (h : clientLaunchOne st ws fuel (udpClientStart ws turns) w = some r) :
    ∃ i, socketTableGetSocket st w.pool fuel w.next = some (i, r.2.next) ∧
      SamePlaces r.2.pool w.pool ∧ r.1 = w.closed i ∧
      if w.closed i then (∃ s, r.2.trace = w.trace ++ s ∧ Opening i turns s) ∧
        r.2.closed = Function.update w.closed i (closesAtOnce ws)
      else r.2.trace = w.trace ∧ r.2.closed = w.closed := by
  obtain ⟨⟨i, next⟩, hget, rfl⟩ := Option.map_eq_some_iff.mp h
  refine ⟨i, hget, ?_⟩
  set v := Worker.view { w with next := next } i with hv
  by_cases hc : (w.pool i).state = .closed
  · have hclosed : w.closed i = true := decide_eq_true hc
    have hopen : socketClientOpen ws ws.tsc v = (true, socketClientOpened ws ws.tsc v) :=
      if_pos hc
    have hstart := udpClientStart_spec ha turns (v := socketClientOpened ws ws.tsc v) rfl
      (fun hcon => by cases hcon)
    obtain ⟨tail, htrace, htail⟩ := hstart.trace
    dsimp only [Worker.on]
    rw [← hv, hopen, hclosed, if_pos rfl, if_pos rfl]
    refine ⟨samePlaces_put hstart.addr, rfl, ⟨_, rfl, v.sk.sndNxt + 1, 0, v.sk.lport, v.sk.fport,
      v.sk.laddr, v.sk.faddr, tail.map (.sk i), ?_, ?_⟩, ?_⟩
    · rw [htrace, List.map_append, List.map_append, List.map_replicate]
      rfl
    · intro o ho
      rcases htail with rfl | ⟨c, rfl⟩
      · exact absurd ho List.not_mem_nil
      · rw [List.mem_singleton.mp ho]
        exact ⟨rfl, rfl⟩
    · rw [closed_put, hstart.state]
  · have hclosed : w.closed i = false := decide_eq_false hc
    have hopen : socketClientOpen ws ws.tsc v = (false, v) := if_neg hc
    dsimp only [Worker.on]
    rw [← hv, hopen, hclosed, if_neg Bool.false_ne_true, if_neg Bool.false_ne_true]
    refine ⟨samePlaces_put ⟨rfl, rfl⟩, rfl, List.append_nil _, ?_⟩
    rw [closed_put]
    exact Function.update_eq_self i w.closed

/-- The datagrams that `pipeline` has left for each socket of a list. -/
def shares (pipeline : Int) : List (Fin n) → List (Fin n × ℕ)
  | [] => []
  | i :: is => (i, pipelineTurns pipeline) :: shares (pipeline - pipelineTurns pipeline) is

/-- `pipeline` counts down across the whole batch. -/
lemma udpClientLaunch_launches (ha : ∀ k, ws.mbufAlloc k = true) :
    ∀ (num : ℕ) {pipeline : Int} {w w' : Worker n},
      udpClientLaunch st ws fuel num pipeline w = some w' →
      ∃ s, w'.trace = w.trace ++ s ∧ StartsOpened s ∧ launches s =
        shares pipeline (openings (closesAtOnce ws) w.closed (walk st w.pool fuel num w.next)) := by
  intro num
  induction num with
  | zero =>
      intro pipeline w w' h
      cases h
      refine ⟨[], (List.append_nil _).symm, fun o ho => ?_, rfl⟩
      cases ho
  | succ num ih =>
      intro pipeline w w' h
      rw [udpClientLaunch] at h
      obtain ⟨r, hr, h⟩ := Option.bind_eq_some_iff.mp h
      obtain ⟨i, hget, hplaces, hflag, hturn⟩ := launchOne_spec ha hr
      obtain ⟨s, htrace, hstarts, hlaunches⟩ := ih h
      rw [walk_congr hplaces] at hlaunches
      rw [walk, hget]
      dsimp only
      rw [openings]
      by_cases hc : w.closed i = true
      · rw [if_pos hc] at hturn ⊢
        obtain ⟨⟨s₁, htrace₁, hopening⟩, hclosed⟩ := hturn
        rw [hflag, if_pos hc, hclosed] at hlaunches
        refine ⟨s₁ ++ s, ?_, ?_, ?_⟩
        · rw [htrace, htrace₁, List.append_assoc]
        · obtain ⟨a, b, lport, fport, laddr, faddr, tail, rfl, -⟩ := hopening
          intro o ho
          rw [← Option.mem_some.mp ho]
          rfl
        · rw [launches_opening hopening hstarts, hlaunches, shares]
      · rw [if_neg hc] at hturn ⊢
        rw [hflag, if_neg hc, hturn.2] at hlaunches
        exact ⟨s, by rw [htrace, hturn.1], hstarts, hlaunches⟩

lemma pipelineTurns_cast (p : ℕ) : pipelineTurns p = max 1 p := by
  rw [pipelineTurns, Int.toNat_natCast]

/-- What is left of `pipeline` after the first socket is not positive. -/
lemma pipelineTurns_left (pipeline : Int) :
    pipelineTurns (pipeline - pipelineTurns pipeline) = 1 := by
  rw [pipelineTurns, pipelineTurns]
  omega

lemma shares_of_le_one : ∀ {is : List (Fin n)} {pipeline : Int}, pipeline ≤ 1 →
    ∀ e ∈ shares pipeline is, e.2 = 1 := by
  intro is
  induction is with
  | nil => exact fun _ e he => absurd he List.not_mem_nil
  | cons i is ih =>
      intro pipeline h e he
      have hturns : pipelineTurns pipeline = 1 := by
        rw [pipelineTurns]
        omega
      rw [shares, hturns] at he
      rcases List.mem_cons.mp he with rfl | he
      · rfl
      · exact ih (by omega) e he

/-- The shares are even if one socket takes all, or if there is nothing to share. -/
lemma shares_even_iff (pipeline : Int) (is : List (Fin n)) :
    (∀ e ∈ shares pipeline is, e.2 = pipelineTurns pipeline) ↔ pipeline ≤ 1 ∨ is.length ≤ 1 := by
  by_cases hp : pipeline ≤ 1
  · have hturns : pipelineTurns pipeline = 1 := by
      rw [pipelineTurns]
      omega
    rw [hturns]
    exact iff_of_true (shares_of_le_one hp) (.inl hp)
  · have hturns : pipelineTurns pipeline ≠ 1 := by
      rw [pipelineTurns]
      omega
    rcases is with _ | ⟨i, _ | ⟨j, is⟩⟩
    · exact iff_of_true (fun e he => absurd he List.not_mem_nil) (.inr (Nat.zero_le 1))
    · refine iff_of_true (fun e he => ?_) (.inr le_rfl)
      rw [List.mem_singleton.mp he]
    · refine iff_of_false (fun h => hturns ?_) fun h => ?_
      · have hsecond := h (j, pipelineTurns (pipeline - pipelineTurns pipeline))
          (List.mem_cons_of_mem _ List.mem_cons_self)
        rw [← hsecond, pipelineTurns_left]
      · rcases h with h | h
        · exact hp h
        · rw [List.length_cons, List.length_cons] at h
          omega

end Batch

/-- **The datagrams of a batch.** Every socket that a batch opens gets `max 1 pipeline` datagrams,
as in each later round, exactly if `pipeline` is at most 1 or no two turns of the batch come to a
closed socket. -/
theorem udpClientLaunch_even_iff {n : ℕ} (st : SocketTable n) {ws : WorkSpace} {fuel num : ℕ}
    {w w' : Worker n} (ha : ∀ k, ws.mbufAlloc k = true)
    (h : udpClientLaunch st ws fuel num ws.cfg.pipeline.toNat w = some w') :
    ((∀ e ∈ launches (w'.trace.drop w.trace.length), e.2 = max 1 ws.cfg.pipeline.toNat) ∧
      ∀ v : View, workSpaceInDuration ws = true → v.sk.laddr ≠ 0 →
        (udpSocketKeepaliveTimerHandler ws v).trace =
          v.trace ++ List.replicate (max 1 ws.cfg.pipeline.toNat) (datagramOf v.sk)) ↔
      ws.cfg.pipeline.toNat ≤ 1 ∨ (walk st w.pool fuel num w.next).Pairwise fun i j =>
        ¬ BothOpen (closesAtOnce ws) w.closed i j := by
  obtain ⟨s, htrace, -, hlaunches⟩ := udpClientLaunch_launches ha num h
  have hround : ∀ v : View, workSpaceInDuration ws = true → v.sk.laddr ≠ 0 →
      (udpSocketKeepaliveTimerHandler ws v).trace =
        v.trace ++ List.replicate (max 1 ws.cfg.pipeline.toNat) (datagramOf v.sk) := by
    intro v hd hl
    rw [keepaliveRound_trace ha hd hl, pipelineTurns_cast]
  rw [and_iff_left hround, htrace, List.drop_left, hlaunches, ← pipelineTurns_cast,
    shares_even_iff, openings_le_one_iff]
  exact or_congr_left (by omega)

/-- A UDP client with two closed sockets. -/
def WorkSpace.udpClient (pipeline : UInt8) : WorkSpace :=
  .single { Config.single with protocol := .udp, pipeline := pipeline }

def Worker.pair : Worker 2 where
  pool _ := { laddr := 1, faddr := 2 }

lemma udpClientLaunch_pair (pipeline : UInt8) : ∃ w',
    udpClientLaunch (.pair false) (.udpClient pipeline) 0 2 pipeline.toNat .pair = some w' :=
  ⟨_, rfl⟩

lemma walk_pair : walk (.pair false) Worker.pair.pool 0 2 Worker.pair.next = [0, 1] := rfl

/-- With `pipeline` 1 both get one datagram. -/
theorem udpClientLaunch_even_one : ∃ w',
    udpClientLaunch (.pair false) (.udpClient 1) 0 2 1 .pair = some w' ∧
    (∀ e ∈ launches (w'.trace.drop Worker.pair.trace.length), e.2 = 1) ∧
    ∀ v : View, workSpaceInDuration (.udpClient 1) = true → v.sk.laddr ≠ 0 →
      (udpSocketKeepaliveTimerHandler (.udpClient 1) v).trace =
        v.trace ++ List.replicate 1 (datagramOf v.sk) := by
  obtain ⟨w', h⟩ := udpClientLaunch_pair 1
  exact ⟨w', h, (udpClientLaunch_even_iff (.pair false) (fun _ => rfl) h).mpr (.inl le_rfl)⟩

/-- With `pipeline` 3 the first socket gets three datagrams and the second one. -/
theorem udpClientLaunch_three_fails : ∃ w',
    udpClientLaunch (.pair false) (.udpClient 3) 0 2 3 .pair = some w' ∧
    launches (w'.trace.drop Worker.pair.trace.length) = [(0, 3), (1, 1)] ∧
    ¬ ∀ e ∈ launches (w'.trace.drop Worker.pair.trace.length), e.2 = max 1 3 := by
  obtain ⟨w', h⟩ := udpClientLaunch_pair 3
  obtain ⟨s, htrace, -, hlaunches⟩ := udpClientLaunch_launches (fun _ => rfl) 2 h
  have hshares : launches (w'.trace.drop Worker.pair.trace.length) = [(0, 3), (1, 1)] := by
    rw [htrace, List.drop_left, hlaunches, walk_pair]
    rfl
  refine ⟨w', h, hshares, fun heven => ?_⟩
  rw [hshares] at heven
  exact absurd (heven (1, 1) (by decide)) (by decide)

end Dperf
