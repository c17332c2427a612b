import Dperf.Pieces

/-!
The delayed acknowledgements of an HTTP client: the mark `http_ack` of a socket, and the list
`ack_delay` of its worker.

* `DelayStep`: what happens to marks and list, on any socket and at any time, with the other work
  of the worker in between. `delaySteps_of_step`: the loop does nothing else.
* `Listed`: the list has its room, and every marked socket is in it; kept by every step
  (`listed_of_delaySteps`).
* `ackSendings`: what a flush sends. `delayedAcks_flush`: one acknowledgement for each open
  connection with the mark, as long as there are mbufs.
-/

namespace Dperf

variable {n : ℕ}

/-! ### Steps -/

/-- `tcp_ack_delay_add`. -/
def tcpAckDelayAddTo (ws : WorkSpace) (i : Fin n) (w : Worker n) : Worker n :=
  tcpAckDelayRest ws i (tcpAckDelayAdd (w.pool i)) w

/-- What happens to the marks and the list: `tcp_ack_delay_add`, alone and with the rest of the
call that made it, `tcp_ack_delay_flush`, `socket_init_http`, `socket_client_open` and
`socket_close` on any socket, the other calls of the loop, and changes that no slot sees. -/
inductive DelayStep (ws : WorkSpace) : Worker n → Worker n → Prop
  | add {c : Clock} {i : Fin n} {w : Worker n} : DelayStep ws w (tcpAckDelayAddTo (ws.at c) i w)
  | addRest {c : Clock} {i : Fin n} {b : Bool} {w : Worker n} :
      DelayStep ws w (tcpAckDelayRest (ws.at c) i (.add b) w)
  | flush {c : Clock} {w : Worker n} : DelayStep ws w (tcpAckDelayFlush (ws.at c) w)
  | initHttp {i : Fin n} {w : Worker n} :
      DelayStep ws w (w.on i fun v => { v with sk := socketInitHttp v.sk })
  | clientOpen {c : Clock} {i : Fin n} {w : Worker n} :
      DelayStep ws w (w.on i fun v => (socketClientOpen (ws.at c) c.tsc v).2)
  | close {i : Fin n} {w : Worker n} : DelayStep ws w (w.on i socketClose)
  | call {c : Clock} {inp : Grants n} {i : Fin n} {k : Call} {w : Worker n}
      (h : Permit (ws.at c) inp i k w) (hk : ¬ k.Delayed) :
      DelayStep ws w (w.on i (k.run (ws.at c)))
  | quiet {w w' : Worker n} (h : Quiet w w') (hd : w'.ackDelay = w.ackDelay) : DelayStep ws w w'

/-- Steps one after the other. -/
abbrev DelaySteps (ws : WorkSpace) : Worker n → Worker n → Prop :=
  Relation.ReflTransGen (DelayStep ws)

/-- The loop of a worker does nothing else. -/
theorem delaySteps_of_step {st : SocketTable n} {ws : WorkSpace} {c : Clock} {e : Event}
    {w w' : Worker n} (h : step st (ws.at c) e w = some w') : DelaySteps ws w w' := by
  refine Relation.ReflTransGen.mono (fun a b hab => ?_) _ _ (step_loopTurns h)
  cases hab with
  | call hp hk => exact .call hp hk
  | flush => exact .flush
  | add => exact .addRest
  | quiet hq hd => exact .quiet hq hd

/-! ### Marks -/

@[simp] lemma tcpReply_httpAck (ws : WorkSpace) (f : UInt8) (v : View) :
    (tcpReply ws f v).sk.httpAck = v.sk.httpAck := by rw [tcpReply_sk]

lemma tcpReplyMoreLoop_httpAck (ws : WorkSpace) (sndWnd sndMax : UInt32) :
    ∀ (m : ℕ) (v : View), (tcpReplyMoreLoop ws sndWnd sndMax m v).sk.httpAck = v.sk.httpAck := by
  intro m
  induction m with
  | zero => exact fun v => rfl
  | succ m ih =>
      intro v
      rw [tcpReplyMoreLoop]
      split_ifs
      · rw [ih, tcpReply_httpAck]
      · rfl

lemma socketClose_httpAck (v : View) : (socketClose v).sk.httpAck = v.sk.httpAck := by
  rw [socketClose]
  split_ifs <;> rfl

/-- Only `tcp_ack_delay_add` marks a socket. -/
lemma httpAck_of_run {ws : WorkSpace} (hp : ws.cfg.protocol = .tcp) {k : Call}
    (hm : k.Allowed ws.cfg) (hk : ¬ k.Delayed) {v : View}
    (h : (k.run ws v).sk.httpAck = true) : v.sk.httpAck = true := by
  have hd : ∀ b, k ≠ .ackDone b := by
    rintro b rfl
    exact hk trivial
  have hpieces := pieces_run hp hm (v := v) fun b hb => absurd hb (hd b)
  refine of_pieces (P := fun u => u.sk.httpAck = true → v.sk.httpAck = true)
    (fun u u' hpiece hu hmark => hu ?_) hpieces id h
  cases hpiece with
  | touch ht => exact ht.httpAck hmark
  | unlink => exact hmark
  | ackAll => exact hmark
  | ackPart => exact hmark
  | close => rwa [socketClose_httpAck] at hmark
  | serverOpen =>
      rw [socketServerOpen] at hmark
      dsimp only at hmark
      split_ifs at hmark <;> exact hmark
  | clientOpen => cases hmark
  | reply => rwa [tcpReply_httpAck] at hmark
  | again => rwa [tcpReply_httpAck] at hmark
  | oneAgain =>
      dsimp only at hmark
      rwa [tcpReply_httpAck] at hmark
  | burst =>
      dsimp only at hmark
      rwa [tcpReplyMoreLoop_httpAck] at hmark
  | retransmitTimer =>
      rw [socketStartRetransmitTimer] at hmark
      split_ifs at hmark <;> exact hmark
  | keepaliveTimer =>
      rw [socketStartKeepaliveTimer] at hmark
      split_ifs at hmark <;> exact hmark
  | timeoutTimer => exact hmark
  | mark hb =>
      obtain ⟨b, hb⟩ := hb
      exact absurd hb (hd b)

/-! ### A flush -/

/-- The socket waits for its delayed acknowledgement on an open connection. -/
def AckPending (sk : Socket) : Prop := sk.httpAck = true ∧ sk.state = .established

instance (sk : Socket) : Decidable (AckPending sk) := inferInstanceAs (Decidable (_ ∧ _))

/-- The acknowledgements of the sockets `l` one after the other, from the `a`-th mbuf on: one for
each socket for which there is an mbuf. -/
def ackSendings (ws : WorkSpace) (pool : Fin n → Socket) : ℕ → List (Fin n) → List (Out (Fin n))
  | _, [] => []
  | a, i :: l =>
      (if ws.mbufAlloc a then
        [.sk i (.sent (replySegment ws thAck (pool i)) (pool i).sndUna (pool i).sndNxt 0)]
      else []) ++ ackSendings ws pool (a + 1) l

lemma ackSendings_congr {ws : WorkSpace} {pool pool' : Fin n → Socket} :
    ∀ {l : List (Fin n)} {a : ℕ}, (∀ i ∈ l, pool' i = pool i) →
      ackSendings ws pool' a l = ackSendings ws pool a l := by
  intro l
  induction l with
  | nil => exact fun _ => rfl
  | cons i l ih =>
      intro a h
      rw [ackSendings, ackSendings, h i List.mem_cons_self,
        ih fun j hj => h j (List.mem_cons_of_mem _ hj)]

section FlushOne

variable {ws : WorkSpace} {w : Worker n} {i : Fin n}

lemma flushOne_mark : ((w.on i (tcpAckDelayFlushOne ws)).pool i).httpAck = false := by
  rw [Worker.on, Worker.pool_put_self, tcpAckDelayFlushOne]
  dsimp only
  split_ifs with h
  · exact tcpReply_httpAck ..
  · rfl
  · simpa using h

/-- The acknowledgement of a pending socket takes the next mbuf. -/
lemma flushOne_pending (ws : WorkSpace) (h : AckPending (w.pool i)) :
    (w.on i (tcpAckDelayFlushOne ws)).allocs = w.allocs + 1 ∧
      (w.on i (tcpAckDelayFlushOne ws)).trace =
        w.trace ++ ackSendings ws w.pool w.allocs [i] := by
  have hbare : hasFlag thAck seqFlags = false := rfl
  have hrun : tcpAckDelayFlushOne ws (w.view i) =
      tcpReply ws thAck { w.view i with sk.httpAck := false } := by
    rw [tcpAckDelayFlushOne]
    exact (if_pos h.1).trans (if_pos h.2)
  rw [Worker.on, hrun]
  refine ⟨tcpReply_allocs .., ?_⟩
  change w.trace ++ (tcpReply ws thAck _).trace.map _ = _
  rw [tcpReply_trace, replyFresh_bare hbare, ackSendings, ackSendings, List.append_nil,
    List.map_append]
  change w.trace ++ ([] ++ _) = _
  rw [List.nil_append, apply_ite (List.map _), UInt32.add_zero]
  rfl

/-- A socket that does not wait only loses its mark. -/
lemma flushOne_idle (ws : WorkSpace) (h : ¬ AckPending (w.pool i)) :
    (w.on i (tcpAckDelayFlushOne ws)).allocs = w.allocs ∧
      (w.on i (tcpAckDelayFlushOne ws)).trace = w.trace := by
  have hkept : (tcpAckDelayFlushOne ws (w.view i)).allocs = w.allocs ∧
      (tcpAckDelayFlushOne ws (w.view i)).trace = [] := by
    rw [tcpAckDelayFlushOne]
    dsimp only
    split_ifs with hm he
    · exact absurd ⟨hm, he⟩ h
    · exact ⟨rfl, rfl⟩
    · exact ⟨rfl, rfl⟩
  rw [Worker.on]
  refine ⟨hkept.1, ?_⟩
  change w.trace ++ (tcpAckDelayFlushOne ws (w.view i)).trace.map _ = _
  rw [hkept.2, List.map_nil, List.append_nil]

end FlushOne

/-- A flush goes through the list: a socket that is in it twice has lost its mark at the second
place. -/
lemma foldl_flushOne (ws : WorkSpace) : ∀ (l : List (Fin n)) (w : Worker n),
    (∃ o : List (Fin n), o.Nodup ∧ (∀ i, i ∈ o ↔ i ∈ l ∧ AckPending (w.pool i)) ∧
      (l.foldl (fun w i => w.on i (tcpAckDelayFlushOne ws)) w).trace =
        w.trace ++ ackSendings ws w.pool w.allocs o) ∧
    ∀ i, ((l.foldl (fun w i => w.on i (tcpAckDelayFlushOne ws)) w).pool i).httpAck = true ↔
      i ∉ l ∧ (w.pool i).httpAck = true := by
  intro l
  induction l with
  | nil => exact fun w => ⟨⟨[], List.nodup_nil, by simp, by simp [ackSendings]⟩, by simp⟩
  | cons j l ih =>
      intro w
      have hself : ((w.on j (tcpAckDelayFlushOne ws)).pool j).httpAck = false := flushOne_mark
      have hother : ∀ i, i ≠ j → (w.on j (tcpAckDelayFlushOne ws)).pool i = w.pool i :=
        fun i hi => by rw [Worker.on, Worker.pool_put_ne _ hi]
      obtain ⟨⟨o, hnodup, hmem, htrace⟩, hmark⟩ := ih (w.on j (tcpAckDelayFlushOne ws))
      have hj : j ∉ o := by
        intro hjo
        have hagain := ((hmem j).mp hjo).2.1
        rw [hself] at hagain
        cases hagain
      have hsame : ackSendings ws (w.on j (tcpAckDelayFlushOne ws)).pool
          (w.on j (tcpAckDelayFlushOne ws)).allocs o =
            ackSendings ws w.pool (w.on j (tcpAckDelayFlushOne ws)).allocs o :=
        ackSendings_congr fun i hi => hother i fun hij => hj (hij ▸ hi)
      rw [hsame] at htrace
      refine ⟨?_, fun i => ?_⟩
      · by_cases hp : AckPending (w.pool j)
        · obtain ⟨hallocs, hsent⟩ := flushOne_pending ws hp
          refine ⟨j :: o, List.nodup_cons.mpr ⟨hj, hnodup⟩, fun i => ?_, ?_⟩
          · by_cases hij : i = j
            · subst hij
              simp [hp]
            · rw [List.mem_cons, hmem, hother i hij]
              simp [hij]
          · rw [List.foldl_cons, htrace, hsent, hallocs, ackSendings, ackSendings, ackSendings,
              List.append_nil, List.append_assoc]
        · obtain ⟨hallocs, hsent⟩ := flushOne_idle ws hp
          refine ⟨o, hnodup, fun i => ?_, ?_⟩
          · by_cases hij : i = j
            · subst hij
              exact iff_of_false hj fun h => hp h.2
            · rw [hmem, hother i hij]
              simp [hij]
          · rw [List.foldl_cons, htrace, hsent, hallocs]
      · rw [List.foldl_cons, hmark]
        by_cases hij : i = j
        · subst hij
          simp [hself]
        · rw [hother i hij]
          simp [hij]

/-! ### The list -/

/-- The list has its room, and no socket with the mark is missing from it. -/
structure Listed (w : Worker n) : Prop where
  room : w.ackDelay.length ≤ tcpAckDelayMax
  mem : ∀ i, (w.pool i).httpAck = true → i ∈ w.ackDelay

namespace Listed

variable {ws : WorkSpace} {w w' : Worker n}

lemma initial (h : Initial ws w) : Listed w := by
  refine ⟨?_, fun i hi => ?_⟩
  · rw [h.ackDelay]
    exact Nat.zero_le _
  · obtain ⟨_, _, _, _, _, -, hsk⟩ := h.pool i
    rw [hsk, socketInit] at hi
    dsimp only at hi
    split_ifs at hi

/-- A function that marks no socket. -/
lemma on (h : Listed w) {i : Fin n} {f : View → View}
    (hf : (f (w.view i)).sk.httpAck = true → (w.pool i).httpAck = true) : Listed (w.on i f) := by
  refine ⟨h.room, fun j hj => h.mem j ?_⟩
  by_cases hji : j = i
  · subst hji
    rw [Worker.on, Worker.pool_put_self] at hj
    exact hf hj
  · rwa [Worker.on, Worker.pool_put_ne _ hji] at hj

/-- A flush leaves no mark. -/
lemma unmarked (h : Listed w) (i : Fin n) : ((tcpAckDelayFlush ws w).pool i).httpAck = false := by
  rw [← Bool.not_eq_true]
  intro hmark
  obtain ⟨hout, hwas⟩ := ((foldl_flushOne ws w.ackDelay w).2 i).mp hmark
  exact hout (h.mem i hwas)

lemma flush (h : Listed w) : Listed (tcpAckDelayFlush ws w) := by
  refine ⟨Nat.zero_le _, fun i hi => ?_⟩
  rw [h.unmarked i] at hi
  cases hi

/-- A full list is flushed before a socket is added. -/
lemma addRest (h : Listed w) (i : Fin n) (b : Bool) : Listed (tcpAckDelayRest ws i (.add b) w) := by
  have hroom : Listed (if tcpAckDelayMax ≤ w.ackDelay.length then tcpAckDelayFlush ws w else w) ∧
      (if tcpAckDelayMax ≤ w.ackDelay.length then tcpAckDelayFlush ws w else w).ackDelay.length <
        tcpAckDelayMax := by
    split_ifs with hfull
    · exact ⟨h.flush, Nat.succ_pos _⟩
    · exact ⟨h, Nat.not_le.mp hfull⟩
  rw [tcpAckDelayRest]
  generalize (if tcpAckDelayMax ≤ w.ackDelay.length then tcpAckDelayFlush ws w else w) = u at hroom
  obtain ⟨hu, hlt⟩ := hroom
  refine ⟨?_, fun j hj => ?_⟩
  · change (u.ackDelay ++ [i]).length ≤ tcpAckDelayMax
    rw [List.length_append]
    exact hlt
  · change j ∈ u.ackDelay ++ [i]
    by_cases hji : j = i
    · rw [hji]
      exact List.mem_append_right _ (List.mem_singleton_self i)
    · rw [Worker.on, Worker.pool_put_ne _ hji] at hj
      exact List.mem_append_left _ (hu.mem j hj)

lemma step (hp : ws.cfg.protocol = .tcp) (hstep : DelayStep ws w w') (h : Listed w) :
    Listed w' := by
  cases hstep with
  | @add c i =>
      rw [tcpAckDelayAddTo, tcpAckDelayAdd]
      split_ifs
      · exact h
      · exact h.addRest i false
  | addRest => exact h.addRest _ _
  | flush => exact h.flush
  | initHttp => exact h.on fun hmark => by cases hmark
  | @clientOpen c i =>
      refine h.on fun hmark => ?_
      rw [socketClientOpen] at hmark
      split_ifs at hmark
      · cases hmark
      · exact hmark
  | @close i =>
      refine h.on fun hmark => ?_
      rwa [socketClose_httpAck] at hmark
  | @call c inp i k _ hpermit hk =>
      have hpc : (ws.at c).cfg.protocol = .tcp := hp
      exact h.on fun hmark => httpAck_of_run hpc hpermit.mode hk hmark
  | quiet hq hd =>
      refine ⟨?_, fun i hi => ?_⟩
      · rw [hd]
        exact h.room
      · rw [hd]
        rw [hq.pool] at hi
        exact h.mem i hi

end Listed

lemma listed_of_delaySteps {ws : WorkSpace} (hp : ws.cfg.protocol = .tcp) {w₀ w : Worker n}
    (h₀ : Initial ws w₀) (h : DelaySteps ws w₀ w) : Listed w := by
  induction h with
  | refl => exact .initial h₀
  | tail _ hstep ih => exact ih.step hp hstep

/-- **Delayed acknowledgements.** The list never overflows and misses no marked socket, whatever
is done with the sockets in between. A flush empties the list and leaves no mark; it sends one
acknowledgement for each open connection with the mark for which there is an mbuf, and nothing
else. -/
theorem delayedAcks_flush {ws : WorkSpace} (hp : ws.cfg.protocol = .tcp) {w₀ w : Worker n}
    (h₀ : Initial ws w₀) (h : DelaySteps ws w₀ w) :
    (w.ackDelay.length ≤ tcpAckDelayMax ∧ ∀ i, (w.pool i).httpAck = true → i ∈ w.ackDelay) ∧
      ∀ c : Clock, (tcpAckDelayFlush (ws.at c) w).ackDelay = [] ∧
        (∀ i, ((tcpAckDelayFlush (ws.at c) w).pool i).httpAck = false) ∧
        ∃ o : List (Fin n), o.Nodup ∧
          (∀ i, i ∈ o ↔ (w.pool i).httpAck = true ∧ (w.pool i).state = .established) ∧
          (tcpAckDelayFlush (ws.at c) w).trace =
            w.trace ++ ackSendings ws w.pool w.allocs o := by
  have hl := listed_of_delaySteps hp h₀ h
  refine ⟨⟨hl.room, hl.mem⟩, fun c => ⟨rfl, hl.unmarked, ?_⟩⟩
  obtain ⟨⟨o, hnodup, hmem, htrace⟩, -⟩ := foldl_flushOne (ws.at c) w.ackDelay w
  have hsame : ∀ (a : ℕ) (o : List (Fin n)),
      ackSendings (ws.at c) w.pool a o = ackSendings ws w.pool a o := by
    intro a o
    induction o generalizing a with
    | nil => rfl
    | cons i o ih =>
        rw [ackSendings, ackSendings, ih]
        rfl
  refine ⟨o, hnodup, fun i => ?_, htrace.trans (by rw [hsame])⟩
  rw [hmem]
  exact and_iff_right_of_imp fun hpending => hl.mem i hpending.1

/-- A run of the loop is a run of steps. -/
lemma delaySteps_of_runEvents {st : SocketTable n} {ws : WorkSpace} :
    ∀ {l : List (Clock × Event)} {w w' : Worker n}, runEvents st ws l w = some w' →
      DelaySteps ws w w' := by
  intro l
  induction l with
  | nil =>
      intro w w' h
      cases h
      exact .refl
  | cons e l ih =>
      intro w w' h
      obtain ⟨w₁, h₁, h₂⟩ := Option.bind_eq_some_iff.mp h
      exact (delaySteps_of_step h₁).trans (ih h₂)

/-- A client that parses what it gets, and finds `mbufs` mbufs. -/
def WorkSpace.http (mbufs : ℕ) : WorkSpace :=
  { WorkSpace.single { Config.single with http := true } with mbufAlloc := fun a => a < mbufs }

/-- A connection of it, up to the first byte of a response. -/
def responseBegun : List (Clock × Event) :=
  clientHandshake ++ [(.single 1, .recv .tcp (.single false (thPush ||| thAck) 101 5 [72]))]

/-- The byte is acknowledged by the next flush, with the third mbuf. -/
theorem delayedAcks_one : ∃ w : Worker 1, w.ackDelay = [0] ∧ ∃ o : List (Fin 1), 0 ∈ o ∧ o.Nodup ∧
    (tcpAckDelayFlush ((WorkSpace.http 3).at (.single 1)) w).trace =
      w.trace ++ ackSendings (.http 3) w.pool 2 o := by
  have hrun : (runEvents .single (.http 3) responseBegun (Worker.single (.http 3))).any (fun w =>
      w.ackDelay == [0] && decide (AckPending (w.pool 0)) && w.allocs == 2) = true := by decide
  obtain ⟨w, hw, hp⟩ := (Option.any_eq_true _ _).mp hrun
  simp only [Bool.and_eq_true, decide_eq_true_eq, beq_iff_eq] at hp
  obtain ⟨⟨hlist, hpending⟩, hallocs⟩ := hp
  have htcp : (WorkSpace.http 3).cfg.protocol = .tcp := rfl
  obtain ⟨-, hflush⟩ := delayedAcks_flush htcp (Worker.single_initial _)
    (delaySteps_of_runEvents hw)
  obtain ⟨-, -, o, hnodup, hmem, htrace⟩ := hflush (.single 1)
  rw [hallocs] at htrace
  exact ⟨w, hlist, o, (hmem 0).mpr hpending, hnodup, htrace⟩

/-- Without an mbuf the mark is gone, and nothing is sent. -/
theorem delayedAcks_lost : ∃ w : Worker 1,
    DelaySteps (.http 2) (Worker.single (.http 2)) w ∧ AckPending (w.pool 0) ∧
      (tcpAckDelayFlush (.http 2) w).trace = w.trace ∧
      ((tcpAckDelayFlush (.http 2) w).pool 0).httpAck = false := by
  have hrun : (runEvents .single (.http 2) responseBegun (Worker.single (.http 2))).any (fun w =>
      decide (AckPending (w.pool 0)) && (tcpAckDelayFlush (.http 2) w).trace == w.trace &&
        !((tcpAckDelayFlush (.http 2) w).pool 0).httpAck) = true := by decide
  obtain ⟨w, hw, hp⟩ := (Option.any_eq_true _ _).mp hrun
  simp only [Bool.and_eq_true, decide_eq_true_eq, beq_iff_eq, Bool.not_eq_true'] at hp
  exact ⟨w, delaySteps_of_runEvents hw, hp.1.1, hp.1.2, hp.2⟩

end Dperf
