import Dperf.CallRuns
import Dperf.Lib.Sequence
import Dperf.PayloadLengths
import Dperf.Pieces

/-!
What a TCP server with a send window has in flight.

* `WindowedServer`: a server with a `send_window` as an accepted configuration gives it
  (`windowedServer_of_checked`).
* `Flying`: how far `snd_nxt` is ahead of `snd_una`, and how far a call has moved `snd_una`; kept
  by every piece of a call (`Flying.piece`).
* `sendWindow_flight`: in every state an open socket has less than the window and one response
  template in flight, and `snd_una` never moves back.
-/

namespace Dperf

open Sequence

variable {n : ℕ}

/-- `ws->send_window` as `work_space_new` sets it. -/
def workSpaceSendWindow (cfg : SizeConfig) : UInt32 :=
  UInt32.ofNat cfg.mss.toNat * UInt32.ofNat cfg.sendWindow

/-- A TCP server with a send window: some packets of an `mss` that `config_check_mss` lets pass. -/
structure WindowedServer (ws : WorkSpace) : Prop where
  protocol : ws.cfg.protocol = .tcp
  server : ws.cfg.server = true
  window : ∃ mss packets, mss ≤ 9670 ∧ packets ≤ sendWindowMax.toNat ∧
    ws.sendWindow.toNat = mss * packets
  two : 2 ≤ ws.sendWindow.toNat

lemma WindowedServer.at {ws : WorkSpace} (h : WindowedServer ws) (c : Clock) :
    WindowedServer (ws.at c) := ⟨h.protocol, h.server, h.window, h.two⟩

/-- An accepted configuration with a large payload makes such a server. -/
lemma windowedServer_of_checked {random : ℕ → ℕ → ℕ} {cfg cfg' : SizeConfig}
    {payloads : ℕ → List UInt8} (hp : cfg.Parsed) (h : ConfigChecked random cfg cfg' payloads)
    (hs : cfg'.TcpServer) {i : ℕ} (hi : i < cfg.cpuNum) (hlarge : cfg.mssOrMax < cfg.sizeOf i)
    {ws : WorkSpace} (hprotocol : ws.cfg.protocol = .tcp) (hserver : ws.cfg.server = true)
    (hw : ws.sendWindow = workSpaceSendWindow cfg') : WindowedServer ws := by
  obtain ⟨hpos, hle, hmax⟩ := hp.mssOrMax_bounds h.mss_le
  have hmss : cfg'.mss = cfg.mssOrMax := by rw [h.config]
  have hpackets : 2 ≤ cfg'.sendWindow ∧ cfg'.sendWindow ≤ 16 := by
    rw [h.window hs i hi hlarge]
    split_ifs with h0
    · exact ⟨by norm_num [sendWindowDefault], by norm_num [sendWindowDefault]⟩
    · exact hp.sendWindow.resolve_left h0
  have hprod : cfg'.mss.toNat * cfg'.sendWindow ≤ 9670 * 16 :=
    Nat.mul_le_mul (by omega) hpackets.2
  have hval : ws.sendWindow.toNat = cfg'.mss.toNat * cfg'.sendWindow := by
    rw [hw, workSpaceSendWindow, ← UInt32.ofNat_mul]
    exact UInt32.toNat_ofNat_of_lt' (by change _ < 2 ^ 32; omega)
  refine ⟨hprotocol, hserver, ⟨cfg'.mss.toNat, cfg'.sendWindow, by omega, hpackets.2, hval⟩, ?_⟩
  have htwo : 1 * 2 ≤ cfg'.mss.toNat * cfg'.sendWindow :=
    Nat.mul_le_mul (by omega) hpackets.1
  omega

/-- The most that is in flight: a window but for one byte, and then one template. -/
def flightMax (ws : WorkSpace) : ℕ := ws.sendWindow.toNat + ws.tcpData.bytes.length - 1

lemma WindowedServer.flightMax_lt {ws : WorkSpace} (h : WindowedServer ws) :
    ws.sendWindow.toNat + ws.tcpData.bytes.length < 2 ^ 31 := by
  obtain ⟨mss, packets, hmss, hpackets, hw⟩ := h.window
  have hfits := ws.tcpData.fits
  have hle : mss * packets ≤ 9670 * 16 := Nat.mul_le_mul hmss hpackets
  rw [mbufDataSize] at hfits
  omega

/-! ### Pieces -/

/-- What holds of a socket during a call that found it as `e`. -/
structure Flying (ws : WorkSpace) (e sk : Socket) : Prop where
  state : sk.state ≠ .timeWait
  flight : sk.state ≠ .closed → (sk.sndNxt - sk.sndUna).toNat ≤ flightMax ws
  moved : e.state ≠ .closed → (sk.sndUna - e.sndUna).toNat ≤ (e.sndNxt - e.sndUna).toNat

namespace Flying

variable {ws : WorkSpace} {k : Call} {e sk sk' : Socket} {v v' : View}

lemma congr (h : Flying ws e sk) (ht : sk'.state ≠ .timeWait)
    (ho : sk'.state ≠ .closed → sk.state ≠ .closed) (hn : sk'.sndNxt = sk.sndNxt)
    (hu : sk'.sndUna = sk.sndUna) : Flying ws e sk' := by
  refine ⟨ht, fun hopen => ?_, fun hopen => ?_⟩
  · rw [hn, hu]
    exact h.flight (ho hopen)
  · rw [hu]
    exact h.moved hopen

/-- What a segment takes where nothing is in flight: the template, and `SYN` or `FIN`. -/
lemma replyFresh_le (ws : WorkSpace) {f : UInt8}
    (hf : hasFlag f thSyn = false ∨ hasFlag f thFin = false) (u : View) :
    (replyFresh ws f u).toNat ≤ ws.tcpData.bytes.length + 1 := by
  have hpayload : (payload ws f).length ≤
      if hasFlag f thSyn then 0 else ws.tcpData.bytes.length := by
    rw [payload]
    split_ifs
    · exact le_rfl
    · exact le_rfl
    · exact Nat.zero_le _
  rw [replyFresh]
  split_ifs
  · rw [UInt16.toNat_toUInt32, sndSeq_toNat ws hf, segLen]
    cases hsyn : hasFlag f thSyn with
    | true =>
        have hfin : hasFlag f thFin = false := hf.resolve_left (by simp [hsyn])
        rw [hsyn] at hpayload
        rw [hfin]
        exact Nat.add_le_add_right (hpayload.trans (Nat.zero_le _)) 1
    | false =>
        rw [hsyn] at hpayload
        refine Nat.add_le_add hpayload ?_
        split_ifs
        · exact le_rfl
        · exact Nat.zero_le 1
  · exact Nat.zero_le _

lemma reply (hs : WindowedServer ws) (h : Flying ws e v.sk) {f : UInt8}
    (hf : hasFlag f thSyn = false ∨ hasFlag f thFin = false) :
    Flying ws e (tcpReply ws f v).sk := by
  by_cases hn : v.sk.sndNxt = v.sk.sndUna
  · refine ⟨by simpa using h.state, fun _ => ?_, fun ho => by simpa using h.moved ho⟩
    have hfresh := replyFresh_le ws hf v
    have htwo := hs.two
    have hdiff : v.sk.sndNxt + replyFresh ws f v - v.sk.sndUna = replyFresh ws f v := by
      rw [hn]
      grind
    rw [tcpReply_sndNxt, tcpReply_sndUna, hdiff, flightMax]
    omega
  · refine h.congr (by simpa using h.state) (by simp) ?_ (tcpReply_sndUna ..)
    rw [tcpReply_sndNxt, replyFresh_outstanding hn, UInt32.add_zero]

/-- A burst goes on as long as less than a window is in flight. -/
lemma burst (hs : WindowedServer ws) {una sndMax : UInt32} : ∀ (m : ℕ) {v : View},
    (v.sk.sndNxt - una).toNat ≤ flightMax ws →
      ((tcpReplyMoreLoop ws (una + ws.sendWindow) sndMax m v).sk.sndNxt - una).toNat ≤
        flightMax ws := by
  have hlt := hs.flightMax_lt
  intro m
  induction m with
  | zero => exact fun h => h
  | succ m ih =>
      intro v h
      rw [tcpReplyMoreLoop]
      split_ifs with hc
      · refine ih ?_
        have hwin : (v.sk.sndNxt - una).toNat < ws.sendWindow.toNat := by
          rw [flightMax] at h
          have hbefore := decide_eq_true_eq.mp (Bool.and_eq_true_iff.mp hc).1
          exact sub_lt_of_neg hbefore (by omega) (by omega)
        have hfresh : (replyFresh ws (thPush ||| thAck ||| thUrg)
            { v with sk.sndUna := v.sk.sndNxt }).toNat ≤ ws.tcpData.bytes.length := by
          rw [replyFresh]
          split_ifs
          · rw [UInt16.toNat_toUInt32, sndSeq_toNat ws (.inl rfl)]
            exact le_rfl
          · exact Nat.zero_le _
        have hdiff : v.sk.sndNxt + replyFresh ws (thPush ||| thAck ||| thUrg)
            { v with sk.sndUna := v.sk.sndNxt } - una = v.sk.sndNxt - una +
              replyFresh ws (thPush ||| thAck ||| thUrg) { v with sk.sndUna := v.sk.sndNxt } := by
          grind
        rw [tcpReply_sndNxt, hdiff, UInt32.toNat_add, Nat.mod_eq_of_lt (by omega), flightMax]
        omega
      · exact h

/-- An acknowledgement divides what is in flight. -/
lemma acked (hs : WindowedServer ws) {nxt una ack : UInt32} (hle : tcpSeqLe ack nxt = true)
    (hgt : tcpSeqGt ack una = true) (hflight : (nxt - una).toNat ≤ flightMax ws) :
    (nxt - ack).toNat ≤ flightMax ws ∧ (ack - una).toNat ≤ (nxt - una).toNat := by
  have hlt := hs.flightMax_lt
  have hspan : (nxt - una).toNat < 2 ^ 31 := by
    rw [flightMax] at hflight
    omega
  have hparts := sub_add_sub_of_between (decide_eq_true_eq.mp hle) (decide_eq_true_eq.mp hgt) hspan
  omega

lemma piece (hs : WindowedServer ws) (hk : k.Allowed ws.cfg) (het : e.state ≠ .timeWait)
    (he : e.state ≠ .closed → (e.sndNxt - e.sndUna).toNat ≤ flightMax ws)
    (hpiece : Piece ws k e v v') (h : Flying ws e v.sk) : Flying ws e v'.sk := by
  cases hpiece with
  | touch hu =>
      refine h.congr ?_ (fun ho => ?_) hu.sndNxt hu.sndUna
      · rcases hu.state with hsame | ⟨-, -, ht⟩
        · exact hsame ▸ h.state
        · exact ht
      · rcases hu.state with hsame | ⟨hopen, -⟩
        · exact hsame ▸ ho
        · exact hopen
  | unlink => exact h
  | ackAll hack =>
      refine ⟨h.state, fun _ => ?_, fun _ => ?_⟩
      · change (v.sk.sndNxt - v.sk.sndNxt).toNat ≤ _
        rw [UInt32.sub_self]
        exact Nat.zero_le _
      · change (v.sk.sndNxt - e.sndUna).toNat ≤ _
        rw [hack hs.server]
  | ackPart hack _ hle hgt =>
      refine ⟨h.state, fun ho => (acked hs hle hgt (h.flight ho)).1, fun ho => ?_⟩
      rw [hack.1] at hle
      rw [hack.2] at hgt
      exact (acked hs hle hgt (he ho)).2
  | close =>
      rw [socketClose]
      split_ifs
      · exact h.congr (by simp [socketNodeDel, View.count]) (fun ho => absurd rfl ho) rfl rfl
      · exact h
  | @serverOpen _ th _ hc =>
      have hclosed : e.state = .closed := hc.resolve_right het
      refine ⟨?_, fun _ => ?_, fun ho => absurd hclosed ho⟩
      · rw [socketServerOpen_state]
        simp
      · have hacked : (socketServerOpen th { v with sk.state := .closed }).sk.sndNxt =
            (socketServerOpen th { v with sk.state := .closed }).sk.sndUna := rfl
        rw [hacked, UInt32.sub_self]
        exact Nat.zero_le _
  | clientOpen hc => exact absurd (hs.server.symm.trans hc) (by simp)
  | reply hf => exact h.reply hs hf
  | again hn =>
      refine h.congr (by simpa using h.state) (by simp) ?_ (tcpReply_sndUna ..)
      rw [tcpReply_sndNxt, replyFresh_outstanding hn, UInt32.add_zero]
  | oneAgain => exact h.congr (by simpa using h.state) (by simp) rfl (tcpReply_sndUna ..)
  | @burst _ sndMax m _ =>
      have hstate := tcpReplyMoreLoop_state ws (v.sk.sndUna + ws.sendWindow) sndMax m v
      refine ⟨?_, fun ho => ?_, h.moved⟩
      · dsimp only
        rw [hstate]
        exact h.state
      · dsimp only at ho ⊢
        rw [hstate] at ho
        exact burst hs m (h.flight ho)
  | retransmitTimer =>
      rw [socketStartRetransmitTimer]
      split_ifs
      · exact h.congr h.state id rfl rfl
      · exact h
  | keepaliveTimer =>
      rw [socketStartKeepaliveTimer]
      split_ifs
      · exact h.congr h.state id rfl rfl
      · exact h
  | timeoutTimer => exact h.congr h.state id rfl rfl
  | mark hb =>
      obtain ⟨b, rfl⟩ := hb
      exact absurd (hs.server.symm.trans hk.1) (by simp)

end Flying

/-! ### Runs -/

/-- An open socket between two events. -/
structure InFlight (ws : WorkSpace) (sk : Socket) : Prop where
  state : sk.state ≠ .timeWait
  flight : sk.state ≠ .closed → (sk.sndNxt - sk.sndUna).toNat ≤ flightMax ws

/-- A call on a socket. -/
lemma flying_run {ws : WorkSpace} (hs : WindowedServer ws) {k : Call} (hk : k.Allowed ws.cfg)
    {v : View} (h : InFlight ws v.sk) : Flying ws v.sk (k.run ws v).sk := by
  have hd : ∀ b, k = .ackDone b → v.sk.state = .established := by
    rintro b rfl
    exact absurd (hs.server.symm.trans hk.1) (by simp)
  have hstart : Flying ws v.sk v.sk := by
    refine ⟨h.state, h.flight, fun _ => ?_⟩
    rw [UInt32.sub_self]
    exact Nat.zero_le _
  exact of_pieces (P := fun u => Flying ws v.sk u.sk)
    (fun u u' => Flying.piece hs hk h.state h.flight) (pieces_run hs.protocol hk hd) hstart

lemma inFlight_of_callReach {ws : WorkSpace} (hs : WindowedServer ws) {w : Worker n}
    (h : CallReach ws anyCall w) (i : Fin n) : InFlight ws (w.pool i) := by
  refine slots_of_callReach (P := fun s => InFlight ws s.sk) (fun sk hnew => ?_)
    (fun c inp i k w hp _ hi => ?_) h i
  · obtain ⟨hclosed, -, -⟩ := hnew.closed
    exact ⟨by simp [hclosed], fun ho => absurd hclosed ho⟩
  · have hrun := flying_run (hs.at c) hp.mode (v := w.view i) ⟨hi.state, hi.flight⟩
    exact ⟨hrun.state, hrun.flight⟩

/-- **Window and one template.** In every state that a server with a send window reaches, an open
socket has at most `send_window` and one response template less a byte in flight, and whatever
comes next, `snd_una` does not move back, and not beyond `snd_nxt`. -/
theorem sendWindow_flight {ws : WorkSpace} (hs : WindowedServer ws) {w : Worker n}
    (h : CallReach ws anyCall w) {i : Fin n} (ho : (w.pool i).state ≠ .closed) :
    (0 ≤ ((w.pool i).sndNxt - (w.pool i).sndUna).toInt32.toInt ∧
      ((w.pool i).sndNxt - (w.pool i).sndUna).toInt32.toInt ≤
        ws.sendWindow.toNat + ws.tcpData.bytes.length - 1) ∧
    ∀ w', GuardedTurn ws anyCall w w' →
      tcpSeqLe (w.pool i).sndUna (w'.pool i).sndUna = true ∧
        tcpSeqLe (w'.pool i).sndUna (w.pool i).sndNxt = true := by
  have hi := inFlight_of_callReach hs h i
  have hflight := hi.flight ho
  have hlt := hs.flightMax_lt
  have htwo := hs.two
  rw [flightMax] at hflight
  have hspan : ((w.pool i).sndNxt - (w.pool i).sndUna).toNat < 2 ^ 31 := by omega
  refine ⟨?_, fun w' hturn => ?_⟩
  · rw [toInt_sub_of_lt hspan]
    omega
  · have hmoved : ((w'.pool i).sndUna - (w.pool i).sndUna).toNat ≤
        ((w.pool i).sndNxt - (w.pool i).sndUna).toNat := by
      cases hturn with
      | @call c inp j k _ hp =>
          by_cases hij : i = j
          · subst hij
            rw [Worker.on, Worker.pool_put_self]
            exact (flying_run (hs.at c) hp.mode (v := w.view i) ⟨hi.state, hi.flight⟩).moved ho
          · rw [Worker.on, Worker.pool_put_ne _ hij, UInt32.sub_self]
            exact Nat.zero_le _
      | quiet hq =>
          rw [hq.pool, UInt32.sub_self]
          exact Nat.zero_le _
    have hrest : (w.pool i).sndNxt - (w'.pool i).sndUna = (w.pool i).sndNxt - (w.pool i).sndUna -
        ((w'.pool i).sndUna - (w.pool i).sndUna) := by grind
    refine ⟨decide_eq_true (sub_nonpos_of_lt (by omega)), decide_eq_true (sub_nonpos_of_lt ?_)⟩
    rw [hrest, UInt32.toNat_sub_of_le _ _ (UInt32.le_iff_toNat_le.mpr hmoved)]
    omega

lemma windowedServer_window : WindowedServer .window := by
  refine ⟨rfl, rfl, ⟨730, 2, ?_, by decide, rfl⟩, by decide⟩
  norm_num

/-- A connection of a server with a window, with the first segment of a response in flight. -/
theorem sendWindow_flight_response : ∃ w : Worker 1, CallReach .window anyCall w ∧
    ((w.pool 0).state = .established ∧ (w.pool 0).sndNxt - (w.pool 0).sndUna = 3) ∧
      ((w.pool 0).sndNxt - (w.pool 0).sndUna).toInt32.toInt ≤ 1462 := by
  have hrun : (runEvents .single .window
      (serverHandshake ++ [(.single 1, .recv .tcp (.single true (thPush ||| thAck) 101 2
        [71, 69, 84]))]) (Worker.single .window)).any (fun w =>
      (w.pool 0).state == .established && (w.pool 0).sndNxt - (w.pool 0).sndUna == 3) = true := by
    decide
  obtain ⟨w, hreach, hp⟩ := reach_runEvents .single .window anyStep (Worker.single_initial _) _
    (fun _ _ _ _ => trivial) hrun
  simp only [Bool.and_eq_true, beq_iff_eq] at hp
  have hopen : (w.pool 0).state ≠ .closed := by simp [hp.1]
  have hcalls := callReach_of_reach hreach
  exact ⟨w, hcalls, hp, (sendWindow_flight windowedServer_window hcalls hopen).1.2⟩

end Dperf
