import Dperf.HttpParse

/-!
The payloads of the packet templates, from the configuration: the checks of `config.c` that the
sizes pass, in the order of `config_parse`, and the texts of `http.c`.

* `SizeConfig`: the fields that the sizes rest on. `SizeConfig.Parsed`: what the keywords let
  through.
* `configParse`: the checks. `config_check_payload` runs before `config_check_vxlan`, and the
  checks left out change none of the fields.
* `httpSetPayloadServer`, `httpSetPayloadClient`: the texts.
* `ConfigChecked`: what an accepted configuration looks like (`configParse_checked`).
-/

namespace Dperf

/-! ### Sizes -/

/-- `PACKET_SIZE_MAX`. -/
def packetSizeMax : ℤ := 1514
/-- `JUMBO_PKT_SIZE`. -/
def jumboPktSize (mtu : ℤ) : ℤ := mtu + 14
/-- `VXLAN_HEADERS_SIZE`. -/
def vxlanHeadersSize : ℤ := 50
/-- `THREAD_NUM_MAX`. -/
def threadNumMax : ℕ := 64
/-- `SEND_WINDOW_DEFAULT`. -/
def sendWindowDefault : ℕ := 4
/-- `PAYLOAD_SIZE_MAX`. -/
def payloadSizeMax : ℤ := 1024 * 1024 * 1024
/-- `HTTP_DATA_MIN_SIZE`. -/
def httpDataMinSize : ℤ := 85

/-- The bytes of a string literal. -/
def ascii (s : String) : List UInt8 := s.toList.map Char.toUInt8

/-- `HTTP_HOST_DEFAULT`. -/
def httpHostDefault : List UInt8 := ascii "dperf"
/-- `HTTP_PATH_DEFAULT`. -/
def httpPathDefault : List UInt8 := ascii "/"

/-- The fields of `struct config` that the sizes of packets rest on. A C string is the list of
its bytes, and what no keyword has set is 0, `none` or empty. `ports` has the `queue_num` of the
ports, `vxlans` the `num` of `vtep_local` and of `vtep_remote`. -/
structure SizeConfig where
  protocol : Option Protocol
  server : Bool
  ipv6 : Bool
  jumbo : Bool
  jumboMtu : ℤ
  mss : ℤ
  http : Bool
  httpMethod : HttpMethod
  httpHost : List UInt8
  httpPath : List UInt8
  statsHttp : Bool
  payloadPath : List UInt8
  payloadRandom : Bool
  payloadSize : ℕ → ℤ
  sendWindow : ℕ
  cpuNum : ℕ
  ports : List ℕ
  vxlans : List (ℕ × ℕ)
  vxlan : Bool

namespace SizeConfig

/-- What the keywords let through. -/
structure Parsed (cfg : SizeConfig) : Prop where
  jumboMtu : cfg.jumbo = true → 9000 ≤ cfg.jumboMtu ∧ cfg.jumboMtu ≤ 9710
  mss : 0 ≤ cfg.mss
  httpHost : cfg.httpHost.length < 128
  httpPath : cfg.httpPath.length < 256
  payloadSize : ∀ i, 0 ≤ cfg.payloadSize i ∧ cfg.payloadSize i ≤ payloadSizeMax
  sendWindow : cfg.sendWindow = 0 ∨ 2 ≤ cfg.sendWindow ∧ cfg.sendWindow ≤ 16
  vxlan : cfg.vxlan = false

end SizeConfig

/-! ### Checks -/

/-- `mss_max` of `config_check_mss`. -/
def mssMax (cfg : SizeConfig) : ℤ :=
  if cfg.ipv6 then if cfg.jumbo then cfg.jumboMtu - 40 - 20 else packetSizeMax - 14 - 40 - 20
  else if cfg.jumbo then cfg.jumboMtu - 20 - 20 else packetSizeMax - 14 - 20 - 20

/-- `config_check_mss`. -/
def configCheckMss (cfg : SizeConfig) : Option SizeConfig :=
  if mssMax cfg < cfg.mss then none
  else if cfg.mss = 0 then some { cfg with mss := mssMax cfg }
  else some cfg

/-- `config_check_http`. -/
def configCheckHttp (cfg : SizeConfig) : Option SizeConfig :=
  let httpHost := cfg.httpHost ≠ []
  let httpPath := cfg.httpPath ≠ []
  if (cfg.payloadSize 0 ≠ 0 ∨ cfg.payloadPath ≠ []) ∧ cfg.server = false ∧ cfg.http ∧
      cfg.httpMethod = .get ∧ httpPath then none
  else if cfg.server ∧ (httpHost ∨ httpPath) then none
  else if cfg.http = false ∧ (httpHost ∨ httpPath) then none
  else some { cfg with
    httpHost := if httpHost then cfg.httpHost else httpHostDefault
    httpPath := if httpPath then cfg.httpPath else httpPathDefault
    statsHttp := if cfg.http then true else cfg.statsHttp }

/-- `config_packet_header_size`. -/
def configPacketHeaderSize (cfg : SizeConfig) : ℤ :=
  (if cfg.vxlan then vxlanHeadersSize else 0) + 14 + (if cfg.ipv6 then 40 else 20)
    + (if cfg.protocol = some .tcp then 20 else 8)

/-- `packet_size_max` of `config_packet_payload_size`. -/
def configPacketSizeMax (cfg : SizeConfig) : ℤ :=
  if cfg.jumbo then jumboPktSize cfg.jumboMtu else packetSizeMax

/-- `config_packet_payload_size`. -/
def configPacketPayloadSize (cfg : SizeConfig) : ℤ :=
  configPacketSizeMax cfg - configPacketHeaderSize cfg

/-- `config_set_payload_size`. -/
def configSetPayloadSize (cfg : SizeConfig) (size : ℤ) : SizeConfig :=
  { cfg with payloadSize := fun i => if i < cfg.cpuNum then size else cfg.payloadSize i }

/-- `num` of `config_check_payload_size_num`. -/
def payloadSizeNum (cfg : SizeConfig) : ℕ :=
  ((List.range threadNumMax).takeWhile fun i => cfg.payloadSize i != 0).length

/-- `config_check_payload_size_num`. -/
def configCheckPayloadSizeNum (cfg : SizeConfig) : Option SizeConfig :=
  if 1 < payloadSizeNum cfg then
    if cfg.server = false then none
    else if payloadSizeNum cfg ≠ cfg.cpuNum then none
    else some cfg
  else some (configSetPayloadSize cfg (cfg.payloadSize 0))

/-- `config_read_payload_file`; `file` is what `fopen` and `fread` find under a path. -/
def configReadPayloadFile (file : List UInt8 → Option (List UInt8)) (cfg : SizeConfig) :
    Option (List UInt8) :=
  -- the file is only opened when there is no path
  if cfg.payloadPath ≠ [] then none
  else (file cfg.payloadPath).map fun buf => buf.take mbufDataSize

/-- `config_check_payload_file`. -/
def configCheckPayloadFile (file : List UInt8 → Option (List UInt8)) (cfg : SizeConfig) :
    Option (SizeConfig × Option (List UInt8)) :=
  if cfg.payloadPath = [] then some (cfg, none)
  else if cfg.payloadSize 0 ≠ 0 then none
  else (configReadPayloadFile file cfg).bind fun buf =>
    if configPacketPayloadSize cfg < buf.length then none
    else some (configSetPayloadSize cfg buf.length, some buf)

/-- One turn of `config_check_payload_size`; the flag is `large`. -/
def checkPayloadSize (r : SizeConfig × Bool) (i : ℕ) : Option (SizeConfig × Bool) :=
  let cfg := r.1
  let payloadSize := cfg.payloadSize i
  if cfg.protocol = some .tcp ∧ cfg.server then
    if cfg.mss < payloadSize then
      some ({ cfg with
        payloadSize := Function.update cfg.payloadSize i
          ((payloadSize + cfg.mss - 1) / cfg.mss * cfg.mss)
        sendWindow := if cfg.sendWindow = 0 then sendWindowDefault else cfg.sendWindow }, true)
    else some r
  else if configPacketPayloadSize cfg < payloadSize then none
  else some r

/-- `config_check_payload_size`. -/
def configCheckPayloadSize (cfg : SizeConfig) : Option SizeConfig :=
  ((List.range cfg.cpuNum).foldlM checkPayloadSize (cfg, false)).map fun r =>
    if r.2 then r.1 else { r.1 with sendWindow := 0 }

/-- `stats` of `config_check_stats_http` for one worker. -/
def statsOf (cfg : SizeConfig) (payload : Option (List UInt8)) (i : ℕ) : Bool :=
  (decide (cfg.payloadSize i = 0) || decide (httpDataMinSize ≤ cfg.payloadSize i)) &&
    match payload with
    | some p =>
        if cfg.server then p.getD 9 0 == 0x32 else p.getD 0 0 == 0x47 || p.getD 1 0 == 0x4f
    | none => true

/-- `config_check_stats_http`. -/
def configCheckStatsHttp (payload : Option (List UInt8)) (cfg : SizeConfig) : Option SizeConfig :=
  (List.range cfg.cpuNum).foldlM (fun cfg i =>
    if 1 < i ∧ cfg.statsHttp ≠ statsOf cfg payload i then none
    else some { cfg with statsHttp := statsOf cfg payload i }) cfg

/-- `config_check_vxlan`. -/
def configCheckVxlan (cfg : SizeConfig) : Option SizeConfig :=
  if cfg.vxlans = [] then some cfg
  else if cfg.vxlans.length ≠ cfg.ports.length then none
  else if (cfg.vxlans.zip cfg.ports).any fun p =>
      p.1.1 != p.2 || decide (1 < p.1.2) && p.1.2 != p.2 then none
  else some { cfg with vxlan := true }

/-! ### Texts -/

/-- `%4d` and `%11d`: the number, with blanks before it. -/
def formatInt (width : ℕ) (n : ℤ) : List UInt8 :=
  let digits := (if n < 0 then ascii "-" else [])
    ++ (Nat.toDigits 10 n.natAbs).map Char.toUInt8
  List.replicate (width - digits.length) 0x20 ++ digits

/-- `HTTP_GET_FORMAT`. -/
def httpGetFormat (path host : List UInt8) : List UInt8 :=
  ascii "GET " ++ path ++ ascii " HTTP/1.1\r\nUser-Agent: dperf\r\nHost: " ++ host
    ++ ascii "\r\nAccept: */*\r\nPad: aaaaaaaaaaaaaaa\r\n\r\n"

/-- `HTTP_POST_FORMAT`. -/
def httpPostFormat (path : List UInt8) (length : ℤ) (host body : List UInt8) : List UInt8 :=
  ascii "POST " ++ path ++ ascii " HTTP/1.1\r\nContent-Length:" ++ formatInt 4 length
    ++ ascii "\r\nUser-Agent: dperf\r\nHost: " ++ host ++ ascii "\r\nAccept: */*\r\n\r\n" ++ body

/-- `HTTP_RSP_FORMAT` up to the body. -/
def httpRspHeader (length : ℤ) : List UInt8 :=
  ascii "HTTP/1.1 200 OK\r\nContent-Length:" ++ formatInt 11 length
    ++ ascii "\r\nServer: dperf\r\nConnection:keep-alive\r\n\r\n"

/-- `http_rsp_body_default`. -/
def httpRspBodyDefault : List UInt8 := ascii "hello dperf!\r\n"

/-- `snprintf` into `MBUF_DATA_SIZE` bytes. -/
def snprintf (text : List UInt8) : List UInt8 := text.take (mbufDataSize - 1)

/-- `config_set_payload`; `random` are the numbers that `random` returns. -/
def configSetPayload (random : ℕ → ℕ) (cfg : SizeConfig) (len : ℤ) (newLine : Bool) :
    List UInt8 :=
  let data := (List.range len.toNat).map fun i =>
    if cfg.payloadRandom then 0x61 + (random i % 26).toUInt8 else 0x61
  if 1 < len ∧ newLine then data.set (len.toNat - 1) 0x0a else data

/-- `http_set_payload_client`. -/
def httpSetPayloadClient (random : ℕ → ℕ) (cfg : SizeConfig) (payloadSize : ℤ) : List UInt8 :=
  let extraLen : ℤ := cfg.httpPath.length + cfg.httpHost.length - httpHostDefault.length
    - httpPathDefault.length
  if payloadSize ≤ 0 then
    match cfg.httpMethod with
    | .post => snprintf (httpPostFormat cfg.httpPath 0 cfg.httpHost [])
    | .get => snprintf (httpGetFormat cfg.httpPath cfg.httpHost)
  else if payloadSize < httpDataMinSize then configSetPayload random cfg payloadSize true
  else
    let pad := max (payloadSize - httpDataMinSize - extraLen) 0
    let buf := configSetPayload random cfg pad false
    match cfg.httpMethod with
    | .post => snprintf (httpPostFormat cfg.httpPath pad cfg.httpHost buf)
    -- the padding is the path, from its first letter on
    | .get => snprintf (httpGetFormat (0x2f :: buf.tail) cfg.httpHost)

/-- `http_set_payload_server`. -/
def httpSetPayloadServer (random : ℕ → ℕ) (cfg : SizeConfig) (payloadSize : ℤ) : List UInt8 :=
  if payloadSize ≤ 0 then
    snprintf (httpRspHeader httpRspBodyDefault.length ++ httpRspBodyDefault)
  else if payloadSize < httpDataMinSize then configSetPayload random cfg payloadSize true
  else
    let pad := (if cfg.mss < payloadSize then cfg.mss else payloadSize) - httpDataMinSize
    let buf := if 0 < pad then configSetPayload random cfg pad true else []
    snprintf (httpRspHeader (payloadSize - httpDataMinSize) ++ buf)

/-- `http_set_payload` for one worker. -/
def httpSetPayload (random : ℕ → ℕ) (cfg : SizeConfig) (payload : Option (List UInt8)) (i : ℕ) :
    List UInt8 :=
  match payload with
  | some p => p
  | none =>
      if cfg.server then httpSetPayloadServer random cfg (cfg.payloadSize i)
      else httpSetPayloadClient random cfg (cfg.payloadSize i)

/-- `udp_set_payload` for one worker. -/
def udpSetPayload (random : ℕ → ℕ) (cfg : SizeConfig) (payload : Option (List UInt8)) (i : ℕ) :
    List UInt8 :=
  match payload with
  | some p => p
  | none => configSetPayload random cfg (cfg.payloadSize i) true

/-- `config_check_payload`: the configuration, and the payload of each worker. -/
def configCheckPayload (file : List UInt8 → Option (List UInt8)) (random : ℕ → ℕ → ℕ)
    (cfg : SizeConfig) : Option (SizeConfig × (ℕ → List UInt8)) :=
  (configCheckPayloadSizeNum cfg).bind fun cfg =>
    (configCheckPayloadFile file cfg).bind fun r =>
      (configCheckPayloadSize r.1).bind fun cfg =>
        if cfg.protocol = some .tcp then
          (configCheckStatsHttp r.2 cfg).map fun cfg =>
            (cfg, fun i => httpSetPayload (random i) cfg r.2 i)
        else some (cfg, fun i => udpSetPayload (random i) cfg r.2 i)

/-- `config_parse` after the keywords. -/
def configParse (file : List UInt8 → Option (List UInt8)) (random : ℕ → ℕ → ℕ)
    (cfg : SizeConfig) : Option (SizeConfig × (ℕ → List UInt8)) :=
  (configCheckMss { cfg with protocol := some (cfg.protocol.getD .tcp) }).bind fun cfg =>
    -- called before config_check_payload()
    (configCheckHttp cfg).bind fun cfg =>
      (configCheckPayload file random cfg).bind fun r =>
        (configCheckVxlan r.1).map fun cfg => (cfg, r.2)

/-- The fields that `config_packet_payload_size` reads. -/
lemma configPacketPayloadSize_congr {c c' : SizeConfig} (hj : c'.jumbo = c.jumbo)
    (hm : c'.jumboMtu = c.jumboMtu) (hv : c'.vxlan = c.vxlan) (h6 : c'.ipv6 = c.ipv6)
    (hp : c'.protocol = c.protocol) : configPacketPayloadSize c' = configPacketPayloadSize c := by
  rw [configPacketPayloadSize, configPacketPayloadSize, configPacketSizeMax, configPacketSizeMax,
    configPacketHeaderSize, configPacketHeaderSize, hj, hm, hv, h6, hp]

/-! ### What a passed check says -/

namespace SizeConfig

variable (cfg : SizeConfig)

/-- `cfg->mss` after the checks. -/
def mssOrMax : ℤ := if cfg.mss = 0 then mssMax cfg else cfg.mss

/-- The size that the file gives a worker: the only one is for all of them. -/
def sizeOf (i : ℕ) : ℤ := if 1 < payloadSizeNum cfg then cfg.payloadSize i else cfg.payloadSize 0

end SizeConfig

/-- A payload size, rounded as for a TCP server. -/
def roundedSize (mss size : ℤ) : ℤ := if mss < size then (size + mss - 1) / mss * mss else size

lemma configCheckMss_some {cfg cfg' : SizeConfig} (h : configCheckMss cfg = some cfg') :
    cfg.mss ≤ mssMax cfg ∧ cfg' = { cfg with mss := cfg.mssOrMax } := by
  rw [configCheckMss] at h
  split_ifs at h with hmax hzero
  · rw [← Option.some.inj h, SizeConfig.mssOrMax, if_pos hzero]
    exact ⟨not_lt.mp hmax, rfl⟩
  · rw [← Option.some.inj h, SizeConfig.mssOrMax, if_neg hzero]
    exact ⟨not_lt.mp hmax, rfl⟩

lemma configCheckHttp_some {cfg cfg' : SizeConfig} (h : configCheckHttp cfg = some cfg') :
    (cfg.server = false → cfg.httpMethod = .get → cfg.payloadSize 0 ≠ 0 → cfg.httpPath = []) ∧
    ∃ stats, cfg' = { cfg with
      httpHost := if cfg.httpHost ≠ [] then cfg.httpHost else httpHostDefault
      httpPath := if cfg.httpPath ≠ [] then cfg.httpPath else httpPathDefault
      statsHttp := stats } := by
  rw [configCheckHttp] at h
  obtain ⟨hget, h⟩ := Option.ite_none_left_eq_some.mp h
  obtain ⟨-, h⟩ := Option.ite_none_left_eq_some.mp h
  obtain ⟨hhttp, h⟩ := Option.ite_none_left_eq_some.mp h
  refine ⟨fun hs hm hp => ?_, _, (Option.some.inj h).symm⟩
  by_contra hpath
  cases hh : cfg.http with
  | true => exact hget ⟨.inl hp, hs, hh, hm, hpath⟩
  | false => exact hhttp ⟨hh, .inr hpath⟩

lemma configCheckPayloadSizeNum_some {cfg cfg' : SizeConfig}
    (h : configCheckPayloadSizeNum cfg = some cfg') :
    (cfg.server = false → cfg.sizeOf = fun _ => cfg.payloadSize 0) ∧
    ∃ p, (∀ i < cfg.cpuNum, p i = cfg.sizeOf i) ∧ cfg' = { cfg with payloadSize := p } := by
  rw [configCheckPayloadSizeNum] at h
  split_ifs at h with hnum hserver hcpu
  · refine ⟨fun hs => absurd hs hserver, cfg.payloadSize, fun i _ => ?_, (Option.some.inj h).symm⟩
    rw [SizeConfig.sizeOf, if_pos hnum]
  · refine ⟨fun _ => ?_, _, fun i hi => ?_, (Option.some.inj h).symm⟩
    · funext i
      rw [SizeConfig.sizeOf, if_neg hnum]
    · rw [SizeConfig.sizeOf, if_neg hnum, if_pos hi]

/-- No payload comes from a file. -/
lemma configCheckPayloadFile_some {file : List UInt8 → Option (List UInt8)} {cfg : SizeConfig}
    {r : SizeConfig × Option (List UInt8)} (h : configCheckPayloadFile file cfg = some r) :
    r = (cfg, none) := by
  rw [configCheckPayloadFile] at h
  split_ifs at h with hpath
  · exact (Option.some.inj h).symm
  · rw [configReadPayloadFile, if_pos hpath] at h
    cases h

/-- The configuration is one of a TCP server. -/
abbrev SizeConfig.TcpServer (cfg : SizeConfig) : Prop :=
  cfg.protocol = some .tcp ∧ cfg.server = true

/-- What the turns of `config_check_payload_size` have done before worker `n`. -/
structure SizesChecked (cfg : SizeConfig) (n : ℕ) (r : SizeConfig × Bool) : Prop where
  config : r.1 = { cfg with payloadSize := r.1.payloadSize, sendWindow := r.1.sendWindow }
  done : cfg.TcpServer → ∀ i < n, r.1.payloadSize i = roundedSize cfg.mss (cfg.payloadSize i)
  rest : ∀ i, n ≤ i → r.1.payloadSize i = cfg.payloadSize i
  other : ¬ cfg.TcpServer → r.1.payloadSize = cfg.payloadSize ∧
    ∀ i < n, cfg.payloadSize i ≤ configPacketPayloadSize cfg
  large : cfg.TcpServer → ∀ i < n, cfg.mss < cfg.payloadSize i → r.2 = true
  window : r.1.sendWindow = if r.2 ∧ cfg.sendWindow = 0 then sendWindowDefault else cfg.sendWindow

namespace SizesChecked

variable {cfg : SizeConfig} {n : ℕ} {r r' : SizeConfig × Bool}

/-- One turn. -/
lemma step (h : SizesChecked cfg n r) (hr : checkPayloadSize r n = some r') :
    SizesChecked cfg (n + 1) r' := by
  obtain ⟨c, large⟩ := r
  obtain ⟨hconfig, hdone, hrest, hother, hlarge, hwindow⟩ := h
  dsimp only at hconfig hdone hrest hother hlarge hwindow
  have hprot : c.protocol = cfg.protocol := by rw [hconfig]
  have hserver : c.server = cfg.server := by rw [hconfig]
  have hmss : c.mss = cfg.mss := by rw [hconfig]
  have hpacket : configPacketPayloadSize c = configPacketPayloadSize cfg := by rw [hconfig]; rfl
  have hsize := hrest n le_rfl
  rw [checkPayloadSize] at hr
  dsimp only at hr
  rw [hprot, hserver, hmss, hpacket, hsize] at hr
  have hsplit : ∀ i, i < n + 1 → i = n ∨ i < n := fun i hi => by omega
  by_cases htcp : cfg.TcpServer
  · rw [if_pos htcp] at hr
    by_cases hlt : cfg.mss < cfg.payloadSize n
    · rw [if_pos hlt] at hr
      obtain rfl := Option.some.inj hr
      refine ⟨?_, fun _ i hi => ?_, fun i hi => ?_, fun hno => absurd htcp hno,
        fun _ _ _ _ => rfl, ?_⟩
      · dsimp only
        rw [hconfig]
      · rcases hsplit i hi with rfl | hi
        · show Function.update _ _ _ _ = _
          rw [Function.update_self, roundedSize, if_pos hlt]
        · show Function.update _ _ _ _ = _
          rw [Function.update_of_ne (by omega), hdone htcp i hi]
      · show Function.update _ _ _ _ = _
        rw [Function.update_of_ne (by omega), hrest i (by omega)]
      · dsimp only
        rw [hwindow]
        by_cases h0 : cfg.sendWindow = 0
        · cases large <;> simp [h0, sendWindowDefault]
        · simp [h0]
    · rw [if_neg hlt] at hr
      obtain rfl := Option.some.inj hr
      refine ⟨hconfig, fun _ i hi => ?_, fun i hi => hrest i (by omega), fun hno => absurd htcp hno,
        fun _ i hi hbig => ?_, hwindow⟩
      · rcases hsplit i hi with rfl | hi
        · show c.payloadSize i = _
          rw [hsize, roundedSize, if_neg hlt]
        · exact hdone htcp i hi
      · rcases hsplit i hi with rfl | hi
        · exact absurd hbig hlt
        · exact hlarge htcp i hi hbig
  · rw [if_neg htcp] at hr
    obtain ⟨hle, hr⟩ := Option.ite_none_left_eq_some.mp hr
    obtain rfl := Option.some.inj hr
    refine ⟨hconfig, fun h => absurd h htcp, fun i hi => hrest i (by omega), fun _ => ?_,
      fun h => absurd h htcp, hwindow⟩
    refine ⟨(hother htcp).1, fun i hi => ?_⟩
    rcases hsplit i hi with rfl | hi
    · exact not_lt.mp hle
    · exact (hother htcp).2 i hi

/-- All turns. -/
lemma all (cfg : SizeConfig) : ∀ (n : ℕ) (r : SizeConfig × Bool),
    (List.range n).foldlM checkPayloadSize (cfg, false) = some r → SizesChecked cfg n r := by
  intro n
  induction n with
  | zero =>
      intro r hr
      obtain rfl := Option.some.inj hr
      exact ⟨rfl, fun _ i hi => absurd hi (Nat.not_lt_zero i), fun _ _ => rfl,
        fun _ => ⟨rfl, fun i hi => absurd hi (Nat.not_lt_zero i)⟩,
        fun _ i hi => absurd hi (Nat.not_lt_zero i), by simp⟩
  | succ n ih =>
      intro r hr
      rw [List.range_succ, List.foldlM_append] at hr
      obtain ⟨r₁, hr₁, hr⟩ := Option.bind_eq_some_iff.mp hr
      rw [List.foldlM_cons] at hr
      obtain ⟨r₂, hr₂, hr⟩ := Option.bind_eq_some_iff.mp hr
      obtain rfl : r₂ = r := Option.some.inj hr
      exact (ih r₁ hr₁).step hr₂

end SizesChecked

lemma configCheckPayloadSize_some {cfg cfg' : SizeConfig}
    (h : configCheckPayloadSize cfg = some cfg') :
    ∃ sizes window, cfg' = { cfg with payloadSize := sizes, sendWindow := window } ∧
      (cfg.TcpServer → ∀ i < cfg.cpuNum, sizes i = roundedSize cfg.mss (cfg.payloadSize i)) ∧
      (¬ cfg.TcpServer → ∀ i < cfg.cpuNum, sizes i = cfg.payloadSize i ∧
        cfg.payloadSize i ≤ configPacketPayloadSize cfg) ∧
      (cfg.TcpServer → ∀ i < cfg.cpuNum, cfg.mss < cfg.payloadSize i →
        window = if cfg.sendWindow = 0 then sendWindowDefault else cfg.sendWindow) := by
  obtain ⟨r, hloop, rfl⟩ := Option.map_eq_some_iff.mp h
  have hr := SizesChecked.all _ _ _ hloop
  refine ⟨r.1.payloadSize, if r.2 then r.1.sendWindow else 0, ?_, hr.done, fun hno i hi => ?_,
    fun htcp i hi hbig => ?_⟩
  · obtain ⟨c, large⟩ := r
    have hconfig := hr.config
    dsimp only at hconfig ⊢
    cases large with
    | true => exact hconfig
    | false =>
        rw [hconfig]
        rfl
  · rw [(hr.other hno).1]
    exact ⟨rfl, (hr.other hno).2 i hi⟩
  · have hlarge := hr.large htcp i hi hbig
    rw [if_pos hlarge, hr.window]
    simp [hlarge]

lemma configCheckStatsHttp_some {payload : Option (List UInt8)} {cfg cfg' : SizeConfig}
    (h : configCheckStatsHttp payload cfg = some cfg') :
    ∃ stats, cfg' = { cfg with statsHttp := stats } := by
  rw [configCheckStatsHttp] at h
  have hloop : ∀ (l : List ℕ) (c : SizeConfig),
      l.foldlM (fun c i => if 1 < i ∧ c.statsHttp ≠ statsOf c payload i then none
        else some { c with statsHttp := statsOf c payload i }) c = some cfg' →
      ∃ stats, cfg' = { c with statsHttp := stats } := by
    intro l
    induction l with
    | nil => exact fun c hc => ⟨c.statsHttp, (Option.some.inj hc).symm⟩
    | cons i l ih =>
        intro c hc
        rw [List.foldlM_cons] at hc
        obtain ⟨c₁, hc₁, hc⟩ := Option.bind_eq_some_iff.mp hc
        split_ifs at hc₁
        obtain rfl := Option.some.inj hc₁
        obtain ⟨stats, rfl⟩ := ih _ hc
        exact ⟨stats, rfl⟩
  exact hloop _ _ h

lemma configCheckVxlan_some {cfg cfg' : SizeConfig} (h : configCheckVxlan cfg = some cfg') :
    cfg' = { cfg with vxlan := cfg.vxlan || decide (cfg.vxlans ≠ []) } := by
  rw [configCheckVxlan] at h
  by_cases hnone : cfg.vxlans = []
  · rw [if_pos hnone] at h
    have hfalse : decide (cfg.vxlans ≠ []) = false := by simp [hnone]
    rw [hfalse, Bool.or_false]
    exact (Option.some.inj h).symm
  · rw [if_neg hnone] at h
    obtain ⟨-, h⟩ := Option.ite_none_left_eq_some.mp h
    obtain ⟨-, h⟩ := Option.ite_none_left_eq_some.mp h
    have htrue : decide (cfg.vxlans ≠ []) = true := by simp [hnone]
    rw [htrue, Bool.or_true]
    exact (Option.some.inj h).symm

/-- An accepted configuration, and what it was made of. -/
structure ConfigChecked (random : ℕ → ℕ → ℕ) (cfg cfg' : SizeConfig) (payloads : ℕ → List UInt8) :
    Prop where
  config : cfg' = { cfg with
    protocol := some (cfg.protocol.getD .tcp)
    mss := cfg.mssOrMax
    httpHost := if cfg.httpHost ≠ [] then cfg.httpHost else httpHostDefault
    httpPath := if cfg.httpPath ≠ [] then cfg.httpPath else httpPathDefault
    statsHttp := cfg'.statsHttp
    payloadSize := cfg'.payloadSize
    sendWindow := cfg'.sendWindow
    vxlan := cfg.vxlan || decide (cfg.vxlans ≠ []) }
  mss_le : cfg.mss ≤ mssMax cfg
  get_path : cfg.server = false → cfg.httpMethod = .get → cfg.payloadSize 0 ≠ 0 → cfg.httpPath = []
  one_size : cfg.server = false → cfg.sizeOf = fun _ => cfg.payloadSize 0
  rounded : cfg'.TcpServer → ∀ i < cfg.cpuNum,
    cfg'.payloadSize i = roundedSize cfg.mssOrMax (cfg.sizeOf i)
  kept : ¬ cfg'.TcpServer → ∀ i < cfg.cpuNum, cfg'.payloadSize i = cfg.sizeOf i ∧
    cfg.sizeOf i ≤ configPacketPayloadSize
      { cfg with protocol := some (cfg.protocol.getD .tcp) }
  window : cfg'.TcpServer → ∀ i < cfg.cpuNum, cfg.mssOrMax < cfg.sizeOf i →
    cfg'.sendWindow = if cfg.sendWindow = 0 then sendWindowDefault else cfg.sendWindow
  payloads : payloads = fun i =>
    if cfg'.protocol = some .tcp then httpSetPayload (random i) cfg' none i
    else udpSetPayload (random i) cfg' none i

theorem configParse_checked {file : List UInt8 → Option (List UInt8)} {random : ℕ → ℕ → ℕ}
    {cfg cfg' : SizeConfig} {payloads : ℕ → List UInt8}
    (h : configParse file random cfg = some (cfg', payloads)) :
    ConfigChecked random cfg cfg' payloads := by
  rw [configParse] at h
  obtain ⟨c₁, h₁, h⟩ := Option.bind_eq_some_iff.mp h
  obtain ⟨hmss, rfl⟩ := configCheckMss_some h₁
  obtain ⟨c₂, h₂, h⟩ := Option.bind_eq_some_iff.mp h
  obtain ⟨hget, stats, rfl⟩ := configCheckHttp_some h₂
  obtain ⟨⟨c₃, texts⟩, h₃, h⟩ := Option.bind_eq_some_iff.mp h
  rw [configCheckPayload] at h₃
  obtain ⟨c₄, h₄, h₃⟩ := Option.bind_eq_some_iff.mp h₃
  obtain ⟨hone, p, hp, rfl⟩ := configCheckPayloadSizeNum_some h₄
  obtain ⟨r, h₅, h₃⟩ := Option.bind_eq_some_iff.mp h₃
  obtain rfl := configCheckPayloadFile_some h₅
  obtain ⟨c₆, h₆, h₃⟩ := Option.bind_eq_some_iff.mp h₃
  obtain ⟨sizes, window, rfl, hround, hkept, hwindow⟩ := configCheckPayloadSize_some h₆
  obtain ⟨c₇, h₇, h⟩ := Option.map_eq_some_iff.mp h
  obtain rfl := configCheckVxlan_some h₇
  obtain ⟨rfl, rfl⟩ := Prod.mk.inj h
  have hsize : ∀ i < cfg.cpuNum, p i = cfg.sizeOf i := hp
  have hround' : (some (cfg.protocol.getD .tcp) = some .tcp ∧ cfg.server = true) →
      ∀ i < cfg.cpuNum, sizes i = roundedSize cfg.mssOrMax (cfg.sizeOf i) := by
    intro hs i hi
    rw [← hsize i hi]
    exact hround hs i hi
  have hkept' : ¬ (some (cfg.protocol.getD .tcp) = some .tcp ∧ cfg.server = true) →
      ∀ i < cfg.cpuNum, sizes i = cfg.sizeOf i ∧ cfg.sizeOf i ≤ configPacketPayloadSize
        { cfg with protocol := some (cfg.protocol.getD .tcp) } := by
    intro hs i hi
    rw [← hsize i hi]
    obtain ⟨heq, hle⟩ := hkept hs i hi
    exact ⟨heq, hle.trans_eq (configPacketPayloadSize_congr rfl rfl rfl rfl rfl)⟩
  have hwindow' : (some (cfg.protocol.getD .tcp) = some .tcp ∧ cfg.server = true) →
      ∀ i < cfg.cpuNum, cfg.mssOrMax < cfg.sizeOf i →
        window = if cfg.sendWindow = 0 then sendWindowDefault else cfg.sendWindow := by
    intro hs i hi hbig
    rw [← hsize i hi] at hbig
    exact hwindow hs i hi hbig
  -- the statistics flag is the last field that is set before the texts
  by_cases htcp : some (cfg.protocol.getD .tcp) = some Protocol.tcp
  · rw [if_pos htcp] at h₃
    obtain ⟨c₈, h₈, h₃⟩ := Option.map_eq_some_iff.mp h₃
    obtain ⟨stats', rfl⟩ := configCheckStatsHttp_some h₈
    obtain ⟨rfl, rfl⟩ := Prod.mk.inj h₃
    refine ⟨rfl, hmss, hget, hone, hround', hkept', hwindow', ?_⟩
    funext i
    exact (if_pos htcp).symm
  · rw [if_neg htcp] at h₃
    obtain ⟨rfl, rfl⟩ := Prod.mk.inj (Option.some.inj h₃)
    refine ⟨rfl, hmss, hget, hone, hround', hkept', hwindow', ?_⟩
    funext i
    exact (if_neg htcp).symm

end Dperf
