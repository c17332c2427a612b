import Dperf.Keywords
import Dperf.Payloads
import Dperf.TableInit

/-!
The handlers of the configuration keywords: `g_config_keywords` of `config.c`.

* `KeywordConfig`: the fields of `struct config` that the handlers with a duplicate check use.
* `Once`: such a handler: its test of `argc`, the fields that tell that the keyword was there, and
  what it writes.
* `gConfigKeywords`: the table. What `port`, `client`, `server`, `change_dip`, `packet_size`,
  `vxlan` and `rss` do, which have no such check and write none of these fields, is left open.
-/

namespace Dperf.Keywords

/-! ### `struct config` -/

/-- The fields of `struct config` that are `bool`. -/
inductive Flag where
  | server | keepalive | kni | daemon | flood | jumbo | payloadRandom | clientHop | simd512
  | fastClose | clearScreen | disableAck | quiet | tcpRst | neighIgnore | flowIsolate | http
  deriving DecidableEq

/-- Those that are numbers. -/
inductive Num where
  | logLevel | httpMethod | tos | pipeline | txBurst | sendWindow | protocol
  | vlanId | jumboMtu
  | lportMin | lportMax | keepaliveRequestNum | mss | wait | slowStart | duration | cps | cc
  | cpuNum | listen | listenNum
  | retransmitTimeoutSec | launchNum
  | keepaliveRequestIntervalUs
  deriving DecidableEq

/-- Those that are strings. -/
inductive Str where
  | kniIfname | httpHost | httpPath | payloadPath | socketMem
  deriving DecidableEq

/-- A field of `struct config`. -/
inductive Field where
  | flag (f : Flag)
  | num (f : Num)
  | str (f : Str)
  | cpu
  | payloadSize
  deriving DecidableEq

/-- The fields of `struct config` that the handlers with a duplicate check read and write. -/
structure KeywordConfig where
  flag : Flag → Bool
  num : Num → ℤ
  str : Str → List UInt8
  cpu : List Int32
  payloadSize : List UInt32

/-- What an `int` becomes in a field, by its type. -/
def Num.store : Num → Int32 → ℤ
  | .logLevel, v | .httpMethod, v | .tos, v | .pipeline, v | .txBurst, v | .sendWindow, v
  | .protocol, v => v.toInt % 2 ^ 8
  | .vlanId, v | .jumboMtu, v => v.toInt % 2 ^ 16
  | .retransmitTimeoutSec, v | .launchNum, v => v.toInt % 2 ^ 32
  | .keepaliveRequestIntervalUs, v => v.toInt % 2 ^ 64
  | _, v => v.toInt

/-- An assignment to a field. The elements of an array are written from the first. -/
inductive Write where
  | flag (f : Flag) (v : Bool)
  | num (f : Num) (v : Int32)
  | str (f : Str) (v : List UInt8)
  | cpu (vs : List Int32)
  | payloadSize (vs : List Int32)

/-- The field that is written. -/
def Write.field : Write → Field
  | .flag f _ => .flag f
  | .num f _ => .num f
  | .str f _ => .str f
  | .cpu _ => .cpu
  | .payloadSize _ => .payloadSize

namespace KeywordConfig

/-- A configuration where all is zero. -/
def zero : KeywordConfig where
  flag _ := false
  num _ := 0
  str _ := []
  cpu := List.replicate threadNumMax 0
  payloadSize := List.replicate threadNumMax 0

def write (cfg : KeywordConfig) : Write → KeywordConfig
  | .flag f v => { cfg with flag := Function.update cfg.flag f v }
  | .num f v => { cfg with num := Function.update cfg.num f (f.store v) }
  | .str f v => { cfg with str := Function.update cfg.str f v }
  | .cpu vs => { cfg with cpu := vs ++ cfg.cpu.drop vs.length }
  | .payloadSize vs =>
      { cfg with payloadSize := vs.map Int32.toUInt32 ++ cfg.payloadSize.drop vs.length }

/-- The test of a field for zero; of an array or string, that of its first element. -/
def isSet (cfg : KeywordConfig) : Field → Bool
  | .flag f => cfg.flag f
  | .num f => cfg.num f != 0
  | .str f => (cfg.str f).headD 0 != 0
  | .cpu => cfg.cpu.headD 0 != 0
  | .payloadSize => cfg.payloadSize.headD 0 != 0

end KeywordConfig

/-- `g_config`. -/
def gConfig : KeywordConfig := KeywordConfig.zero.write (.flag .tcpRst true)

/-! ### Reading numbers -/

/-- What `config.c` uses of `atof`, a number of floating point: `atof(str) * rate` as an `int`, and
`atof(str) < 0`. -/
structure Atof where
  scaled : List UInt8 → Int32 → Int32
  negative : List UInt8 → Bool

/-- `atoi`. -/
def atoi (str : List UInt8) : Int32 := (atol str).toInt32

def isDigit (c : UInt8) : Bool := decide (0x30 ≤ c) && decide (c ≤ 0x39)

/-- `config_str_find_nondigit`, with the points that were there; a second point ends the search. -/
def configStrFindNondigit (floatEnable : Bool) (point : ℕ) : List UInt8 → Option (List UInt8)
  | [] => none
  | c :: p =>
      if isDigit c then configStrFindNondigit floatEnable point p
      else if floatEnable && c == 0x2e then
        if point + 1 > 1 then none else configStrFindNondigit floatEnable (point + 1) p
      else some (c :: p)

/-- The factor of a suffix. -/
def rateOf (p : List UInt8) : Option Int32 :=
  if p = ascii "k" ∨ p = ascii "K" then some 1000
  else if p = ascii "m" ∨ p = ascii "M" then some 1000000
  else none

/-- `config_parse_number`. -/
def configParseNumber (atof : Atof) (str : List UInt8) (floatEnable rateEnable : Bool) : Int32 :=
  let value (rate : Int32) : Int32 :=
    let val := if floatEnable then atof.scaled str rate else atoi str * rate
    if val < 0 then -1 else val
  match configStrFindNondigit floatEnable 0 str with
  | none => value 1
  | some p =>
      if rateEnable = false then -1
      else
        match rateOf p with
        | none => -1
        | some rate => if p.length = str.length then -1 else value rate

/-- The value of a hexadecimal digit. -/
def hexDigit (c : UInt8) : Option ℕ :=
  if isDigit c then some (c.toNat - 0x30)
  else if 0x61 ≤ c ∧ c ≤ 0x66 then some (c.toNat - 0x61 + 10)
  else if 0x41 ≤ c ∧ c ≤ 0x46 then some (c.toNat - 0x41 + 10)
  else none

/-- `strtol` of the digits after `0x`, when there are no others: a value outside `long` is
clamped. -/
def strtolHex (digits : List UInt8) : Option Int64 :=
  (digits.mapM hexDigit).map fun ds =>
    Int64.ofInt (min (ds.foldl (fun a d => a * 16 + d) 0 : ℕ) (2 ^ 63 - 1))

/-- `config_parse_hex`. -/
def configParseHex (str : List UInt8) (min max : Int64) : Option Int32 :=
  let val :=
    if str.length > 2 ∧ (str.take 2 = ascii "0x" ∨ str.take 2 = ascii "0X") then
      strtolHex (str.drop 2)
    else some (atoi str).toInt64
  val.bind fun val => if min ≤ val ∧ val ≤ max then some val.toInt32 else none

/-- A value not below `min`. -/
def atLeast (min val : Int32) : Option Int32 := if val < min then none else some val

/-- A value in a range. -/
def inRange (min max val : Int32) : Option Int32 :=
  if val < min ∨ val > max then none else some val

/-! ### Handlers with a duplicate check -/

/-- `argv[i]`. -/
def arg (argv : Argv) (i : ℕ) : List UInt8 := argv.getD i []

/-- A handler with a duplicate check. An error has the text that is printed, with its formats; it
is empty where nothing is printed. A handler that fails ends the parse, so that what it has written
before is left out. -/
structure Once where
  argc : ℕ → Bool
  /-- The fields of which the duplicate check asks if they are set. -/
  marks : List Field
  duplicate : String
  body : KeywordConfig → Argv → Except String (List Write)
  /-- The arguments are checked before the duplicate. -/
  late : Bool := false

namespace Once

variable (o : Once)

/-- The duplicate check. -/
def seen (cfg : KeywordConfig) : Bool := o.marks.any cfg.isSet

def run (argv : Argv) (cfg : KeywordConfig) : Except String KeywordConfig :=
  if o.argc argv.length = false then .error ""
  else if o.late = false ∧ o.seen cfg = true then .error o.duplicate
  else
    match o.body cfg argv with
    | .error e => .error e
    | .ok ws =>
        if o.seen cfg = true then .error o.duplicate else .ok (ws.foldl KeywordConfig.write cfg)

end Once

/-- A keyword without arguments. -/
def flagKeyword (f : Flag) (duplicate : String) : Once where
  argc n := n == 1
  marks := [.flag f]
  duplicate
  body _ _ := .ok [.flag f true]

/-- A keyword with a number. -/
def numberKeyword (f : Num) (duplicate : String) (value : List UInt8 → Option Int32)
    (bad : String) : Once where
  argc n := n == 2
  marks := [.num f]
  duplicate
  body _ argv :=
    match value (arg argv 1) with
    | none => .error bad
    | some v => .ok [.num f v]

/-- A keyword with a string. -/
def stringKeyword (f : Str) (duplicate : String) (size : ℕ) (long : String)
    (ok : List UInt8 → Bool) : Once where
  argc n := n == 2
  marks := [.str f]
  duplicate
  body _ argv :=
    if size ≤ (arg argv 1).length then .error long
    else if ok (arg argv 1) = false then .error ""
    else .ok [.str f (arg argv 1)]

/-- A keyword with a choice. -/
def choiceKeyword (mark : Field) (duplicate : String) (choice : List UInt8 → Option (List Write))
    (bad : String) : Once where
  argc n := n == 2
  marks := [mark]
  duplicate
  body _ argv :=
    match choice (arg argv 1) with
    | none => .error bad
    | some ws => .ok ws

/-! ### Flags -/

def configParseDaemon : Once :=
  { flagKeyword .daemon "Error: duplicate daemon\n" with argc := fun _ => true }

def configParseFlood : Once := flagKeyword .flood "Error: duplicate flood\n"

def configParsePayloadRandom : Once :=
  flagKeyword .payloadRandom "Error: duplicate payload_random\n"

/-- `argc > 1` fails. -/
def configParseQuiet : Once :=
  { flagKeyword .quiet "Error: duplicate quiet\n" with argc := fun n => decide (n ≤ 1) }

def configParseClientHop : Once := flagKeyword .clientHop "Error: duplicate client_hop\n"

def configParseSimd512 : Once := flagKeyword .simd512 "Error: duplicate simd512\n"

def configParseFastClose : Once := flagKeyword .fastClose "Error: duplicate fast_close\n"

def configParseClearScreen : Once := flagKeyword .clearScreen "Error: duplicate clear_screen\n"

def configParseDisableAck : Once := flagKeyword .disableAck "Error: duplicate disable_ack\n"

def configParseNeighIgnore : Once := flagKeyword .neighIgnore "Error: duplicate neigh_ignore\n"

def configParseFlowIsolate : Once := flagKeyword .flowIsolate "Error: duplicate flow_isolate\n"

/-! ### Numbers -/

section Values

variable (atof : Atof)

def configParsePipeline : Once :=
  numberKeyword .pipeline "Error: duplicate pipeline\n" (fun str => inRange 0 100 (atoi str)) ""

def configParseCps : Once :=
  numberKeyword .cps "Error: duplicate cps\n"
    (fun str => atLeast 0 (configParseNumber atof str true true)) ""

/-- Zero fails. -/
def configParseCc : Once :=
  numberKeyword .cc "Error: duplicate cc\n"
    (fun str => atLeast 1 (configParseNumber atof str true true)) ""

def configParseLaunchNum : Once :=
  numberKeyword .launchNum "Error: duplicate launch_num\n"
    (fun str => atLeast 0 (configParseNumber atof str false false)) ""

/-- `TX_BURST_MAX` is 1024. -/
def configParseTxBurst : Once :=
  numberKeyword .txBurst "Error: duplicate tx_burst\n"
    (fun str => inRange 1 1024 (configParseNumber atof str false false)) ""

def configParseSlowStart : Once :=
  numberKeyword .slowStart "Error: duplicate slow_start\n"
    (fun str => inRange 10 600 (configParseNumber atof str false false)) ""

def configParseWait : Once :=
  numberKeyword .wait "Error: duplicate wait\n"
    (fun str => atLeast 1 (configParseNumber atof str false false)) ""

def configParseSendWindow : Once :=
  numberKeyword .sendWindow "Error: duplicate send_window\n"
    (fun str => inRange 2 16 (configParseNumber atof str true true)) ""

def configParseMss : Once :=
  numberKeyword .mss "Error: duplicate mss\n"
    (fun str => atLeast 1 (configParseNumber atof str false false)) ""

def configParseVlan : Once :=
  numberKeyword .vlanId "Error: duplicate vlan\n" (fun str => inRange 1 4094 (atoi str))
    "bad vlan id %s\n"

def configParseRetransmitTimeout : Once :=
  numberKeyword .retransmitTimeoutSec "Error: duplicate retransmit_timeout\n"
    (fun str => inRange 2 300 (atoi str)) ""

def configParseTos : Once :=
  numberKeyword .tos "Error: duplicate tos\n" (fun str => configParseHex str 0 0xff)
    "invalid tos %s\n"

/-- The seconds of the unit at the end of `config_parse_duration`. -/
def durationRate (str : List UInt8) : Int32 :=
  match str.getLastD 0 with
  | 0x6d => 60
  | 0x68 => 60 * 60
  | 0x64 => 60 * 60 * 24
  | _ => 1

def configParseDuration : Once :=
  numberKeyword .duration "Error: duplicate duration\n"
    (fun str =>
      if atof.negative str then none else atLeast 1 (atof.scaled str (durationRate str))) ""

/-! ### Strings -/

/-- `RTE_ARG_LEN`. -/
def rteArgLen : ℕ := 64

def configParseSocketMem : Once :=
  stringKeyword .socketMem "Error: duplicate socket_mem\n" rteArgLen "" fun _ => true

/-- `PAYLOAD_PATH_MAX` is 256. -/
def configParsePayloadFile : Once :=
  stringKeyword .payloadPath "Error: duplicate payload_path\n" 256 "Error: large payload_path\n"
    fun _ => true

/-- `HTTP_HOST_MAX` is 128. -/
def configParseHttpHost : Once :=
  stringKeyword .httpHost "Error: duplicate http_host\n" 128 "" fun _ => true

/-- `HTTP_PATH_MAX` is 256. -/
def configParseHttpPath : Once :=
  stringKeyword .httpPath "Error: duplicate http_path\n" 256 "" fun path => path.headD 0 == 0x2f

/-! ### Choices -/

def configParseMode : Once :=
  choiceKeyword (.flag .server) "Error: duplicate mode\n" (fun str =>
    if str = ascii "client" then some [.flag .server false]
    else if str = ascii "server" then some [.flag .server true]
    else none) "unknown mode %s\n"

/-- `http` is there if `HTTP_PARSE` is defined. -/
def configParseProtocol (httpParse : Bool) : Once :=
  choiceKeyword (.num .protocol) "Error: duplicate protocol\n" (fun str =>
    if str = ascii "tcp" then some [.num .protocol 6]
    else if str = ascii "udp" then some [.num .protocol 17]
    else if httpParse = true ∧ str = ascii "http" then
      some [.num .protocol 6, .flag .http true]
    else none) ""

def configParseHttpMethod : Once :=
  choiceKeyword (.num .httpMethod) "Error: duplicate http_method\n" (fun str =>
    if str = ascii "GET" then some [.num .httpMethod 0]
    else if str = ascii "POST" then some [.num .httpMethod 1]
    else none) ""

def configParseLogLevel : Once :=
  choiceKeyword (.num .logLevel) "Error: duplicate log_level\n" (fun str =>
    if str = ascii "error" then some [.num .logLevel 4]
    else if str = ascii "warn" then some [.num .logLevel 5]
    else if str = ascii "info" then some [.num .logLevel 7]
    else if str = ascii "debug" then some [.num .logLevel 8]
    else none) "Error: unknown log level %s\n"

/-- It is set at the start. -/
def configParseTcpRst : Once :=
  choiceKeyword (.flag .tcpRst) "Error: duplicate tcp_rst\n" (fun str =>
    if atoi str = 0 then some [.flag .tcpRst false]
    else if atoi str = 1 then some [.flag .tcpRst true]
    else none) ""

/-! ### Others -/

/-- The microseconds of a unit. -/
def keepaliveRate (unit : List UInt8) : Option Int32 :=
  if unit = ascii "us" then some 1
  else if unit = ascii "ms" then some 1000
  else if unit = ascii "s" then some (1000 * 1000)
  else none

/-- `config_parse_keepalive_request_interval`: what is stored. -/
def configParseKeepaliveRequestInterval (str : List UInt8) : Except String Int32 :=
  match (configStrFindNondigit false 0 str).bind keepaliveRate with
  | none => .error ""
  | some rate =>
      let val := atoi str
      if val < 0 then .error ""
      else if rate = 1 ∧ val ≥ 10 ∧ val % 10 ≠ 0 then
        .error "Error: keepalive request interval must be a multiple of 10us\n"
      else if rate = 1 ∧ val > 1 ∧ val < 10 ∧ val % 2 ≠ 0 then
        .error "Error: keepalive request interval must be a multiple of 2us\n"
      else .ok (val * rate)

/-- `config_parse_keepalive_request_num`: what is stored; `KEEPALIVE_REQ_NUM` is 32767. -/
def configParseKeepaliveRequestNum (str : List UInt8) : Except String Int32 :=
  let val := configParseNumber atof str true true
  if val < 0 ∨ val > 32767 then .error "" else .ok val

/-- The number of requests that `argv` gives, if any. -/
def keepaliveNum (argv : Argv) : Except String (Option Int32) :=
  if argv.length = 3 then
    match configParseKeepaliveRequestNum atof (arg argv 2) with
    | .error e => .error e
    | .ok num => .ok (some num)
  else .ok none

def configParseKeepalive : Once where
  argc n := n == 2 || n == 3
  marks := [.flag .keepalive]
  duplicate := "Error: duplicate 'keepalive'\n"
  body cfg argv :=
    match configParseKeepaliveRequestInterval (arg argv 1) with
    | .error e => .error e
    | .ok interval =>
        match keepaliveNum atof argv with
        | .error e => .error e
        | .ok num =>
            let stored : ℤ := match num with
              | none => cfg.num .keepaliveRequestNum
              | some num => Num.keepaliveRequestNum.store num
            if Num.keepaliveRequestIntervalUs.store interval = 0 ∧ stored ≠ 0 then .error ""
            else .ok ([.num .keepaliveRequestIntervalUs interval]
              ++ (num.toList.map (.num .keepaliveRequestNum)) ++ [.flag .keepalive true])

/-- `%d` of `sscanf`, and what is behind it. -/
def scanInt (str : List UInt8) : Option (Int32 × List UInt8) :=
  let t := str.dropWhile isSpace
  let digits := if t.headD 0 = 0x2d ∨ t.headD 0 = 0x2b then t.drop 1 else t
  if isDigit (digits.headD 0) then some (atoi str, digits.dropWhile isDigit) else none

/-- `cpu_min` and `cpu_max` of an argument of `config_parse_cpu`. -/
def cpuRange (p : List UInt8) : Option (Int32 × Int32) :=
  if 0x2d ∈ p then
    match scanInt p with
    | some (cpuMin, 0x2d :: rest) => (scanInt rest).map fun r => (cpuMin, r.1)
    | _ => none
  else
    let cpu := configParseNumber atof p false false
    some (cpu, cpu)

/-- The loop of `config_parse_cpu` from `cpu` on, over as many as are left of the range. -/
def addCpus : ℕ → Int32 → List Int32 → Except String (List Int32)
  | 0, _, cpus => .ok cpus
  | left + 1, cpu, cpus =>
      if cpus.length + 1 > threadNumMax then .error "too much cpu %d > %d\n"
      else addCpus left (cpu + 1) (cpus ++ [cpu])

/-- The turns of this loop. An `int` is never above the largest one, so that the loop up to it ends
only where there is no room. -/
def cpuTurns (cpuMin cpuMax : Int32) : ℕ :=
  if cpuMax = Int32.maxValue then threadNumMax + 1 else (cpuMax.toInt - cpuMin.toInt + 1).toNat

/-- The loop of `config_parse_cpu` over the arguments. -/
def cpuArgs : List (List UInt8) → List Int32 → Except String (List Int32)
  | [], cpus => .ok cpus
  | p :: args, cpus =>
      match cpuRange atof p with
      | none => .error ""
      | some (cpuMin, cpuMax) =>
          if cpuMin < 0 ∨ cpuMax < 0 ∨ cpuMin > cpuMax then .error "bad cpu number %s\n"
          else
            match addCpus (cpuTurns cpuMin cpuMax) cpuMin cpus with
            | .error e => .error e
            | .ok cpus => cpuArgs args cpus

def configParseCpu : Once where
  argc n := decide (n > 1)
  marks := [.num .cpuNum]
  duplicate := "Error: duplicate cpu\n"
  body _ argv :=
    match cpuArgs atof argv.tail [] with
    | .error e => .error e
    | .ok cpus =>
        if cpus.Nodup then .ok [.cpu cpus, .num .cpuNum (Int32.ofNat cpus.length)] else .error ""

def configParseListen : Once where
  argc n := n == 3
  marks := [.num .listenNum]
  duplicate := "Error: duplicate listen\n"
  body _ argv :=
    let listen := configParseNumber atof (arg argv 1) false false
    let listenNum := configParseNumber atof (arg argv 2) false false
    if Dperf.configParseListen listen listenNum then
      .ok [.num .listen listen, .num .listenNum listenNum]
    else .error ""

/-- The loop of `config_parse_payload_size`. -/
def payloadSizes : List (List UInt8) → Except String (List Int32)
  | [] => .ok []
  | str :: args =>
      let size := configParseNumber atof str true true
      if size < 0 then .error ""
      else if size.toInt > payloadSizeMax then
        .error "Error: 'payload_size' is larger than %lu\n"
      else
        match payloadSizes args with
        | .error e => .error e
        | .ok sizes => .ok (size :: sizes)

def configParsePayloadSize : Once where
  argc n := decide (n ≥ 2)
  marks := [.payloadSize]
  duplicate := "Error: duplicate payload_size\n"
  body _ argv :=
    match payloadSizes atof argv.tail with
    | .error e => .error e
    | .ok sizes => .ok [.payloadSize sizes]

/-- `isalpha` in the C locale. -/
def isAlpha (c : UInt8) : Bool :=
  (decide (0x41 ≤ c) && decide (c ≤ 0x5a)) || (decide (0x61 ≤ c) && decide (c ≤ 0x7a))

/-- `KNI_NAMESIZE` is 10. -/
def configParseKni : Once where
  argc n := decide (n ≤ 2)
  marks := [.flag .kni]
  duplicate := "Error: duplicate kni\n"
  body _ argv :=
    let ifname := if argv.length = 2 then arg argv 1 else ascii "dperf"
    if ifname.length ≥ 10 then .error "long kni name\n"
    else if isAlpha (ifname.headD 0) = false then .error "invalid kni name\n"
    else .ok [.str .kniIfname ifname, .flag .kni true]

def configParseJumbo : Once where
  argc n := decide (n ≤ 2)
  marks := [.flag .jumbo]
  duplicate := "Error: duplicate jumbo\n"
  body _ argv :=
    if argv.length = 2 then
      let mtu := atoi (arg argv 1)
      if mtu < 9000 ∨ mtu > 9710 then .error "Error: bad jumbo mtu [%d - %d]\n"
      else .ok [.num .jumboMtu mtu, .flag .jumbo true]
    else .ok [.num .jumboMtu 9710, .flag .jumbo true]
  late := true

def configParseClientPortRange : Once where
  argc n := n == 2 || n == 3
  marks := [.num .lportMin, .num .lportMax]
  duplicate := "Error: duplicate client_port_range\n"
  body _ argv :=
    let lportMin := atoi (arg argv 1)
    let lportMax := if argv.length = 3 then atoi (arg argv 2) else 65535
    if Dperf.configParseClientPortRange lportMin lportMax then
      .ok [.num .lportMin lportMin, .num .lportMax lportMax]
    else .error ""

/-- `config_parse_lport_range`, which prints a warning first. -/
def configParseLportRange : Once := configParseClientPortRange

end Values

/-! ### `g_config_keywords` -/

/-- The keywords. -/
inductive Keyword where
  | daemon | keepalive | pipeline | mode | cpu | socketMem | port | duration | cps | cc | flood
  | launchNum | client | server | changeDip | listen | payloadRandom | payloadSize | payloadFile
  | sendWindow | packetSize | mss | protocol | txBurst | slowStart | wait | vxlan | vlan | kni
  | tos | jumbo | rss | quiet | tcpRst | httpHost | httpPath | httpMethod | lportRange
  | clientPortRange | clientHop | simd512 | fastClose | clearScreen | logLevel | disableAck
  | retransmitTimeout | neighIgnore | flowIsolate
  deriving DecidableEq

namespace Keyword

def name : Keyword → List UInt8
  | daemon => ascii "daemon"
  | keepalive => ascii "keepalive"
  | pipeline => ascii "pipeline"
  | mode => ascii "mode"
  | cpu => ascii "cpu"
  | socketMem => ascii "socket_mem"
  | port => ascii "port"
  | duration => ascii "duration"
  | cps => ascii "cps"
  | cc => ascii "cc"
  | flood => ascii "flood"
  | launchNum => ascii "launch_num"
  | client => ascii "client"
  | server => ascii "server"
  | changeDip => ascii "change_dip"
  | listen => ascii "listen"
  | payloadRandom => ascii "payload_random"
  | payloadSize => ascii "payload_size"
  | payloadFile => ascii "payload_file"
  | sendWindow => ascii "send_window"
  | packetSize => ascii "packet_size"
  | mss => ascii "mss"
  | protocol => ascii "protocol"
  | txBurst => ascii "tx_burst"
  | slowStart => ascii "slow_start"
  | wait => ascii "wait"
  | vxlan => ascii "vxlan"
  | vlan => ascii "vlan"
  | kni => ascii "kni"
  | tos => ascii "tos"
  | jumbo => ascii "jumbo"
  | rss => ascii "rss"
  | quiet => ascii "quiet"
  | tcpRst => ascii "tcp_rst"
  | httpHost => ascii "http_host"
  | httpPath => ascii "http_path"
  | httpMethod => ascii "http_method"
  | lportRange => ascii "lport_range"
  | clientPortRange => ascii "client_port_range"
  | clientHop => ascii "client_hop"
  | simd512 => ascii "simd512"
  | fastClose => ascii "fast_close"
  | clearScreen => ascii "clear_screen"
  | logLevel => ascii "log_level"
  | disableAck => ascii "disable_ack"
  | retransmitTimeout => ascii "retransmit_timeout"
  | neighIgnore => ascii "neigh_ignore"
  | flowIsolate => ascii "flow_isolate"

/-- The order of `g_config_keywords`. -/
def all : List Keyword :=
  [daemon, keepalive, pipeline, mode, cpu, socketMem, port, duration, cps, cc, flood, launchNum,
    client, server, changeDip, listen, payloadRandom, payloadSize, payloadFile, sendWindow,
    packetSize, mss, protocol, txBurst, slowStart, wait, vxlan, vlan, kni, tos, jumbo, rss, quiet,
    tcpRst, httpHost, httpPath, httpMethod, lportRange, clientPortRange, clientHop, simd512,
    fastClose, clearScreen, logLevel, disableAck, retransmitTimeout, neighIgnore, flowIsolate]

/-- The handler, if it has a duplicate check. -/
def once (atof : Atof) (httpParse : Bool) : Keyword → Option Once
  | daemon => some configParseDaemon
  | keepalive => some (configParseKeepalive atof)
  | pipeline => some configParsePipeline
  | mode => some configParseMode
  | cpu => some (configParseCpu atof)
  | socketMem => some configParseSocketMem
  | duration => some (configParseDuration atof)
  | cps => some (configParseCps atof)
  | cc => some (configParseCc atof)
  | flood => some configParseFlood
  | launchNum => some (configParseLaunchNum atof)
  | listen => some (configParseListen atof)
  | payloadRandom => some configParsePayloadRandom
  | payloadSize => some (configParsePayloadSize atof)
  | payloadFile => some configParsePayloadFile
  | sendWindow => some (configParseSendWindow atof)
  | mss => some (configParseMss atof)
  | protocol => some (configParseProtocol httpParse)
  | txBurst => some (configParseTxBurst atof)
  | slowStart => some (configParseSlowStart atof)
  | wait => some (configParseWait atof)
  | vlan => some configParseVlan
  | kni => some configParseKni
  | tos => some configParseTos
  | jumbo => some configParseJumbo
  | quiet => some configParseQuiet
  | tcpRst => some configParseTcpRst
  | httpHost => some configParseHttpHost
  | httpPath => some configParseHttpPath
  | httpMethod => some configParseHttpMethod
  | lportRange => some configParseLportRange
  | clientPortRange => some configParseClientPortRange
  | clientHop => some configParseClientHop
  | simd512 => some configParseSimd512
  | fastClose => some configParseFastClose
  | clearScreen => some configParseClearScreen
  | logLevel => some configParseLogLevel
  | disableAck => some configParseDisableAck
  | retransmitTimeout => some configParseRetransmitTimeout
  | neighIgnore => some configParseNeighIgnore
  | flowIsolate => some configParseFlowIsolate
  | port | client | server | changeDip | packetSize | vxlan | rss => none

end Keyword

section Table

variable {ρ : Type} (atof : Atof) (httpParse : Bool) (other : Keyword → Argv → ρ → Option ρ)

/-- The handler of a keyword; one without a duplicate check works on the other fields. -/
def handler (k : Keyword) (argv : Argv) (data : KeywordConfig × ρ) : Option (KeywordConfig × ρ) :=
  match k.once atof httpParse with
  | some o => (o.run argv data.1).toOption.map fun cfg => (cfg, data.2)
  | none => (other k argv data.2).map fun rest => (data.1, rest)

/-- `g_config_keywords`. -/
def gConfigKeywords : List (ConfigKeyword (KeywordConfig × ρ)) :=
  Keyword.all.map fun k => ⟨k.name, some (handler atof httpParse other k)⟩

end Table

end Dperf.Keywords
