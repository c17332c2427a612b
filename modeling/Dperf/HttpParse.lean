import Dperf.Basic

/-!
`http.h` and `http_parse.c`: the request and response counters, and the response
parser of the client.

* `httpParseRun`: the parser fed with one segment. `data` is the memory from the payload
  pointer on, of which the first `dataLen` bytes belong to the segment: `atol` may read
  beyond the line it is called on, and beyond the segment.
* `HttpOnly`: the parser touches the `http_*` fields of the socket, and of the others only
  clears `keepalive` (`httpParseRun_httpOnly`).
-/

namespace Dperf

/-! ### Counters of `http.h` -/

/-- `net_stats_http_2xx` or `net_stats_http_error`, as `http_parse_response` decides by
the first digit of the status. -/
def httpParseResponse (data : List UInt8) (len : UInt16) (s : NetStats) : NetStats :=
  let s := { s with tcpRsp := s.tcpRsp + 1 }
  if decide (9 < len) && data.getD 9 0 == 0x32 then { s with http2xx := s.http2xx + 1 }
  else { s with httpError := s.httpError + 1 }

/-- `http_parse_request`: `GET` is told by its first letter, `POST` by its second. -/
def httpParseRequest (data : List UInt8) (len : UInt16) (s : NetStats) : NetStats :=
  let s := { s with tcpReq := s.tcpReq + 1 }
  if 18 < len then
    if data.getD 0 0 == 0x47 then { s with httpGet := s.httpGet + 1 }
    else if data.getD 1 0 == 0x4f then { s with httpPost := s.httpPost + 1 }
    else { s with httpError := s.httpError + 1 }
  else { s with httpError := s.httpError + 1 }

lemma httpParseResponse_sockets (data : List UInt8) (len : UInt16) (s : NetStats) :
    (httpParseResponse data len s).sockets = s.sockets := by
  rw [httpParseResponse]
  dsimp only
  split_ifs <;> rfl

lemma httpParseRequest_sockets (data : List UInt8) (len : UInt16) (s : NetStats) :
    (httpParseRequest data len s).sockets = s.sockets := by
  rw [httpParseRequest]
  dsimp only
  split_ifs <;> rfl

/-! ### Header lines -/

/-- `HTTP_F_CONTENT_LENGTH_AUTO`. -/
def httpFContentLengthAuto : UInt8 := 0x1
/-- `HTTP_F_CONTENT_LENGTH`. -/
def httpFContentLength : UInt8 := 0x2
/-- `HTTP_F_TRANSFER_ENCODING`. -/
def httpFTransferEncoding : UInt8 := 0x4
/-- `HTTP_F_CLOSE`. -/
def httpFClose : UInt8 := 0x8

/-- The return values `HTTP_PARSE_OK`, `HTTP_PARSE_END` and `HTTP_PARSE_ERR`. -/
inductive HttpRet where
  | ok | done | err
  deriving DecidableEq, Repr

/-- The place of a parser state in the `enum`. -/
def HttpState.num : HttpState → ℕ
  | init => 0
  | headerBegin => 1
  | headerLineEnd => 2
  | headerDone => 3
  | chunkSize => 4
  | chunkSizeEnd => 5
  | chunkData => 6
  | chunkDataEnd => 7
  | chunkTrailerBegin => 8
  | chunkTrailer => 9
  | chunkEnd => 10
  | bodyDone => 11
  | error => 12

/-- `isspace` in the C locale. -/
def isSpace (c : UInt8) : Bool := c == 0x20 || (decide (0x09 ≤ c) && decide (c ≤ 0x0d))

/-- The value of a run of decimal digits, appended to `acc`. -/
def decimalRun (acc : ℕ) : List UInt8 → ℕ
  | [] => acc
  | c :: s =>
      if 0x30 ≤ c ∧ c ≤ 0x39 then decimalRun (acc * 10 + (c.toNat - 0x30)) s else acc

/-- `atol`: white space, an optional sign, digits; a value outside `long` is clamped. -/
def atol (s : List UInt8) : Int64 :=
  match s.dropWhile isSpace with
  | 0x2d :: t => Int64.ofInt (max (-(decimalRun 0 t : Int)) (-(2 ^ 63)))
  | 0x2b :: t => Int64.ofInt (min (decimalRun 0 t : Int) (2 ^ 63 - 1))
  | t => Int64.ofInt (min (decimalRun 0 t : Int) (2 ^ 63 - 1))

/-- `CONTENT_LENGTH_SIZE`. -/
def contentLengthSize : ℕ := 15
/-- `TRANSFER_ENCODING_SIZE`. -/
def transferEncodingSize : ℕ := 18
/-- `CONNECTION_SIZE`. -/
def connectionSize : ℕ := 11

/-- `http_header_match`: the name has the given length, first and last letter. -/
def httpHeaderMatch (start : List UInt8) (nameLen nameSize : ℕ) (f0 f1 l0 l1 : UInt8) : Bool :=
  let first := start.getD 0 0
  let last := start.getD (nameSize - 2) 0
  nameLen == nameSize && (first == f0 || first == f1) && (last == l0 || last == l1)

/-- `http_parse_header_line`; `none` is the return value `-1`, which leaves the socket
as it is. -/
def httpParseHeaderLine (sk : Socket) (start : List UInt8) (nameLen lineLen : ℕ) : Option Socket :=
  if httpHeaderMatch start nameLen contentLengthSize 0x43 0x63 0x68 0x48 then
    let contentLength := atol (start.drop contentLengthSize)
    if contentLength < 0 then none
    else if hasFlag sk.httpFlags httpFTransferEncoding then none
    else some { sk with httpLength := contentLength
                        httpFlags := sk.httpFlags ||| httpFContentLength }
  else if httpHeaderMatch start nameLen transferEncodingSize 0x54 0x74 0x67 0x47 then
    -- 'k' stands for 'chunked'
    if ((start.take lineLen).drop nameLen).any fun c => c == 0x6b || c == 0x4b then
      if hasFlag sk.httpFlags httpFContentLength then none
      else some { sk with httpFlags := sk.httpFlags ||| httpFTransferEncoding }
    else some sk
  else if httpHeaderMatch start nameLen connectionSize 0x43 0x63 0x6e 0x4e then
    if lineLen < nameLen + 10 + 1 then
      some { sk with httpFlags := sk.httpFlags ||| httpFClose, keepalive := false }
    else some sk
  else some sk

/-- The loop of `http_parse_headers`: `left` bytes of the segment are ahead, `p` is the
memory from there on, `start` the memory from the current line on. The result is the
number of bytes left over, or `none` for an error. -/
def httpParseHeadersLoop : ℕ → List UInt8 → List UInt8 → ℕ → ℕ → Socket → Option ℕ × Socket
  | 0, _, _, _, _, sk => (some 0, sk)
  | left + 1, [], _, _, _, sk => (some (left + 1), sk)
  | left + 1, c :: p, start, lineLen, nameLen, sk =>
      let lineLen := lineLen + 1
      if c == 0x3a && nameLen == 0 then
        httpParseHeadersLoop left p start lineLen lineLen sk
      else if c == 0x0d then httpParseHeadersLoop left p start lineLen nameLen sk
      else if c == 0x0a then
        if sk.httpParseState = .headerBegin then
          match httpParseHeaderLine sk start nameLen lineLen with
          | none => (none, sk)
          | some sk => httpParseHeadersLoop left p p 0 0 { sk with httpParseState := .headerLineEnd }
        else
          let sk := { sk with httpParseState := .headerDone }
          (some left,
            if sk.httpFlags = 0 then
              { sk with httpFlags := httpFContentLengthAuto ||| httpFClose, httpLength := -1,
                        keepalive := false }
            else sk)
      else if sk.httpParseState ≠ .headerBegin then
        httpParseHeadersLoop left p start lineLen nameLen { sk with httpParseState := .headerBegin }
      else httpParseHeadersLoop left p start lineLen nameLen sk

/-- `http_parse_headers`. -/
def httpParseHeaders (sk : Socket) (data : List UInt8) (dataLen : ℕ) : Option ℕ × Socket :=
  httpParseHeadersLoop dataLen data data 0 0 sk

/-! ### Chunked bodies -/

/-- The digits of a chunk size; the flag tells whether a byte that is no digit ended them. -/
def chunkSizeLoop (len : Int64) : List UInt8 → Bool × Int64 × List UInt8
  | [] => (false, len, [])
  | c :: p =>
      if 0x30 ≤ c ∧ c ≤ 0x39 then
        chunkSizeLoop ((len <<< 4) + Int64.ofNat c.toNat - 0x30) p
      else if 0x61 ≤ c ∧ c ≤ 0x66 then
        chunkSizeLoop ((len <<< 4) + Int64.ofNat c.toNat - 0x61 + 10) p
      else (true, len, p)

/-- The bytes after the next line feed. -/
def skipLine : List UInt8 → Option (List UInt8)
  | [] => none
  | c :: p => if c == 0x0a then some p else skipLine p

/-- The label `chunk_end`. -/
def chunkEnd (sk : Socket) : List UInt8 → HttpRet × Socket
  | [] => (.ok, sk)
  | c :: _ => if c == 0x0a then (.done, { sk with httpParseState := .bodyDone }) else (.err, sk)

/-- The label `trailer_begin` and the case `HTTP_CHUNK_TRAILER`, told apart by
`atBegin`. -/
def chunkTrailer (sk : Socket) : Bool → List UInt8 → HttpRet × Socket
  | true, [] => (.ok, { sk with httpParseState := .chunkTrailerBegin })
  | false, [] => (.ok, { sk with httpParseState := .chunkTrailer })
  | true, c :: p =>
      if c == 0x0d then chunkEnd { sk with httpParseState := .chunkEnd } p
      else chunkTrailer sk false p
  | false, c :: p => if c == 0x0a then chunkTrailer sk true p else chunkTrailer sk false p

section Chunk

variable (retry : Socket → List UInt8 → HttpRet × Socket)

/-- The case `HTTP_CHUNK_DATA_END`; `retry` is the label of that name. -/
def chunkDataEnd (sk : Socket) : List UInt8 → HttpRet × Socket
  | [] => (.ok, sk)
  | c :: p => if c == 0x0a then retry { sk with httpParseState := .chunkSize } p else (.err, sk)

/-- The case `HTTP_CHUNK_DATA`. -/
def chunkData (sk : Socket) (p : List UInt8) : HttpRet × Socket :=
  if p = [] then (.ok, sk)
  else if (p.length : ℤ) ≤ sk.httpLength.toInt then
    (.ok, { sk with httpLength := sk.httpLength - Int64.ofNat p.length })
  else
    match p.drop sk.httpLength.toNatClampNeg with
    | [] => (.ok, { sk with httpLength := 0 })
    | c :: p =>
        if c == 0x0d then
          chunkDataEnd retry { sk with httpLength := 0, httpParseState := .chunkDataEnd } p
        else (.err, { sk with httpLength := 0 })

/-- The case `HTTP_CHUNK_SIZE_END`: chunk extensions are skipped. -/
def chunkSizeEnd (sk : Socket) (p : List UInt8) : HttpRet × Socket :=
  match skipLine p with
  | none => (.ok, sk)
  | some p =>
      if 0 < sk.httpLength then chunkData retry { sk with httpParseState := .chunkData } p
      else chunkTrailer { sk with httpParseState := .chunkTrailerBegin } true p

/-- The case `HTTP_CHUNK_SIZE`. -/
def chunkSize (sk : Socket) (p : List UInt8) : HttpRet × Socket :=
  let r := chunkSizeLoop sk.httpLength p
  let sk := { sk with httpLength := r.2.1
                      httpParseState := if r.1 then .chunkSizeEnd else .chunkSize }
  chunkSizeEnd retry sk r.2.2

end Chunk

/-- `http_parse_chunk` with a bound on the jumps to `retry`. -/
def httpParseChunkRun : ℕ → Socket → List UInt8 → HttpRet × Socket
  | 0, sk, _ => (.err, sk)
  | fuel + 1, sk, p =>
      match sk.httpParseState with
      | .headerDone | .chunkSize => chunkSize (httpParseChunkRun fuel) sk p
      | .chunkSizeEnd => chunkSizeEnd (httpParseChunkRun fuel) sk p
      | .chunkData => chunkData (httpParseChunkRun fuel) sk p
      | .chunkDataEnd => chunkDataEnd (httpParseChunkRun fuel) sk p
      | .chunkTrailerBegin => chunkTrailer sk true p
      | .chunkTrailer => chunkTrailer sk false p
      | .chunkEnd => chunkEnd sk p
      | _ => (.err, sk)

/-- `http_parse_chunk`: every jump to `retry` has consumed a byte. -/
def httpParseChunk (sk : Socket) (data : List UInt8) : HttpRet × Socket :=
  httpParseChunkRun (data.length + 1) sk data

/-! ### The parser -/

/-- `http_parse_body`, on the `data` left over by the headers. -/
def httpParseBody (sk : Socket) (data : List UInt8) : HttpRet × Socket :=
  if hasFlag sk.httpFlags httpFContentLength then
    if data.length < sk.httpLength.toInt then
      (.ok, { sk with httpLength := sk.httpLength - Int64.ofNat data.length })
    else if data.length = sk.httpLength.toInt then
      (.done, { sk with httpLength := 0, httpParseState := .bodyDone })
    else (.err, sk)
  else if hasFlag sk.httpFlags httpFTransferEncoding then httpParseChunk sk data
  else (.ok, sk)

/-- `http_parse_run`: the return value, the socket and the counters. -/
def httpParseRun (data : List UInt8) (dataLen : UInt16) (v : View) : HttpRet × View :=
  let v := if v.sk.httpParseState = .init then
      { v.count (httpParseResponse data dataLen) with sk.httpParseState := .headerBegin }
    else v
  let body := data.take dataLen.toNat
  if v.sk.httpParseState.num < HttpState.headerDone.num then
    let h := httpParseHeaders v.sk data dataLen.toNat
    match h.1 with
    | none => (.err, { v with sk := h.2 })
    | some left =>
        let r := httpParseBody h.2 (body.drop (dataLen.toNat - left))
        (r.1, { v with sk := r.2 })
  else
    let r := httpParseBody v.sk body
    (r.1, { v with sk := r.2 })

/-! ### What the parser touches -/

/-- The second socket differs from the first in the parser's fields only, `keepalive` at
most cleared. -/
def HttpOnly (sk sk' : Socket) : Prop :=
  ∃ len st fl ka, (ka = true → sk.keepalive = true) ∧
    sk' = { sk with httpLength := len, httpParseState := st, httpFlags := fl, keepalive := ka }

lemma HttpOnly.refl (sk : Socket) : HttpOnly sk sk :=
  ⟨sk.httpLength, sk.httpParseState, sk.httpFlags, sk.keepalive, id, rfl⟩

lemma HttpOnly.trans {a b c : Socket} (h₁ : HttpOnly a b) (h₂ : HttpOnly b c) : HttpOnly a c := by
  obtain ⟨l₁, s₁, f₁, k₁, hk₁, rfl⟩ := h₁
  obtain ⟨l₂, s₂, f₂, k₂, hk₂, rfl⟩ := h₂
  exact ⟨l₂, s₂, f₂, k₂, fun h => hk₁ (hk₂ h), rfl⟩

/-- Setting the length, the state and the flags touches the parser's fields only. -/
lemma HttpOnly.set (sk : Socket) (l : Int64) (s : HttpState) (f : UInt8) :
    HttpOnly sk { sk with httpLength := l, httpParseState := s, httpFlags := f } :=
  ⟨l, s, f, sk.keepalive, id, rfl⟩

lemma httpParseHeaderLine_httpOnly {sk sk' : Socket} {start : List UInt8} {n l : ℕ}
    (h : httpParseHeaderLine sk start n l = some sk') : HttpOnly sk sk' := by
  unfold httpParseHeaderLine at h
  dsimp only at h
  split_ifs at h <;> simp only [Option.some.injEq] at h <;> subst h
  · exact HttpOnly.set sk _ _ _
  · exact HttpOnly.set sk _ _ _
  · exact HttpOnly.refl sk
  · exact ⟨sk.httpLength, sk.httpParseState, sk.httpFlags ||| httpFClose, false, by simp, rfl⟩
  · exact HttpOnly.refl sk
  · exact HttpOnly.refl sk

lemma httpParseHeadersLoop_httpOnly : ∀ (left : ℕ) (p start : List UInt8) (l n : ℕ) (sk : Socket),
    HttpOnly sk (httpParseHeadersLoop left p start l n sk).2 := by
  intro left
  induction left with
  | zero => intro p start l n sk; exact HttpOnly.refl sk
  | succ left ih =>
      intro p start l n sk
      cases p with
      | nil => exact HttpOnly.refl sk
      | cons c p =>
          rw [httpParseHeadersLoop]
          dsimp only
          split_ifs with h1 h2 h3 h4 h5
          · exact ih _ _ _ _ _
          · exact ih _ _ _ _ _
          · -- a line feed ends a header line
            cases hl : httpParseHeaderLine sk start n (l + 1) with
            | none => exact HttpOnly.refl sk
            | some sk' =>
                have hs := (httpParseHeaderLine_httpOnly hl).trans
                  (HttpOnly.set sk' sk'.httpLength .headerLineEnd sk'.httpFlags)
                exact hs.trans (ih _ _ _ _ _)
          · exact ⟨-1, .headerDone, httpFContentLengthAuto ||| httpFClose, false, by simp, rfl⟩
          · exact HttpOnly.set sk sk.httpLength .headerDone sk.httpFlags
          · exact (HttpOnly.set sk sk.httpLength .headerBegin sk.httpFlags).trans (ih _ _ _ _ _)
          · exact ih _ _ _ _ _

lemma chunkEnd_httpOnly (sk : Socket) (p : List UInt8) : HttpOnly sk (chunkEnd sk p).2 := by
  cases p with
  | nil => exact HttpOnly.refl sk
  | cons c p =>
      rw [chunkEnd]
      split_ifs
      · exact HttpOnly.set sk sk.httpLength .bodyDone sk.httpFlags
      · exact HttpOnly.refl sk

lemma chunkTrailer_httpOnly (sk : Socket) : ∀ (p : List UInt8) (b : Bool),
    HttpOnly sk (chunkTrailer sk b p).2 := by
  intro p
  induction p with
  | nil =>
      intro b
      cases b <;> exact HttpOnly.set sk sk.httpLength _ sk.httpFlags
  | cons c p ih =>
      intro b
      cases b <;> rw [chunkTrailer] <;> split_ifs
      · exact ih true
      · exact ih false
      · exact (HttpOnly.set sk sk.httpLength .chunkEnd sk.httpFlags).trans (chunkEnd_httpOnly _ p)
      · exact ih false

section Chunk

variable {retry : Socket → List UInt8 → HttpRet × Socket}
  (hretry : ∀ sk p, HttpOnly sk (retry sk p).2)

include hretry

lemma chunkDataEnd_httpOnly (sk : Socket) (p : List UInt8) :
    HttpOnly sk (chunkDataEnd retry sk p).2 := by
  cases p with
  | nil => exact HttpOnly.refl sk
  | cons c p =>
      rw [chunkDataEnd]
      split_ifs
      · exact (HttpOnly.set sk sk.httpLength .chunkSize sk.httpFlags).trans (hretry _ p)
      · exact HttpOnly.refl sk

lemma chunkData_httpOnly (sk : Socket) (p : List UInt8) : HttpOnly sk (chunkData retry sk p).2 := by
  rw [chunkData]
  split_ifs
  · exact HttpOnly.refl sk
  · exact HttpOnly.set sk _ sk.httpParseState sk.httpFlags
  · cases p.drop sk.httpLength.toNatClampNeg with
    | nil => exact HttpOnly.set sk 0 sk.httpParseState sk.httpFlags
    | cons c p' =>
        dsimp only
        split_ifs
        · exact (HttpOnly.set sk 0 .chunkDataEnd sk.httpFlags).trans
            (chunkDataEnd_httpOnly hretry _ p')
        · exact HttpOnly.set sk 0 sk.httpParseState sk.httpFlags

lemma chunkSizeEnd_httpOnly (sk : Socket) (p : List UInt8) :
    HttpOnly sk (chunkSizeEnd retry sk p).2 := by
  rw [chunkSizeEnd]
  cases skipLine p with
  | none => exact HttpOnly.refl sk
  | some p' =>
      dsimp only
      split_ifs
      · exact (HttpOnly.set sk sk.httpLength .chunkData sk.httpFlags).trans
          (chunkData_httpOnly hretry _ p')
      · exact (HttpOnly.set sk sk.httpLength .chunkTrailerBegin sk.httpFlags).trans
          (chunkTrailer_httpOnly _ p' true)

lemma chunkSize_httpOnly (sk : Socket) (p : List UInt8) : HttpOnly sk (chunkSize retry sk p).2 :=
  (HttpOnly.set sk _ _ sk.httpFlags).trans (chunkSizeEnd_httpOnly hretry _ _)

end Chunk

lemma httpParseChunkRun_httpOnly : ∀ (fuel : ℕ) (sk : Socket) (p : List UInt8),
    HttpOnly sk (httpParseChunkRun fuel sk p).2 := by
  intro fuel
  induction fuel with
  | zero => intro sk p; exact HttpOnly.refl sk
  | succ fuel ih =>
      intro sk p
      rw [httpParseChunkRun]
      split
      · exact chunkSize_httpOnly ih sk p
      · exact chunkSize_httpOnly ih sk p
      · exact chunkSizeEnd_httpOnly ih sk p
      · exact chunkData_httpOnly ih sk p
      · exact chunkDataEnd_httpOnly ih sk p
      · exact chunkTrailer_httpOnly sk p true
      · exact chunkTrailer_httpOnly sk p false
      · exact chunkEnd_httpOnly sk p
      · exact HttpOnly.refl sk

lemma httpParseBody_httpOnly (sk : Socket) (data : List UInt8) :
    HttpOnly sk (httpParseBody sk data).2 := by
  unfold httpParseBody
  split_ifs
  · exact HttpOnly.set sk _ sk.httpParseState sk.httpFlags
  · exact HttpOnly.set sk 0 .bodyDone sk.httpFlags
  · exact HttpOnly.refl sk
  · exact httpParseChunkRun_httpOnly _ sk data
  · exact HttpOnly.refl sk

/-- The parser leaves the connection alone: it touches the parser's fields and at most
clears `keepalive`, and nothing else of the view but the counters. -/
lemma httpParseRun_httpOnly (data : List UInt8) (dataLen : UInt16) (v : View) :
    HttpOnly v.sk (httpParseRun data dataLen v).2.sk := by
  have hinit : HttpOnly v.sk (if v.sk.httpParseState = .init then
      { v.count (httpParseResponse data dataLen) with sk.httpParseState := .headerBegin }
      else v : View).sk := by
    split_ifs
    · exact HttpOnly.set v.sk v.sk.httpLength .headerBegin v.sk.httpFlags
    · exact HttpOnly.refl v.sk
  unfold httpParseRun
  dsimp only
  generalize (if v.sk.httpParseState = .init then _ else v : View) = w at hinit ⊢
  refine hinit.trans ?_
  split_ifs with h
  · have hh : HttpOnly w.sk (httpParseHeaders w.sk data dataLen.toNat).2 :=
      httpParseHeadersLoop_httpOnly _ _ _ _ _ _
    cases (httpParseHeaders w.sk data dataLen.toNat).1 with
    | none => exact hh
    | some left => exact hh.trans (httpParseBody_httpOnly _ _)
  · exact httpParseBody_httpOnly _ _

/-- The parser neither moves the node nor adds to the trace. -/
lemma httpParseRun_rest (data : List UInt8) (dataLen : UInt16) (v : View) :
    (httpParseRun data dataLen v).2.link = v.link ∧
      (httpParseRun data dataLen v).2.trace = v.trace ∧
      (httpParseRun data dataLen v).2.allocs = v.allocs := by
  unfold httpParseRun
  dsimp only
  split_ifs with h₁ h₂ h₂ <;> first
    | exact ⟨rfl, rfl, rfl⟩
    | split <;> exact ⟨rfl, rfl, rfl⟩

/-- The parser counts responses only. -/
lemma httpParseRun_sockets (data : List UInt8) (dataLen : UInt16) (v : View) :
    (httpParseRun data dataLen v).2.stats.sockets = v.stats.sockets := by
  have hinit : (if v.sk.httpParseState = .init then
      { v.count (httpParseResponse data dataLen) with sk.httpParseState := .headerBegin }
      else v : View).stats.sockets = v.stats.sockets := by
    split_ifs
    · exact httpParseResponse_sockets data dataLen v.stats
    · rfl
  unfold httpParseRun
  dsimp only
  generalize (if v.sk.httpParseState = .init then _ else v : View) = w at hinit ⊢
  rw [← hinit]
  split_ifs
  · cases (httpParseHeaders w.sk data dataLen.toNat).1 <;> rfl
  · rfl

end Dperf
