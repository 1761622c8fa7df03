import PocCore.Net.IcmpChecksum

namespace PocCore.Net

/-- `ipv4_header`: the sixty bytes `rep_`, a twenty-byte header and up to forty bytes of options. -/
structure Ipv4Header where
  rep : Fin 60 → BitVec 8

namespace Ipv4Header

def version (h : Ipv4Header) : BitVec 8 := (h.rep 0 >>> 4) &&& 0xF

/-- `header_length()`: the IHL field counted in bytes. -/
def headerLength (h : Ipv4Header) : BitVec 16 := (h.rep 0 &&& 0xF).setWidth 16 * 4

/-- The header whose `rep_` starts with `bs`, the rest as the constructor's zeros. -/
def fill (bs : List (BitVec 8)) : Ipv4Header := ⟨fun i => bs.getD i 0⟩

/-- `operator>>`: twenty bytes, then `header_length() - 20` bytes of options; the stream fails
on a short read, a version other than 4, or options outside `[0, 40]`. -/
def read (bs : List (BitVec 8)) : Option (Ipv4Header × List (BitVec 8)) :=
  if bs.length < 20 then none
  else
    let header := fill (bs.take 20)
    if header.version ≠ 4 then none
    else
      let optionsLength : Int := header.headerLength.toNat - 20
      if optionsLength < 0 ∨ optionsLength > 40 then none
      else if bs.length < 20 + optionsLength.toNat then none
      else some (fill (bs.take (20 + optionsLength.toNat)), bs.drop (20 + optionsLength.toNat))

/-- An IPv4 header on the wire: version 4, and as many bytes as its IHL field counts, at least 20. -/
def wellFormed : List (BitVec 8) → Bool
  | [] => false
  | b :: rest => b.toNat / 16 == 4 && 5 ≤ b.toNat % 16 && rest.length + 1 == 4 * (b.toNat % 16)

theorem toNat_version (h : Ipv4Header) : h.version.toNat = (h.rep 0).toNat / 16 := by
  have := (h.rep 0).isLt
  rw [version, BitVec.toNat_and, BitVec.toNat_ushiftRight, Nat.shiftRight_eq_div_pow,
    show (0xF : BitVec 8).toNat = 2 ^ 4 - 1 from rfl, Nat.and_pow_two_sub_one_eq_mod,
    Nat.mod_eq_of_lt (by omega)]

theorem toNat_headerLength (h : Ipv4Header) :
    h.headerLength.toNat = 4 * ((h.rep 0).toNat % 16) := by
  have := Nat.mod_lt (h.rep 0).toNat (by decide : 0 < 16)
  rw [headerLength, BitVec.toNat_mul, BitVec.toNat_setWidth, BitVec.toNat_and,
    show (0xF : BitVec 8).toNat = 2 ^ 4 - 1 from rfl, Nat.and_pow_two_sub_one_eq_mod]
  simp only [Nat.reducePow, BitVec.ofNat_eq_ofNat, BitVec.toNat_ofNat, Nat.reduceMod]
  omega

/-- The reader accepts exactly a well-formed header in front of the rest of the stream. -/
theorem read_eq_some_iff {bs rest : List (BitVec 8)} {h : Ipv4Header} :
    read bs = some (h, rest) ↔ ∃ hdr, bs = hdr ++ rest ∧ wellFormed hdr = true ∧ h = fill hdr := by
  obtain _ | ⟨b, tl⟩ := bs
  · simp [read, wellFormed]
  have hb := Nat.mod_lt b.toNat (by decide : 0 < 16)
  have hv : (fill ((b :: tl).take 20)).version.toNat = b.toNat / 16 := toNat_version _
  have hl : (fill ((b :: tl).take 20)).headerLength.toNat = 4 * (b.toNat % 16) :=
    toNat_headerLength _
  have hver : (fill ((b :: tl).take 20)).version = 4 ↔ b.toNat / 16 = 4 := by
    rw [BitVec.toNat_eq, hv]; rfl
  constructor
  · intro hr
    unfold read at hr
    simp only [hl, hver, ne_eq] at hr
    split_ifs at hr with h1 h2 h3 h4
    simp only [Option.some.injEq, Prod.mk.injEq] at hr
    obtain ⟨rfl, rfl⟩ := hr
    have hn : 20 + (((4 * (b.toNat % 16) : Nat) : Int) - 20).toNat = (4 * (b.toNat % 16) - 1) + 1 := by
      omega
    refine ⟨_, (List.take_append_drop _ _).symm, ?_, rfl⟩
    rw [hn, List.take_succ_cons]
    simp only [wellFormed, List.length_take, List.length_cons] at h4 ⊢
    simp only [beq_iff_eq, Bool.and_eq_true, decide_eq_true_eq]
    omega
  · rintro ⟨_ | ⟨c, hd⟩, hbs, hw, rfl⟩
    · simp [wellFormed] at hw
    simp only [List.cons_append, List.cons.injEq] at hbs
    obtain ⟨rfl, rfl⟩ := hbs
    simp only [wellFormed, beq_iff_eq, Bool.and_eq_true, decide_eq_true_eq] at hw
    have hn : 20 + (((4 * (b.toNat % 16) : Nat) : Int) - 20).toNat = (hd.length + 1) := by omega
    unfold read
    simp only [hl, hver, ne_eq, List.length_cons, List.length_append]
    rw [if_neg (by omega), if_neg (by omega), if_neg (by omega), if_neg (by omega), hn,
      ← List.cons_append]
    have hlen : (b :: hd).length = hd.length + 1 := rfl
    rw [List.take_left' hlen, List.drop_left' hlen]

end Ipv4Header

namespace IcmpHeader

/-- `icmp_header()`: all eight bytes zero. -/
def init : IcmpHeader := ⟨fun _ => 0⟩

def echoReply : BitVec 8 := 0

def echoRequest : BitVec 8 := 8

end IcmpHeader

/-- `is >> ipv4_hdr >> icmp_hdr` in `handle_receive`, `none` when the stream failed. -/
def parseReply (packet : List (BitVec 8)) : Option (Ipv4Header × IcmpHeader) := do
  let (ipv4Hdr, rest) ← Ipv4Header.read packet
  let (icmpHdr, _) ← IcmpHeader.read rest
  pure (ipv4Hdr, icmpHdr)

theorem parseReply_eq_some_iff {packet : List (BitVec 8)} {ipv4Hdr : Ipv4Header}
    {icmpHdr : IcmpHeader} :
    parseReply packet = some (ipv4Hdr, icmpHdr) ↔ ∃ hdr rest,
      packet = hdr ++ icmpHdr.toBytes ++ rest ∧ Ipv4Header.wellFormed hdr = true ∧
        ipv4Hdr = Ipv4Header.fill hdr := by
  unfold parseReply
  constructor
  · intro h
    cases h1 : Ipv4Header.read packet with
    | none => simp [h1] at h
    | some p =>
      obtain ⟨a, r1⟩ := p
      cases h2 : IcmpHeader.read r1 with
      | none => simp [h1, h2] at h
      | some q =>
        obtain ⟨b, r2⟩ := q
        simp only [h1, h2, Option.bind_eq_bind, Option.some_bind, Option.some.injEq,
          Prod.mk.injEq] at h
        obtain ⟨rfl, rfl⟩ := h
        obtain ⟨hdr, rfl, hwf, rfl⟩ := Ipv4Header.read_eq_some_iff.1 h1
        exact ⟨hdr, r2, by rw [IcmpHeader.read_eq_some_iff.1 h2, List.append_assoc], hwf, rfl⟩
  · rintro ⟨hdr, rest, rfl, hwf, rfl⟩
    rw [List.append_assoc, Ipv4Header.read_eq_some_iff.2 ⟨hdr, rfl, hwf, rfl⟩]
    simp [IcmpHeader.read_eq_some_iff.2 rfl]

/-- Which handler the timer's pending wait will run, if any. -/
inductive TimerWait where
  | idle
  | handleTimeout
  | startSend
  deriving DecidableEq, Repr

/-- The `pinger` state its handlers read and write, `time_sent_` in microseconds, with the timer's
pending wait and whether `io_service_.stop()` has been called. -/
structure Pinger where
  sequenceNumber : BitVec 16
  timeSent : Int
  numReplies : BitVec 64
  pingCount : BitVec 32
  pingIntval : BitVec 64
  timer : TimerWait
  stopped : Bool

namespace Pinger

/-- `should_end()`: `num_replies_ >= ping_count_`, the `int` converted to `std::size_t`. -/
def shouldEnd (s : Pinger) : Bool := s.pingCount.signExtend 64 ≤ s.numReplies

/-- The count of replies at which `should_end()` starts to hold. -/
def limit (s : Pinger) : Nat := (s.pingCount.signExtend 64).toNat

/-- The body of every echo request. -/
def body : List (BitVec 8) :=
  "\"Hello!\" from Asio ping.".toList.map fun c => BitVec.ofNat 8 c.toNat

section Handlers

variable (identifier : BitVec 16)

/-- `start_send()`: the next echo request, the time it goes out, and the five-second wait for
`handle_timeout`; returns the bytes sent. -/
def startSend (s : Pinger) (now : Int) : Pinger × List (BitVec 8) :=
  let sequenceNumber := s.sequenceNumber + 1
  let echoRequest := computeChecksum ((((IcmpHeader.init.setType IcmpHeader.echoRequest).setCode 0
    ).setIdentifier identifier).setSequenceNumber sequenceNumber) body
  ({ s with sequenceNumber, timeSent := now, timer := .handleTimeout }, echoRequest.toBytes ++ body)

/-- The echo request `start_send` sent last, once it has advanced the sequence number to `s`'s. -/
def lastRequest (s : Pinger) : IcmpHeader :=
  computeChecksum ((((IcmpHeader.init.setType IcmpHeader.echoRequest).setCode 0
    ).setIdentifier identifier).setSequenceNumber s.sequenceNumber) body

/-- `handle_timeout(err)`: unless the run should end, the wait for `start_send`; `err` is not read. -/
def handleTimeout (s : Pinger) : Pinger :=
  { s with timer := if s.shouldEnd then .idle else .startSend }

/-- The test of `handle_receive`: an echo reply with this process's identifier and the last
request's sequence number. -/
def isExpectedReply (s : Pinger) (packet : List (BitVec 8)) : Bool :=
  match parseReply packet with
  | some (_, icmpHdr) => icmpHdr.type == IcmpHeader.echoReply &&
      icmpHdr.identifier == identifier && icmpHdr.sequenceNumber == s.sequenceNumber
  | none => false

/-- `handle_receive` counts exactly an echo reply with the identifier and the last sequence number,
behind a well-formed IPv4 header; it reads neither the checksum nor the protocol field. -/
theorem isExpectedReply_iff (s : Pinger) (packet : List (BitVec 8)) :
    s.isExpectedReply identifier packet = true ↔
      ∃ (hdr : List (BitVec 8)) (reply : IcmpHeader) (rest : List (BitVec 8)),
        packet = hdr ++ reply.toBytes ++ rest ∧
        Ipv4Header.wellFormed hdr = true ∧ reply.type = IcmpHeader.echoReply ∧
        reply.identifier = identifier ∧ reply.sequenceNumber = s.sequenceNumber := by
  unfold isExpectedReply
  split
  · next ipv4Hdr icmpHdr hp =>
    simp only [Bool.and_eq_true, beq_iff_eq]
    constructor
    · rintro ⟨⟨ht, hi⟩, hs⟩
      obtain ⟨hdr, rest, hpk, hwf, -⟩ := parseReply_eq_some_iff.1 hp
      exact ⟨hdr, icmpHdr, rest, hpk, hwf, ht, hi, hs⟩
    · rintro ⟨hdr, reply, rest, hpk, hwf, ht, hi, hs⟩
      have := hp.symm.trans (parseReply_eq_some_iff.2 ⟨hdr, rest, hpk, hwf, rfl⟩)
      simp only [Option.some.injEq, Prod.mk.injEq] at this
      obtain ⟨-, rfl⟩ := this
      exact ⟨⟨ht, hi⟩, hs⟩
  · next hp =>
    simp only [Bool.false_eq_true, false_iff, not_exists, not_and]
    intro hdr reply rest hpk hwf _ _ _
    rw [parseReply_eq_some_iff.2 ⟨hdr, rest, hpk, hwf, rfl⟩] at hp
    cases hp

/-- `handle_receive(length)` for `packet` arriving at `now`; `timer_.cancel()` leaves the state alone. -/
def handleReceive (s : Pinger) (packet : List (BitVec 8)) (now : Int) : Pinger :=
  let s := if s.isExpectedReply identifier packet then
      { s with numReplies := s.numReplies + 1,
               pingIntval := s.pingIntval + BitVec.ofInt 64 (now - s.timeSent) }
    else s
  if s.shouldEnd then { s with stopped := true } else s

/-- `pinger(destination, ping_count)`: the counters at zero, then `start_send()`. -/
def init (pingCount : BitVec 32) (now : Int) : Pinger × List (BitVec 8) :=
  startSend identifier ⟨0, 0, 0, pingCount, 0, .idle, false⟩ now

end Handlers

/-- A host's reply to `request` carrying `data`: type `echo_reply`, the checksum recomputed. -/
def echoReplyTo (request : IcmpHeader) (data : List (BitVec 8)) : IcmpHeader :=
  computeChecksum (request.setType IcmpHeader.echoReply) data

/-- `ping_intval()`: `ping_intval_ / ping_count_`, `time_t` by `int`. -/
def pingIntvalResult (s : Pinger) : Except Fault (BitVec 64) :=
  if s.pingCount = 0 then .error .divisionByZero
  else .ok (s.pingIntval.sdiv (s.pingCount.signExtend 64))

/-- The runs `detect()` drives: from the constructor, one pending handler at a time, carrying the
round-trip times counted, oldest first. -/
inductive Reach (identifier : BitVec 16) : Pinger → List (BitVec 64) → Prop
  | init (pingCount : BitVec 32) (now : Int) : Reach identifier (init identifier pingCount now).1 []
  | timeout {s : Pinger} {ts : List (BitVec 64)} : Reach identifier s ts → s.stopped = false →
      s.timer = .handleTimeout → Reach identifier s.handleTimeout ts
  | send {s : Pinger} {ts : List (BitVec 64)} (now : Int) : Reach identifier s ts →
      s.stopped = false → s.timer = .startSend → Reach identifier (s.startSend identifier now).1 ts
  | receive {s : Pinger} {ts : List (BitVec 64)} (packet : List (BitVec 8)) (now : Int) :
      Reach identifier s ts → s.stopped = false →
      Reach identifier (s.handleReceive identifier packet now)
        (if s.isExpectedReply identifier packet then ts ++ [BitVec.ofInt 64 (now - s.timeSent)]
          else ts)

/-- What every run keeps: the counters are the replies counted and their sum, and the run stops
exactly at the limit. -/
structure Inv (s : Pinger) (ts : List (BitVec 64)) : Prop where
  numReplies_eq : s.numReplies.toNat = ts.length
  pingIntval_eq : s.pingIntval = ts.foldl (· + ·) 0
  running : s.stopped = false → ts.length < s.limit ∨ ts.length = 0
  stopped : s.stopped = true → s.limit ≤ ts.length ∧ ts.length ≤ max s.limit 1

theorem shouldEnd_iff (s : Pinger) : s.shouldEnd = true ↔ s.limit ≤ s.numReplies.toNat := by
  simp [shouldEnd, limit, BitVec.le_def]

section Step

variable {identifier : BitVec 16} {s : Pinger} {ts : List (BitVec 64)}

theorem inv_init (pingCount : BitVec 32) (now : Int) : Inv (init identifier pingCount now).1 [] :=
  ⟨rfl, rfl, fun _ => .inr rfl, fun h => by cases h⟩

theorem Inv.handleTimeout (h : Inv s ts) : Inv s.handleTimeout ts :=
  ⟨h.numReplies_eq, h.pingIntval_eq, h.running, h.stopped⟩

theorem Inv.startSend (h : Inv s ts) (now : Int) : Inv (s.startSend identifier now).1 ts :=
  ⟨h.numReplies_eq, h.pingIntval_eq, h.running, h.stopped⟩

theorem Inv.stopTest {t : Pinger} (hn : t.numReplies.toNat = ts.length)
    (hi : t.pingIntval = ts.foldl (· + ·) 0) (ht : t.stopped = false)
    (hk : ts.length ≤ t.limit ∨ ts.length ≤ 1) :
    Inv (if t.shouldEnd then { t with stopped := true } else t) ts := by
  split
  · next he =>
    rw [shouldEnd_iff, hn] at he
    refine ⟨hn, hi, fun h' => (by cases h'), fun _ => ?_⟩
    dsimp only [limit] at he hk ⊢
    omega
  · next he =>
    rw [shouldEnd_iff, hn] at he
    exact ⟨hn, hi, fun _ => .inl (by omega), fun h' => by simp [ht] at h'⟩

theorem Inv.handleReceive (h : Inv s ts) (hs : s.stopped = false) (packet : List (BitVec 8))
    (now : Int) :
    Inv (s.handleReceive identifier packet now)
      (if s.isExpectedReply identifier packet then ts ++ [BitVec.ofInt 64 (now - s.timeSent)]
        else ts) := by
  have hL : s.limit < 2 ^ 64 := BitVec.isLt _
  have hrun := h.running hs
  unfold Pinger.handleReceive
  cases s.isExpectedReply identifier packet
  · simp only [Bool.false_eq_true, ↓reduceIte]
    exact Inv.stopTest h.numReplies_eq h.pingIntval_eq hs (by omega)
  · simp only [↓reduceIte]
    refine Inv.stopTest ?_ ?_ hs ?_
    · rw [BitVec.toNat_add, h.numReplies_eq, show (1 : BitVec 64).toNat = 1 from rfl,
        Nat.mod_eq_of_lt (by omega), List.length_append, List.length_singleton]
    · rw [List.foldl_append, List.foldl_cons, List.foldl_nil, h.pingIntval_eq]
    · rw [List.length_append, List.length_singleton]
      dsimp only [limit] at hrun ⊢
      omega

theorem Reach.inv (hr : Reach identifier s ts) : Inv s ts := by
  induction hr with
  | init pingCount now => exact inv_init pingCount now
  | timeout _ _ _ ih => exact ih.handleTimeout
  | send now _ _ _ ih => exact ih.startSend now
  | receive packet now _ hs ih => exact ih.handleReceive hs packet now

theorem limit_eq_of_pos (hp : 0 < s.pingCount.toInt) : s.limit = s.pingCount.toNat := by
  have hx := s.pingCount.isLt
  rw [BitVec.toInt_eq_toNat_cond] at hp
  rw [limit, BitVec.signExtend, BitVec.toNat_ofInt, BitVec.toInt_eq_toNat_cond]
  split_ifs at hp ⊢ <;> omega

/-- When a run stops with `ping_count_ ≥ 1`, `detect()` returns the mean of `ping_count_`
round-trip times. -/
theorem Reach.detect_mean (hr : Reach identifier s ts) (hs : s.stopped = true)
    (hp : 0 < s.pingCount.toInt) :
    ts.length = s.pingCount.toNat ∧
      s.pingIntvalResult = .ok ((ts.foldl (· + ·) 0).sdiv (s.pingCount.signExtend 64)) := by
  have hinv := hr.inv
  have hl := hinv.stopped hs
  rw [limit_eq_of_pos hp] at hl
  have hz : s.pingCount ≠ 0 := fun h0 => by rw [h0] at hp; exact absurd hp (by decide)
  have h1 : s.pingCount.toNat ≠ 0 := fun h0 => hz (BitVec.eq_of_toNat_eq (by rw [h0]; rfl))
  refine ⟨by omega, ?_⟩
  rw [pingIntvalResult, if_neg hz, hinv.pingIntval_eq]

/-- An echo reply, behind a bare IPv4 header, to the first request of identifier 7. -/
def sampleReply : List (BitVec 8) := (0x45 :: List.replicate 19 0) ++ [0, 0, 0, 0, 0, 7, 0, 1]

theorem Reach.detect_mean_sample :
    Reach 7 ((Pinger.init 7 1 0).1.handleReceive 7 sampleReply 250) [250] ∧
      ((Pinger.init 7 1 0).1.handleReceive 7 sampleReply 250).stopped = true ∧
      0 < ((Pinger.init 7 1 0).1.handleReceive 7 sampleReply 250).pingCount.toInt ∧
      [250].length = ((Pinger.init 7 1 0).1.handleReceive 7 sampleReply 250).pingCount.toNat ∧
      ((Pinger.init 7 1 0).1.handleReceive 7 sampleReply 250).pingIntvalResult =
        .ok (([250] : List (BitVec 64)).foldl (· + ·) 0 |>.sdiv
          (((Pinger.init 7 1 0).1.handleReceive 7 sampleReply 250).pingCount.signExtend 64)) := by
  have hb : (Pinger.init 7 1 0).1.isExpectedReply 7 sampleReply = true := by decide
  have hr := Reach.receive sampleReply 250 (Reach.init 1 0 : Reach 7 (Pinger.init 7 1 0).1 []) rfl
  rw [hb, if_pos rfl] at hr
  have hs : ((Pinger.init 7 1 0).1.handleReceive 7 sampleReply 250).stopped = true := by decide
  exact ⟨hr, hs, by decide, Reach.detect_mean hr hs (by decide)⟩

/-- With `ping_count_` 0 the first datagram ends the run, and `ping_intval()` divides by zero. -/
theorem handleReceive_of_pingCount_zero (hz : s.pingCount = 0) (packet : List (BitVec 8))
    (now : Int) :
    (s.handleReceive identifier packet now).stopped = true ∧
      (s.handleReceive identifier packet now).pingIntvalResult = .error .divisionByZero := by
  have hend : ∀ t : Pinger, t.pingCount = 0 → t.shouldEnd = true := fun t ht => by
    rw [shouldEnd_iff, limit, ht]; exact Nat.zero_le _
  unfold Pinger.handleReceive
  dsimp only
  split_ifs with _ he he <;> first
    | exact (he (hend _ hz)).elim
    | exact ⟨rfl, by rw [pingIntvalResult, if_pos hz]⟩

end Step

section Echo

variable {identifier : BitVec 16} {s : Pinger} {ts : List (BitVec 64)}

theorem handleReceive_frame (s : Pinger) (packet : List (BitVec 8)) (now : Int) :
    ∃ n p st, s.handleReceive identifier packet now =
      { s with numReplies := n, pingIntval := p, stopped := st } := by
  unfold Pinger.handleReceive
  dsimp only
  split_ifs <;> exact ⟨_, _, _, rfl⟩

/-- A host's reply to the last request before `s` is counted exactly where the sequence numbers
agree. -/
theorem isExpectedReply_echoReplyTo_iff (t s : Pinger) {hdr : List (BitVec 8)}
    (hwf : Ipv4Header.wellFormed hdr = true) (data : List (BitVec 8)) :
    t.isExpectedReply identifier
        (hdr ++ (echoReplyTo (lastRequest identifier s) body).toBytes ++ data) = true ↔
      t.sequenceNumber = s.sequenceNumber := by
  rw [isExpectedReply, parseReply_eq_some_iff.2 ⟨hdr, data, rfl, hwf, rfl⟩]
  simp [echoReplyTo, lastRequest]
  exact eq_comm

theorem isExpectedReply_echoReplyTo (s : Pinger) {hdr : List (BitVec 8)}
    (hwf : Ipv4Header.wellFormed hdr = true) (data : List (BitVec 8)) :
    s.isExpectedReply identifier
      (hdr ++ (echoReplyTo (lastRequest identifier s) body).toBytes ++ data) = true :=
  (isExpectedReply_echoReplyTo_iff s s hwf data).2 rfl

theorem isExpectedReply_lastRequest (s : Pinger) {hdr : List (BitVec 8)}
    (hwf : Ipv4Header.wellFormed hdr = true) (data : List (BitVec 8)) :
    s.isExpectedReply identifier (hdr ++ (lastRequest identifier s).toBytes ++ data) = false := by
  rw [isExpectedReply, parseReply_eq_some_iff.2 ⟨hdr, data, rfl, hwf, rfl⟩]
  simp [lastRequest, IcmpHeader.echoReply, IcmpHeader.echoRequest]

/-- The state `start_send` leaves counts the host's reply to its request, and not the request. -/
theorem startSend_reply_counted (s : Pinger) (now : Int) {hdr : List (BitVec 8)}
    (hwf : Ipv4Header.wellFormed hdr = true) :
    (s.startSend identifier now).2 =
        (lastRequest identifier (s.startSend identifier now).1).toBytes ++ body ∧
      (s.startSend identifier now).1.isExpectedReply identifier
        (hdr ++ (echoReplyTo (lastRequest identifier (s.startSend identifier now).1) body).toBytes
          ++ body) = true ∧
      (s.startSend identifier now).1.isExpectedReply identifier
        (hdr ++ (s.startSend identifier now).2) = false :=
  ⟨rfl, isExpectedReply_echoReplyTo _ hwf body, by
    have h := @isExpectedReply_lastRequest identifier (s.startSend identifier now).1 hdr hwf body
    rwa [List.append_assoc] at h⟩

end Echo

end Pinger

end PocCore.Net
