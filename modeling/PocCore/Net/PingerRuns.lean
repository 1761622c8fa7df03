import PocCore.Net.Pinger

namespace PocCore.Net

namespace Pinger

variable {identifier : BitVec 16} {s t u : Pinger} {ts : List (BitVec 64)} {k m : Nat}

section Fields

@[simp] theorem sequenceNumber_startSend (s : Pinger) (now : Int) :
    (s.startSend identifier now).1.sequenceNumber = s.sequenceNumber + 1 := rfl

@[simp] theorem sequenceNumber_handleReceive (s : Pinger) (packet : List (BitVec 8)) (now : Int) :
    (s.handleReceive identifier packet now).sequenceNumber = s.sequenceNumber := by
  obtain ⟨_, _, _, h⟩ := @handleReceive_frame identifier s packet now
  rw [h]

end Fields

section Count

theorem limit_eq_toInt (s : Pinger) :
    (s.limit : Int) =
      if s.pingCount.toInt < 0 then s.pingCount.toInt + 2^64 else s.pingCount.toInt := by
  have hx := s.pingCount.isLt
  rw [limit, BitVec.signExtend, BitVec.toNat_ofInt, BitVec.toInt_eq_toNat_cond]
  split_ifs <;> omega

theorem one_le_limit (hp : s.pingCount ≠ 0) : 1 ≤ s.limit := by
  have h0 : s.pingCount.toNat ≠ 0 := fun h0 => hp (BitVec.eq_of_toNat_eq (by rw [h0]; rfl))
  have hx := s.pingCount.isLt
  have h := limit_eq_toInt s
  rw [BitVec.toInt_eq_toNat_cond] at h
  split_ifs at h <;> omega

/-- A run stops after exactly `ping_count_` replies read as a `std::size_t`. -/
theorem Reach.stop_count (hr : Reach identifier s ts) (hs : s.stopped = true)
    (hp : s.pingCount ≠ 0) :
    (ts.length : Int) =
      if s.pingCount.toInt < 0 then s.pingCount.toInt + 2^64 else s.pingCount.toInt := by
  have hl := hr.inv.stopped hs
  have h1 := one_le_limit hp
  rw [← limit_eq_toInt, show ts.length = s.limit by omega]

theorem Reach.stop_count_sample :
    Reach 7 ((Pinger.init 7 1 0).1.handleReceive 7 sampleReply 250) [250] ∧
      ((Pinger.init 7 1 0).1.handleReceive 7 sampleReply 250).stopped = true ∧
      ((Pinger.init 7 1 0).1.handleReceive 7 sampleReply 250).pingCount ≠ 0 ∧
      (([250] : List (BitVec 64)).length : Int) =
        if ((Pinger.init 7 1 0).1.handleReceive 7 sampleReply 250).pingCount.toInt < 0 then
          ((Pinger.init 7 1 0).1.handleReceive 7 sampleReply 250).pingCount.toInt + 2^64
        else ((Pinger.init 7 1 0).1.handleReceive 7 sampleReply 250).pingCount.toInt := by
  have hb : (Pinger.init 7 1 0).1.isExpectedReply 7 sampleReply = true := by decide
  have hr := Reach.receive sampleReply 250 (Reach.init 1 0 : Reach 7 (Pinger.init 7 1 0).1 []) rfl
  rw [hb, if_pos rfl] at hr
  have hs : ((Pinger.init 7 1 0).1.handleReceive 7 sampleReply 250).stopped = true := by decide
  exact ⟨hr, hs, by decide, Reach.stop_count hr hs (by decide)⟩

end Count

section Later

/-- The handlers a run runs after reaching `s`, in any order and with any datagrams, and the
number of requests they send. -/
inductive Later (identifier : BitVec 16) (s : Pinger) : Pinger → Nat → Prop
  | refl : Later identifier s s 0
  | timeout {t : Pinger} {k : Nat} : Later identifier s t k → t.stopped = false →
      t.timer = .handleTimeout → Later identifier s t.handleTimeout k
  | send {t : Pinger} {k : Nat} (now : Int) : Later identifier s t k → t.stopped = false →
      t.timer = .startSend → Later identifier s (t.startSend identifier now).1 (k + 1)
  | receive {t : Pinger} {k : Nat} (packet : List (BitVec 8)) (now : Int) :
      Later identifier s t k → t.stopped = false →
      Later identifier s (t.handleReceive identifier packet now) k

theorem Later.trans (h1 : Later identifier s t k) (h2 : Later identifier t u m) :
    Later identifier s u (k + m) := by
  induction h2 with
  | refl => exact h1
  | timeout _ hs ht ih => exact ih.timeout hs ht
  | send now _ hs ht ih => exact ih.send now hs ht
  | receive packet now _ hs ih => exact ih.receive packet now hs

theorem Later.toNat_sequenceNumber (hl : Later identifier s t k) :
    t.sequenceNumber.toNat = (s.sequenceNumber.toNat + k) % 2^16 := by
  induction hl with
  | refl => exact (Nat.mod_eq_of_lt s.sequenceNumber.isLt).symm
  | timeout _ _ _ ih => exact ih
  | send now _ _ _ ih =>
    have h1 : (1 : BitVec 16).toNat = 1 := rfl
    rw [sequenceNumber_startSend, BitVec.toNat_add, ih, h1]
    omega
  | receive packet now _ _ ih => rwa [sequenceNumber_handleReceive]

/-- A reply to the last request before `s` is counted after `k` more requests exactly when
`k` is a multiple of `65536`. -/
theorem Later.late_reply_counted (hl : Later identifier s t k) {hdr : List (BitVec 8)}
    (hwf : Ipv4Header.wellFormed hdr = true) (data : List (BitVec 8)) :
    t.isExpectedReply identifier
        (hdr ++ (echoReplyTo (lastRequest identifier s) body).toBytes ++ data) = true ↔
      k % 65536 = 0 := by
  have hs := s.sequenceNumber.isLt
  rw [isExpectedReply_echoReplyTo_iff t s hwf, BitVec.toNat_eq, hl.toNat_sequenceNumber]
  omega

theorem Later.late_reply_counted_second :
    Later 7 (Pinger.init 7 1 0).1 ((Pinger.init 7 1 0).1.handleTimeout.startSend 7 1000).1 1 ∧
      Ipv4Header.wellFormed (0x45 :: List.replicate 19 0) = true ∧
      (((Pinger.init 7 1 0).1.handleTimeout.startSend 7 1000).1.isExpectedReply 7
        ((0x45 :: List.replicate 19 0) ++
          (echoReplyTo (lastRequest 7 (Pinger.init 7 1 0).1) body).toBytes ++ body) = true ↔
        1 % 65536 = 0) :=
  have hl : Later 7 (Pinger.init 7 1 0).1 ((Pinger.init 7 1 0).1.handleTimeout.startSend 7 1000).1
      1 := (Later.refl.timeout rfl rfl).send 1000 rfl rfl
  have hwf : Ipv4Header.wellFormed (0x45 :: List.replicate 19 0) = true := by decide
  ⟨hl, hwf, Later.late_reply_counted hl hwf body⟩

end Later

section Progress

end Progress

end Pinger

end PocCore.Net
