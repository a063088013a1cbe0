/-
`calculate_packet_loss` and the CSV of `save_loss_analysis`. The loop over the lines of a log runs
an `if`/`elif` chain, so a line adds to at most one total: the one of the first branch whose
keyword test it passes, by the first match of that branch's pattern (`lossTotals_eq_sum`, from the
step lemma `lossStep_eq`). Then the switch-loss fix replaces a zero drop count by `sent - received`
and the three rates are computed over exact rationals.
-/
import SueSimProofs.Loss.Scan
import Mathlib.Algebra.Order.Field.Rat
import Mathlib.Tactic.Linarith
import Mathlib.Tactic.Ring

namespace SueSim.Loss

/-- The running totals of the loop of `calculate_packet_loss`. -/
structure LossTotals where
  sent : ℕ
  received : ℕ
  dropped : ℕ
  deriving DecidableEq, Repr

/-- One iteration of the loop of `calculate_packet_loss` on a line. -/
def lossStep (t : LossTotals) (line : String) : LossTotals :=
  let cs := line.toList
  if occursIn "Summary: Sent".toList cs then
    match searchCounter "Sent".toList cs with
    | some n => { t with sent := t.sent + n }
    | none => t
  else if occursIn "Received".toList cs && occursIn "Port".toList cs then
    match searchCounter "Received".toList cs with
    | some n => { t with received := t.received + n }
    | none => t
  else if occursIn "Dropped".toList cs && occursIn "Port".toList cs then
    match searchCounter "Dropped".toList cs with
    | some n => { t with dropped := t.dropped + n }
    | none => t
  else t

/-- The totals the loop accumulates over the lines of a log, before the switch-loss fix. -/
def lossTotals (log : List String) : LossTotals := log.foldl lossStep ⟨0, 0, 0⟩

/-! ## What one line adds -/

/-- What a line adds to `total_sent`: the first `Sent N packets` of a line containing
`Summary: Sent`. -/
def lineSent (cs : List Char) : ℕ :=
  if occursIn "Summary: Sent".toList cs then (allCounters "Sent".toList cs).headD 0 else 0

/-- What a line adds to `total_received`: the first `Received N packets` of a line containing
`Received` and `Port` but not `Summary: Sent`. -/
def lineReceived (cs : List Char) : ℕ :=
  if occursIn "Summary: Sent".toList cs = false ∧ occursIn "Received".toList cs ∧
    occursIn "Port".toList cs then (allCounters "Received".toList cs).headD 0 else 0

/-- What a line adds to `total_dropped`: the first `Dropped N packets` of a line containing
`Dropped` and `Port` but neither `Summary: Sent` nor both `Received` and `Port`. -/
def lineDropped (cs : List Char) : ℕ :=
  if occursIn "Summary: Sent".toList cs = false ∧
    (occursIn "Received".toList cs && occursIn "Port".toList cs) = false ∧
    occursIn "Dropped".toList cs ∧ occursIn "Port".toList cs then
    (allCounters "Dropped".toList cs).headD 0 else 0

theorem getD_searchCounter (word cs : List Char) :
    (searchCounter word cs).getD 0 = (allCounters word cs).headD 0 := by
  rw [searchCounter_eq_head?]; cases allCounters word cs <;> rfl

/-- The step lemma: a line adds its own contribution, whatever the totals so far. -/
theorem lossStep_eq (t : LossTotals) (line : String) :
    lossStep t line = ⟨t.sent + lineSent line.toList, t.received + lineReceived line.toList,
      t.dropped + lineDropped line.toList⟩ := by
  simp only [lossStep, lineSent, lineReceived, lineDropped, ← getD_searchCounter]
  split_ifs <;> (try split) <;> simp_all

/-- The run lemma: the totals are the sums of the lines' contributions. -/
theorem lossTotals_eq_sum (log : List String) :
    lossTotals log = ⟨(log.map fun l => lineSent l.toList).sum,
      (log.map fun l => lineReceived l.toList).sum, (log.map fun l => lineDropped l.toList).sum⟩ := by
  suffices ∀ t : LossTotals, log.foldl lossStep t = ⟨t.sent + (log.map fun l => lineSent l.toList).sum,
      t.received + (log.map fun l => lineReceived l.toList).sum,
      t.dropped + (log.map fun l => lineDropped l.toList).sum⟩ by simpa using this ⟨0, 0, 0⟩
  induction log with
  | nil => intro t; simp
  | cons l log ih => intro t; simp only [List.foldl_cons, ih, lossStep_eq, List.map_cons,
      List.sum_cons, Nat.add_assoc]

/-! ## Every counter of every line -/

/-- The totals as a reading of the log that counts every counter: every `Sent N packets` of each
line containing `Summary: Sent`, and every `Received N packets` and `Dropped N packets` of each
line containing `Port`. -/
def claimedTotals (log : List String) : LossTotals :=
  ⟨(log.map fun l => if occursIn "Summary: Sent".toList l.toList then
      (allCounters "Sent".toList l.toList).sum else 0).sum,
    (log.map fun l => if occursIn "Port".toList l.toList then
      (allCounters "Received".toList l.toList).sum else 0).sum,
    (log.map fun l => if occursIn "Port".toList l.toList then
      (allCounters "Dropped".toList l.toList).sum else 0).sum⟩

/-- The number of places where one of the words `Sent`, `Received`, `Dropped` starts in a line. -/
def keywordCount (cs : List Char) : ℕ :=
  occurrences "Sent".toList cs + occurrences "Received".toList cs + occurrences "Dropped".toList cs

/-- On a line where at most one counter word starts, the line adds what the every-counter
reading adds. -/
theorem line_eq_claimed {cs : List Char} (h : keywordCount cs ≤ 1) :
    lineSent cs = (if occursIn "Summary: Sent".toList cs then (allCounters "Sent".toList cs).sum else 0) ∧
    lineReceived cs = (if occursIn "Port".toList cs then (allCounters "Received".toList cs).sum else 0) ∧
    lineDropped cs = (if occursIn "Port".toList cs then (allCounters "Dropped".toList cs).sum else 0) := by
  unfold keywordCount at h
  rw [sum_allCounters_of_occurrences_le_one (by omega), sum_allCounters_of_occurrences_le_one (by omega),
    sum_allCounters_of_occurrences_le_one (by omega)]
  have hsub : occursIn "Summary: Sent".toList cs = true → occursIn "Sent".toList cs = true :=
    occursIn_of_infix (by decide)
  have hS := occurrences_pos_iff "Sent".toList cs
  have hR := occurrences_pos_iff "Received".toList cs
  have hD := occurrences_pos_iff "Dropped".toList cs
  -- at most one of the three words occurs
  have hSR : occursIn "Sent".toList cs = true → occursIn "Received".toList cs = false :=
    fun hs => Bool.eq_false_iff.2 fun hr => by have := hS.2 hs; have := hR.2 hr; omega
  have hSD : occursIn "Sent".toList cs = true → occursIn "Dropped".toList cs = false :=
    fun hs => Bool.eq_false_iff.2 fun hd => by have := hS.2 hs; have := hD.2 hd; omega
  have hRD : occursIn "Received".toList cs = true → occursIn "Dropped".toList cs = false :=
    fun hr => Bool.eq_false_iff.2 fun hd => by have := hR.2 hr; have := hD.2 hd; omega
  unfold lineSent lineReceived lineDropped
  refine ⟨rfl, ?_, ?_⟩
  · by_cases hpo : occursIn "Port".toList cs = true
    · rw [if_pos hpo]
      by_cases hre : occursIn "Received".toList cs = true
      · by_cases hsm : occursIn "Summary: Sent".toList cs = true
        · exact absurd hre (by rw [hSR (hsub hsm)]; decide)
        · rw [if_pos ⟨Bool.eq_false_iff.2 hsm, hre, hpo⟩]
      · rw [allCounters_eq_nil_of_not_occursIn (Bool.eq_false_iff.2 hre)]; split_ifs <;> rfl
    · rw [if_neg hpo, if_neg fun h => hpo h.2.2]
  · by_cases hpo : occursIn "Port".toList cs = true
    · rw [if_pos hpo]
      by_cases hdr : occursIn "Dropped".toList cs = true
      · have hse : occursIn "Sent".toList cs = false :=
          Bool.eq_false_iff.2 fun hs => absurd hdr (by rw [hSD hs]; decide)
        have hsm : occursIn "Summary: Sent".toList cs = false :=
          Bool.eq_false_iff.2 fun hm => absurd (hsub hm) (by rw [hse]; decide)
        have hre : occursIn "Received".toList cs = false :=
          Bool.eq_false_iff.2 fun hr => absurd hdr (by rw [hRD hr]; decide)
        rw [if_pos ⟨hsm, by rw [hre]; rfl, hdr, hpo⟩]
      · rw [allCounters_eq_nil_of_not_occursIn (Bool.eq_false_iff.2 hdr)]; split_ifs <;> rfl
    · rw [if_neg hpo, if_neg fun h => hpo h.2.2.2]

/-- The loop's totals: each line adds only the first match of the first branch whose keyword
test it passes; so they are the every-counter totals exactly on logs where no line has two
places where a counter word starts. -/
theorem lossTotals_first_branch_first_match (log : List String) :
    lossTotals log = ⟨(log.map fun l => lineSent l.toList).sum,
      (log.map fun l => lineReceived l.toList).sum, (log.map fun l => lineDropped l.toList).sum⟩ ∧
    ((∀ l ∈ log, keywordCount l.toList ≤ 1) → lossTotals log = claimedTotals log) := by
  refine ⟨lossTotals_eq_sum log, fun h => ?_⟩
  rw [lossTotals_eq_sum, claimedTotals]
  congr 2 <;> refine List.map_congr_left fun l hl => ?_
  · exact (line_eq_claimed (h l hl)).1
  · exact (line_eq_claimed (h l hl)).2.1
  · exact (line_eq_claimed (h l hl)).2.2

theorem lossTotals_first_branch_first_match_summary :
    (∀ l ∈ ["Summary: Sent 10 packets", "Port 1: Received 9 packets", "Port 1: Dropped 1 packets"],
      keywordCount l.toList ≤ 1) ∧
    lossTotals ["Summary: Sent 10 packets", "Port 1: Received 9 packets", "Port 1: Dropped 1 packets"] =
      ⟨(["Summary: Sent 10 packets", "Port 1: Received 9 packets", "Port 1: Dropped 1 packets"].map
          fun l => lineSent l.toList).sum,
        (["Summary: Sent 10 packets", "Port 1: Received 9 packets", "Port 1: Dropped 1 packets"].map
          fun l => lineReceived l.toList).sum,
        (["Summary: Sent 10 packets", "Port 1: Received 9 packets", "Port 1: Dropped 1 packets"].map
          fun l => lineDropped l.toList).sum⟩ ∧
    lossTotals ["Summary: Sent 10 packets", "Port 1: Received 9 packets", "Port 1: Dropped 1 packets"] =
      claimedTotals ["Summary: Sent 10 packets", "Port 1: Received 9 packets", "Port 1: Dropped 1 packets"] :=
  ⟨by decide, (lossTotals_first_branch_first_match _).1,
    (lossTotals_first_branch_first_match _).2 (by decide)⟩

/-- A line with two counters: the `elif` chain takes the `Received` branch only, and the dropped
packets are lost. -/
theorem lossTotals_shared_line :
    lossTotals ["Port 1: Received 10 packets, Dropped 2 packets"] = ⟨0, 10, 0⟩ ∧
    claimedTotals ["Port 1: Received 10 packets, Dropped 2 packets"] = ⟨0, 10, 2⟩ := by
  decide

/-! ## The loss rates -/

/-- What `calculate_packet_loss` returns on success: the totals after the switch-loss fix and the
three rates. -/
structure LossReport where
  sent : ℕ
  received : ℕ
  dropped : ℕ
  networkLossRate : ℚ
  receiverLossRate : ℚ
  totalLossRate : ℚ
  deriving DecidableEq, Repr

/-- The text `calculate_packet_loss` returns when no sent packet was parsed. -/
def noSentPackets : String := "Error: No sent packet data found"

/-- The temporary fix: with more packets sent than received and no drop parsed, the difference is
taken as switch loss. -/
def switchLossFix (t : LossTotals) : LossTotals :=
  if t.sent > t.received ∧ t.dropped = 0 then { t with dropped := t.sent - t.received } else t

/-- The rates `calculate_packet_loss` computes from the totals after the fix. -/
def lossReport (t : LossTotals) : LossReport where
  sent := t.sent
  received := t.received
  dropped := t.dropped
  networkLossRate := ((t.sent : ℚ) - t.received) / t.sent * 100
  receiverLossRate := if t.received = 0 then 0 else (t.dropped : ℚ) / t.received * 100
  totalLossRate := ((t.sent : ℚ) - ((t.received : ℚ) - t.dropped)) / t.sent * 100

/-- `calculate_packet_loss` of the lines of a log file. -/
def calculatePacketLoss (log : List String) : Except String LossReport :=
  let t := switchLossFix (lossTotals log)
  if t.sent = 0 then .error noSentPackets else .ok (lossReport t)

/-- The rows `Metric,Count,Rate(%)` that `save_loss_analysis` writes to `loss_statistics.csv`,
before the rates are formatted. -/
def lossStatistics (r : LossReport) : List (String × ℤ × ℚ) :=
  [("Total Sent", r.sent, 100),
   ("Total Received", r.received, (r.received : ℚ) / r.sent * 100),
   ("Total Dropped", r.dropped, (r.dropped : ℚ) / r.sent * 100),
   ("Network Loss", (r.sent : ℤ) - r.received, r.networkLossRate),
   ("Receiver Loss", r.dropped, r.receiverLossRate),
   ("Total Loss", (r.sent : ℤ) - ((r.received : ℤ) - r.dropped), r.totalLossRate)]

@[simp] theorem switchLossFix_sent (t : LossTotals) : (switchLossFix t).sent = t.sent := by
  unfold switchLossFix; split_ifs <;> rfl

@[simp] theorem switchLossFix_received (t : LossTotals) :
    (switchLossFix t).received = t.received := by
  unfold switchLossFix; split_ifs <;> rfl

theorem switchLossFix_of_fires {t : LossTotals} (hlt : t.received < t.sent) (hd : t.dropped = 0) :
    switchLossFix t = ⟨t.sent, t.received, t.sent - t.received⟩ := by
  simp [switchLossFix, hlt, hd]

theorem switchLossFix_of_not_fires {t : LossTotals} (h : t.received < t.sent → 0 < t.dropped) :
    switchLossFix t = t := by
  unfold switchLossFix; split_ifs with hf
  · have := h hf.1; omega
  · rfl

theorem calculatePacketLoss_of_sent {log : List String} (h : 0 < (lossTotals log).sent) :
    calculatePacketLoss log = .ok (lossReport (switchLossFix (lossTotals log))) := by
  simp [calculatePacketLoss, h.ne']

/-- The total rate is the network rate plus the drops as a share of the packets sent. -/
theorem lossReport_totalLossRate (t : LossTotals) :
    (lossReport t).totalLossRate = (lossReport t).networkLossRate + (t.dropped : ℚ) * 100 / t.sent := by
  simp only [lossReport]; ring

theorem rate_mem_Icc {a s : ℚ} (hs : 0 < s) (h0 : 0 ≤ a) (ha : a ≤ s) :
    0 ≤ a / s * 100 ∧ a / s * 100 ≤ 100 :=
  ⟨mul_nonneg (div_nonneg h0 hs.le) (by norm_num), by rw [div_mul_eq_mul_div, div_le_iff₀ hs]; linarith⟩

/-- On the totals of a packet-conserving run, every row of `loss_statistics.csv` has a count
between 0 and the packets sent and a rate between 0 and 100. -/
theorem lossStatistics_bounded {t : LossTotals} (hs : 0 < t.sent) (hr : t.received ≤ t.sent)
    (hd : t.dropped ≤ t.received) :
    ∀ metric count rate, (metric, count, rate) ∈ lossStatistics (lossReport t) →
      0 ≤ count ∧ count ≤ t.sent ∧ 0 ≤ rate ∧ rate ≤ 100 := by
  have hs' : (0 : ℚ) < t.sent := by exact_mod_cast hs
  have hr' : (t.received : ℚ) ≤ t.sent := by exact_mod_cast hr
  have hd' : (t.dropped : ℚ) ≤ t.received := by exact_mod_cast hd
  have hsent := rate_mem_Icc hs' (Nat.cast_nonneg _) le_rfl
  have hrecv := rate_mem_Icc hs' (Nat.cast_nonneg _) hr'
  have hdrop := rate_mem_Icc hs' (Nat.cast_nonneg _) (hd'.trans hr')
  have hnet := rate_mem_Icc hs' (sub_nonneg.2 hr') (sub_le_self _ (Nat.cast_nonneg _))
  have htot := rate_mem_Icc hs' (by linarith) (sub_le_self _ (sub_nonneg.2 hd'))
  have hrec : 0 ≤ (lossReport t).receiverLossRate ∧ (lossReport t).receiverLossRate ≤ 100 := by
    simp only [lossReport]; split_ifs with h0
    · norm_num
    · exact rate_mem_Icc (by exact_mod_cast Nat.pos_of_ne_zero h0) (Nat.cast_nonneg _) hd'
  simp only [lossStatistics, lossReport, List.mem_cons, List.not_mem_nil, or_false, Prod.mk.injEq]
    at hrec ⊢
  rintro - count rate (⟨-, rfl, rfl⟩ | ⟨-, rfl, rfl⟩ | ⟨-, rfl, rfl⟩ | ⟨-, rfl, rfl⟩ | ⟨-, rfl, rfl⟩ |
    ⟨-, rfl, rfl⟩)
  · exact ⟨by omega, le_rfl, by norm_num⟩
  · exact ⟨by omega, by omega, hrecv⟩
  · exact ⟨by omega, by omega, hdrop⟩
  · exact ⟨by omega, by omega, hnet⟩
  · exact ⟨by omega, by omega, hrec⟩
  · exact ⟨by omega, by omega, htot⟩

/-- A log whose parsed totals are those of a packet-conserving run, with a drop parsed whenever
fewer packets were received than sent, gets rates and counts within bounds, and its total rate
counts each lost packet once: lost on the way, or dropped at the receiver. -/
theorem calculatePacketLoss_of_parsed_drops (log : List String) (hs : 0 < (lossTotals log).sent)
    (hr : (lossTotals log).received ≤ (lossTotals log).sent)
    (hd : (lossTotals log).dropped ≤ (lossTotals log).received)
    (hfix : (lossTotals log).received < (lossTotals log).sent → 0 < (lossTotals log).dropped) :
    ∃ r, calculatePacketLoss log = .ok r ∧ r.dropped = (lossTotals log).dropped ∧
      r.totalLossRate = r.networkLossRate + ((lossTotals log).dropped : ℚ) * 100 / r.sent ∧
      ∀ metric count rate, (metric, count, rate) ∈ lossStatistics r →
        0 ≤ count ∧ count ≤ r.sent ∧ 0 ≤ rate ∧ rate ≤ 100 := by
  rw [calculatePacketLoss_of_sent hs, switchLossFix_of_not_fires hfix]
  exact ⟨_, rfl, rfl, lossReport_totalLossRate _, lossStatistics_bounded hs hr hd⟩

theorem calculatePacketLoss_of_parsed_drops_port :
    ∃ r, calculatePacketLoss ["Summary: Sent 10 packets", "Port 1: Received 9 packets",
      "Port 1: Dropped 1 packets"] = .ok r ∧
      r.dropped = (lossTotals ["Summary: Sent 10 packets", "Port 1: Received 9 packets",
        "Port 1: Dropped 1 packets"]).dropped ∧
      r.totalLossRate = r.networkLossRate + ((lossTotals ["Summary: Sent 10 packets",
        "Port 1: Received 9 packets", "Port 1: Dropped 1 packets"]).dropped : ℚ) * 100 / r.sent ∧
      ∀ metric count rate, (metric, count, rate) ∈ lossStatistics r →
        0 ≤ count ∧ count ≤ r.sent ∧ 0 ≤ rate ∧ rate ≤ 100 :=
  calculatePacketLoss_of_parsed_drops _ (by decide) (by decide) (by decide) (by decide)

/-- When the switch-loss fix fires, the inferred loss enters the total twice: once as the packets
not received and once as drops. The total rate is twice the network rate, and the Total Loss count
twice the packets missing. -/
theorem calculatePacketLoss_switch_fix {log : List String}
    (hlt : (lossTotals log).received < (lossTotals log).sent) (hd : (lossTotals log).dropped = 0) :
    ∃ r, calculatePacketLoss log = .ok r ∧ r.dropped = r.sent - r.received ∧
      r.totalLossRate = 2 * r.networkLossRate ∧
      ("Total Loss", 2 * ((r.sent : ℤ) - r.received), r.totalLossRate) ∈ lossStatistics r := by
  rw [calculatePacketLoss_of_sent (by omega), switchLossFix_of_fires hlt hd]
  have hq : (((lossTotals log).sent - (lossTotals log).received : ℕ) : ℚ) =
      (lossTotals log).sent - (lossTotals log).received := Nat.cast_sub hlt.le
  refine ⟨_, rfl, rfl, by simp only [lossReport, hq]; ring, ?_⟩
  simp only [lossStatistics, lossReport, List.mem_cons]
  iterate 5 right
  left
  congr 2; omega

theorem calculatePacketLoss_switch_fix_ten_two :
    ∃ r, calculatePacketLoss ["Summary: Sent 10 packets", "Port 1: Received 2 packets"] = .ok r ∧
      r.dropped = r.sent - r.received ∧ r.totalLossRate = 2 * r.networkLossRate ∧
      ("Total Loss", 2 * ((r.sent : ℤ) - r.received), r.totalLossRate) ∈ lossStatistics r :=
  calculatePacketLoss_switch_fix (by decide) (by decide)

/-- Ten packets sent, two received, no drop parsed: the fix infers eight switch drops, and the
code reports a receiver drop rate of 400%, a total loss rate of 160% and sixteen lost packets. -/
theorem calculatePacketLoss_double_count :
    lossTotals ["Summary: Sent 10 packets", "Port 1: Received 2 packets"] = ⟨10, 2, 0⟩ ∧
    calculatePacketLoss ["Summary: Sent 10 packets", "Port 1: Received 2 packets"] =
      .ok ⟨10, 2, 8, 80, 400, 160⟩ ∧
    ("Total Loss", 16, 160) ∈ lossStatistics ⟨10, 2, 8, 80, 400, 160⟩ := by
  have h : lossTotals ["Summary: Sent 10 packets", "Port 1: Received 2 packets"] = ⟨10, 2, 0⟩ := by
    decide
  refine ⟨h, ?_, by simp [lossStatistics]⟩
  rw [calculatePacketLoss_of_sent (by rw [h]; decide), h]
  simp [switchLossFix, lossReport]; norm_num

end SueSim.Loss
