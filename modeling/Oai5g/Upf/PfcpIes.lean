import Oai5g.Lib.Walk

/-!
# The IEs of PFCP as readers

How many bytes the `load_from` of each class of `3gpp_29.244.hpp` that is not grouped asks the stream for, and
the types for which `new_pfcp_ie_from_stream` makes an object.

* A stream is what is left of its bytes; a read of more than that gets what there is.
* `uninit` are the bytes that an object finds where nothing was read into them and no constructor has set them:
  its flags at 0, and the characters of a Node ID behind.
* `dottedToString` may throw and may go on for ever; `LeadsBack`, `dottedToString_endless_iff`: when it does.
  Memory is unbounded.
-/

namespace Oai5g.Upf.Pfcp

/-- How a `load_from` ends without a result, or does not end. -/
inductive Halt
  | thrown
  | endless
  deriving DecidableEq

/-- A `load_from`: from the length of the TLV, the bytes that are not set, and the stream, how many bytes it
reads, with `none` where it throws; or the one of a Node ID. -/
inductive LoadFrom
  | simple (reads : ℕ → (ℕ → UInt8) → List UInt8 → Option ℕ)
  | nodeId

/-- Two bytes in network order, read over the bytes that are there. -/
def read16 (d₀ d₁ : UInt8) (is : List UInt8) : ℕ := 256 * (is.headD d₀).toNat + (is.tail.headD d₁).toNat

/-- A field of a byte that is read where a bit is set. -/
def field (u1 : UInt8) (bit size : ℕ) : ℕ := if u1.toNat.testBit bit then size else 0

/-! ## Names -/

section

variable (dot : List UInt8)

/-- A `char`. -/
def charAt (offset : ℕ) : ℤ := (dot.getD offset 0).toBitVec.toInt

/-- The loop of `pfcp_ie::dotted_to_string`, with a bound on its turns: from a 16-bit offset, with what was put
into the string. `append` of a negative count throws. -/
def dottedLoop : ℕ → ℕ → List UInt8 → Except Halt (List UInt8)
  | 0, _, _ => .error .endless
  | turns + 1, offset, noDot =>
    if dot.length ≤ offset then .ok noDot
    else
      let c := charAt dot offset
      let behind := ((offset + 1 + c) % 2 ^ 16).toNat
      if c < 64 then
        if 0 ≤ offset + c ∧ offset + c ≤ dot.length then
          if c < 0 then .error .thrown
          else
            let label := ((dot ++ [0]).drop (offset + 1)).take c.toNat
            dottedLoop turns behind (noDot ++ (if offset = 0 then [] else [46]) ++ label)
        else dottedLoop turns behind noDot
      else dottedLoop turns ((offset + 1) % 2 ^ 16) (noDot ++ [dot.getD offset 0])

/-- `pfcp_ie::dotted_to_string`. After `2 ^ 16` turns some offset has come again, and it never ends. -/
def dottedToString : Except Halt (List UInt8) := dottedLoop dot (2 ^ 16) 0 []

/-- The octet that the walk over the labels goes to: behind the label, whether it is one or not. It ends behind
the last octet, and at a negative count that `append` throws on. -/
def labelBehind (offset : ℕ) : Option ℕ :=
  if dot.length ≤ offset then none
  else if charAt dot offset < 64 then
    if 0 ≤ offset + charAt dot offset ∧ charAt dot offset < 0 then none
    else some ((offset + 1 + charAt dot offset) % 2 ^ 16).toNat
  else some ((offset + 1) % 2 ^ 16)

/-- **The labels lead to an octet twice**, as one with a negative count does that goes back. -/
def LeadsBack : Prop := ComesTwice (labelBehind dot) 0

variable {dot}

theorem dottedLoop_endless_iff {turns offset : ℕ} {noDot : List UInt8} :
    dottedLoop dot turns offset noDot = .error .endless ↔ (walk (labelBehind dot) offset turns).isSome := by
  induction turns generalizing offset noDot with
  | zero => exact iff_of_true rfl rfl
  | succ turns ih =>
    rw [dottedLoop, walk_succ, labelBehind]
    by_cases hend : dot.length ≤ offset
    · rw [if_pos hend, if_pos hend]
      exact iff_of_false nofun nofun
    · rw [if_neg hend, if_neg hend]
      dsimp only
      by_cases hlabel : charAt dot offset < 64
      · rw [if_pos hlabel, if_pos hlabel]
        by_cases hback : 0 ≤ offset + charAt dot offset ∧ charAt dot offset < 0
        · rw [if_pos hback, if_pos ⟨hback.1, by omega⟩, if_pos hback.2]
          exact iff_of_false nofun nofun
        · rw [if_neg hback, Option.bind_some]
          by_cases hin : 0 ≤ offset + charAt dot offset ∧ offset + charAt dot offset ≤ dot.length
          · rw [if_pos hin, if_neg fun hneg => hback ⟨hin.1, hneg⟩]
            exact ih
          · rw [if_neg hin]
            exact ih
      · rw [if_neg hlabel, if_neg hlabel, Option.bind_some]
        exact ih

theorem labelBehind_lt {offset behind : ℕ} (h : labelBehind dot offset = some behind) : behind < 2 ^ 16 := by
  unfold labelBehind at h
  split_ifs at h
  · cases h
    omega
  · cases h
    omega

/-- **`dotted_to_string` goes on for ever exactly when the labels lead to an octet twice.** -/
theorem dottedToString_endless_iff : dottedToString dot = .error .endless ↔ LeadsBack dot := by
  have hwalk : LeadsBack dot ↔ (walk (labelBehind dot) 0 (Finset.range (2 ^ 16)).card).isSome := comesTwice_iff
    (Finset.mem_range.mpr (by omega)) fun b _ c hc => Finset.mem_range.mpr (labelBehind_lt hc)
  rw [Finset.card_range] at hwalk
  exact dottedLoop_endless_iff.trans hwalk.symm

/-- A count that is as far back as it stands goes to the first octet again. -/
theorem leadsBack_of_octet {offset : ℕ} (hread : ∃ n, walk (labelBehind dot) 0 n = some offset)
    (hlt : offset < dot.length) (hneg : charAt dot offset = -(offset + 1 : ℤ)) : LeadsBack dot := by
  obtain ⟨n, hn⟩ := hread
  refine ⟨0, n + 1, 0, n.succ_pos, rfl, ?_⟩
  rw [walk, hn, Option.bind_some, labelBehind, if_neg (by omega), if_pos (by omega), if_neg (by omega), hneg]
  simp

/-- One octet that leads back to itself. -/
example : LeadsBack [0xFF] := leadsBack_of_octet ⟨0, rfl⟩ (by decide) (by decide)

end

/-! ## The families -/

/-- The length has to be the size of the members, which are read. -/
def exactly (size : ℕ) : LoadFrom := .simple fun len _ _ => if len = size then some size else none

/-- A string of the length of the TLV. -/
def whole : LoadFrom := .simple fun len _ _ => some len

/-- Three volumes behind flags that are not read. -/
def unreadVolumes : LoadFrom := .simple fun len uninit _ =>
  if len < 1 then none else some (field (uninit 0) 0 8 + field (uninit 0) 1 8 + field (uninit 0) 2 8)

/-! ## The classes -/

/-- The Cause IE. -/
def causeIe : LoadFrom := exactly 1

/-- An enterprise specific IE: the enterprise, then the rest. -/
def enterpriseSpecificIe : LoadFrom := .simple fun len _ _ => if len < 2 then none else some (2 + (len - 2))

/-- The Source Interface IE. -/
def sourceInterfaceIe : LoadFrom := exactly 1

/-- The F-TEID IE: with an address of one family, or with a CHOOSE flag. -/
def fteidIe : LoadFrom := .simple fun len _ is =>
  let u1 := is.headD 0
  let size := 1 + if u1.toNat.testBit 2 then field u1 3 1 else 4 + field u1 0 4 + field u1 1 16
  if len = size then some size else none

/-- The Network Instance IE. -/
def networkInstanceIe : LoadFrom := whole

/-- The length of the flow description is not compared with that of the TLV, which is not looked at. -/
def sdfFilterIe : LoadFrom := .simple fun _ uninit is =>
  let u1 := is.headD (uninit 0)
  some (2 + field u1 0 (2 + read16 0 0 (is.drop 2)) + field u1 1 2 + field u1 2 4 + field u1 3 3 + field u1 4 4)

/-- The Application ID IE. -/
def applicationIdIe : LoadFrom := whole

/-- The Gate Status IE. -/
def gateStatusIe : LoadFrom := exactly 1

/-- The MBR IE. -/
def mbrIe : LoadFrom := exactly 10

/-- The GBR IE. -/
def gbrIe : LoadFrom := exactly 10

/-- The length has to be 1, and four bytes are read. -/
def qerCorrelationIdIe : LoadFrom := .simple fun len _ _ => if len = 1 then some 4 else none

/-- The Precedence IE. -/
def precedenceIe : LoadFrom := exactly 4

/-- The Transport Level Marking IE. -/
def transportLevelMarkingIe : LoadFrom := exactly 2

/-- The Volume Threshold IE. -/
def volumeThresholdIe : LoadFrom := unreadVolumes

/-- The Time Threshold IE. -/
def timeThresholdIe : LoadFrom := exactly 4

/-- The Monitoring Time IE. -/
def monitoringTimeIe : LoadFrom := exactly 4

/-- The Subsequent Volume Threshold IE. -/
def subsequentVolumeThresholdIe : LoadFrom := unreadVolumes

/-- The Subsequent Time Threshold IE. -/
def subsequentTimeThresholdIe : LoadFrom := exactly 4

/-- The Inactivity Detection Time IE. -/
def inactivityDetectionTimeIe : LoadFrom := exactly 4

/-- The Reporting Triggers IE. -/
def reportingTriggersIe : LoadFrom := exactly 2

/-- The Redirect Information IE: a type and an address of its own length. -/
def redirectInformationIe : LoadFrom := .simple fun len _ is =>
  if len < 3 then none else some (3 + read16 0 0 (is.drop 1))

/-- The Report Type IE. -/
def reportTypeIe : LoadFrom := exactly 1

/-- The Offending IE IE. -/
def offendingIeIe : LoadFrom := exactly 2

/-- The Forwarding Policy IE: its own length, then the policy. -/
def forwardingPolicyIe : LoadFrom := .simple fun len _ is =>
  if len < 1 then none
  else if len = 1 + (is.headD 0).toNat then some (1 + (is.headD 0).toNat) else none

/-- The Destination Interface IE. -/
def destinationInterfaceIe : LoadFrom := exactly 1

/-- Four or six bytes, for a length of at most six. -/
def upFunctionFeaturesIe : LoadFrom := .simple fun len _ _ =>
  if 6 < len then none else some (4 + if 4 < len then 2 else 0)

/-- The Apply Action IE. -/
def applyActionIe : LoadFrom := exactly 1

/-- The PDR ID IE. -/
def pdrIdIe : LoadFrom := exactly 2

/-- The F-SEID IE: with an address of each flagged family. -/
def fSeidIe : LoadFrom := .simple fun len uninit is =>
  let u1 := is.headD (uninit 0)
  let size := 9 + field u1 1 4 + field u1 0 16
  if len = size then some size else none

/-- The characters that are read into an array of `n` of them. -/
def readChars (uninit : ℕ → UInt8) (n : ℕ) (is : List UInt8) : List UInt8 :=
  (List.range n).map fun i => is.getD i (uninit i)

/-- `pfcp_node_id_ie::load_from`: an FQDN goes through `dotted_to_string`. -/
def nodeIdReads (len : ℕ) (uninit : ℕ → UInt8) (is : List UInt8) : Except Halt ℕ :=
  match (is.headD (uninit 0)).toNat % 16 with
  | 0 => if len - 1 = 4 then .ok 5 else .error .thrown
  | 1 => if len - 1 = 16 then .ok 17 else .error .thrown
  | 2 =>
    if len - 1 = 0 then .error .thrown
    else
      match dottedToString (readChars (fun i => uninit (i + 1)) (len - 1) is.tail) with
      | .error halt => .error halt
      | .ok _ => .ok len
  | _ => .ok 1

/-- The Node ID IE: an address, or an FQDN through `dotted_to_string`. -/
def nodeIdIe : LoadFrom := .nodeId

/-- The Usage Report Trigger IE. -/
def usageReportTriggerIe : LoadFrom := exactly 3

/-- The Measurement Period IE. -/
def measurementPeriodIe : LoadFrom := exactly 4

/-- The Volume Measurement IE: a flag for each of the six counters. -/
def volumeMeasurementIe : LoadFrom := .simple fun len _ is =>
  let u1 := is.headD 0
  if len < 1 then none
  else some (1 + field u1 0 8 + field u1 1 8 + field u1 2 8 + field u1 3 8 + field u1 4 8 + field u1 5 8)

/-- The Duration Measurement IE. -/
def durationMeasurementIe : LoadFrom := exactly 4

/-- The Time of First Packet IE. -/
def timeOfFirstPacketIe : LoadFrom := exactly 4

/-- The Time of Last Packet IE. -/
def timeOfLastPacketIe : LoadFrom := exactly 4

/-- The Start Time IE. -/
def startTimeIe : LoadFrom := exactly 4

/-- The End Time IE. -/
def endTimeIe : LoadFrom := exactly 4

/-- The URR ID IE. -/
def urrIdIe : LoadFrom := exactly 4

/-- The bits of the description: GTP-U over IPv4 and IPv6, UDP over IPv4 and IPv6. -/
def outerHeaderCreationIe : LoadFrom := .simple fun len _ is =>
  let gtpu4 := (is.headD 0).toNat.testBit 0
  let gtpu6 := (is.headD 0).toNat.testBit 1
  let udp4 := (is.headD 0).toNat.testBit 2
  let udp6 := (is.headD 0).toNat.testBit 3
  if len < 4 then none
  else some (2 + (if gtpu4 || gtpu6 then 4 else 0) + (if gtpu4 || udp4 then 4 else 0) +
    (if gtpu6 || udp6 then 16 else 0) + if udp4 then 2 else 0)

/-- The BAR ID IE. -/
def barIdIe : LoadFrom := exactly 1

/-- The CP Function Features IE. -/
def cpFunctionFeaturesIe : LoadFrom := exactly 1

/-- The UE IP Address IE: with an address of each flagged family. -/
def ueIpAddressIe : LoadFrom := .simple fun len uninit is =>
  let u1 := is.headD (uninit 0)
  let size := 1 + field u1 1 4 + field u1 0 (16 + field u1 3 1)
  if len = size then some size else none

/-- The Outer Header Removal IE. -/
def outerHeaderRemovalIe : LoadFrom := exactly 1

/-- The Recovery Time Stamp IE. -/
def recoveryTimeStampIe : LoadFrom := exactly 4

/-- The UR-SEQN IE. -/
def urSeqnIe : LoadFrom := exactly 4

/-- The Activate Predefined Rules IE. -/
def activatePredefinedRulesIe : LoadFrom := .simple fun len _ _ => if len = 0 then none else some len

/-- The Deactivate Predefined Rules IE. -/
def deactivatePredefinedRulesIe : LoadFrom := .simple fun len _ _ => if len = 0 then none else some len

/-- The FAR ID IE. -/
def farIdIe : LoadFrom := exactly 4

/-- The QER ID IE. -/
def qerIdIe : LoadFrom := exactly 4

/-- The length has to be 1 and then that of the ID alone: this leaves the ID of a BAR. -/
def failedRuleIdIe : LoadFrom := .simple fun len _ is =>
  if len ≠ 1 then none
  else match (is.headD 0).toNat % 32 with
    | 4 => some 2
    | _ => none

/-- The network instance is read with the length of the whole TLV. -/
def userPlaneIpResourceInformationIe : LoadFrom := .simple fun len _ is =>
  let u1 := is.headD 0
  if len < 1 then none else some (2 + field u1 0 4 + field u1 1 16 + field u1 5 len + field u1 6 1)

/-- The User Plane Inactivity Timer IE. -/
def userPlaneInactivityTimerIe : LoadFrom := exactly 4

/-- The QFI IE. -/
def qfiIe : LoadFrom := exactly 1

/-- A string behind its own length. -/
def counted (u1 : UInt8) (bit : ℕ) (is : List UInt8) (n : ℕ) : ℕ :=
  if u1.toNat.testBit bit then n + 1 + ((is.drop n).headD 0).toNat else n

/-- The length has to be 1, and the flags name more to read. -/
def userIdIe : LoadFrom := .simple fun len uninit is =>
  let u1 := is.headD (uninit 0)
  if len ≠ 1 then none
  else some (counted u1 3 is (counted u1 2 is (counted u1 1 is (counted u1 0 is 1))))

/-- The 3GPP Interface Type IE. -/
def interfaceTypeIe : LoadFrom := exactly 1

/-- What a `load_from` does. -/
def LoadFrom.run : LoadFrom → ℕ → (ℕ → UInt8) → List UInt8 → Except Halt ℕ
  | simple reads, len, uninit, is => (reads len uninit is).elim (.error .thrown) .ok
  | nodeId, len, uninit, is => nodeIdReads len uninit is

/-! ## The types -/

/-- What is made for a type. -/
inductive IeKind
  | grouped
  | plain (loadFrom : LoadFrom)

/-- The types with an object of their own; the first are those of the grouped IEs. -/
def ieTable : List (ℕ × IeKind) :=
  ([1, 2, 3, 4, 5, 6, 7, 8, 9, 10, 11, 12, 13, 14, 15, 16, 17, 18, 80, 83].map fun t => (t, IeKind.grouped)) ++
    ([(19, .plain causeIe), (20, .plain sourceInterfaceIe), (21, .plain fteidIe), (22, .plain networkInstanceIe),
      (23, .plain sdfFilterIe), (24, .plain applicationIdIe), (25, .plain gateStatusIe), (26, .plain mbrIe),
      (27, .plain gbrIe), (28, .plain qerCorrelationIdIe), (29, .plain precedenceIe),
      (30, .plain transportLevelMarkingIe), (31, .plain volumeThresholdIe), (32, .plain timeThresholdIe),
      (33, .plain monitoringTimeIe), (34, .plain subsequentVolumeThresholdIe),
      (35, .plain subsequentTimeThresholdIe), (36, .plain inactivityDetectionTimeIe),
      (37, .plain reportingTriggersIe), (38, .plain redirectInformationIe), (39, .plain reportTypeIe),
      (40, .plain offendingIeIe), (41, .plain forwardingPolicyIe), (42, .plain destinationInterfaceIe),
      (43, .plain upFunctionFeaturesIe), (44, .plain applyActionIe), (56, .plain pdrIdIe), (57, .plain fSeidIe),
      (60, .plain nodeIdIe), (63, .plain usageReportTriggerIe), (64, .plain measurementPeriodIe),
      (66, .plain volumeMeasurementIe), (67, .plain durationMeasurementIe), (69, .plain timeOfFirstPacketIe),
      (70, .plain timeOfLastPacketIe), (75, .plain startTimeIe), (76, .plain endTimeIe), (81, .plain urrIdIe),
      (84, .plain outerHeaderCreationIe), (88, .plain barIdIe), (89, .plain cpFunctionFeaturesIe),
      (93, .plain ueIpAddressIe), (95, .plain outerHeaderRemovalIe), (96, .plain recoveryTimeStampIe),
      (104, .plain urSeqnIe), (106, .plain activatePredefinedRulesIe), (107, .plain deactivatePredefinedRulesIe),
      (108, .plain farIdIe), (109, .plain qerIdIe), (114, .plain failedRuleIdIe),
      (116, .plain userPlaneIpResourceInformationIe), (117, .plain userPlaneInactivityTimerIe),
      (124, .plain qfiIe), (141, .plain userIdIe), (160, .plain interfaceTypeIe)] : List (ℕ × IeKind))

/-- The `switch` of `new_pfcp_ie_from_stream`, with the range of the enterprise specific types; `none` where it
returns no object. -/
def ieKind (type : ℕ) : Option IeKind :=
  if 32768 ≤ type then some (.plain enterpriseSpecificIe) else ieTable.lookup type

end Oai5g.Upf.Pfcp
