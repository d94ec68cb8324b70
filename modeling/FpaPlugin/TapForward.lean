import FpaPlugin.TapFrames

/-! Which of the frames read from a TAP are sent to its port. `tap_listener` asks for the group of
the whole 16-bit tag control value, so a priority in the tag hides the VLAN. -/

namespace FpaPlugin

open ByteMemory

section Spec

def IsTagged (frame : List Byte) : Prop := (frame.drop 12).take 2 = bytes16 ethertypeVlan

instance (frame : List Byte) : Decidable (IsTagged frame) := inferInstanceAs (Decidable (_ = _))

def tagControl (frame : List Byte) : BitVec 16 := frame.getD 14 0 ++ frame.getD 15 0

/-- The 802.1Q VID: the low 12 bits of the tag control value. -/
def frameVid (frame : List Byte) : Nat := (tagControl frame).toNat % 4096

def IsL2Group (env : Env) (portNum : BitVec 32) (vid gid : Nat) : Prop :=
  fpaLibGroupIdentifierBuild env (.l2Interface portNum.toNat vid) = some gid

instance (env : Env) (portNum : BitVec 32) (vid gid : Nat) :
    Decidable (IsL2Group env portNum vid gid) :=
  inferInstanceAs (Decidable (_ = _))

def L2GroupExists (env : Env) (groups : Asic) (portNum : BitVec 32) (vid : Nat) : Prop :=
  ∃ gid, IsL2Group env portNum vid gid ∧ groups.hasGroup gid = true

def L2GroupHasBucket (env : Env) (groups : Asic) (portNum : BitVec 32) (vid : Nat) : Prop :=
  ∃ gid bucket, IsL2Group env portNum vid gid ∧ groups.bucketOf gid = some bucket

def L2GroupPops (env : Env) (groups : Asic) (portNum : BitVec 32) (vid : Nat) : Prop :=
  ∃ gid bucket, IsL2Group env portNum vid gid ∧ groups.bucketOf gid = some bucket ∧
    popVlanTagAction env bucket = true

structure SendsTagged (env : Env) (groups : Asic) (entry : TapIfEntry) (frame : List Byte)
    (sent : Option SentPacket) : Prop where
  member : sent.isSome = true ↔ L2GroupExists env groups entry.portNum (frameVid frame)
  port : ∀ packet ∈ sent, packet.outPortNum = entry.portNum
  popped : ∀ packet ∈ sent, L2GroupPops env groups entry.portNum (frameVid frame) →
    packet.pkt.bytes = strippedFrame frame
  unpopped : ∀ packet ∈ sent, ¬ L2GroupPops env groups entry.portNum (frameVid frame) →
    packet.pkt.bytes = frame

structure SendsUntagged (entry : TapIfEntry) (frame : List Byte) (sent : Option SentPacket) :
    Prop where
  own : sent.isSome = true ↔ (frame.drop 6).take 6 = ethAddrBytes entry.mac
  port : ∀ packet ∈ sent, packet.outPortNum = entry.portNum
  bytes : ∀ packet ∈ sent, packet.pkt.bytes = frame

/-- The frame was read inside the buffer, and sent or dropped as its tag or source MAC demands. -/
structure ForwardsFrame (env : Env) (groups : Asic) (entry : TapIfEntry) (frame : List Byte)
    (sent : Option SentPacket) : Prop where
  inside : fpaPktSafeguard + frame.length ≤ fpaHalMaxMtuCns
  tagged : IsTagged frame → SendsTagged env groups entry frame sent
  untagged : ¬ IsTagged frame → SendsUntagged entry frame sent

end Spec

section Header

variable {pbuf : Nat → Byte} {frame : List Byte}

def framePacket (pbuf : Nat → Byte) (frame : List Byte) : Packet :=
  ⟨write pbuf fpaPktSafeguard frame, fpaPktSafeguard, BitVec.ofNat 32 frame.length⟩

theorem packet_got (pbuf : Nat → Byte) (asked : frame.length ≤ fpaHalMaxMtuCns) :
    (⟨storeRead pbuf (.got frame asked), fpaPktSafeguard,
      BitVec.ofInt 32 (bytesRecv (.got frame asked))⟩ : Packet) = framePacket pbuf frame := by
  rw [framePacket, bytesRecv, BitVec.ofInt_natCast]
  rfl

theorem slice_framePacket (pbuf : Nat → Byte) {first count : Nat} (inside : first + count ≤ frame.length) :
    slice (framePacket pbuf frame).pbuf (fpaPktSafeguard + first) count =
      (frame.drop first).take count := by
  have whole := slice_write pbuf fpaPktSafeguard frame
  have later := drop_slice (write pbuf fpaPktSafeguard frame) fpaPktSafeguard
    (show first ≤ frame.length by omega)
  rw [whole] at later
  rw [later, take_slice _ _ (by omega)]
  rfl

theorem framePacket_at (pbuf : Nat → Byte) {index : Nat} (inside : index < frame.length) :
    (framePacket pbuf frame).pbuf (fpaPktSafeguard + index) = frame.getD index 0 := by
  simp [framePacket, write, inside]

theorem ethType_framePacket (pbuf : Nat → Byte) (long : 18 ≤ frame.length) :
    opsFpaGetEthType (framePacket pbuf frame) = ethertypeVlan ↔ IsTagged frame := by
  have held : bytes16 (opsFpaGetEthType (framePacket pbuf frame)) = (frame.drop 12).take 2 := by
    rw [opsFpaGetEthType, ntohs, bytes16_swap16_load16]
    exact slice_framePacket pbuf (show 12 + 2 ≤ frame.length by omega)
  rw [IsTagged, ← held]
  exact ⟨fun same => by rw [same], bytes16_inj⟩

theorem tagVid_framePacket (pbuf : Nat → Byte) (long : 18 ≤ frame.length) :
    tagVid (framePacket pbuf frame) = tagControl frame := by
  rw [tagVid, ntohs, load16, swap16_append, tagControl]
  rw [← framePacket_at pbuf (show 14 < frame.length by omega),
    ← framePacket_at pbuf (show 15 < frame.length by omega)]
  rfl

theorem bytes_framePacket (pbuf : Nat → Byte) (asked : frame.length ≤ fpaHalMaxMtuCns) :
    (framePacket pbuf frame).bytes = frame := by
  rw [fpaHalMaxMtuCns] at asked
  have size : (framePacket pbuf frame).pktDataSize.toNat = frame.length := by
    rw [framePacket, BitVec.toNat_ofNat]
    omega
  rw [Packet.bytes, size]
  exact slice_write pbuf fpaPktSafeguard frame

theorem bytes_stripDot1q (pbuf : Nat → Byte) (asked : frame.length ≤ fpaHalMaxMtuCns)
    (long : 18 ≤ frame.length) : (stripDot1q (framePacket pbuf frame)).bytes = strippedFrame frame := by
  rw [fpaHalMaxMtuCns] at asked
  have size : (stripDot1q (framePacket pbuf frame)).pktDataSize.toNat = frame.length - 4 := by
    rw [stripDot1q, framePacket, BitVec.toNat_sub, BitVec.toNat_ofNat, BitVec.toNat_ofNat, dot1qLen]
    omega
  rw [Packet.bytes, size, slice_stripDot1q _ (show 16 ≤ frame.length by omega)]
  congr 1
  exact slice_write pbuf fpaPktSafeguard frame

end Header

section Groups

variable {env : Env} {groups : Asic} {portNum : BitVec 32} {vid gid : Nat} {bucket : Bucket}

theorem IsL2Group.vid_lt (isGroup : IsL2Group env portNum vid gid) : vid < 4096 := by
  have fits : portNum.toNat < 2 ^ 16 ∧ vid < 2 ^ 12 := groupIdent_fits isGroup
  exact fits.2

theorem hasGroup_of_bucketOf (held : groups.bucketOf gid = some bucket) : groups.hasGroup gid = true := by
  rw [Asic.bucketOf] at held
  obtain ⟨group, found, _⟩ := Option.bind_eq_some_iff.mp held
  have isGroup := List.find?_some found
  exact List.any_eq_true.mpr ⟨group, List.mem_of_find?_eq_some found, isGroup⟩

theorem getPortEgTagState_eq {vlanId : BitVec 16}
    (isGroup : IsL2Group env portNum vlanId.toNat gid) :
    getPortEgTagState env groups portNum vlanId = (groups.bucketOf gid).map (popVlanTagAction env) := by
  rw [IsL2Group] at isGroup
  simp only [getPortEgTagState, isGroup]

theorem getPortEgTagState_some {vlanId : BitVec 16} {pop : Bool}
    (isPop : getPortEgTagState env groups portNum vlanId = some pop) :
    ∃ gid bucket, IsL2Group env portNum vlanId.toNat gid ∧ groups.bucketOf gid = some bucket ∧
      popVlanTagAction env bucket = pop := by
  cases built : fpaLibGroupIdentifierBuild env (.l2Interface portNum.toNat vlanId.toNat) with
  | none => simp [getPortEgTagState, built] at isPop
  | some gid =>
      rw [getPortEgTagState_eq built] at isPop
      obtain ⟨bucket, held, isPop⟩ := Option.map_eq_some_iff.mp isPop
      exact ⟨gid, bucket, built, held, isPop⟩

theorem frameVid_eq {frame : List Byte} (noPriority : (tagControl frame).toNat < 4096) :
    frameVid frame = (tagControl frame).toNat := Nat.mod_eq_of_lt noPriority

end Groups

section Forwarding

variable {env : Env} {groups : Asic} {entry : TapIfEntry} {pbuf : Nat → Byte} {frame : List Byte}

def sentFrame (env : Env) (groups : Asic) (entry : TapIfEntry) (pkt : Packet) : Option SentPacket :=
  (tapFrame env groups entry pkt).map fun sent => ⟨sent, entry.portNum⟩

theorem tapFrame_tagged (long : 18 ≤ frame.length) (isTagged : IsTagged frame) :
    tapFrame env groups entry (framePacket pbuf frame) =
      (getPortEgTagState env groups entry.portNum (tagControl frame)).map fun pop =>
        if pop then stripDot1q (framePacket pbuf frame) else framePacket pbuf frame := by
  rw [tapFrame, if_pos ((ethType_framePacket pbuf long).mpr isTagged), tagVid_framePacket pbuf long]
  cases getPortEgTagState env groups entry.portNum (tagControl frame) <;> rfl

theorem sendsTagged_of_bucket (asked : frame.length ≤ fpaHalMaxMtuCns) (long : 18 ≤ frame.length)
    (isTagged : IsTagged frame) (noPriority : (tagControl frame).toNat < 4096)
    (hasBucket : L2GroupHasBucket env groups entry.portNum (frameVid frame)) :
    SendsTagged env groups entry frame (sentFrame env groups entry (framePacket pbuf frame)) := by
  obtain ⟨gid, bucket, isGroup, held⟩ := hasBucket
  have isPop : getPortEgTagState env groups entry.portNum (tagControl frame) =
      some (popVlanTagAction env bucket) := by
    rw [getPortEgTagState_eq (frameVid_eq noPriority ▸ isGroup), held, Option.map_some]
  have pops : L2GroupPops env groups entry.portNum (frameVid frame) ↔
      popVlanTagAction env bucket = true := by
    constructor
    · rintro ⟨other, otherBucket, isOther, otherHeld, pop⟩
      cases isGroup.symm.trans isOther
      cases held.symm.trans otherHeld
      exact pop
    · exact fun pop => ⟨gid, bucket, isGroup, held, pop⟩
  rw [sentFrame, tapFrame_tagged long isTagged, isPop]
  refine ⟨iff_of_true rfl ⟨gid, isGroup, hasGroup_of_bucketOf held⟩, ?_, ?_, ?_⟩
  · rintro packet ⟨⟩
    rfl
  · rintro packet ⟨⟩ pop
    dsimp only
    rw [if_pos (pops.mp pop)]
    exact bytes_stripDot1q pbuf asked long
  · rintro packet ⟨⟩ noPop
    dsimp only
    rw [if_neg fun pop => noPop (pops.mpr pop)]
    exact bytes_framePacket pbuf asked

theorem sendsTagged_iff (asked : frame.length ≤ fpaHalMaxMtuCns) (long : 18 ≤ frame.length)
    (isTagged : IsTagged frame) :
    SendsTagged env groups entry frame (sentFrame env groups entry (framePacket pbuf frame)) ↔
      ¬ L2GroupExists env groups entry.portNum (frameVid frame) ∨
        (tagControl frame).toNat < 4096 ∧
          L2GroupHasBucket env groups entry.portNum (frameVid frame) := by
  constructor
  · intro sends
    by_cases groupExists : L2GroupExists env groups entry.portNum (frameVid frame)
    · have isSent := sends.member.mpr groupExists
      rw [sentFrame, tapFrame_tagged long isTagged, Option.isSome_map, Option.isSome_map] at isSent
      obtain ⟨pop, isPop⟩ := Option.isSome_iff_exists.mp isSent
      obtain ⟨gid, bucket, isGroup, held, _⟩ := getPortEgTagState_some isPop
      have noPriority := isGroup.vid_lt
      exact .inr ⟨noPriority, gid, bucket, (frameVid_eq noPriority).symm ▸ isGroup, held⟩
    · exact .inl groupExists
  · rintro (noGroup | ⟨noPriority, hasBucket⟩)
    · have dropped : getPortEgTagState env groups entry.portNum (tagControl frame) = none := by
        cases isPop : getPortEgTagState env groups entry.portNum (tagControl frame) with
        | none => rfl
        | some pop =>
            obtain ⟨gid, bucket, isGroup, held, _⟩ := getPortEgTagState_some isPop
            exact (noGroup ⟨gid, (frameVid_eq isGroup.vid_lt).symm ▸ isGroup,
              hasGroup_of_bucketOf held⟩).elim
      rw [sentFrame, tapFrame_tagged long isTagged, dropped]
      refine ⟨iff_of_false (by simp) noGroup, ?_, ?_, ?_⟩
      all_goals
        intro packet isSent
        cases isSent
    · exact sendsTagged_of_bucket asked long isTagged noPriority hasBucket

theorem sendsUntagged (asked : frame.length ≤ fpaHalMaxMtuCns) (long : 18 ≤ frame.length)
    (isUntagged : ¬ IsTagged frame) :
    SendsUntagged entry frame (sentFrame env groups entry (framePacket pbuf frame)) := by
  have source : slice (framePacket pbuf frame).pbuf ((framePacket pbuf frame).pktDataPtr + ethAlen)
      ethAlen = (frame.drop 6).take 6 := slice_framePacket pbuf (show 6 + 6 ≤ frame.length by omega)
  rw [sentFrame, tapFrame, if_neg fun tagged => isUntagged ((ethType_framePacket pbuf long).mp tagged)]
  simp only [source]
  by_cases own : (frame.drop 6).take 6 = ethAddrBytes entry.mac
  · rw [if_pos own]
    refine ⟨iff_of_true rfl own, ?_, ?_⟩
    · rintro packet ⟨⟩
      rfl
    · rintro packet ⟨⟩
      exact bytes_framePacket pbuf asked
  · rw [if_neg own]
    refine ⟨iff_of_false (by simp) own, ?_, ?_⟩
    all_goals
      intro packet isSent
      cases isSent

theorem tapReadable_frame {listener : TapListener} {input : TapReadable}
    {asked : frame.length ≤ fpaHalMaxMtuCns}
    (registered : getIfEntry listener.fdToTapIfMap input.fd = some entry)
    (drained : initDrainTime ≤ elapsedSec input.curTime (listener.initTime.getD input.initTime))
    (read : readUninterrupted input.reads = some (.got frame asked)) :
    (tapReadable env listener input).1 =
      sentFrame env input.groups entry (framePacket listener.pbuf frame) := by
  have received : ¬ bytesRecv (.got frame asked) < 0 := by
    rw [bytesRecv]
    omega
  have late : ¬ elapsedSec input.curTime (listener.initTime.getD input.initTime) < initDrainTime := by
    omega
  simp only [tapReadable, read, received, false_and, if_false, registered, late, packet_got, sentFrame]
  cases tapFrame env input.groups entry (framePacket listener.pbuf frame) <;> rfl

/-- A frame of at least 18 bytes, read from a registered TAP after the drain time, is forwarded as
its tag or its source MAC demands exactly when it fits into the buffer and, if it is tagged for a
VLAN of the port, has a tag without priority and DEI. -/
theorem frame_forwarded_iff (env : Env) (listener : TapListener) (input : TapReadable)
    (entry : TapIfEntry) (frame : List Byte) (asked : frame.length ≤ fpaHalMaxMtuCns)
    (registered : getIfEntry listener.fdToTapIfMap input.fd = some entry)
    (drained : initDrainTime ≤ elapsedSec input.curTime (listener.initTime.getD input.initTime))
    (read : readUninterrupted input.reads = some (.got frame asked)) (long : 18 ≤ frame.length) :
    ForwardsFrame env input.groups entry frame (tapReadable env listener input).1 ↔
      fpaPktSafeguard + frame.length ≤ fpaHalMaxMtuCns ∧
        (IsTagged frame → ¬ L2GroupExists env input.groups entry.portNum (frameVid frame) ∨
          (tagControl frame).toNat < 4096 ∧
            L2GroupHasBucket env input.groups entry.portNum (frameVid frame)) := by
  rw [tapReadable_frame registered drained read]
  constructor
  · intro forwards
    exact ⟨forwards.inside, fun isTagged =>
      (sendsTagged_iff asked long isTagged).mp (forwards.tagged isTagged)⟩
  · rintro ⟨inside, tags⟩
    exact ⟨inside, fun isTagged => (sendsTagged_iff asked long isTagged).mpr (tags isTagged),
      sendsUntagged asked long⟩

end Forwarding

section Priority

def port5Listener : TapListener where
  pbuf := fun _ => 0
  initTime := some ⟨0, 0⟩
  fdToTapIfMap := (Hmap.empty 0).insert ovsGrowth 3 ⟨"1".toList, 5, 1#48⟩

def port5Groups : Asic := ⟨fun _ => [], [⟨100 <<< 16 ||| 5, some (.l2Interface 5 true)⟩]⟩

def vlan100Frame (tagControl : BitVec 16) : List Byte :=
  List.replicate 12 0xff ++ bytes16 ethertypeVlan ++ bytes16 tagControl ++ [0x08, 0x00]

def vlan100Readable (tagControl : BitVec 16) : TapReadable where
  fd := 3
  reads := [.failed .eintr, .got (vlan100Frame tagControl) (by simp [vlan100Frame, fpaHalMaxMtuCns])]
  initTime := ⟨0, 0⟩
  curTime := ⟨10, 0⟩
  groups := port5Groups

theorem frame_forwarded_vlan100 : IsTagged (vlan100Frame 100) ∧
    ForwardsFrame idealEnv port5Groups ⟨"1".toList, 5, 1#48⟩ (vlan100Frame 100)
      (tapReadable idealEnv port5Listener (vlan100Readable 100)).1 := by
  refine ⟨by decide, (frame_forwarded_iff idealEnv port5Listener (vlan100Readable 100)
    ⟨"1".toList, 5, 1#48⟩ (vlan100Frame 100) (by decide) (by decide) (by decide) rfl (by decide)).mpr
    ⟨by decide, fun _ => .inr ⟨by decide, 100 <<< 16 ||| 5, .l2Interface 5 true, by decide, by decide⟩⟩⟩

/-- With priority 1 in its tag the same frame is dropped. -/
theorem priority_frame_dropped : IsTagged (vlan100Frame 0x2064) ∧ frameVid (vlan100Frame 0x2064) = 100 ∧
    (tapReadable idealEnv port5Listener (vlan100Readable 0x2064)).1.isSome = false ∧
    ¬ ForwardsFrame idealEnv port5Groups ⟨"1".toList, 5, 1#48⟩ (vlan100Frame 0x2064)
      (tapReadable idealEnv port5Listener (vlan100Readable 0x2064)).1 := by
  have dropped : (tapReadable idealEnv port5Listener (vlan100Readable 0x2064)).1.isSome = false := by
    decide
  refine ⟨by decide, by decide, dropped, fun forwards => ?_⟩
  have sent := (forwards.tagged (by decide)).member.mpr ⟨100 <<< 16 ||| 5, by decide, by decide⟩
  rw [dropped] at sent
  cases sent

end Priority

end FpaPlugin
