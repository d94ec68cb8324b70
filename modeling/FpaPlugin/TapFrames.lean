import FpaPlugin.Lib.ByteMemory
import FpaPlugin.Tap
import FpaPlugin.System

/-! Frames in the packet buffers of the two listeners of `ops-fpa-tap.c`: the tag that
`asic_listener` puts in, and what `tap_listener` makes of a frame that it has read. -/

namespace FpaPlugin

open ByteMemory

def fpaHalMaxMtuCns : Nat := 10240

def fpaPktSafeguard : Nat := 32

def dot1qLen : Nat := 4

def ethAlen : Nat := 6

/-- `sizeof (struct ether_header)`. -/
def etherHeaderLen : Nat := 14

def ethertypeVlan : BitVec 16 := 0x8100#16

def ntohs (value : BitVec 16) : BitVec 16 := swap16 value

def htons (value : BitVec 16) : BitVec 16 := swap16 value

abbrev Byte := BitVec 8

/-- The fields of an FPA packet that the listeners use. `pktDataPtr` is an offset in `pbuf`; bytes
past the end of the buffer are followed as memory like any other. -/
structure Packet where
  pbuf : Nat → Byte
  pktDataPtr : Nat
  pktDataSize : BitVec 32

def Packet.bytes (pkt : Packet) : List Byte := slice pkt.pbuf pkt.pktDataPtr pkt.pktDataSize.toNat

def opsFpaGetEthType (pkt : Packet) : BitVec 16 :=
  ntohs (load16 pkt.pbuf (pkt.pktDataPtr + 2 * ethAlen))

section Tags

/-- The tag goes in front of the EtherType, into the room that the safeguard leaves. -/
def addDot1q (pkt : Packet) (vid : BitVec 16) : Packet :=
  let pbuf := memmove pkt.pbuf (pkt.pktDataPtr - dot1qLen) pkt.pktDataPtr (2 * ethAlen)
  let pktDataPtr := pkt.pktDataPtr - dot1qLen
  let pbuf := store16 pbuf (pktDataPtr + 2 * ethAlen) (htons ethertypeVlan)
  let pbuf := store16 pbuf (pktDataPtr + etherHeaderLen) (htons vid)
  ⟨pbuf, pktDataPtr, pkt.pktDataSize + BitVec.ofNat 32 dot1qLen⟩

def asicFrame (hw : Hw) (pkt : Packet) (vid : BitVec 16) : Packet :=
  if opsFpaVlanInternal hw vid.toNat = false ∧ opsFpaGetEthType pkt ≠ ethertypeVlan then
    addDot1q pkt vid
  else pkt

def tagVid (pkt : Packet) : BitVec 16 := ntohs (load16 pkt.pbuf (pkt.pktDataPtr + etherHeaderLen))

def stripDot1q (pkt : Packet) : Packet where
  pbuf := memmove pkt.pbuf (pkt.pktDataPtr + dot1qLen) pkt.pktDataPtr (2 * ethAlen)
  pktDataPtr := pkt.pktDataPtr + dot1qLen
  pktDataSize := pkt.pktDataSize - BitVec.ofNat 32 dot1qLen

def taggedFrame (frame : List Byte) (vid : BitVec 16) : List Byte :=
  frame.take 12 ++ bytes16 ethertypeVlan ++ bytes16 vid ++ frame.drop 12

def strippedFrame (frame : List Byte) : List Byte := frame.take 12 ++ frame.drop 16

variable {pbuf : Nat → Byte} {start : Nat} {size : BitVec 32}

theorem slice_addDot1q (room : 4 ≤ start) (vid : BitVec 16) {length : Nat} (header : 14 ≤ length) :
    slice (addDot1q ⟨pbuf, start, size⟩ vid).pbuf (start - 4) (length + 4) =
      taggedFrame (slice pbuf start length) vid := by
  have parts : length + 4 = 12 + 2 + 2 + (length - 12) := by omega
  have afterType : start - 4 + 12 + 2 = start - 4 + 14 := by omega
  have afterTag : start - 4 + 12 + 2 + 2 = start + 12 := by omega
  rw [parts, slice_add, slice_add, slice_add, taggedFrame, take_slice _ _ (by omega),
    drop_slice _ _ (by omega)]
  simp only [addDot1q, htons, store16_swap16, dot1qLen, ethAlen, etherHeaderLen]
  congr 1
  · congr 1
    · congr 1
      · rw [slice_write_apart _ (by simp), slice_write_apart _ (by simp), slice_memmove]
      · rw [slice_write_apart _ (by simp)]
        exact slice_write _ _ (bytes16 ethertypeVlan)
    · rw [afterType]
      exact slice_write _ _ (bytes16 vid)
  · rw [afterTag, slice_write_apart _ (by simp; omega), slice_write_apart _ (by simp; omega),
      slice_memmove_apart _ (by omega)]

theorem slice_stripDot1q (pkt : Packet) {length : Nat} (header : 16 ≤ length) :
    slice (stripDot1q pkt).pbuf (stripDot1q pkt).pktDataPtr (length - 4) =
      strippedFrame (slice pkt.pbuf pkt.pktDataPtr length) := by
  have parts : length - 4 = 12 + (length - 16) := by omega
  rw [parts, slice_add, strippedFrame, take_slice _ _ (by omega), drop_slice _ _ (by omega)]
  simp only [stripDot1q, dot1qLen, ethAlen]
  congr 1
  · exact slice_memmove _ _ _ _
  · rw [slice_memmove_apart _ (by omega)]

structure InsertsTag (pkt : Packet) (length : Nat) (vid : BitVec 16) (tagged : Packet) : Prop where
  pointer : tagged.pktDataPtr + dot1qLen = pkt.pktDataPtr
  size : tagged.pktDataSize = BitVec.ofNat 32 (length + dot1qLen)
  frame : slice tagged.pbuf tagged.pktDataPtr (length + dot1qLen) =
    taggedFrame (slice pkt.pbuf pkt.pktDataPtr length) vid

/-- `tap_listener` sees the tag, reads the VLAN id from it, and has the frame again without it. -/
structure RestoresFrame (frame : List Byte) (vid : BitVec 16) (tagged : Packet) : Prop where
  ethType : opsFpaGetEthType tagged = ethertypeVlan
  vlan : tagVid tagged = vid
  size : (stripDot1q tagged).pktDataSize = BitVec.ofNat 32 frame.length
  bytes : slice (stripDot1q tagged).pbuf (stripDot1q tagged).pktDataPtr frame.length = frame

theorem addDot1q_insertsTag (room : dot1qLen ≤ start) (vid : BitVec 16) {length : Nat}
    (header : 14 ≤ length) :
    InsertsTag ⟨pbuf, start, BitVec.ofNat 32 length⟩ length vid
      (addDot1q ⟨pbuf, start, BitVec.ofNat 32 length⟩ vid) where
  pointer := Nat.sub_add_cancel room
  size := (BitVec.ofNat_add length dot1qLen).symm
  frame := slice_addDot1q room vid header

theorem swap16_load16_slice {frame rest : List Byte} {before length : Nat} {value : BitVec 16}
    (held : slice pbuf start length = frame ++ bytes16 value ++ rest) (isBefore : frame.length = before) :
    swap16 (load16 pbuf (start + before)) = value := by
  have total : length = before + 2 + rest.length := by
    have lengths := congrArg List.length held
    simp only [length_slice, List.length_append, length_bytes16] at lengths
    omega
  apply bytes16_inj
  rw [bytes16_swap16_load16]
  rw [total, slice_add, slice_add] at held
  have front := List.append_inj_left held (by simp [isBefore])
  exact List.append_inj_right front (by simp [isBefore])

theorem strippedFrame_taggedFrame {frame : List Byte} (vid : BitVec 16) (header : 12 ≤ frame.length) :
    strippedFrame (taggedFrame frame vid) = frame := by
  have first : (frame.take 12).length = 12 := by
    rw [List.length_take]
    omega
  rw [strippedFrame, taggedFrame]
  simp only [List.append_assoc]
  rw [List.take_left' first, show 16 = 12 + (2 + 2) by rfl, ← List.drop_drop, List.drop_left' first,
    ← List.drop_drop, List.drop_left' (length_bytes16 _), List.drop_left' (length_bytes16 _),
    List.take_append_drop]

theorem restoresFrame_of_tagged {frame : List Byte} {vid : BitVec 16} {tagged : Packet}
    (header : 14 ≤ frame.length)
    (size : tagged.pktDataSize = BitVec.ofNat 32 (frame.length + dot1qLen))
    (held : slice tagged.pbuf tagged.pktDataPtr (frame.length + dot1qLen) = taggedFrame frame vid) :
    RestoresFrame frame vid tagged := by
  obtain ⟨pbuf, start, taggedSize⟩ := tagged
  have first : (frame.take 12).length = 12 := by
    rw [List.length_take]
    omega
  constructor
  · rw [taggedFrame, List.append_assoc] at held
    exact swap16_load16_slice held first
  · exact swap16_load16_slice held (by simp [first, etherHeaderLen])
  · change taggedSize - BitVec.ofNat 32 dot1qLen = BitVec.ofNat 32 frame.length
    have added : taggedSize = BitVec.ofNat 32 frame.length + BitVec.ofNat 32 dot1qLen := by
      rw [← BitVec.ofNat_add]
      exact size
    rw [added, BitVec.add_sub_cancel]
  · have long : 16 ≤ frame.length + dot1qLen := by
      rw [dot1qLen]
      omega
    have stripped := slice_stripDot1q ⟨pbuf, start, taggedSize⟩ long
    rw [held, strippedFrame_taggedFrame vid (by omega)] at stripped
    exact stripped

/-- The tag that `asic_listener` puts in: what the frame is then, and that `tap_listener`, with
that frame anywhere in a buffer of its own, reads the VLAN id back and takes the tag out again. -/
theorem tag_inserted_and_stripped (hw : Hw) (pbuf : Nat → Byte) (start length : Nat)
    (room : dot1qLen ≤ start) (header : 14 ≤ length) (vid : BitVec 16)
    (untagged : opsFpaGetEthType ⟨pbuf, start, BitVec.ofNat 32 length⟩ ≠ ethertypeVlan) :
    InsertsTag ⟨pbuf, start, BitVec.ofNat 32 length⟩ length vid
        (addDot1q ⟨pbuf, start, BitVec.ofNat 32 length⟩ vid) ∧
      (opsFpaVlanInternal hw vid.toNat = false →
        asicFrame hw ⟨pbuf, start, BitVec.ofNat 32 length⟩ vid =
          addDot1q ⟨pbuf, start, BitVec.ofNat 32 length⟩ vid) ∧
      ∀ tagged : Packet, tagged.pktDataSize = BitVec.ofNat 32 (length + dot1qLen) →
        slice tagged.pbuf tagged.pktDataPtr (length + dot1qLen) =
          taggedFrame (slice pbuf start length) vid →
        RestoresFrame (slice pbuf start length) vid tagged := by
  refine ⟨addDot1q_insertsTag room vid header, fun ordinary => if_pos ⟨ordinary, untagged⟩, ?_⟩
  intro tagged size held
  refine restoresFrame_of_tagged ?_ ?_ ?_
  · rw [length_slice]
    exact header
  · rw [length_slice]
    exact size
  · rw [length_slice]
    exact held

theorem tag_inserted_and_stripped_arp :
    RestoresFrame (slice (write (fun _ => 0) 32 (List.replicate 12 0xff#8 ++ [0x08, 0x06])) 32 14) 10
      (addDot1q ⟨write (fun _ => 0) 32 (List.replicate 12 0xff#8 ++ [0x08, 0x06]), 32, 14⟩ 10) := by
  have settled := tag_inserted_and_stripped idealSys.hw
    (write (fun _ => 0) 32 (List.replicate 12 0xff#8 ++ [0x08, 0x06])) 32 14 (by decide) (by decide) 10
    (by decide)
  exact settled.2.2 _ settled.1.size settled.1.frame

end Tags

section Listener

inductive Errno
  | eintr
  | ewouldblock
  | other (code : Nat)
  deriving DecidableEq, Repr

/-- What `read` returns: at most as many bytes as were asked for. -/
inductive ReadOutcome
  | failed (errno : Errno)
  | got (data : List Byte) (asked : data.length ≤ fpaHalMaxMtuCns)
  deriving DecidableEq

/-- The loop around `read`; `none` while every call so far was interrupted. -/
def readUninterrupted : List ReadOutcome → Option ReadOutcome
  | [] => none
  | .failed .eintr :: rest => readUninterrupted rest
  | outcome :: _ => some outcome

def bytesRecv : ReadOutcome → Int
  | .failed _ => -1
  | .got data _ => data.length

def storeRead (pbuf : Nat → Byte) : ReadOutcome → Nat → Byte
  | .failed _ => pbuf
  | .got data _ => write pbuf fpaPktSafeguard data

structure Timeval where
  sec : Int
  usec : Int
  deriving DecidableEq, Repr

/-- The seconds of `timersub`. -/
def elapsedSec (curTime initTime : Timeval) : Int :=
  if curTime.usec < initTime.usec then curTime.sec - initTime.sec - 1
  else curTime.sec - initTime.sec

def initDrainTime : Int := 5

structure TapListener where
  pbuf : Nat → Byte
  initTime : Option Timeval
  fdToTapIfMap : Hmap TapIfEntry

/-- An fd that `select` reported, with what the calls for it return: the reads, the time of day,
and the group table of FPA. -/
structure TapReadable where
  fd : BitVec 32
  reads : List ReadOutcome
  initTime : Timeval
  curTime : Timeval
  groups : Asic

structure SentPacket where
  pkt : Packet
  outPortNum : BitVec 32

def ethAddrBytes (mac : EthAddr) : List Byte :=
  (List.range ethAlen).map fun index => mac.extractLsb' (8 * (5 - index)) 8

variable (env : Env)

def getPortEgTagState (groups : Asic) (portNum : BitVec 32) (vlanId : BitVec 16) : Option Bool :=
  match fpaLibGroupIdentifierBuild env (.l2Interface portNum.toNat vlanId.toNat) with
  | none => none
  | some gid => (groups.bucketOf gid).map (popVlanTagAction env)

/-- The packet as it is sent, or `none` where the frame is dropped. -/
def tapFrame (groups : Asic) (entry : TapIfEntry) (pkt : Packet) : Option Packet :=
  if opsFpaGetEthType pkt = ethertypeVlan then
    match getPortEgTagState env groups entry.portNum (tagVid pkt) with
    | none => none
    | some pop => some (if pop then stripDot1q pkt else pkt)
  else if slice pkt.pbuf (pkt.pktDataPtr + ethAlen) ethAlen = ethAddrBytes entry.mac then some pkt
  else none

/-- One fd of the loop in `tap_listener`, from the read to `fpaLibPortPktSend`. -/
def tapReadable (listener : TapListener) (input : TapReadable) : Option SentPacket × TapListener :=
  match readUninterrupted input.reads with
  | none => (none, listener)
  | some outcome =>
      if bytesRecv outcome < 0 ∧ outcome ≠ .failed .ewouldblock then (none, listener)
      else
        let pkt : Packet :=
          ⟨storeRead listener.pbuf outcome, fpaPktSafeguard, BitVec.ofInt 32 (bytesRecv outcome)⟩
        let listener := { listener with pbuf := pkt.pbuf }
        match getIfEntry listener.fdToTapIfMap input.fd with
        | none => (none, listener)
        | some entry =>
            let initTime := listener.initTime.getD input.initTime
            let listener := { listener with initTime := some initTime }
            if elapsedSec input.curTime initTime < initDrainTime then (none, listener)
            else
              match tapFrame env input.groups entry pkt with
              | none => (none, listener)
              | some pkt => (some ⟨pkt, entry.portNum⟩, { listener with pbuf := pkt.pbuf })

end Listener

end FpaPlugin
