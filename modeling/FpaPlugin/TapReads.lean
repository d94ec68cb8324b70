import FpaPlugin.TapForward

/-! The reads of `tap_listener` over whole runs. A read that would block falls through with the
length -1, short frames are not told from whole ones, and the count that is asked for takes no
account of the safeguard before the data. -/

namespace FpaPlugin

open ByteMemory

inductive ListenerInput
  | command (cmd : CtrlCmd)
  | readable (input : TapReadable)

def ListenerInput.read : ListenerInput → Option ReadOutcome
  | .command _ => none
  | .readable input => readUninterrupted input.reads

def listenerStep (env : Env) (listener : TapListener) :
    ListenerInput → Except Fault (Option SentPacket × TapListener)
  | .command cmd =>
      .ok (none, { listener with
        fdToTapIfMap := applyCmd env.growth listener.fdToTapIfMap .tap cmd })
  | .readable input => .ok (tapReadable env listener input)

abbrev ListenerEvent := Runs.Event TapListener ListenerInput (Option SentPacket)

abbrev ListenerRun (env : Env) := Runs.Run (listenerStep env)

/-- The packet is the frame that the read returned, or that frame without its tag, as long as
`pktDataSize` says. -/
structure SendsRead (data : List Byte) (sent : SentPacket) : Prop where
  header : etherHeaderLen ≤ data.length
  inside : fpaPktSafeguard + data.length ≤ fpaHalMaxMtuCns
  packet : sent.pkt.pktDataSize.toNat = data.length ∧ sent.pkt.bytes = data ∨
    sent.pkt.pktDataSize.toNat + dot1qLen = data.length ∧
      sent.pkt.bytes = (strippedFrame data).take (data.length - dot1qLen)

def SendsOwnRead (event : ListenerEvent) (sent : SentPacket) : Prop :=
  ∃ data asked, event.input.read = some (.got data asked) ∧ SendsRead data sent

def WholeFrame (data : List Byte) : Prop :=
  etherHeaderLen ≤ data.length ∧ data.length ≤ fpaHalMaxMtuCns - fpaPktSafeguard

/-- Every read either fails, for a reason that the loop skips, or returns a whole frame. -/
def ReadsWholeFrames (event : ListenerEvent) : Prop :=
  ∀ outcome, event.input.read = some outcome →
    outcome ≠ .failed .ewouldblock ∧ ∀ data asked, outcome = .got data asked → WholeFrame data

variable {env : Env} {listener next : TapListener} {input : TapReadable} {sent : SentPacket}
  {data : List Byte} {asked : data.length ≤ fpaHalMaxMtuCns}

theorem wholeFrame_iff : WholeFrame data ↔
    etherHeaderLen ≤ data.length ∧ fpaPktSafeguard + data.length ≤ fpaHalMaxMtuCns := by
  simp only [WholeFrame, fpaHalMaxMtuCns, fpaPktSafeguard]
  omega

theorem tapFrame_some {groups : Asic} {entry : TapIfEntry} {pkt after : Packet}
    (isSent : tapFrame env groups entry pkt = some after) : after = pkt ∨ after = stripDot1q pkt := by
  rw [tapFrame] at isSent
  split at isSent
  · split at isSent
    · cases isSent
    · rename_i pop _
      cases isSent
      cases pop with
      | true => exact .inr rfl
      | false => exact .inl rfl
  · split at isSent
    · cases isSent
      exact .inl rfl
    · cases isSent

theorem tapReadable_sent (isSent : (tapReadable env listener input).1 = some sent) :
    ∃ outcome, readUninterrupted input.reads = some outcome ∧
      (bytesRecv outcome < 0 → outcome = .failed .ewouldblock) ∧
      (sent.pkt = ⟨storeRead listener.pbuf outcome, fpaPktSafeguard,
          BitVec.ofInt 32 (bytesRecv outcome)⟩ ∨
        sent.pkt = stripDot1q ⟨storeRead listener.pbuf outcome, fpaPktSafeguard,
          BitVec.ofInt 32 (bytesRecv outcome)⟩) := by
  simp only [tapReadable] at isSent
  split at isSent
  · cases isSent
  · rename_i outcome isRead
    split at isSent
    · cases isSent
    · rename_i kept
      refine ⟨outcome, isRead, ?_, ?_⟩
      · intro negative
        by_contra other
        exact kept ⟨negative, other⟩
      · split at isSent
        · cases isSent
        · split at isSent
          · cases isSent
          · split at isSent
            · cases isSent
            · rename_i forwarded
              cases isSent
              exact tapFrame_some forwarded

theorem slice_stripDot1q_take (pkt : Packet) {length : Nat} (header : 14 ≤ length) :
    slice (stripDot1q pkt).pbuf (stripDot1q pkt).pktDataPtr (length - 4) =
      (strippedFrame (slice pkt.pbuf pkt.pktDataPtr length)).take (length - 4) := by
  by_cases long : 16 ≤ length
  · have all := slice_stripDot1q pkt long
    rw [← all, List.take_of_length_le (by simp)]
  · have moved : slice (stripDot1q pkt).pbuf (stripDot1q pkt).pktDataPtr 12 =
        slice pkt.pbuf pkt.pktDataPtr 12 := slice_memmove _ _ _ _
    have ended : (slice pkt.pbuf pkt.pktDataPtr length).drop 16 = [] :=
      List.drop_eq_nil_of_le (by simp; omega)
    rw [strippedFrame, ended, List.append_nil, take_slice _ _ (by omega), ← moved,
      take_slice _ _ (by omega)]

theorem sendsRead_of_whole (pbuf : Nat → Byte) (asked : data.length ≤ fpaHalMaxMtuCns)
    (whole : WholeFrame data)
    (isPacket : sent.pkt = framePacket pbuf data ∨ sent.pkt = stripDot1q (framePacket pbuf data)) :
    SendsRead data sent := by
  obtain ⟨header, inside⟩ := wholeFrame_iff.mp whole
  refine ⟨header, inside, ?_⟩
  simp only [etherHeaderLen, fpaHalMaxMtuCns] at header asked
  have size : (framePacket pbuf data).pktDataSize.toNat = data.length := by
    rw [framePacket, BitVec.toNat_ofNat]
    omega
  rcases isPacket with isPacket | isPacket
  · rw [isPacket]
    exact .inl ⟨size, bytes_framePacket pbuf (by rw [fpaHalMaxMtuCns]; exact asked)⟩
  · have strippedSize : (stripDot1q (framePacket pbuf data)).pktDataSize.toNat = data.length - 4 := by
      rw [stripDot1q, framePacket, BitVec.toNat_sub, BitVec.toNat_ofNat, BitVec.toNat_ofNat, dot1qLen]
      omega
    rw [isPacket]
    refine .inr ⟨?_, ?_⟩
    · rw [strippedSize, dot1qLen]
      omega
    · rw [Packet.bytes, strippedSize, slice_stripDot1q_take _ header, dot1qLen]
      congr 2
      exact slice_write pbuf fpaPktSafeguard data

theorem sendsOwnRead_iff {event : ListenerEvent}
    (taken : listenerStep env event.before event.input = .ok (event.reply, event.after))
    (isSent : event.reply = some sent) :
    SendsOwnRead event sent ↔
      ∃ data asked, event.input.read = some (.got data asked) ∧ WholeFrame data := by
  constructor
  · rintro ⟨data, asked, isRead, sends⟩
    exact ⟨data, asked, isRead, wholeFrame_iff.mpr ⟨sends.header, sends.inside⟩⟩
  · rintro ⟨data, asked, isRead, whole⟩
    refine ⟨data, asked, isRead, ?_⟩
    obtain ⟨before, input, reply, after⟩ := event
    dsimp only at taken isSent isRead
    cases input with
    | command cmd => cases isRead
    | readable input =>
        have replied : (tapReadable env before input).1 = some sent := by
          rw [Except.ok.inj taken]
          exact isSent
        obtain ⟨outcome, isOutcome, _, isPacket⟩ := tapReadable_sent replied
        cases isOutcome.symm.trans isRead
        rw [packet_got] at isPacket
        exact sendsRead_of_whole before.pbuf asked whole isPacket

theorem read_of_sent {event : ListenerEvent}
    (taken : listenerStep env event.before event.input = .ok (event.reply, event.after))
    (isSent : event.reply = some sent) :
    event.input.read = some (.failed .ewouldblock) ∨
      ∃ data asked, event.input.read = some (.got data asked) := by
  obtain ⟨before, input, reply, after⟩ := event
  dsimp only at taken isSent ⊢
  cases input with
  | command cmd =>
      cases taken
      cases isSent
  | readable input =>
      have replied : (tapReadable env before input).1 = some sent := by
        rw [Except.ok.inj taken]
        exact isSent
      obtain ⟨outcome, isOutcome, negative, _⟩ := tapReadable_sent replied
      cases outcome with
      | failed errno => exact .inl (isOutcome.trans (congrArg some (negative (by simp [bytesRecv]))))
      | got data asked => exact .inr ⟨data, asked, isOutcome⟩

/-- In every run, a packet that is sent is the frame of its own read exactly when that read
returned a whole frame; so all of them are where every read that does not fail returns one and
none would block. -/
theorem sends_own_read_iff_whole (env : Env) (start : TapListener) (trace : List ListenerEvent)
    (listener : TapListener) (run : ListenerRun env start trace listener) :
    (∀ event ∈ trace, ∀ sent, event.reply = some sent →
      (SendsOwnRead event sent ↔
        ∃ data asked, event.input.read = some (.got data asked) ∧ WholeFrame data)) ∧
    (Runs.Along (fun _ event => ReadsWholeFrames event) trace →
      ∀ event ∈ trace, ∀ sent, event.reply = some sent → SendsOwnRead event sent) := by
  refine ⟨fun event member sent isSent => sendsOwnRead_iff (run.taken member) isSent, ?_⟩
  intro whole event member sent isSent
  have taken := run.taken member
  have reads : ReadsWholeFrames event := whole.of_mem member
  rw [sendsOwnRead_iff taken isSent]
  rcases read_of_sent taken isSent with blocked | ⟨data, asked, isRead⟩
  · exact ((reads _ blocked).1 rfl).elim
  · exact ⟨data, asked, isRead, (reads _ isRead).2 data asked rfl⟩

def ownFrame : List Byte :=
  List.replicate 6 0xff ++ [0, 0, 0, 0, 0, 1] ++ [0x08, 0x06] ++ List.replicate 46 0

def ownReadable (outcome : ReadOutcome) : ListenerInput :=
  .readable ⟨3, [outcome], ⟨0, 0⟩, ⟨10, 0⟩, port5Groups⟩

theorem sends_own_read_arp : ∃ trace listener, ListenerRun idealEnv port5Listener trace listener ∧
    ∃ event ∈ trace, ∃ sent, event.reply = some sent ∧ SendsOwnRead event sent := by
  obtain ⟨trace, listener, run, found⟩ := Runs.Run.of_check
    [.command (.addIf "2".toList 4 6 2#48), ownReadable (.got ownFrame (by decide))]
    (fun (trace : List ListenerEvent) (_ : TapListener) =>
      trace.any (fun event => event.reply.isSome &&
        event.input.read = some (.got ownFrame (by decide))) = true)
    (by decide +kernel : (Runs.replay (listenerStep idealEnv) [] port5Listener _).any _ = true)
  obtain ⟨event, member, isEvent⟩ := List.any_eq_true.mp found
  simp only [Bool.and_eq_true, decide_eq_true_eq] at isEvent
  obtain ⟨sent, isSent⟩ := Option.isSome_iff_exists.mp isEvent.1
  refine ⟨trace, listener, run, event, member, sent, isSent, ?_⟩
  exact ((sends_own_read_iff_whole idealEnv port5Listener trace listener run).1 event member sent
    isSent).mpr ⟨ownFrame, by decide, isEvent.2, by decide, by decide⟩

/-- After a spurious wake-up the frame of the read before is sent again, with a length of 2^32 - 1. -/
theorem stale_frame_sent : ∃ trace listener, ListenerRun idealEnv port5Listener trace listener ∧
    ∃ event ∈ trace, ∃ sent, event.reply = some sent ∧ sent.pkt.pktDataSize = 0xffffffff#32 ∧
      ¬ SendsOwnRead event sent := by
  obtain ⟨trace, listener, run, found⟩ := Runs.Run.of_check
    [ownReadable (.got ownFrame (by decide)), ownReadable (.failed .ewouldblock)]
    (fun (trace : List ListenerEvent) (_ : TapListener) =>
      trace.any (fun event => event.reply.any (fun sent => sent.pkt.pktDataSize = 0xffffffff#32) &&
        event.input.read = some (.failed .ewouldblock)) = true)
    (by decide +kernel : (Runs.replay (listenerStep idealEnv) [] port5Listener _).any _ = true)
  obtain ⟨event, member, isEvent⟩ := List.any_eq_true.mp found
  simp only [Bool.and_eq_true, decide_eq_true_eq] at isEvent
  obtain ⟨sent, isSent, size⟩ := (Option.any_eq_true _ _).mp isEvent.1
  refine ⟨trace, listener, run, event, member, sent, isSent, of_decide_eq_true size, ?_⟩
  rintro ⟨data, asked, isRead, _⟩
  rw [isEvent.2] at isRead
  cases isRead

end FpaPlugin
