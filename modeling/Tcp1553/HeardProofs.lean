import Tcp1553.ResyncProofs
import Tcp1553.SharedProofs
import Tcp1553.SniffProofs

/-! # What the monitor hears of the controller

    A frame is sent by the sending thread or by its own button, before or after it has
    been edited, and while replies are stored in it.  Some sends find no connection, and
    the simulator answers others.

    `desk_heard` follows what was sent through the network to the monitor: it decodes,
    in order, a transaction for each packet, and one for each reply.  A packet shows the
    frame as `sendAcyclicFrame` read it, text by text. -/

namespace TcpDesk

open TcpWire TcpParser TcpFraming TcpEncoder TcpController TcpSender TcpEditor TcpWindow TcpCapture
  LabelledRuns StreamScanner

/-! ## What is sent -/

/-- The configurations sent along a run. -/
def sentBy : Shared → List SharedLabel → List Sent
  | _, [] => []
  | s, l :: ls => (sentNow s l).toList ++ (sharedStep s l).elim [] fun s' => sentBy s' ls

/-- What is sent is sent by a step. -/
theorem mem_sentBy (ls : List SharedLabel) {s t : Shared} (hrun : run sharedStep s ls = some t)
    {sent : Sent} (hsent : sent ∈ sentBy s ls) :
    ∃ before l after u u', ls = before ++ l :: after ∧ run sharedStep s before = some u ∧
      sharedStep u l = some u' ∧ sentNow u l = some sent := by
  induction ls generalizing s with
  | nil => cases hsent
  | cons l ls ih =>
      obtain ⟨s', hstep, hrest⟩ := run_cons_inv sharedStep hrun
      rcases List.mem_append.mp hsent with hnow | hlater
      · exact ⟨[], l, ls, s, s', rfl, rfl, hstep, Option.mem_toList.mp hnow⟩
      · rw [hstep] at hlater
        obtain ⟨before, m, after, u, u', rfl, hbefore, hm, hu⟩ := ih hrest hlater
        exact ⟨l :: before, m, after, u, u', rfl,
          (run_cons_of_step sharedStep hstep before).trans hbefore, hm, hu⟩

/-- The configuration was read in the run, of the frame and up to the step that sends
    it. -/
def ReadIn (words : Fin 5 → Vector UInt16 32) (ls : List SharedLabel) (sent : Sent) : Prop :=
  ∃ earlier during l after s u, ls = earlier ++ during ++ l :: after ∧
    run sharedStep (.init words) earlier = some s ∧ run sharedStep s during = some u ∧
    sentNow u l = some sent ∧ calls u l = some sent.frame ∧ ReadAlong s during sent

/-- **Whatever is sent** was read in the run, and its header is one the windows make. -/
theorem sentBy_read {words : Fin 5 → Vector UInt16 32} {ls : List SharedLabel} {t : Shared}
    (hrun : run sharedStep (.init words) ls = some t) {sent : Sent}
    (hsent : sent ∈ sentBy (.init words) ls) : ReadIn words ls sent ∧ Editable sent.config := by
  obtain ⟨before, l, after, u, u', rfl, hbefore, hstep, hnow⟩ := mem_sentBy ls hrun hsent
  obtain ⟨earlier, during, s, rfl, hearlier, hduring, hcalls, hread⟩ :=
    sent_read hbefore hstep hnow
  refine ⟨⟨earlier, during, l, after, s, u, rfl, hearlier, hduring, hnow, hcalls, hread⟩, ?_⟩
  obtain ⟨config, hconfig, heq⟩ := hread.begun
  have htidy := shared_tidy hearlier config (List.mem_of_getElem? hconfig)
  rw [heq]
  exact { htidy.editable with }

/-! ## What is on the wire -/

/-- A packet on the wire, and the replies behind it. -/
structure Exchange where
  sent    : Sent
  replies : List (List UInt8)

/-- The packets of an exchange. -/
def Exchange.packets (e : Exchange) : List (List UInt8) := packetBytes e.sent.config :: e.replies

/-- The configuration sent was read in the run, and the transactions are those of the
    exchange: one that shows it, and what the replies are decoded to. -/
structure Hears (words : Fin 5 → Vector UInt16 32) (ls : List SharedLabel) (e : Exchange)
    (heard : List MessageTransaction) : Prop where
  read    : ReadIn words ls e.sent
  request : ∃ trans, heard.head? = some trans ∧ Shows e.sent.config trans
  replies : heard.tail = e.replies.map decodeFrame

/-- **From the panel to the monitor.**  Whatever the user does, and however the threads
    of the controller, the network and the threads of the monitor are scheduled, a monitor
    that has read everything has heard, one by one, the packets that came on the wire,
    each showing the frame as it was read for it, and the replies. -/
theorem desk_heard {words : Fin 5 → Vector UInt16 32} {ls : List SharedLabel} {s : Shared}
    (hrun : run sharedStep (.init words) ls = some s) {onWire : List Exchange}
    (hsent : (onWire.map Exchange.sent).Sublist (sentBy (.init words) ls))
    (hreplies : ∀ e ∈ onWire, ∀ reply ∈ e.replies, IsFrame reply) {linkType : Int} {o : Nat}
    (ho : linkOffset linkType = some o) {ms : List SnifferLabel} (hwhole : AllWhole o ms)
    (hfit : ∀ payload ∈ sniffed o ms, payload.length ≤ kMonitorBufferBytes)
    (hstream : (sniffed o ms).flatten = (onWire.flatMap Exchange.packets).flatten) :
    ∃ t, run (snifferStep linkType) Pipeline.init ms = some t ∧
      (t.payloadQueue = [] → ∃ heard : List (List MessageTransaction),
        t.decoded = heard.flatten ∧ List.Forall₂ (Hears words ls) onWire heard) := by
  obtain ⟨p, hpipeline⟩ := pipeline_total (ms.map (onData o)) Pipeline.init
  have hsniffer := sniffer_run ho hwhole Pipeline.init
  rw [hpipeline] at hsniffer
  refine ⟨p.unrecorded, hsniffer, fun hempty => ?_⟩
  have hframes : ∀ packet ∈ onWire.flatMap Exchange.packets, IsFrame packet := by
    intro packet hin
    obtain ⟨e, he, hpacket⟩ := List.mem_flatMap.mp hin
    rcases List.mem_cons.mp hpacket with rfl | hreply
    · exact ⟨length_packetBytes _, frameAt_packetBytes _⟩
    · exact hreplies e he packet hreply
  have hdecoded : p.decoded = (onWire.flatMap Exchange.packets).map decodeFrame := by
    have hbytes : (payloadsOf (ms.map (onData o))).flatten
        = (onWire.flatMap Exchange.packets).flatten := hstream
    rw [drained_run hfit hpipeline hempty, hbytes, scan_frames _ hframes]
    exact transactions_frames _
  refine ⟨onWire.map fun e => e.packets.map decodeFrame, ?_, ?_⟩
  · show p.decoded = _
    rw [hdecoded, List.map_flatMap, List.flatMap_def]
  · rw [List.forall₂_map_right_iff, List.forall₂_same]
    intro e he
    obtain ⟨hread, heditable⟩ := sentBy_read hrun (hsent.subset (List.mem_map_of_mem he))
    exact ⟨hread, ⟨_, rfl, shows_editable heditable⟩, rfl⟩

/-- The sending thread is about to send frame 1, and the closure of a reply for it has
    written half of its texts.  The packet is made, and only then the rest is written. -/
def sendWhileStoring : List SharedLabel :=
  [.desk (.panel (.ui .toggleClick)), .desk (.panel (.send .testSending)),
    .desk (.panel (.send (.initBc true))), .desk (.panel (.send .postSnapshot)),
    .desk (.panel (.ui .runClosure)), .desk (.panel (.send .getFrames)),
    .desk (.panel (.send .nextFrame)), .desk (.panel (.send (.isActive false))),
    .desk (.panel (.send .nextFrame)), .desk (.sendOnce 1 true),
    .desk (.panel (.send (.isActive true))), .beginStore (Vector.replicate 32 0x1111)]
  ++ List.replicate 16 (.writeText 1) ++ [.beginSend] ++ List.replicate 32 .readText
  ++ [.endSend false] ++ List.replicate 16 (.writeText 1) ++ [.endStore]

/-- It has half of the reply, and the monitor hears it so, and what the simulator
    answers. -/
theorem desk_heard_torn :
    ∃ torn : Sent,
      torn.config.data.toList = List.replicate 16 "1111" ++ List.replicate 16 "0000" ∧
      ∃ t, run (snifferStep dltEn10mb) Pipeline.init
          (splitPacket (packetBytes torn.config) (length_packetBytes torn.config)
            ++ splitPacket (packetBytes syncFrame) (length_packetBytes syncFrame)) = some t ∧
        (t.payloadQueue = [] → ∃ heard : List (List MessageTransaction),
          t.decoded = heard.flatten ∧
            List.Forall₂ (Hears (fun _ => Vector.replicate 32 0) sendWhileStoring)
              [⟨torn, [packetBytes syncFrame]⟩] heard) := by
  have hpossible : (run sharedStep (.init fun _ => Vector.replicate 32 0)
      sendWhileStoring).isSome = true := by
    decide +kernel
  obtain ⟨s, hrun⟩ := Option.isSome_iff_exists.mp hpossible
  have htexts : (sentBy (.init fun _ => Vector.replicate 32 0) sendWhileStoring).map
      (fun sent => sent.config.data.toList) = [List.replicate 32 "0000",
        List.replicate 16 "1111" ++ List.replicate 16 "0000"] := by
    decide +kernel
  obtain ⟨once, rest, hsent, -, hrest⟩ := List.map_eq_cons_iff.mp htexts
  obtain ⟨torn, rfl, htorn⟩ := List.map_eq_singleton_iff.mp hrest
  have hlen := length_packetBytes torn.config
  have hlen' := length_packetBytes syncFrame
  obtain ⟨hwhole, hsniffed⟩ := whole_splitPacket hlen
  obtain ⟨hwhole', hsniffed'⟩ := whole_splitPacket hlen'
  have hboth : sniffed 14 (splitPacket _ hlen ++ splitPacket _ hlen')
      = [(packetBytes torn.config).take 40, (packetBytes torn.config).drop 40,
        (packetBytes syncFrame).take 40, (packetBytes syncFrame).drop 40] := by
    show sniffed 14 (splitPacket _ hlen) ++ sniffed 14 (splitPacket _ hlen') = _
    rw [hsniffed, hsniffed']
    rfl
  have hfit : ∀ {packet : List UInt8}, packet.length = 70 →
      (packet.take 40).length ≤ kMonitorBufferBytes ∧
        (packet.drop 40).length ≤ kMonitorBufferBytes := by
    intro packet h
    rw [List.length_take, List.length_drop, h]
    decide
  refine ⟨torn, htorn, desk_heard hrun ?_ ?_ rfl ?_ (fun payload hin => ?_) ?_⟩
  · rw [hsent]
    exact (List.Sublist.refl [torn]).cons once
  · exact List.forall_mem_singleton.mpr
      (List.forall_mem_singleton.mpr ⟨hlen', frameAt_packetBytes syncFrame⟩)
  · exact fun frame hin => (List.mem_append.mp hin).elim (hwhole frame) (hwhole' frame)
  · rw [hboth] at hin
    simp only [List.mem_cons, List.not_mem_nil, or_false] at hin
    rcases hin with rfl | rfl | rfl | rfl
    · exact (hfit hlen).1
    · exact (hfit hlen).2
    · exact (hfit hlen').1
    · exact (hfit hlen').2
  · rw [hboth, List.flatMap_singleton, Exchange.packets]
    simp only [List.flatten_cons, List.flatten_nil, List.append_nil, ← List.append_assoc,
      List.take_append_drop]

end TcpDesk
