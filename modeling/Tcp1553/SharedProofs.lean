import Mathlib.Data.List.Induction
import Tcp1553.DeskProofs
import Tcp1553.OrderProofs

/-! # Sending a frame while a reply is stored in it

    `sendAcyclicFrame` takes the configuration of a frame by reference and reads its
    texts one after the other.  The closure that stores a reply writes them one after
    the other, on the UI thread, and no lock is common to the two: a packet can have
    some texts of the reply and some of what was there before.

    `deskStep` stores and sends in one step.  Here the two loops are taken apart, one
    text a step; the frames they work on have not been destroyed.  `shared_desk` says
    that the panel and the frames are what they are with replies stored in one step,
    `atFrame_step` that the loop stays at its frame, and `sent_read` what a packet is
    made of. -/

namespace TcpDesk

open TcpEncoder TcpController TcpRelay TcpSender TcpEditor TcpWindow LabelledRuns

/-! ## State -/

/-- `sendAcyclicFrame` on the sending thread, in its loop: the configuration as the
    packet was begun, and the texts read so far. -/
structure Copy where
  frame  : Nat
  config : FrameConfig
  texts  : List String

/-- The closure of a reply, in its loop. -/
structure Store where
  frame   : Nat
  words   : Vector UInt16 32
  written : Nat

/-- The desk with the loops that are under way. -/
structure Shared where
  desk  : Desk
  copy  : Option Copy
  store : Option Store

def Shared.init (words : Fin 5 → Vector UInt16 32) : Shared where
  desk  := Desk.init words
  copy  := none
  store := none

/-- The texts, once all have been read. -/
def Copy.data (c : Copy) : Vector String 32 := Vector.ofFn fun i : Fin 32 => c.texts.getD i.val ""

/-- The configuration that the packet shows. -/
def Copy.sent (c : Copy) : FrameConfig := { c.config with data := c.data }

/-- The configuration of a frame that has not been destroyed. -/
def Desk.living (s : Desk) (frame : Nat) : Option FrameConfig :=
  if .destroy frame ∈ s.panel.events then none else s.configs[frame]?

/-- Write one text. -/
def writeData (i : Nat) (text : String) (config : FrameConfig) : FrameConfig :=
  { config with data := config.data.setIfInBounds i text }

/-! ## Steps -/

/-- The steps of the desk, and those of the two loops. -/
inductive SharedLabel where
  | desk (l : DeskLabel)
  | beginSend
  | readText
  | endSend (gotReply : Bool)
  | beginStore (words : Vector UInt16 32)
  | writeText (frame : Nat)
  | endStore

/-- What goes on during the loops.  A closure that stores holds the UI thread, and
    `m_apiMutex` lets one send in at a time.  In one step the sending thread makes only
    the sends that find no connection. -/
def Shared.allows (s : Shared) : DeskLabel → Bool
  | .received _ => false
  | .panel (.send (.sendFrame gotReply)) => s.copy.isNone && !gotReply
  | .panel (.send _) => true
  | .sendOnce _ _ => s.copy.isNone && s.store.isNone
  | _ => s.store.isNone

/-- One step of the desk or of a loop. -/
def sharedStep (s : Shared) : SharedLabel → Option Shared
  | .desk l =>
      if s.allows l = true then (deskStep s.desk l).map fun desk => { s with desk := desk }
      else none
  | .beginSend =>
      match s.copy, s.desk.panel.sendThread with
      | none, some (.sending frame _) =>
          (s.desk.living frame).map fun config => { s with copy := some ⟨frame, config, []⟩ }
      | _, _ => none
  | .readText => do
      let c ← s.copy
      let config ← s.desk.living c.frame
      let text ← config.data.toList[c.texts.length]?
      return { s with copy := some { c with texts := c.texts ++ [text] } }
  | .endSend gotReply => do
      let c ← s.copy
      if c.texts.length = 32 then
        (panelStep s.desk.panel (.send (.sendFrame gotReply))).map fun panel =>
          { s with desk.panel := panel, copy := none }
      else none
  | .beginStore words =>
      match s.store, s.desk.panel.uiThread, s.desk.panel.uiQueue with
      | none, .idle, .received frame :: _ =>
          (s.desk.living frame).map fun _ => { s with store := some ⟨frame, words, 0⟩ }
      | _, _, _ => none
  | .writeText frame => do
      let st ← s.store
      let word ← st.words.toList[st.written]?
      if st.frame = frame then
        return { s with
          desk.configs := s.desk.configs.modify frame (writeData st.written (hexWord word))
          store := some { st with written := st.written + 1 } }
      else none
  | .endStore => do
      let st ← s.store
      if st.written = 32 then
        (s.desk.panel.uiStep .runClosure).map fun panel =>
          { s with desk.panel := panel, store := none }
      else none

/-- What a step does. -/
inductive Shared.Does (s : Shared) : SharedLabel → Shared → Prop where
  | desk {l : DeskLabel} {desk : Desk} : s.allows l = true → deskStep s.desk l = some desk →
      Does s (.desk l) { s with desk := desk }
  | begins {frame : Nat} {rest : List Nat} {config : FrameConfig} : s.copy = none →
      s.desk.panel.sendThread = some (.sending frame rest) → s.desk.configs[frame]? = some config →
      Does s .beginSend { s with copy := some ⟨frame, config, []⟩ }
  | reads {c : Copy} {config : FrameConfig} {text : String} : s.copy = some c →
      s.desk.configs[c.frame]? = some config → config.data.toList[c.texts.length]? = some text →
      Does s .readText { s with copy := some { c with texts := c.texts ++ [text] } }
  | sends {c : Copy} {gotReply : Bool} {panel : Panel} : s.copy = some c → c.texts.length = 32 →
      panelStep s.desk.panel (.send (.sendFrame gotReply)) = some panel →
      Does s (.endSend gotReply) { s with desk.panel := panel, copy := none }
  | stores {words : Vector UInt16 32} {frame : Nat} {rest : List Closure} : s.store = none →
      s.desk.panel.uiQueue = .received frame :: rest →
      Does s (.beginStore words) { s with store := some ⟨frame, words, 0⟩ }
  | writes {st : Store} {word : UInt16} : s.store = some st →
      st.words.toList[st.written]? = some word →
      Does s (.writeText st.frame) { s with
        desk.configs := s.desk.configs.modify st.frame (writeData st.written (hexWord word))
        store := some { st with written := st.written + 1 } }
  | stored {st : Store} {panel : Panel} : s.store = some st → st.written = 32 →
      s.desk.panel.uiStep .runClosure = some panel →
      Does s .endStore { s with desk.panel := panel, store := none }

theorem Desk.living_some {s : Desk} {frame : Nat} {config : FrameConfig}
    (h : s.living frame = some config) : s.configs[frame]? = some config := by
  rw [Desk.living] at h
  split at h
  · cases h
  · exact h

theorem sharedStep_cases {s s' : Shared} {l : SharedLabel} (hstep : sharedStep s l = some s') :
    s.Does l s' := by
  cases l with
  | desk l =>
      obtain ⟨hallows, heq⟩ := Option.ite_none_right_eq_some.mp hstep
      obtain ⟨desk, hdesk, rfl⟩ := Option.map_eq_some_iff.mp heq
      exact .desk hallows hdesk
  | beginSend =>
      rw [sharedStep] at hstep
      split at hstep
      · rename_i frame rest hcopy hthread
        obtain ⟨config, hliving, rfl⟩ := Option.map_eq_some_iff.mp hstep
        exact .begins hcopy hthread (Desk.living_some hliving)
      · cases hstep
  | readText =>
      obtain ⟨c, hcopy, hrest⟩ := Option.bind_eq_some_iff.mp hstep
      obtain ⟨config, hliving, hrest⟩ := Option.bind_eq_some_iff.mp hrest
      obtain ⟨text, htext, hdone⟩ := Option.bind_eq_some_iff.mp hrest
      cases hdone
      exact .reads hcopy (Desk.living_some hliving) htext
  | endSend gotReply =>
      obtain ⟨c, hcopy, hrest⟩ := Option.bind_eq_some_iff.mp hstep
      obtain ⟨hlength, heq⟩ := Option.ite_none_right_eq_some.mp hrest
      obtain ⟨panel, hpanel, rfl⟩ := Option.map_eq_some_iff.mp heq
      exact .sends hcopy hlength hpanel
  | beginStore words =>
      rw [sharedStep] at hstep
      split at hstep
      · rename_i frame rest hstore hidle hqueue
        obtain ⟨config, -, rfl⟩ := Option.map_eq_some_iff.mp hstep
        exact .stores hstore hqueue
      · cases hstep
  | writeText frame =>
      obtain ⟨st, hstore, hrest⟩ := Option.bind_eq_some_iff.mp hstep
      obtain ⟨word, hword, hrest⟩ := Option.bind_eq_some_iff.mp hrest
      obtain ⟨rfl, hdone⟩ := Option.ite_none_right_eq_some.mp hrest
      cases hdone
      exact .writes hstore hword
  | endStore =>
      obtain ⟨st, hstore, hrest⟩ := Option.bind_eq_some_iff.mp hstep
      obtain ⟨hwritten, heq⟩ := Option.ite_none_right_eq_some.mp hrest
      obtain ⟨panel, hpanel, rfl⟩ := Option.map_eq_some_iff.mp heq
      exact .stored hstore hwritten hpanel

/-! ## What the panel makes of it -/

/-- The texts with the first words of a reply in place. -/
def replaced (words : Vector UInt16 32) (n : Nat) (data : Vector String 32) : Vector String 32 :=
  Vector.ofFn fun i : Fin 32 => if i.val < n then hexWord (words.get i) else data.get i

theorem replaced_zero (words : Vector UInt16 32) (data : Vector String 32) :
    replaced words 0 data = data := by
  ext i hi
  rw [replaced, Vector.getElem_ofFn, if_neg (Nat.not_lt_zero i)]
  rfl

theorem replaced_all (words : Vector UInt16 32) (data : Vector String 32) :
    replaced words 32 data = words.map hexWord := by
  ext i hi
  rw [replaced, Vector.getElem_ofFn, if_pos hi, Vector.getElem_map]
  rfl

/-- The next word. -/
theorem replaced_succ {words : Vector UInt16 32} {n : Nat} {word : UInt16}
    (hword : words.toList[n]? = some word) (data : Vector String 32) :
    (replaced words n data).setIfInBounds n (hexWord word) = replaced words (n + 1) data := by
  obtain ⟨hn, rfl⟩ := List.getElem?_eq_some_iff.mp hword
  ext i hi
  rw [Vector.getElem_setIfInBounds, replaced, Vector.getElem_ofFn, replaced, Vector.getElem_ofFn]
  by_cases heq : n = i
  · subst heq
    rw [if_pos rfl, if_pos (Nat.lt_succ_self n)]
    rfl
  · have hlt : i < n ↔ i < n + 1 := by omega
    simp only [if_neg heq, hlt]

/-- The configuration with them. -/
def partly (words : Vector UInt16 32) (n : Nat) (config : FrameConfig) : FrameConfig :=
  { config with data := replaced words n config.data }

theorem partly_zero (words : Vector UInt16 32) : partly words 0 = id := by
  funext config
  rw [partly, replaced_zero]
  rfl

theorem partly_all (words : Vector UInt16 32) : partly words 32 = storeWords words := by
  funext config
  rw [partly, replaced_all]
  rfl

theorem writeData_partly {words : Vector UInt16 32} {n : Nat} {word : UInt16}
    (hword : words.toList[n]? = some word) :
    writeData n (hexWord word) ∘ partly words n = partly words (n + 1) := by
  funext config
  rw [Function.comp_apply, writeData, partly, partly, ← replaced_succ hword]

theorem partly_tidy {config : FrameConfig} (h : Tidy config) (words : Vector UInt16 32) (n : Nat) :
    Tidy (partly words n config) := by
  refine h.withData fun text htext => ?_
  obtain ⟨i, rfl⟩ := Vector.mem_ofFn.mp htext
  split
  · exact Nat.le_of_eq (length_hexWord _)
  · exact h.texts _ (Vector.getElem_mem i.isLt)

/-- The configurations, with what the closure has written. -/
def storing : Option Store → List FrameConfig → List FrameConfig
  | none, configs => configs
  | some st, configs => configs.modify st.frame (partly st.words st.written)

/-- The shared desk is one that stores replies in one step, but for the reply that is
    being stored. -/
structure Follows (s : Shared) (d : Desk) : Prop where
  desk  : s.desk = { d with configs := storing s.store d.configs }
  queue : ∀ st, s.store = some st → ∃ rest, d.panel.uiQueue = .received st.frame :: rest

theorem Follows.panel {s : Shared} {d : Desk} (h : Follows s d) : s.desk.panel = d.panel := by
  rw [h.desk]

theorem Follows.idle {s : Shared} {d : Desk} (h : Follows s d) (hstore : s.store = none) :
    s.desk = d := by
  rw [h.desk, hstore]
  rfl

/-- A step of the sending thread. -/
theorem Follows.send {s : Shared} {d : Desk} (h : Follows s d) {l : SendLabel} {panel : Panel}
    (hpanel : panelStep s.desk.panel (.send l) = some panel) (copy : Option Copy) :
    ∃ d', Reaches deskStep d d' ∧ Follows { s with desk.panel := panel, copy := copy } d' := by
  rw [h.panel] at hpanel
  have hstep : deskStep d (.panel (.send l)) = some { d with panel := panel } := by
    rw [deskStep, if_pos ⟨trivial, rfl⟩, hpanel]
    rfl
  refine ⟨_, .head deskStep hstep (.refl deskStep _), ?_, fun st hst => ?_⟩
  · show ({ s.desk with panel := panel } : Desk) = _
    rw [h.desk]
  · -- the thread only adds to the queue
    obtain ⟨m, -, rfl⟩ := Option.map_eq_some_iff.mp hpanel
    obtain ⟨rest, hqueue⟩ := h.queue st hst
    refine ⟨rest ++ m.posts, ?_⟩
    show d.panel.uiQueue ++ m.posts = _
    rw [hqueue, List.cons_append]

/-- While a reply is stored only the sending thread moves. -/
theorem allows_storing {s : Shared} {st : Store} {l : DeskLabel} (hstore : s.store = some st)
    (hallows : s.allows l = true) : ∃ m, l = .panel (.send m) := by
  cases l with
  | panel l =>
      cases l with
      | send m => exact ⟨m, rfl⟩
      | ui => simp [Shared.allows, hstore] at hallows
  | received => cases hallows
  | _ => simp [Shared.allows, hstore] at hallows

/-- **Step lemma**: a reply is stored when its last text has been written. -/
theorem follows_step {s s' : Shared} {d : Desk} {l : SharedLabel} (h : Follows s d)
    (hstep : sharedStep s l = some s') : ∃ d', Reaches deskStep d d' ∧ Follows s' d' := by
  cases sharedStep_cases hstep with
  | @desk l desk hallows hdesk =>
      rcases Option.eq_none_or_eq_some s.store with hstore | ⟨st, hstore⟩
      · rw [h.idle hstore] at hdesk
        refine ⟨desk, .head deskStep hdesk (.refl deskStep _), ?_, fun st hst => ?_⟩
        · show desk = { desk with configs := storing s.store desk.configs }
          rw [hstore]
          rfl
        · cases hstore.symm.trans hst
      · obtain ⟨m, rfl⟩ := allows_storing hstore hallows
        cases deskStep_cases hdesk with
        | panel _ hpanel => exact h.send hpanel s.copy
  | begins | reads => exact ⟨d, .refl deskStep d, h.desk, h.queue⟩
  | sends _ _ hpanel => exact h.send hpanel none
  | @stores words frame rest hstore hqueue =>
      refine ⟨d, .refl deskStep d, ?_, fun st hst => ?_⟩
      · show s.desk = { d with configs := d.configs.modify frame (partly words 0) }
        rw [partly_zero, List.modify_id]
        exact h.idle hstore
      · cases hst
        exact ⟨rest, h.panel ▸ hqueue⟩
  | @writes st word hstore hword =>
      refine ⟨d, .refl deskStep d, ?_, fun st' hst => ?_⟩
      · have hconfigs : s.desk.configs
            = d.configs.modify st.frame (partly st.words st.written) := by
          rw [h.desk, hstore]
          rfl
        show ({ s.desk with
          configs := s.desk.configs.modify st.frame (writeData st.written (hexWord word)) } : Desk)
            = { d with configs := d.configs.modify st.frame (partly st.words (st.written + 1)) }
        rw [hconfigs, List.modify_modify_eq, writeData_partly hword, h.desk]
      · cases hst
        exact h.queue st hstore
  | @stored st panel hstore hwritten hpanel =>
      obtain ⟨rest, hqueue⟩ := h.queue st hstore
      rw [h.panel] at hpanel
      have hdesk : deskStep d (.received st.words) = some { d with
          panel := panel, configs := d.configs.modify st.frame (storeWords st.words) } := by
        rw [deskStep, hqueue]
        simp only [hpanel, Option.map_some]
      refine ⟨_, .head deskStep hdesk (.refl deskStep _), ?_, fun st' hst => by cases hst⟩
      show ({ s.desk with panel := panel } : Desk) = _
      rw [h.desk, hstore]
      show ({ d with
        panel := panel
        configs := d.configs.modify st.frame (partly st.words st.written) } : Desk) = _
      rw [hwritten, partly_all]
      rfl

/-- **Run lemma.**  The panel, the windows and, but for a reply that is being stored, the
    frames are those of a desk that stores and sends in one step. -/
theorem shared_desk {words : Fin 5 → Vector UInt16 32} {ls : List SharedLabel} {s : Shared}
    (hrun : run sharedStep (.init words) ls = some s) :
    ∃ d, Reaches deskStep (Desk.init words) d ∧ Follows s d := by
  have hinit : ∃ d, Reaches deskStep (Desk.init words) d ∧ Follows (.init words) d :=
    ⟨_, .refl deskStep _, rfl, fun st hst => by cases hst⟩
  have hkeeps : ∀ s l s', (∃ d, Reaches deskStep (Desk.init words) d ∧ Follows s d) →
      sharedStep s l = some s' → ∃ d, Reaches deskStep (Desk.init words) d ∧ Follows s' d := by
    rintro s l s' ⟨d, hreach, hfollows⟩ hstep
    obtain ⟨d', hreach', hfollows'⟩ := follows_step hfollows hstep
    exact ⟨d', .trans deskStep hreach hreach', hfollows'⟩
  exact run_invariant sharedStep hkeeps ls hinit hrun

/-- **All the time** every configuration is tidy. -/
theorem shared_tidy {words : Fin 5 → Vector UInt16 32} {ls : List SharedLabel} {s : Shared}
    (hrun : run sharedStep (.init words) ls = some s) : ∀ config ∈ s.desk.configs, Tidy config := by
  obtain ⟨d, ⟨ms, hreach⟩, hfollows⟩ := shared_desk hrun
  have hsound := run_invariant deskStep sound_step ms (sound_init words) hreach
  intro config hin
  rw [hfollows.desk] at hin
  cases hstore : s.store with
  | none =>
      rw [hstore] at hin
      exact (hsound.tidy config hin).1
  | some st =>
      rw [hstore] at hin
      rcases mem_modify hin with hold | ⟨old, hold, rfl⟩
      · exact (hsound.tidy config hold).1
      · exact partly_tidy (hsound.tidy old hold).1 _ _

/-! ## Which frame a packet is for -/

/-- The frame whose `sendFrame` a step calls. -/
def calls (s : Shared) : SharedLabel → Option Nat
  | .endSend _ =>
      match s.desk.panel.sendThread with
      | some (.sending frame _) => some frame
      | _ => none
  | .desk (.sendOnce frame _) => some frame
  | _ => none

/-- The UI thread leaves a sending thread that is at a frame where it is. -/
theorem sending_uiStep {s s' : Panel} {l : UiLabel} {frame : Nat} {rest : List Nat}
    (hsound : TcpSender.Sound s) (h : s.sendThread = some (.sending frame rest))
    (hstep : s.uiStep l = some s') : s'.sendThread = some (.sending frame rest) := by
  cases uiStep_loopMove hstep with
  | keeps _ hsame => exact hsame.thread.trans h
  | starts hidle hoff => cases (hsound.settled hidle hoff).symm.trans h
  | joins hfinished => cases hfinished.symm.trans h
  | takes => exact h

theorem sending_deskStep {s s' : Desk} {l : DeskLabel} {frame : Nat} {rest : List Nat}
    (hsound : TcpSender.Sound s.panel) (h : s.panel.sendThread = some (.sending frame rest))
    (hl : ∀ m, l ≠ .panel (.send m)) (hstep : deskStep s l = some s') :
    s'.panel.sendThread = some (.sending frame rest) := by
  cases deskStep_cases hstep with
  | opens | edits | moves | cancels | sendsOnce => exact h
  | saves _ _ hpanel => exact sending_uiStep hsound h hpanel
  | removes _ hpanel => exact sending_uiStep hsound h hpanel
  | stores _ hpanel => exact sending_uiStep hsound h hpanel
  | @panel l panel _ hpanel =>
      cases l with
      | ui l => exact sending_uiStep hsound h hpanel
      | send m => exact absurd rfl (hl m)

/-- The threads of the panel stay sound under the events of windows and frames. -/
theorem panelSound_deskStep {s s' : Desk} {l : DeskLabel} (h : TcpSender.Sound s.panel)
    (hstep : deskStep s l = some s') : TcpSender.Sound s'.panel := by
  cases deskStep_cases hstep with
  | opens | edits | moves | cancels => exact h
  | @saves id w config panel _ _ hpanel =>
      exact TcpSender.sound_step s.panel (.ui (saving w.source)) panel h hpanel
  | @removes frame panel _ hpanel =>
      exact TcpSender.sound_step s.panel (.ui (.removeFrame frame)) panel h hpanel
  | @stores words frame rest panel _ hpanel =>
      exact TcpSender.sound_step s.panel (.ui .runClosure) panel h hpanel
  | @panel l panel _ hpanel => exact TcpSender.sound_step s.panel l panel h hpanel
  | @sendsOnce frame gotReply =>
      refine h.of_same rfl rfl rfl (promisesOf_post s.panel ?_) rfl
      cases gotReply <;> rfl

/-- The loop that reads is the one of the frame the sending thread is at. -/
structure AtFrame (s : Shared) : Prop where
  panel : TcpSender.Sound s.desk.panel
  copy  : ∀ c, s.copy = some c → ∃ rest, s.desk.panel.sendThread = some (.sending c.frame rest)

/-- **Step lemma** of the sending thread. -/
theorem atFrame_step (s : Shared) (l : SharedLabel) (s' : Shared) (h : AtFrame s)
    (hstep : sharedStep s l = some s') : AtFrame s' := by
  cases sharedStep_cases hstep with
  | @desk l desk hallows hdesk =>
      refine ⟨panelSound_deskStep h.panel hdesk, fun c hcopy => ?_⟩
      have hold : s.copy = some c := hcopy
      obtain ⟨rest, hthread⟩ := h.copy c hold
      refine ⟨rest, sending_deskStep h.panel hthread (fun m hl => ?_) hdesk⟩
      -- the only step the thread could make is the end of the send
      subst hl
      cases deskStep_cases hdesk with
      | panel _ hpanel =>
          obtain ⟨move, hmove, -⟩ := Option.map_eq_some_iff.mp hpanel
          obtain ⟨t, ht, hsends⟩ := sendMove_cases hmove
          cases hthread.symm.trans ht
          cases hsends with
          | replied | notReplied => simp [Shared.allows, hold] at hallows
  | @begins frame rest config _ hthread _ =>
      refine ⟨h.panel, fun c hcopy => ?_⟩
      cases hcopy
      exact ⟨rest, hthread⟩
  | @reads c config text hold =>
      refine ⟨h.panel, fun c' hcopy => ?_⟩
      cases hcopy
      exact h.copy c hold
  | @sends c gotReply panel _ _ hpanel =>
      exact ⟨TcpSender.sound_step s.desk.panel (.send (.sendFrame gotReply)) panel h.panel hpanel,
        fun c hcopy => by cases hcopy⟩
  | stores | writes => exact ⟨h.panel, h.copy⟩
  | @stored st panel _ _ hpanel =>
      refine ⟨TcpSender.sound_step s.desk.panel (.ui .runClosure) panel h.panel hpanel,
        fun c hcopy => ?_⟩
      obtain ⟨rest, hthread⟩ := h.copy c hcopy
      exact ⟨rest, sending_uiStep h.panel hthread hpanel⟩

theorem atFrame_init (words : Fin 5 → Vector UInt16 32) : AtFrame (.init words) where
  panel := TcpSender.sound_init
  copy  := fun c hcopy => by cases hcopy

/-! ## What a packet is made of -/

/-- The text is in this place of the frame. -/
def Stands (s : Shared) (frame i : Nat) (text : String) : Prop :=
  ∃ config, s.desk.configs[frame]? = some config ∧ config.data.toList[i]? = some text

/-- A frame, and a configuration sent for it. -/
structure Sent where
  frame  : Nat
  config : FrameConfig

/-- What a step sends.  "Send Once" reads on the UI thread, where nothing is stored
    meanwhile. -/
def sentNow (s : Shared) : SharedLabel → Option Sent
  | .endSend _ => s.copy.map fun c => ⟨c.frame, c.sent⟩
  | .desk (.sendOnce frame _) => s.desk.configs[frame]?.map fun config => ⟨frame, config⟩
  | _ => none

/-- The configuration was read along `during`, from `s` on: all but the texts when the
    packet was begun, and each text when it was in its place. -/
structure ReadAlong (s : Shared) (during : List SharedLabel) (sent : Sent) : Prop where
  begun : ∃ config, s.desk.configs[sent.frame]? = some config ∧
    sent.config = { config with data := sent.config.data }
  texts : ∀ i text, sent.config.data.toList[i]? = some text →
    ∃ upto t, upto <+: during ∧ run sharedStep s upto = some t ∧ Stands t sent.frame i text
  quiet : .writeText sent.frame ∉ during → s.desk.configs[sent.frame]? = some sent.config

/-- **Step lemma**: a frame keeps its configuration until a text is written in it. -/
theorem config_step {s s' : Shared} {l : SharedLabel} {frame : Nat} {config : FrameConfig}
    (h : s.desk.configs[frame]? = some config) (hl : l ≠ .writeText frame)
    (hstep : sharedStep s l = some s') : s'.desk.configs[frame]? = some config := by
  cases sharedStep_cases hstep with
  | desk hallows hdesk =>
      cases deskStep_cases hdesk with
      | saves =>
          obtain ⟨hlt, -⟩ := List.getElem?_eq_some_iff.mp h
          exact (List.getElem?_append_left hlt).trans h
      | stores => cases hallows
      | _ => exact h
  | @writes st word hstore hword =>
      have hother : st.frame ≠ frame := fun heq => hl (heq ▸ rfl)
      exact (List.getElem?_modify_ne _ _ hother).trans h
  | _ => exact h

theorem config_run (ls : List SharedLabel) {s t : Shared} {frame : Nat} {config : FrameConfig}
    (h : s.desk.configs[frame]? = some config) (hls : .writeText frame ∉ ls)
    (hrun : run sharedStep s ls = some t) : t.desk.configs[frame]? = some config := by
  induction ls generalizing s with
  | nil =>
      cases hrun
      exact h
  | cons l ls ih =>
      obtain ⟨s', hstep, hrest⟩ := run_cons_inv sharedStep hrun
      have hl : l ≠ .writeText frame := fun heq => hls (heq ▸ List.mem_cons_self)
      exact ih (config_step h hl hstep) (fun hin => hls (List.mem_cons_of_mem l hin)) hrest

/-- A loop that began in `s` and has read these texts along `during`. -/
structure Copied (s : Shared) (during : List SharedLabel) (c : Copy) : Prop where
  begun : s.desk.configs[c.frame]? = some c.config
  texts : ∀ i text, c.texts[i]? = some text →
    ∃ upto t, upto <+: during ∧ run sharedStep s upto = some t ∧ Stands t c.frame i text
  quiet : .writeText c.frame ∉ during → c.texts <+: c.config.data.toList

/-- Another step goes by. -/
theorem Copied.later {s : Shared} {during : List SharedLabel} {c : Copy} (h : Copied s during c)
    (l : SharedLabel) : Copied s (during ++ [l]) c where
  begun := h.begun
  texts := by
    intro i text htext
    obtain ⟨upto, t, hprefix, hrun, hstands⟩ := h.texts i text htext
    exact ⟨upto, t, hprefix.trans (List.prefix_append _ _), hrun, hstands⟩
  quiet := fun hnone => h.quiet fun hin => hnone (List.mem_append_left _ hin)

/-- One more text is read. -/
theorem Copied.read {s u : Shared} {during : List SharedLabel} {c : Copy} (h : Copied s during c)
    (hrun : run sharedStep s during = some u) {config : FrameConfig} {text : String}
    (hconfig : u.desk.configs[c.frame]? = some config)
    (htext : config.data.toList[c.texts.length]? = some text) :
    Copied s during { c with texts := c.texts ++ [text] } where
  begun := h.begun
  texts := by
    intro i text' htext'
    rcases Nat.lt_trichotomy i c.texts.length with hlt | rfl | hgt
    · rw [List.getElem?_append_left hlt] at htext'
      exact h.texts i text' htext'
    · rw [List.getElem?_concat_length] at htext'
      cases htext'
      exact ⟨during, u, List.prefix_refl during, hrun, config, hconfig, htext⟩
    · rw [List.getElem?_eq_none (by rw [List.length_append]; exact hgt)] at htext'
      cases htext'
  quiet := by
    intro hnone
    have hsame := config_run during h.begun hnone hrun
    rw [hconfig] at hsame
    cases hsame
    obtain ⟨rest, hrest⟩ := h.quiet hnone
    rw [← hrest, List.getElem?_append_right (Nat.le_refl _), Nat.sub_self] at htext
    obtain ⟨tail, rfl⟩ : ∃ tail, rest = text :: tail := by
      cases rest with
      | nil => cases htext
      | cons first tail =>
          cases htext
          exact ⟨tail, rfl⟩
    exact ⟨tail, by rw [List.append_assoc]; exact hrest⟩

/-- **Run lemma**: a loop that is under way began some steps ago. -/
theorem copied_run {words : Fin 5 → Vector UInt16 32} (before : List SharedLabel) {u : Shared}
    {c : Copy} (hrun : run sharedStep (.init words) before = some u) (hcopy : u.copy = some c) :
    ∃ earlier during s, before = earlier ++ during ∧
      run sharedStep (.init words) earlier = some s ∧ run sharedStep s during = some u ∧
      Copied s during c := by
  induction before using List.reverseRecOn generalizing u c with
  | nil =>
      cases hrun
      cases hcopy
  | append_singleton before l ih =>
      obtain ⟨v, hbefore, hstep⟩ := run_concat_inv sharedStep hrun
      -- the loop was under way before the step
      have hgoes : v.copy = some c → ∃ earlier during s, before ++ [l] = earlier ++ during ∧
          run sharedStep (.init words) earlier = some s ∧ run sharedStep s during = some u ∧
          Copied s during c := by
        intro hold
        obtain ⟨earlier, during, s, rfl, hearlier, hduring, hcopied⟩ := ih hbefore hold
        refine ⟨earlier, during ++ [l], s, List.append_assoc _ _ _, hearlier, ?_, hcopied.later l⟩
        rw [run_append sharedStep hduring, run_cons_of_step sharedStep hstep]
        rfl
      cases sharedStep_cases hstep with
      | desk | stores | writes | stored => exact hgoes hcopy
      | @begins frame rest config hnone hthread hconfig =>
          cases hcopy
          refine ⟨before, [.beginSend], v, rfl, hbefore, ?_, hconfig, fun i text htext => ?_,
            fun _ => ?_⟩
          · rw [run_cons_of_step sharedStep hstep]
            rfl
          · cases htext
          · exact List.nil_prefix
      | @reads c config text hold hconfig htext =>
          cases hcopy
          obtain ⟨earlier, during, s, rfl, hearlier, hduring, hcopied⟩ := ih hbefore hold
          refine ⟨earlier, during ++ [.readText], s, List.append_assoc _ _ _, hearlier, ?_,
            (hcopied.read hduring hconfig htext).later _⟩
          rw [run_append sharedStep hduring, run_cons_of_step sharedStep hstep]
          rfl
      | sends => cases hcopy

theorem toList_data {c : Copy} (h : c.texts.length = 32) : c.data.toList = c.texts := by
  rw [Copy.data, Vector.toList_ofFn]
  refine List.ext_getElem (List.length_ofFn.trans h.symm) fun i hi hi' => ?_
  rw [List.getElem_ofFn]
  exact (List.getElem_eq_getD "").symm

/-- What was read along is what is sent. -/
theorem Copied.readAlong {s : Shared} {during : List SharedLabel} {c : Copy}
    (h : Copied s during c) (hall : c.texts.length = 32) :
    ReadAlong s during ⟨c.frame, c.sent⟩ where
  begun := ⟨c.config, h.begun, rfl⟩
  texts := by
    intro i text (htext : c.data.toList[i]? = some text)
    rw [toList_data hall] at htext
    exact h.texts i text htext
  quiet := by
    intro hnone
    have htexts : c.texts = c.config.data.toList :=
      (h.quiet hnone).eq_of_length (hall.trans Vector.length_toList.symm)
    have hdata : c.data = c.config.data :=
      Vector.toList_inj.mp ((toList_data hall).trans htexts)
    have hsent : c.sent = c.config := by
      rw [Copy.sent, hdata]
    show s.desk.configs[c.frame]? = some c.sent
    rw [hsent]
    exact h.begun

/-- **What a packet is made of.**  In every run the configuration sent is that of the
    frame whose `sendFrame` is called, as it was read in the run: each text of it was in
    its place when it was read.  Where no text was written in the frame in the
    meantime, it is the one the frame had. -/
theorem sent_read {words : Fin 5 → Vector UInt16 32} {before : List SharedLabel} {u u' : Shared}
    (hrun : run sharedStep (.init words) before = some u) {l : SharedLabel}
    (hstep : sharedStep u l = some u') {sent : Sent} (hsent : sentNow u l = some sent) :
    ∃ earlier during s, before = earlier ++ during ∧
      run sharedStep (.init words) earlier = some s ∧ run sharedStep s during = some u ∧
      calls u l = some sent.frame ∧ ReadAlong s during sent := by
  cases sharedStep_cases hstep with
  | @sends c gotReply panel hcopy hall =>
      obtain ⟨earlier, during, s, hbefore, hearlier, hduring, hcopied⟩ :=
        copied_run before hrun hcopy
      rw [sentNow, hcopy] at hsent
      cases hsent
      have hat := run_invariant sharedStep atFrame_step before (atFrame_init words) hrun
      obtain ⟨rest, hthread⟩ := hat.copy c hcopy
      have hcalls : calls u (.endSend gotReply) = some c.frame := by
        rw [calls, hthread]
      exact ⟨earlier, during, s, hbefore, hearlier, hduring, hcalls, hcopied.readAlong hall⟩
  | @desk l =>
      cases l with
      | sendOnce frame gotReply =>
          obtain ⟨config, hconfig, rfl⟩ := Option.map_eq_some_iff.mp hsent
          refine ⟨before, [], u, (List.append_nil before).symm, hrun, rfl, rfl,
            ⟨config, hconfig, rfl⟩, fun i text htext => ?_, fun _ => hconfig⟩
          exact ⟨[], u, List.prefix_refl _, rfl, config, hconfig, htext⟩
      | _ => cases hsent
  | _ => cases hsent

end TcpDesk
