import LxiWeb.EventRuns
import LxiWeb.WebsocketRoute
import Mathlib.Data.List.AList

/-! Topic subscriptions: the listeners of the web store, the `/ws` route and its schedulers, with
the messages of a connection in order in each direction. Connections are numbered; a connection
of another browser, or one this browser has given up, brings whatever messages it likes. -/
namespace LxiWeb.TopicSubscriptions
open EventRuns SessionManager ReadingLoops ObservabilityFeeds WebsocketRoute

inductive ReadyState where
  | connecting | open_ | closing
  deriving DecidableEq, Repr

structure Socket where
  conn : Nat
  readyState : ReadyState
  deriving DecidableEq, Repr

structure Browser where
  socket : Option Socket
  listeners : AList fun _ : TopicKey => Finset Nat
  subscribedOnServer : Finset TopicKey

structure World where
  browser : Browser
  server : Server

def start : World :=
  { browser := { socket := none, listeners := ∅, subscribedOnServer := ∅ }
    server := { schedulers := .create, conn := fun _ => {}, nextConn := 0, emitted := [] } }

def Browser.line (b : Browser) : Option Nat :=
  match b.socket with
  | some ⟨c,.open_⟩ => some c
  | _ => none

def send (w : World) (message : ClientMessage) : Bool × World :=
  match w.browser.line with
  | some c =>
      (true,{ w with server := w.server.setConn c fun conn => { conn with up := conn.up ++ [message] } })
  | none => (false,w)

def markSubscribed (w : World) (key : TopicKey) : World :=
  { w with browser.subscribedOnServer := insert key w.browser.subscribedOnServer }

def subscribeTopic (w : World) (key : TopicKey) (listener : Nat) : World :=
  let set := (w.browser.listeners.lookup key).getD ∅
  let w := { w with browser.listeners := w.browser.listeners.insert key (insert listener set) }
  if key ∈ w.browser.subscribedOnServer then w
  else
    match send w (.subscribe key) with
    | (true,w) => markSubscribed w key
    | (false,w) => w

def unsubscribe (w : World) (key : TopicKey) (listener : Nat) : World :=
  match w.browser.listeners.lookup key with
  | none => w
  | some existing =>
      let left := existing.erase listener
      if left = ∅ then
        let w := { w with browser.listeners := w.browser.listeners.erase key }
        if key ∈ w.browser.subscribedOnServer then
          (send { w with browser.subscribedOnServer := w.browser.subscribedOnServer.erase key }
            (.unsubscribe key)).2
        else w
      else { w with browser.listeners := w.browser.listeners.insert key left }

def connect (w : World) : World :=
  match w.browser.socket with
  | some _ => w
  | none =>
      { browser := { w.browser with socket := some ⟨w.server.nextConn,.connecting⟩ }
        server := { w.server with nextConn := w.server.nextConn + 1 } }

def resubscribe (w : World) (key : TopicKey) : World :=
  markSubscribed (send w (.subscribe key)).2 key

def opened (w : World) : World :=
  match w.browser.socket with
  | some ⟨c,.connecting⟩ =>
      if (w.server.conn c).stage = .dialing then w
      else w.browser.listeners.keys.foldl resubscribe { w with browser.socket := some ⟨c,.open_⟩ }
  | _ => w

def closing (w : World) : World :=
  match w.browser.socket with
  | some ⟨c,.open_⟩ => { w with browser.socket := some ⟨c,.closing⟩ }
  | _ => w

def closed (w : World) : World :=
  { w with browser := { w.browser with socket := none, subscribedOnServer := ∅ } }

def forget (id : Nat) (b : Browser) (key : TopicKey) : Browser :=
  if key.sessionId = id then
    { b with listeners := b.listeners.erase key, subscribedOnServer := b.subscribedOnServer.erase key }
  else b

/- What `apply` does to the subscriptions; every other message goes to the listeners or to `byId`. -/
def apply (b : Browser) : ServerMessage → Browser
  | .sessions (.removed id) => b.listeners.keys.foldl (forget id) b
  | _ => b

def deliver (w : World) : World :=
  match w.browser.line with
  | none => w
  | some c =>
      match (w.server.conn c).down with
      | [] => w
      | message :: rest =>
          { browser := apply w.browser message
            server := w.server.setConn c fun conn => { conn with down := rest } }

inductive Event where
  | subscribeTopic (key : TopicKey) (listener : Nat)
  | unsubscribe (key : TopicKey) (listener : Nat)
  | connect
  | opened
  | closing
  | closed
  | deliver
  | emits (event : SessionEvent)
  | accept (c : Nat) (sessions : List SessionSummary)
  | receive (c : Nat)
  | cleanup (c : Nat)
  | timerFires (l : Nat)
  | readSettles (l : Nat) (outcome : Except String String) (now : Int)
  | flush (sessionId : Nat) (topic : ObservabilityTopic) (now : Int)
  -- another browser
  | dial
  | posts (c : Nat) (message : ClientMessage)

def post (w : World) (c : Nat) (message : ClientMessage) : World :=
  if c < w.server.nextConn ∧ w.browser.socket.map Socket.conn ≠ some c then
    { w with server := w.server.setConn c fun conn => { conn with up := conn.up ++ [message] } }
  else w

def step (w : World) : Event → World
  | .subscribeTopic key listener => subscribeTopic w key listener
  | .unsubscribe key listener => unsubscribe w key listener
  | .connect => connect w
  | .opened => opened w
  | .closing => closing w
  | .closed => closed w
  | .deliver => deliver w
  | .emits event => { w with server := w.server.onEvent event }
  | .accept c sessions => { w with server := w.server.accept c sessions }
  | .receive c => { w with server := w.server.receive c }
  | .cleanup c => { w with server := w.server.cleanup c }
  | .timerFires l => { w with server := w.server.timerFires l }
  | .readSettles l outcome now => { w with server := w.server.readSettles l outcome now }
  | .flush sessionId topic now => { w with server := w.server.flush sessionId topic now }
  | .dial => { w with server.nextConn := w.server.nextConn + 1 }
  | .posts c message => post w c message

/- Nothing is under way on the open socket, and the schedulers hold it once under each key the
store has listeners for and under no other. -/
def Agreed (w : World) : Prop :=
  ∀ c, w.browser.line = some c → (w.server.conn c).stage = .client →
    (w.server.conn c).up = [] → (w.server.conn c).down = [] →
      ∀ key, w.server.schedulers.held c key = if key ∈ w.browser.listeners then 1 else 0

def NoStray (w : World) : Prop :=
  ∀ key, w.server.schedulers.Ticks key → ¬ Removed w.server key.sessionId

/- A subscribe message that the server takes in is on a session that has not been removed. -/
def Timely (w : World) : Event → Prop
  | .receive c => (w.server.conn c).stage = .client →
      ∀ message ∈ (w.server.conn c).up.head?, ∀ key ∈ subscribes message,
        ¬ Removed w.server key.sessionId
  | _ => True

instance : (w : World) → (e : Event) → Decidable (Timely w e)
  | w, .receive c => inferInstanceAs (Decidable ((w.server.conn c).stage = .client →
      ∀ message ∈ (w.server.conn c).up.head?, ∀ key ∈ subscribes message, _))
  | _, .subscribeTopic .. | _, .unsubscribe .. | _, .connect | _, .opened | _, .closing
  | _, .closed | _, .deliver | _, .emits _ | _, .accept .. | _, .cleanup _ | _, .timerFires _
  | _, .readSettles .. | _, .flush .. | _, .dial | _, .posts .. => isTrue trivial

/- Of sessions that are not removed the server hears of just what the store listens to; of a
removed one the store has yet to hear, or it has a message on its way that is not timely. -/
structure Agrees (s : Server) (c : Nat) (listeners : AList fun _ : TopicKey => Finset Nat) : Prop where
  live : ∀ key, ¬ Removed s key.sessionId → (key ∈ (s.conn c).settled ↔ key ∈ listeners)
  gone : ∀ key ∈ listeners, Removed s key.sessionId →
    (s.conn c).Tells key.sessionId ∨ .subscribe key ∈ (s.conn c).up

structure Linked (w : World) : Prop where
  server : w.server.Kept
  known : ∀ socket ∈ w.browser.socket, socket.conn < w.server.nextConn
  connecting : ∀ c, w.browser.socket = some ⟨c,.connecting⟩ →
    (w.server.conn c).up = [] ∧ (w.server.conn c).subscriptions = ∅
  accepted : ∀ c, w.browser.line = some c → (w.server.conn c).stage ≠ .dialing
  idle : (∀ socket ∈ w.browser.socket, socket.readyState = .connecting) →
    w.browser.subscribedOnServer = ∅
  marked : ∀ c, w.browser.line = some c →
    ∀ key, key ∈ w.browser.subscribedOnServer ↔ key ∈ w.browser.listeners
  agrees : ∀ c, w.browser.line = some c → (w.server.conn c).stage = .client →
    Agrees w.server c w.browser.listeners

theorem agreesCarries {s s' : Server} (carries : s.Carries s') {c : Nat} {listeners}
    (agrees : Agrees s c listeners) : Agrees s' c listeners where
  live key lasting := by
    rw [Conn.settled,carries.up,carries.subscriptions]
    exact agrees.live key (by rwa [← carries.removed])
  gone key member removed := by
    rw [carries.tells,carries.up]
    exact agrees.gone key member (by rwa [← carries.removed])

theorem linkedServer {w : World} (linked : Linked w) {s : Server} (kept : s.Kept)
    (next : w.server.nextConn ≤ s.nextConn)
    (connecting : ∀ c, w.browser.socket = some ⟨c,.connecting⟩ →
      (s.conn c).up = [] ∧ (s.conn c).subscriptions = ∅)
    (accepted : ∀ c, w.browser.line = some c → (s.conn c).stage ≠ .dialing)
    (agrees : ∀ c, w.browser.line = some c → (s.conn c).stage = .client →
      Agrees s c w.browser.listeners) : Linked { w with server := s } where
  server := kept
  known socket member := Nat.lt_of_lt_of_le (linked.known socket member) next
  connecting := connecting
  accepted := accepted
  idle := linked.idle
  marked := linked.marked
  agrees := agrees

theorem linkedCarries {w : World} (linked : Linked w) {s : Server} (carries : w.server.Carries s)
    (sound : s.schedulers.Sound)
    (holds : ∀ c key, s.schedulers.Holds c key ↔ w.server.schedulers.Holds c key) :
    Linked { w with server := s } := by
  refine linkedServer linked (Server.keptCarries linked.server carries sound holds)
    (Nat.le_of_eq carries.next.symm) ?_ ?_ ?_
  · intro c socket
    rw [carries.up,carries.subscriptions]
    exact linked.connecting c socket
  · intro c line
    rw [carries.stage]
    exact linked.accepted c line
  · intro c line client
    rw [carries.stage] at client
    exact agreesCarries carries (linked.agrees c line client)

theorem linkedSends {w : World} (linked : Linked w) (schedulers : Schedulers) (sends : Sends)
    (sound : schedulers.Sound)
    (holds : ∀ c key, schedulers.Holds c key ↔ w.server.schedulers.Holds c key) :
    Linked { w with server := { w.server with schedulers }.sendAll sends } := by
  have moved : w.server.Carries { w.server with schedulers } := .refl rfl rfl rfl
  refine linkedCarries linked (moved.trans (Server.carriesSendAll _ sends)) ?_ ?_
  · rw [Server.sendAllSchedulers]
    exact sound
  · rw [Server.sendAllSchedulers]
    exact holds

theorem linkedTimer {w : World} (linked : Linked w) (l) :
    Linked { w with server := w.server.timerFires l } := by
  unfold Server.timerFires
  split
  · obtain ⟨f,notes,same⟩ := w.server.schedulers.reading.tickNotes l
    rw [same]
    refine linkedSends linked ⟨_,w.server.schedulers.observability⟩ [] ?_ ?_
    · exact ⟨ReadingScheduler.soundNotes linked.server.sound.reading l notes,
        linked.server.sound.observability⟩
    · intro c key
      simp only [Schedulers.Holds,ReadingScheduler.holdsNotes _ l notes]
  · exact linked

theorem linkedRead {w : World} (linked : Linked w) (l outcome now) :
    Linked { w with server := w.server.readSettles l outcome now } := by
  unfold Server.readSettles
  split
  · obtain ⟨f,notes,same⟩ := w.server.schedulers.reading.finishTickNotes l outcome now
    refine linkedSends linked ⟨(w.server.schedulers.reading.finishTick l outcome now).1,
      w.server.schedulers.observability⟩ (w.server.schedulers.reading.finishTick l outcome now).2 ?_ ?_
    · exact ⟨same ▸ ReadingScheduler.soundNotes linked.server.sound.reading l notes,
        linked.server.sound.observability⟩
    · intro c key
      simp only [Schedulers.Holds,same,ReadingScheduler.holdsNotes _ l notes]
  · exact linked

theorem linkedFlush {w : World} (linked : Linked w) (sessionId topic now) :
    Linked { w with server := w.server.flush sessionId topic now } := by
  have alike := ObservabilityScheduler.alikeFlush w.server.schedulers.observability sessionId topic now
  refine linkedSends linked ⟨w.server.schedulers.reading,
    (w.server.schedulers.observability.flush sessionId topic now).1⟩
    (w.server.schedulers.observability.flush sessionId topic now).2 ?_ ?_
  · exact ⟨linked.server.sound.reading,alike.sound linked.server.sound.observability⟩
  · intro c key
    simp only [Schedulers.Holds,alike.holds]

theorem linkedRemoved {w : World} (linked : Linked w) (id : Nat) :
    Linked { w with server := w.server.onEvent (.removed id) } := by
  apply linkedServer linked (Server.keptRemoved linked.server id) (Nat.le_refl _)
  · intro c socket
    obtain ⟨_,subscriptions,up⟩ := Server.removedConn w.server id c
    rw [subscriptions,up]
    exact linked.connecting c socket
  · intro c line
    rw [(Server.removedConn w.server id c).1]
    exact linked.accepted c line
  · intro c line client
    obtain ⟨stage,subscriptions,up⟩ := Server.removedConn w.server id c
    rw [stage] at client
    have agrees := linked.agrees c line client
    constructor
    · intro key lasting
      rw [Server.removedNow] at lasting
      rw [Conn.settled,subscriptions,up]
      exact agrees.live key fun gone => lasting (.inl gone)
    · intro key member gone
      rw [Server.removedTells,up]
      rcases (Server.removedNow w.server id key.sessionId).mp gone with before | this
      · rcases agrees.gone key member before with told | late
        · exact .inl (.inl told)
        · exact .inr late
      · exact .inl (.inr ⟨client,this⟩)

theorem linkedEmits {w : World} (linked : Linked w) (event) :
    Linked { w with server := w.server.onEvent event } := by
  have noted (other : ∀ id, event ≠ .removed id) :
      w.server.Carries { w.server with emitted := w.server.emitted ++ [event] } :=
    ⟨fun _ => rfl,fun _ => rfl,fun _ => rfl,fun _ _ => Iff.rfl,rfl,
      fun id => by simp [Removed,(other id).symm]⟩
  have kept := linked.server
  cases event with
  | update session =>
    refine linkedCarries linked ((noted (by simp)).trans (Server.carriesSend _ _ ?_)) kept.sound ?_
    · simp
    · exact fun _ _ => Iff.rfl
  | transcript id entries =>
    have alike :=
      ObservabilityScheduler.alikeTranscript w.server.schedulers.observability id entries
    refine linkedCarries linked ((noted (by simp)).trans (.refl rfl rfl rfl)) ?_ ?_
    · exact ⟨kept.sound.reading,alike.sound kept.sound.observability⟩
    · intro c key
      simp only [Server.onEvent,Schedulers.Holds,alike.holds]
  | deviceErrors id entries =>
    have alike :=
      ObservabilityScheduler.alikeDeviceErrors w.server.schedulers.observability id entries
    refine linkedCarries linked ((noted (by simp)).trans (.refl rfl rfl rfl)) ?_ ?_
    · exact ⟨kept.sound.reading,alike.sound kept.sound.observability⟩
    · intro c key
      simp only [Server.onEvent,Schedulers.Holds,alike.holds]
  | removed id => exact linkedRemoved linked id

theorem agreesTaken {s s' : Server} {c : Nat} {message rest listeners} (agrees : Agrees s c listeners)
    (arrives : (s.conn c).up = message :: rest)
    (takes : Server.Takes (s.setConn c fun conn => { conn with up := rest }) s' c message)
    (lasting : ∀ key ∈ subscribes message, ¬ Removed s key.sessionId) : Agrees s' c listeners where
  live key stays := by
    rw [takes.removed] at stays
    rw [← agrees.live key stays,Conn.settled,Conn.settled,takes.up,takes.here,Server.setConnSame,
      arrives]
    rfl
  gone key member gone := by
    rw [takes.removed] at gone
    rw [takes.tells,takes.up,Server.setConnSame]
    rcases agrees.gone key member gone with told | late
    · exact .inl told
    · rw [arrives] at late
      rcases List.mem_cons.mp late with this | later
      · exact absurd gone (lasting key (by simp [← this,subscribes]))
      · exact .inr later

theorem agreesElsewhere {s s' : Server} {c j : Nat} {f message listeners} (other : j ≠ c)
    (agrees : Agrees s j listeners) (takes : Server.Takes (s.setConn c f) s' c message) :
    Agrees s' j listeners where
  live key stays := by
    rw [takes.removed] at stays
    rw [Conn.settled,takes.up,takes.elsewhere j other,Server.setConnOther _ other]
    exact agrees.live key stays
  gone key member gone := by
    rw [takes.removed] at gone
    rw [takes.tells,takes.up,Server.setConnOther _ other]
    exact agrees.gone key member gone

theorem linkedReceive {w : World} (linked : Linked w) (c : Nat) (timely : Timely w (.receive c)) :
    Linked { w with server := w.server.receive c } := by
  unfold Server.receive
  split
  · rename_i client
    split
    · exact linked
    · rename_i message rest arrives
      have lasting : ∀ key ∈ subscribes message, ¬ Removed w.server key.sessionId :=
        timely client message (by simp [arrives])
      have known := linked.server.known (c := c) (by simp [client])
      let s := w.server.setConn c fun conn => { conn with up := rest }
      have popped : s.Kept := Server.keptSetConn linked.server known rfl rfl fun _ => id
      have here : s.conn c = { w.server.conn c with up := rest } := w.server.setConnSame c _
      have client' : (s.conn c).stage = .client := by rw [here,client]
      have takes := Server.messageTakes s c message
      have other (j) (this : j ≠ c) : s.conn j = w.server.conn j := w.server.setConnOther this _
      refine linkedServer linked (Server.keptMessage popped client' lasting)
        (Nat.le_of_eq takes.next.symm) ?_ ?_ ?_
      · intro j socket
        have before := linked.connecting j socket
        have this : j ≠ c := by
          intro same
          simp [same ▸ arrives] at before
        rw [takes.up,takes.elsewhere j this,other j this]
        exact before
      · intro j line
        rw [takes.stage]
        by_cases this : j = c
        · simp [this,client']
        · rw [other j this]
          exact linked.accepted j line
      · intro j line client''
        rw [takes.stage] at client''
        by_cases this : j = c
        · subst this
          exact agreesTaken (linked.agrees j line client) arrives takes lasting
        · rw [other j this] at client''
          exact agreesElsewhere this (linked.agrees j line client'') takes
  · exact linked

theorem lineSocket {b : Browser} {c : Nat} (line : b.line = some c) : b.socket = some ⟨c,.open_⟩ := by
  unfold Browser.line at line
  split at line
  · rename_i c' socket
    rw [socket,Option.some.inj line]
  · exact absurd line nofun

theorem linkedOnly {w : World} (linked : Linked w) {s : Server} {c : Nat}
    (only : w.server.Only s c) (kept : s.Kept)
    (connecting : w.browser.socket = some ⟨c,.connecting⟩ →
      (s.conn c).up = [] ∧ (s.conn c).subscriptions = ∅)
    (accepted : w.browser.line = some c → (s.conn c).stage ≠ .dialing)
    (agrees : w.browser.line = some c → (s.conn c).stage = .client →
      Agrees s c w.browser.listeners) : Linked { w with server := s } := by
  apply linkedServer linked kept (Nat.le_of_eq only.next.symm)
  · intro j socket
    by_cases this : j = c
    · subst this
      exact connecting socket
    · rw [only.others j this]
      exact linked.connecting j socket
  · intro j line
    by_cases this : j = c
    · subst this
      exact accepted line
    · rw [only.others j this]
      exact linked.accepted j line
  · intro j line client
    by_cases this : j = c
    · subst this
      exact agrees line client
    · rw [only.others j this] at client
      have before := linked.agrees j line client
      constructor
      · rw [only.others j this]
        intro key lasting
        exact before.live key (by rwa [Removed,← only.emitted])
      · rw [only.others j this]
        intro key member gone
        exact before.gone key member (by rwa [Removed,← only.emitted])

theorem linkedAccept {w : World} (linked : Linked w) (c sessions) :
    Linked { w with server := w.server.accept c sessions } := by
  have only := Server.onlyAccept w.server c sessions
  have kept := Server.keptAccept linked.server c sessions
  unfold Server.accept at only kept ⊢
  split at only
  · rename_i dials
    rw [if_pos dials] at kept ⊢
    have online : w.browser.line ≠ some c := fun line => linked.accepted c line dials.2
    apply linkedOnly linked only kept
    · intro socket
      rw [Server.setConnSame]
      exact linked.connecting c socket
    · exact fun line => absurd line online
    · exact fun line => absurd line online
  · rename_i closed
    rw [if_neg closed]
    exact linked

theorem linkedCleanup {w : World} (linked : Linked w) (c) :
    Linked { w with server := w.server.cleanup c } := by
  have only := Server.onlyCleanup linked.server c
  have kept := Server.keptCleanup linked.server c
  unfold Server.cleanup at only kept ⊢
  split at only
  · rename_i client
    rw [if_pos client] at kept ⊢
    apply linkedOnly linked only kept
    · intro socket
      simp only [Server.setConnSame,and_true]
      exact (linked.connecting c socket).1
    · simp
    · simp
  · rename_i other
    rw [if_neg other]
    exact linked

theorem linkedPosts {w : World} (linked : Linked w) (c message) : Linked (post w c message) := by
  unfold post
  split
  · rename_i stranger
    have kept := Server.keptSetConn linked.server stranger.1
      (f := fun conn => { conn with up := conn.up ++ [message] }) rfl rfl fun _ => id
    have other (r) (socket : w.browser.socket = some ⟨c,r⟩) : False :=
      stranger.2 (by simp [socket])
    apply linkedOnly linked (Server.onlySetConn w.server c _) kept
    · exact fun socket => (other _ socket).elim
    · exact fun line => (other _ (lineSocket line)).elim
    · exact fun line => (other _ (lineSocket line)).elim
  · exact linked

theorem linkedDial {w : World} (linked : Linked w) :
    Linked { w with server.nextConn := w.server.nextConn + 1 } := by
  have kept := linked.server
  refine linkedServer linked ⟨kept.sound,kept.holds,kept.dialing,?_,kept.tells⟩ (Nat.le_succ _)
    linked.connecting linked.accepted ?_
  · intro c beyond
    have beyond : w.server.nextConn + 1 ≤ c := beyond
    exact kept.fresh c (by omega)
  · intro c line client
    have agrees := linked.agrees c line client
    exact ⟨agrees.live,agrees.gone⟩

theorem sendOpen {b : Browser} {c : Nat} (line : b.line = some c) (listeners subscribedOnServer)
    (s : Server) (message : ClientMessage) :
    send ⟨{ b with listeners, subscribedOnServer },s⟩ message =
      (true,⟨{ b with listeners, subscribedOnServer },
        s.setConn c fun conn => { conn with up := conn.up ++ [message] }⟩) := by
  have line' : ({ b with listeners, subscribedOnServer } : Browser).line = some c := line
  simp only [send,line']

theorem sendClosed {b : Browser} (line : b.line = none) (listeners subscribedOnServer) (s : Server)
    (message : ClientMessage) :
    send ⟨{ b with listeners, subscribedOnServer },s⟩ message =
      (false,⟨{ b with listeners, subscribedOnServer },s⟩) := by
  have line' : ({ b with listeners, subscribedOnServer } : Browser).line = none := line
  simp only [send,line']

theorem linkedOffline {w : World} (linked : Linked w) {b : Browser} (line : b.line = none)
    (socket : b.socket = w.browser.socket)
    (idle : w.browser.subscribedOnServer = ∅ → b.subscribedOnServer = ∅) :
    Linked { w with browser := b } := by
  have offline (c) (open_ : b.line = some c) : False := by simp [line] at open_
  refine ⟨linked.server,?_,?_,?_,?_,?_,?_⟩
  · rw [show ({ w with browser := b } : World).browser.socket = w.browser.socket from socket]
    exact linked.known
  · rw [show ({ w with browser := b } : World).browser.socket = w.browser.socket from socket]
    exact linked.connecting
  · exact fun c open_ => (offline c open_).elim
  · rw [show ({ w with browser := b } : World).browser.socket = w.browser.socket from socket]
    exact fun dials => idle (linked.idle dials)
  · exact fun c open_ => (offline c open_).elim
  · exact fun c open_ => (offline c open_).elim

theorem linkedOnline {w : World} (linked : Linked w) {c : Nat} (line : w.browser.line = some c)
    {listeners subscribedOnServer} {f : Conn → Conn}
    (stage : (f (w.server.conn c)).stage = (w.server.conn c).stage)
    (subscriptions : (f (w.server.conn c)).subscriptions = (w.server.conn c).subscriptions)
    (tells : ∀ id, (f (w.server.conn c)).Tells id → (w.server.conn c).Tells id)
    (marked : ∀ key, key ∈ subscribedOnServer ↔ key ∈ listeners)
    (agrees : (w.server.conn c).stage = .client → Agrees w.server c w.browser.listeners →
      Agrees (w.server.setConn c f) c listeners) :
    Linked { browser := { w.browser with listeners, subscribedOnServer }
             server := w.server.setConn c f } := by
  have socket := lineSocket line
  have known : c < w.server.nextConn := linked.known ⟨c,.open_⟩ socket
  have only (j) (open_ : w.browser.line = some j) : j = c := by
    rw [line] at open_
    exact (Option.some.inj open_).symm
  refine ⟨Server.keptSetConn linked.server known stage subscriptions tells,linked.known,?_,?_,?_,?_,?_⟩
  · intro j dials
    simp [socket] at dials
  · intro j open_
    obtain rfl := only j open_
    rw [Server.setConnSame,stage]
    exact linked.accepted j line
  · intro dials
    have := dials ⟨c,.open_⟩ socket
    simp at this
  · exact fun _ _ => marked
  · intro j open_ client
    obtain rfl := only j open_
    rw [Server.setConnSame,stage] at client
    exact agrees client (linked.agrees j line client)

theorem setConnId (s : Server) (c : Nat) : (s.setConn c fun conn => conn) = s := by
  simp [Server.setConn]

theorem insertKnown {listeners : AList fun _ : TopicKey => Finset Nat} {key : TopicKey}
    (known : key ∈ listeners) (left : Finset Nat) (key' : TopicKey) :
    key' ∈ listeners.insert key left ↔ key' ∈ listeners := by
  rw [AList.mem_insert]
  constructor
  · rintro (this | before)
    · exact this ▸ known
    · exact before
  · exact .inr

theorem linkedRelisted {w : World} (linked : Linked w) {listeners}
    (same : ∀ key, key ∈ listeners ↔ key ∈ w.browser.listeners) :
    Linked { w with browser := { w.browser with listeners } } := by
  cases line : w.browser.line with
  | none => exact linkedOffline linked line rfl id
  | some c =>
    rw [show w.server = w.server.setConn c fun conn => conn from (setConnId w.server c).symm]
    refine linkedOnline linked line rfl rfl (fun _ => id) ?_ ?_
    · intro key
      rw [linked.marked c line,same]
    · intro _ agrees
      rw [setConnId]
      constructor
      · intro key lasting
        rw [agrees.live key lasting,same]
      · intro key member gone
        exact agrees.gone key ((same key).mp member) gone

theorem linkedSubscribe {w : World} (linked : Linked w) (key listener) :
    Linked (subscribeTopic w key listener) := by
  simp only [subscribeTopic]
  cases line : w.browser.line with
  | none =>
    have added := linkedOffline linked
      (b := { w.browser with
        listeners := w.browser.listeners.insert key
          (insert listener ((w.browser.listeners.lookup key).getD ∅)) }) line rfl id
    split
    · exact added
    · rw [sendClosed line]
      exact added
  | some c =>
    have marked := linked.marked c line
    split
    · rename_i member
      exact linkedRelisted linked (insertKnown ((marked key).mp member) _)
    · rw [sendOpen line]
      simp only [markSubscribed]
      refine linkedOnline linked line rfl rfl (fun _ => id) ?_ ?_
      · intro key'
        rw [Finset.mem_insert,AList.mem_insert,marked]
      · intro _ agrees
        constructor
        · intro key' lasting
          rw [Server.setConnSame,Conn.settled,List.foldl_append,AList.mem_insert,
            ← agrees.live key' lasting]
          exact Finset.mem_insert
        · intro key' member' gone
          rw [Server.setConnSame]
          rcases (AList.mem_insert _).mp member' with this | before
          · exact .inr (by simp [this])
          · rcases agrees.gone key' before gone with told | late
            · exact .inl told
            · exact .inr (List.mem_append_left _ late)

theorem linkedForsaken {w : World} (linked : Linked w) {c : Nat}
    (line : w.browser.line = some c) (key : TopicKey) :
    Linked { browser := { w.browser with
               listeners := w.browser.listeners.erase key
               subscribedOnServer := w.browser.subscribedOnServer.erase key }
             server := w.server.setConn c fun conn =>
               { conn with up := conn.up ++ [.unsubscribe key] } } := by
  refine linkedOnline linked line rfl rfl (fun _ => id) ?_ ?_
  · intro key'
    rw [Finset.mem_erase,AList.mem_erase,linked.marked c line]
  · intro _ agrees
    constructor
    · intro key' lasting
      rw [Server.setConnSame,Conn.settled,List.foldl_append,AList.mem_erase,
        ← agrees.live key' lasting]
      exact Finset.mem_erase
    · intro key' member' gone
      rw [Server.setConnSame]
      rcases agrees.gone key' (AList.mem_erase.mp member').2 gone with told | late
      · exact .inl told
      · exact .inr (List.mem_append_left _ late)

theorem linkedUnsubscribe {w : World} (linked : Linked w) (key listener) :
    Linked (unsubscribe w key listener) := by
  unfold unsubscribe
  split
  · exact linked
  · rename_i existing found
    have known : key ∈ w.browser.listeners := by
      rw [← AList.lookup_isSome,found]
      rfl
    simp only
    split
    · cases line : w.browser.line with
      | none =>
        split
        · rw [sendClosed line]
          refine linkedOffline linked line rfl ?_
          intro none
          simp [none]
        · exact linkedOffline linked line rfl id
      | some c =>
        have member : key ∈ w.browser.subscribedOnServer := (linked.marked c line key).mpr known
        rw [if_pos member,sendOpen line]
        exact linkedForsaken linked line key
    · exact linkedRelisted linked (insertKnown known _)

theorem linkedConnect {w : World} (linked : Linked w) : Linked (connect w) := by
  unfold connect
  split
  · exact linked
  · rename_i free
    have kept := linked.server
    have dialed := linkedDial linked
    refine ⟨dialed.server,?_,?_,?_,?_,?_,?_⟩
    · intro socket member
      obtain rfl := Option.some.inj member
      exact Nat.lt_succ_self _
    · intro c socket
      obtain ⟨dialing,up⟩ := kept.fresh w.server.nextConn (Nat.le_refl _)
      obtain rfl : w.server.nextConn = c := by simpa using socket
      exact ⟨up,kept.dialing _ dialing⟩
    · exact nofun
    · exact fun _ => linked.idle (by simp [free])
    · exact nofun
    · exact nofun

theorem linkedClosing {w : World} (linked : Linked w) : Linked (closing w) := by
  unfold closing
  split
  · rename_i c socket
    refine ⟨linked.server,?_,nofun,nofun,?_,nofun,nofun⟩
    · intro s member
      obtain rfl := Option.some.inj member
      exact linked.known ⟨c,.open_⟩ socket
    · intro dials
      have := dials ⟨c,.closing⟩ rfl
      simp at this
  · exact linked

theorem linkedClosed {w : World} (linked : Linked w) : Linked (closed w) :=
  ⟨linked.server,nofun,nofun,nofun,fun _ => rfl,nofun,nofun⟩

theorem resubscribeAll (c : Nat) (listeners) (keys : List TopicKey) (subscribed : Finset TopicKey)
    (s : Server) :
    keys.foldl resubscribe ⟨⟨some ⟨c,.open_⟩,listeners,subscribed⟩,s⟩ =
      ⟨⟨some ⟨c,.open_⟩,listeners,subscribed ∪ keys.toFinset⟩,
        s.setConn c fun conn => { conn with up := conn.up ++ keys.map .subscribe }⟩ := by
  induction keys generalizing subscribed s with
  | nil => simp [Server.setConn]
  | cons key rest ih =>
    have one : resubscribe ⟨⟨some ⟨c,.open_⟩,listeners,subscribed⟩,s⟩ key =
        ⟨⟨some ⟨c,.open_⟩,listeners,insert key subscribed⟩,
          s.setConn c fun conn => { conn with up := conn.up ++ [.subscribe key] }⟩ := rfl
    rw [List.foldl_cons,one,ih]
    simp [Server.setConn,Finset.insert_union,Finset.union_insert]

theorem settledKeys (keys : List TopicKey) (subscriptions : Finset TopicKey) :
    (keys.map ClientMessage.subscribe).foldl pending subscriptions = subscriptions ∪ keys.toFinset := by
  induction keys generalizing subscriptions with
  | nil => simp
  | cons key rest ih =>
    rw [List.map_cons,List.foldl_cons,ih]
    simp [pending,Finset.insert_union,Finset.union_insert]

theorem linkedOpened {w : World} (linked : Linked w) : Linked (opened w) := by
  unfold opened
  split
  · rename_i c socket
    split
    · exact linked
    · rename_i accepted
      obtain ⟨up,subscriptions⟩ := linked.connecting c socket
      have known : c < w.server.nextConn := linked.known ⟨c,.connecting⟩ socket
      have none : w.browser.subscribedOnServer = ∅ := linked.idle (by simp [socket])
      rw [resubscribeAll]
      have kept := Server.keptSetConn linked.server known
        (f := fun conn => { conn with up := conn.up ++ w.browser.listeners.keys.map .subscribe })
        rfl rfl fun _ told => told
      refine ⟨kept,?_,?_,?_,?_,?_,?_⟩
      · intro s member
        obtain rfl := Option.some.inj member
        exact known
      · intro j dials
        simp at dials
      · intro j line
        obtain rfl : c = j := Option.some.inj line
        rw [Server.setConnSame]
        exact accepted
      · intro dials
        have := dials ⟨c,.open_⟩ rfl
        simp at this
      · intro _ _ key
        simp [none,AList.mem_keys]
      · intro j line client
        obtain rfl : c = j := Option.some.inj line
        constructor
        · intro key _
          rw [Server.setConnSame,Conn.settled]
          simp only [up,List.nil_append,subscriptions,settledKeys]
          simp [AList.mem_keys]
        · intro key member _
          rw [Server.setConnSame]
          right
          exact List.mem_append_right _ (List.mem_map_of_mem (AList.mem_keys.mp member))
  · exact linked

theorem forgetAll (id : Nat) (keys : List TopicKey) (b : Browser) :
    (keys.foldl (forget id) b).socket = b.socket ∧
    (∀ key, key ∈ (keys.foldl (forget id) b).listeners ↔
      key ∈ b.listeners ∧ ¬ (key.sessionId = id ∧ key ∈ keys)) ∧
    ∀ key, key ∈ (keys.foldl (forget id) b).subscribedOnServer ↔
      key ∈ b.subscribedOnServer ∧ ¬ (key.sessionId = id ∧ key ∈ keys) := by
  induction keys generalizing b with
  | nil => simp
  | cons k rest ih =>
    obtain ⟨socket,listeners,subscribed⟩ := ih (forget id b k)
    have one : (forget id b k).socket = b.socket ∧
        (∀ key, key ∈ (forget id b k).listeners ↔ key ∈ b.listeners ∧ ¬ (key.sessionId = id ∧ key = k)) ∧
        ∀ key, key ∈ (forget id b k).subscribedOnServer ↔
          key ∈ b.subscribedOnServer ∧ ¬ (key.sessionId = id ∧ key = k) := by
      unfold forget
      split
      · rename_i about
        refine ⟨rfl,?_,?_⟩
        · intro key
          rw [AList.mem_erase]
          constructor
          · exact fun both => ⟨both.2,fun this => both.1 this.2⟩
          · exact fun both => ⟨fun this => both.2 ⟨this ▸ about,this⟩,both.1⟩
        · intro key
          rw [Finset.mem_erase]
          constructor
          · exact fun both => ⟨both.2,fun this => both.1 this.2⟩
          · exact fun both => ⟨fun this => both.2 ⟨this ▸ about,this⟩,both.1⟩
      · rename_i other
        have never (key : TopicKey) : ¬ (key.sessionId = id ∧ key = k) := by
          intro ⟨about,this⟩
          exact other (this ▸ about)
        exact ⟨rfl,fun key => by simp [never],fun key => by simp [never]⟩
    refine ⟨socket.trans one.1,?_,?_⟩
    · intro key
      rw [List.foldl_cons,listeners,one.2.1,List.mem_cons]
      tauto
    · intro key
      rw [List.foldl_cons,subscribed,one.2.2,List.mem_cons]
      tauto

theorem applyForgets {b : Browser} (message : ServerMessage)
    (marked : ∀ key, key ∈ b.subscribedOnServer ↔ key ∈ b.listeners) :
    (apply b message).socket = b.socket ∧
    (∀ key, key ∈ (apply b message).listeners ↔
      key ∈ b.listeners ∧ message ≠ .sessions (.removed key.sessionId)) ∧
    ∀ key, key ∈ (apply b message).subscribedOnServer ↔ key ∈ (apply b message).listeners := by
  by_cases removal : ∃ id, message = .sessions (.removed id)
  · obtain ⟨id,rfl⟩ := removal
    obtain ⟨socket,listeners,subscribed⟩ := forgetAll id b.listeners.keys b
    refine ⟨socket,?_,?_⟩
    · intro key
      refine (listeners key).trans (and_congr_right fun member => ?_)
      simp [AList.mem_keys.mp member,eq_comm]
    · intro key
      apply (subscribed key).trans
      rw [marked]
      exact (listeners key).symm
  · have same : apply b message = b := by
      unfold apply
      split
      · rename_i id
        exact absurd ⟨id,rfl⟩ removal
      · rfl
    rw [same]
    refine ⟨rfl,?_,marked⟩
    intro key
    exact ⟨fun member => ⟨member,fun this => removal ⟨_,this⟩⟩,And.left⟩

theorem linkedDeliver {w : World} (linked : Linked w) : Linked (deliver w) := by
  unfold deliver
  split
  · exact linked
  · rename_i c line
    split
    · exact linked
    · rename_i message rest arrives
      obtain ⟨socket,listeners,marked⟩ := applyForgets message (linked.marked c line)
      have books : apply w.browser message = { w.browser with
          listeners := (apply w.browser message).listeners
          subscribedOnServer := (apply w.browser message).subscribedOnServer } := by
        simp only [← socket]
      rw [books]
      refine linkedOnline linked line rfl rfl ?_ marked ?_
      · intro id told
        rw [Conn.Tells,arrives]
        exact List.mem_cons_of_mem _ told
      · intro _ agrees
        constructor
        · intro key lasting
          rw [Server.setConnSame,listeners]
          apply (agrees.live key lasting).trans
          -- the server says so only of sessions that are removed
          have silent : message ≠ .sessions (.removed key.sessionId) := by
            intro this
            have told : (w.server.conn c).Tells key.sessionId := by simp [Conn.Tells,arrives,this]
            exact lasting (linked.server.tells c _ told)
          exact (and_iff_left silent).symm
        · intro key member gone
          rw [Server.setConnSame]
          obtain ⟨before,other⟩ := (listeners key).mp member
          rcases agrees.gone key before gone with told | late
          · left
            have told : .sessions (.removed key.sessionId) ∈ message :: rest := arrives ▸ told
            exact (List.mem_cons.mp told).resolve_left fun this => other this.symm
          · exact .inr late

theorem startLinked : Linked start where
  server := {
    sound := Schedulers.soundCreate
    holds := by
      intro c key
      simp [start,Schedulers.Holds,Schedulers.create,ReadingScheduler.Holds,
        ReadingScheduler.create,ObservabilityScheduler.Holds,ObservabilityScheduler.create]
    dialing := fun _ _ => rfl
    fresh := fun _ _ => ⟨rfl,rfl⟩
    tells := fun _ _ told => absurd told List.not_mem_nil }
  known := nofun
  connecting := nofun
  accepted := nofun
  idle _ := rfl
  marked := nofun
  agrees := nofun

theorem stepLinked (w : World) (e : Event) (linked : Linked w) (timely : Timely w e) :
    Linked (step w e) := by
  cases e with
  | subscribeTopic key listener => exact linkedSubscribe linked key listener
  | unsubscribe key listener => exact linkedUnsubscribe linked key listener
  | connect => exact linkedConnect linked
  | opened => exact linkedOpened linked
  | closing => exact linkedClosing linked
  | closed => exact linkedClosed linked
  | deliver => exact linkedDeliver linked
  | emits event => exact linkedEmits linked event
  | accept c sessions => exact linkedAccept linked c sessions
  | receive c => exact linkedReceive linked c timely
  | cleanup c => exact linkedCleanup linked c
  | timerFires l => exact linkedTimer linked l
  | readSettles l outcome now => exact linkedRead linked l outcome now
  | flush sessionId topic now => exact linkedFlush linked sessionId topic now
  | dial => exact linkedDial linked
  | posts c message => exact linkedPosts linked c message

theorem linkedAgreed {w : World} (linked : Linked w) : Agreed w := by
  intro c line client up down key
  apply Schedulers.heldCount linked.server.sound
  have agrees := linked.agrees c line client
  have settled : (w.server.conn c).settled = (w.server.conn c).subscriptions := by
    simp [Conn.settled,up]
  rw [linked.server.holds]
  by_cases gone : Removed w.server key.sessionId
  · have absent : key ∉ w.browser.listeners := by
      intro member
      rcases agrees.gone key member gone with told | late
      · simp [Conn.Tells,down] at told
      · simp [up] at late
    simp [gone,absent]
  · rw [← agrees.live key gone,settled]
    simp [client,gone]

theorem linkedNoStray {w : World} (linked : Linked w) : NoStray w := by
  intro key ticks
  obtain ⟨c,holds⟩ := linked.server.sound.ticks ticks
  exact ((linked.server.holds c key).mp holds).2.2

theorem subscriptionsAgree (events : List Event) (timely : Along step Timely start events) :
    Throughout step (fun w => Agreed w ∧ NoStray w) start events := by
  intro seen early
  have linked := runKeepsAlong stepLinked startLinked (alongPrefix timely early)
  exact ⟨linkedAgreed linked,linkedNoStray linked⟩

def dashboard : List Event :=
  let key : TopicKey := ⟨0,.reading .psuChannels⟩
  [.connect, .accept 0 [], .subscribeTopic key 7, .opened, .deliver, .receive 0,
    .readSettles 0 (.ok "[]") 10, .deliver, .closing, .closed, .connect, .accept 1 [],
    .cleanup 0, .opened, .receive 1, .deliver, .readSettles 1 (.error "timeout") 20, .deliver,
    .emits (.removed 0), .deliver]

theorem subscriptionsAgreeDashboard :
    Throughout step (fun w => Agreed w ∧ NoStray w) start dashboard :=
  subscriptionsAgree dashboard (by decide)

def crossing : List Event :=
  let key : TopicKey := ⟨0,.reading .psuChannels⟩
  [.connect, .accept 0 [], .opened, .deliver, .subscribeTopic key 7, .emits (.removed 0),
    .receive 0, .deliver]

theorem lateSubscribeStrays : ¬ Agreed (run step start crossing) ∧ ¬ NoStray (run step start crossing) := by
  constructor
  · intro agreed
    have counts := agreed 0 (by decide) (by decide) (by decide)
      (by decide) ⟨0,.reading .psuChannels⟩
    exact absurd counts (by decide)
  · intro noStray
    exact noStray ⟨0,.reading .psuChannels⟩ ⟨0,by decide,by decide⟩
      (by decide)

end LxiWeb.TopicSubscriptions
