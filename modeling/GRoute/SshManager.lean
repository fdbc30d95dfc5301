import GRoute.Foundation.CaseMapping
import GRoute.SshStore

/-!
# SSH sessions

`SshManager.connect` records the host, drops the session that is registered for it, dials a new
one and registers it. The dial takes up to twenty seconds, in which other calls act on the same
maps, and the new session is registered whatever they have done. A session that is registered over
another one leaves it open, and nobody can close it any more.
-/

namespace GRoute

open Text Transition

inductive SshStatus
  | idle
  | connecting
  | up (viaTunnel : Bool)
  | failed (messageKey detail : Text)
  deriving DecidableEq

def SshStatus.isOpen : SshStatus → Bool
  | .up _ | .connecting => true
  | .idle | .failed _ _ => false

namespace SshManager

/-- A session that was dialled, numbered in the order of the dials. -/
structure Session where
  hostId : Text
  number : ℕ
  deriving DecidableEq

/-- Where a call of `connect` is. -/
inductive Phase
  | recorded
  | dropped
  | dialling (viaTunnel : Bool)
  | dialled (viaTunnel : Bool) (session : Session)
  | registered (viaTunnel : Bool)
  | done
  deriving DecidableEq

structure Connect where
  host : SshHost
  phase : Phase := .recorded
  deriving DecidableEq

inductive Call
  | connect
  | disconnect
  | forget
  deriving DecidableEq

/-- A step of a connect. -/
inductive Move
  | drop
  /-- `tunnel` is whether the tunnel is available. -/
  | begin (tunnel : Bool)
  | dial
  /-- `JSch` throws. -/
  | fail (message : Option Text)
  | register
  | report
  deriving DecidableEq

/-- A call, or a step of a connect that is under way. -/
inductive Event
  | connect (host : SshHost)
  | move (index : ℕ) (move : Move)
  | disconnect (id : Text)
  | forget (id : Text)
  deriving DecidableEq

/-- The session that the call has dialled and not yet registered. -/
def Connect.session? (call : Connect) : Option Session :=
  match call.phase with
  | .dialled _ session => some session
  | _ => none

def Connect.inPhase (call : Connect) (phase : Phase) : Connect := { call with phase := phase }

def willUseTunnel (host : SshHost) (tunnel : Bool) : Bool := !host.direct && tunnel

def keyFor (casing : CaseMapping) (message : Option Text) : Text :=
  let m := casing.lowercase (message.getD [])
  let mentions (part : String) : Bool := containsText m (txt part)
  if mentions "auth fail" || mentions "auth cancel" then txt "ssh_err_auth"
  else if mentions "unknownhost" || mentions "unknown host" || mentions "no such host" ||
    mentions "unable to resolve" then txt "ssh_err_host"
  else if mentions "timeout" || mentions "timed out" then txt "ssh_err_timeout"
  else if mentions "connection refused" || mentions "econnrefused" then txt "ssh_err_refused"
  else if mentions "proxy" || mentions "socks" then txt "ssh_err_proxy"
  else txt "ssh_err_generic"

end SshManager

/-- The maps of the manager and the calls of `connect`, with the sessions that were dialled and not
disconnected and the last call for each host. -/
structure SshManager where
  hosts : Text → Option SshHost := fun _ => none
  sessions : Text → Option SshManager.Session := fun _ => none
  status : Text → SshStatus := fun _ => .idle
  connects : List SshManager.Connect := []
  live : List SshManager.Session := []
  dialled : ℕ := 0
  lastCall : Text → Option SshManager.Call := fun _ => none

namespace SshManager

def set (s : SshManager) (id : Text) (status : SshStatus) : SshManager :=
  { s with status := Function.update s.status id status }

def disconnect (s : SshManager) (id : Text) : SshManager where
  hosts := s.hosts
  sessions := Function.update s.sessions id none
  status := if (s.status id).isOpen then Function.update s.status id .idle else s.status
  connects := s.connects
  live := s.live.filter fun session => s.sessions id ≠ some session
  dialled := s.dialled
  lastCall := s.lastCall

def forget (s : SshManager) (id : Text) : SshManager :=
  disconnect { s with hosts := Function.update s.hosts id none } id

/-- The call is remembered as the last one for the host. -/
def called (s : SshManager) (id : Text) (call : Call) : SshManager :=
  { s with lastCall := Function.update s.lastCall id (some call) }

/-- `hosts[host.id] = host`, with which `connect` begins. -/
def record (s : SshManager) (host : SshHost) : SshManager :=
  { s with
    hosts := Function.update s.hosts host.id (some host)
    connects := s.connects ++ [{ host := host }] }

/-- The call at the index goes on to the phase. -/
def goOn (s : SshManager) (index : ℕ) (call : Connect) (phase : Phase) : SshManager :=
  { s with connects := s.connects.set index (call.inPhase phase) }

/-- A session is dialled. -/
def dial (s : SshManager) (session : Session) : SshManager :=
  { s with live := session :: s.live, dialled := s.dialled + 1 }

def register (s : SshManager) (id : Text) (session : Session) : SshManager :=
  { s with sessions := Function.update s.sessions id (some session) }

/-- The rest of `connect`, in its steps. -/
def advance (casing : CaseMapping) (s : SshManager) (index : ℕ) (call : Connect) :
    Phase → Move → Option SshManager
  | .recorded, .drop => some ((s.disconnect call.host.id).goOn index call .dropped)
  | .dropped, .begin tunnel =>
      some ((s.set call.host.id .connecting).goOn index call
        (.dialling (willUseTunnel call.host tunnel)))
  | .dialling viaTunnel, .dial =>
      let session : Session := ⟨call.host.id, s.dialled⟩
      some ((s.dial session).goOn index call (.dialled viaTunnel session))
  | .dialling _, .fail message =>
      some ((s.set call.host.id (.failed (keyFor casing message) (message.getD []))).goOn index call
        .done)
  | .dialled viaTunnel session, .register =>
      some ((s.register call.host.id session).goOn index call (.registered viaTunnel))
  | .registered viaTunnel, .report =>
      some ((s.set call.host.id (.up viaTunnel)).goOn index call .done)
  | _, _ => none

def step (casing : CaseMapping) (s : SshManager) : Event → Option SshManager
  | .connect host => some ((s.record host).called host.id .connect)
  | .move index move => do
      let call ← s.connects[index]?
      s.advance casing index call call.phase move
  | .disconnect id => some ((s.disconnect id).called id .disconnect)
  | .forget id => some ((s.forget id).called id .forget)

/-- No connect is in progress. -/
def Quiet (s : SshManager) : Prop := ∀ call ∈ s.connects, call.phase = .done

instance (s : SshManager) : Decidable s.Quiet :=
  inferInstanceAs (Decidable (∀ call ∈ s.connects, call.phase = .done))

/-- Each open session is registered under the id of its host, and none for a host whose last call
was to disconnect or forget it. -/
structure Owned (s : SshManager) : Prop where
  registered {session : Session} (isLive : session ∈ s.live) :
    s.sessions session.hostId = some session
  cleared {id : Text} (ended : s.lastCall id = some .disconnect ∨ s.lastCall id = some .forget) :
    s.sessions id = none

/-- A session is registered where there is none, for a host whose last call was to connect. -/
def Allowed (s : SshManager) : Event → Prop
  | .move index .register => ∀ call ∈ s.connects[index]?,
      s.sessions call.host.id = none ∧ s.lastCall call.host.id = some .connect
  | _ => True

instance (s : SshManager) (event : Event) : Decidable (s.Allowed event) :=
  match event with
  | .move index .register => inferInstanceAs (Decidable (∀ call ∈ s.connects[index]?, _ ∧ _))
  | .move _ .drop | .move _ (.begin _) | .move _ .dial | .move _ (.fail _) | .move _ .report
  | .connect _ | .disconnect _ | .forget _ => inferInstanceAs (Decidable True)

variable {casing : CaseMapping} {s next : SshManager} {index : ℕ} {call : Connect} {event : Event}
  {session : Session} {id other : Text}

theorem lastCall_called_self (last : Call) : (s.called id last).lastCall id = some last :=
  Function.update_self _ _ _

theorem lastCall_called_of_ne (ne : other ≠ id) (last : Call) :
    (s.called id last).lastCall other = s.lastCall other :=
  Function.update_of_ne ne _ _

theorem sessions_disconnect_self : (s.disconnect id).sessions id = none :=
  Function.update_self _ _ _

theorem sessions_disconnect_of_ne (ne : other ≠ id) :
    (s.disconnect id).sessions other = s.sessions other :=
  Function.update_of_ne ne _ _

theorem sessions_register_self : (s.register id session).sessions id = some session :=
  Function.update_self _ _ _

theorem sessions_register_of_ne (ne : other ≠ id) :
    (s.register id session).sessions other = s.sessions other :=
  Function.update_of_ne ne _ _

theorem mem_live_disconnect :
    session ∈ (s.disconnect id).live ↔ session ∈ s.live ∧ s.sessions id ≠ some session := by
  rw [disconnect, List.mem_filter, decide_eq_true_iff]

/-- The moves in which the call neither has nor gets a session. -/
inductive Plain (s : SshManager) (call : Connect) : SshManager → Phase → Prop
  | drop : Plain s call (s.disconnect call.host.id) .dropped
  | begin (viaTunnel : Bool) :
      Plain s call (s.set call.host.id .connecting) (.dialling viaTunnel)
  | finish (status : SshStatus) : Plain s call (s.set call.host.id status) .done

theorem advance_cases {move : Move}
    (taken : s.advance casing index call call.phase move = some next) :
    (∃ changed phase, call.session? = none ∧ Plain s call changed phase ∧
        next = changed.goOn index call phase) ∨
      (∃ viaTunnel, call.session? = none ∧
        next = (s.dial ⟨call.host.id, s.dialled⟩).goOn index call
          (.dialled viaTunnel ⟨call.host.id, s.dialled⟩)) ∨
      ∃ viaTunnel session, move = .register ∧ call.session? = some session ∧
        next = (s.register call.host.id session).goOn index call (.registered viaTunnel) := by
  rcases call with ⟨host, phase⟩
  cases phase with
  | recorded =>
      cases move <;> cases taken
      exact .inl ⟨_, _, rfl, .drop, rfl⟩
  | dropped =>
      cases move <;> cases taken
      exact .inl ⟨_, _, rfl, .begin _, rfl⟩
  | dialling viaTunnel =>
      cases move <;> cases taken
      · exact .inr (.inl ⟨_, rfl, rfl⟩)
      · exact .inl ⟨_, _, rfl, .finish _, rfl⟩
  | dialled viaTunnel session =>
      cases move <;> cases taken
      exact .inr (.inr ⟨_, _, rfl, rfl, rfl⟩)
  | registered viaTunnel =>
      cases move <;> cases taken
      exact .inl ⟨_, _, rfl, .finish _, rfl⟩
  | done => cases move <;> cases taken

theorem Plain.session?_eq_none {changed : SshManager} {phase : Phase}
    (plain : Plain s call changed phase) : (call.inPhase phase).session? = none := by
  cases plain <;> rfl

theorem mem_connects_goOn {other : Connect} {phase : Phase}
    (mem : other ∈ (s.goOn index call phase).connects) :
    other ∈ s.connects ∨ other = call.inPhase phase :=
  List.mem_or_eq_of_mem_set mem

/-- The other calls stay as they are. -/
theorem mem_goOn_of_ne {other : Connect} (isCall : s.connects[index]? = some call)
    (mem : other ∈ s.connects) (ne : other ≠ call) (phase : Phase) :
    other ∈ (s.goOn index call phase).connects := by
  rcases List.mem_iff_getElem?.mp mem with ⟨place, isOther⟩
  have elsewhere : index ≠ place := by
    rintro rfl
    rw [isCall] at isOther
    exact ne (Option.some.inj isOther).symm
  apply List.mem_of_getElem? (i := place)
  rw [goOn, List.getElem?_set_ne elsewhere]
  exact isOther

/-- A call that has a session is not the one that has none. -/
theorem mem_goOn_of_session? {holder : Connect} (isCall : s.connects[index]? = some call)
    (isFree : call.session? = none) (mem : holder ∈ s.connects)
    (has : holder.session? = some session) (phase : Phase) :
    holder ∈ (s.goOn index call phase).connects := by
  apply mem_goOn_of_ne isCall mem
  rintro rfl
  rw [isFree] at has
  cases has

theorem mem_goOn_self (isCall : s.connects[index]? = some call) (phase : Phase) :
    call.inPhase phase ∈ (s.goOn index call phase).connects := by
  rcases List.getElem?_eq_some_iff.mp isCall with ⟨inRange, -⟩
  exact List.mem_set inRange _

/-- Each open session is registered or belongs to a call in progress. -/
structure Kept (s : SshManager) : Prop where
  owned {session : Session} (isLive : session ∈ s.live) :
    s.sessions session.hostId = some session ∨
      ∃ call ∈ s.connects, call.session? = some session
  hostId {call : Connect} {session : Session} (isCall : call ∈ s.connects)
    (has : call.session? = some session) : session.hostId = call.host.id
  cleared {id : Text} (ended : s.lastCall id = some .disconnect ∨ s.lastCall id = some .forget) :
    s.sessions id = none

namespace Kept

theorem initial : Kept {} where
  owned isLive := by cases isLive
  hostId isCall := by cases isCall
  cleared _ := rfl

theorem set (kept : s.Kept) (id : Text) (status : SshStatus) : (s.set id status).Kept :=
  ⟨kept.owned, kept.hostId, kept.cleared⟩

theorem disconnect (kept : s.Kept) (id : Text) : (s.disconnect id).Kept where
  owned := by
    intro session isLive
    rcases mem_live_disconnect.mp isLive with ⟨wasLive, notDropped⟩
    rcases kept.owned wasLive with registered | held
    · left
      have otherId : session.hostId ≠ id := by
        rintro rfl
        exact notDropped registered
      exact (sessions_disconnect_of_ne otherId).trans registered
    · exact .inr held
  hostId := kept.hostId
  cleared := by
    intro other ended
    by_cases same : other = id
    · rw [same]
      exact sessions_disconnect_self
    · exact (sessions_disconnect_of_ne same).trans (kept.cleared ended)

theorem forget (kept : s.Kept) (id : Text) : (s.forget id).Kept := by
  apply Kept.disconnect
  exact ⟨kept.owned, kept.hostId, kept.cleared⟩

/-- A call that ends the sessions of a host may be its last one if there is none any more. -/
theorem called (kept : s.Kept) {last : Call} (ends : last = .connect ∨ s.sessions id = none) :
    (s.called id last).Kept where
  owned := kept.owned
  hostId := kept.hostId
  cleared := by
    intro other ended
    by_cases same : other = id
    · subst other
      rw [lastCall_called_self] at ended
      rcases ends with rfl | none
      · rcases ended with ended | ended <;> cases ended
      · exact none
    · rw [lastCall_called_of_ne same] at ended
      exact kept.cleared ended

theorem record (kept : s.Kept) (host : SshHost) : (s.record host).Kept where
  owned := by
    intro session isLive
    rcases kept.owned isLive with registered | ⟨call, isCall, has⟩
    · exact .inl registered
    · exact .inr ⟨call, List.mem_append_left _ isCall, has⟩
  hostId := by
    intro call session isCall has
    rcases List.mem_append.mp isCall with old | new
    · exact kept.hostId old has
    · rw [List.mem_singleton.mp new] at has
      cases has
  cleared := kept.cleared

theorem goOn (kept : s.Kept) (isCall : s.connects[index]? = some call) {phase : Phase}
    (isFree : call.session? = none) (staysFree : (call.inPhase phase).session? = none) :
    (s.goOn index call phase).Kept where
  owned := by
    intro session isLive
    rcases kept.owned isLive with registered | ⟨other, isOther, has⟩
    · exact .inl registered
    · exact .inr ⟨other, mem_goOn_of_session? isCall isFree isOther has phase, has⟩
  hostId := by
    intro other session isOther has
    rcases mem_connects_goOn isOther with old | rfl
    · exact kept.hostId old has
    · rw [staysFree] at has
      cases has
  cleared := kept.cleared

theorem dial (kept : s.Kept) (isCall : s.connects[index]? = some call)
    (isFree : call.session? = none) (viaTunnel : Bool) (number : ℕ) :
    ((s.dial ⟨call.host.id, number⟩).goOn index call
      (.dialled viaTunnel ⟨call.host.id, number⟩)).Kept where
  owned := by
    intro session isLive
    rcases List.mem_cons.mp isLive with rfl | wasLive
    · exact .inr ⟨_, mem_goOn_self isCall _, rfl⟩
    · rcases kept.owned wasLive with registered | ⟨other, isOther, has⟩
      · exact .inl registered
      · exact .inr ⟨other, mem_goOn_of_session? isCall isFree isOther has _, has⟩
  hostId := by
    intro other session isOther has
    rcases mem_connects_goOn isOther with old | rfl
    · exact kept.hostId old has
    · cases has
      rfl
  cleared := kept.cleared

/-- A session that is registered where there is none takes the place of no other one. -/
theorem register (kept : s.Kept) (isCall : s.connects[index]? = some call)
    (has : call.session? = some session) (vacant : s.sessions call.host.id = none)
    (connects : s.lastCall call.host.id = some .connect) (viaTunnel : Bool) :
    ((s.register call.host.id session).goOn index call (.registered viaTunnel)).Kept where
  owned := by
    intro other isLive
    rcases kept.owned isLive with registered | ⟨holder, isHolder, holds⟩
    · left
      have otherId : other.hostId ≠ call.host.id := by
        intro same
        rw [same, vacant] at registered
        cases registered
      exact (sessions_register_of_ne otherId).trans registered
    · by_cases same : holder = call
      · left
        rw [same, has] at holds
        cases holds
        rw [kept.hostId (List.mem_of_getElem? isCall) has]
        exact sessions_register_self
      · exact .inr ⟨holder, mem_goOn_of_ne isCall isHolder same _, holds⟩
  hostId := by
    intro other held isOther holds
    rcases mem_connects_goOn isOther with old | rfl
    · exact kept.hostId old holds
    · cases holds
  cleared := by
    intro other ended
    have otherId : other ≠ call.host.id := by
      rintro rfl
      rcases ended with ended | ended <;> exact absurd (connects.symm.trans ended) (by decide)
    exact (sessions_register_of_ne otherId).trans (kept.cleared ended)

theorem plain (kept : s.Kept) {changed : SshManager} {phase : Phase}
    (isPlain : Plain s call changed phase) : changed.Kept ∧ changed.connects = s.connects := by
  cases isPlain with
  | drop => exact ⟨kept.disconnect _, rfl⟩
  | begin => exact ⟨kept.set _ _, rfl⟩
  | finish => exact ⟨kept.set _ _, rfl⟩

theorem step (event : Event) (kept : s.Kept) (allowed : s.Allowed event)
    (taken : s.step casing event = some next) : next.Kept := by
  cases event with
  | connect host =>
      cases taken
      exact (kept.record host).called (.inl rfl)
  | disconnect id =>
      cases taken
      exact (kept.disconnect id).called (.inr sessions_disconnect_self)
  | forget id =>
      cases taken
      exact (kept.forget id).called (.inr sessions_disconnect_self)
  | move index move =>
      rcases Option.bind_eq_some_iff.mp taken with ⟨call, isCall, advanced⟩
      rcases advance_cases advanced with ⟨changed, phase, isFree, isPlain, rfl⟩ |
        ⟨viaTunnel, isFree, rfl⟩ | ⟨viaTunnel, session, rfl, has, rfl⟩
      · rcases kept.plain isPlain with ⟨changedKept, sameCalls⟩
        rw [← sameCalls] at isCall
        exact changedKept.goOn isCall isFree isPlain.session?_eq_none
      · exact kept.dial isCall isFree viaTunnel _
      · rcases allowed call isCall with ⟨vacant, connects⟩
        exact kept.register isCall has vacant connects viaTunnel

/-- Without a call in progress each open session is registered. -/
theorem owned_of_quiet (kept : s.Kept) (quiet : s.Quiet) : s.Owned where
  registered := by
    intro session isLive
    rcases kept.owned isLive with registered | ⟨call, isCall, has⟩
    · exact registered
    · rw [Connect.session?, quiet call isCall] at has
      cases has
  cleared := kept.cleared

end Kept

/-- In every run that registers sessions only where there is none, for hosts whose last call was to
connect, the sessions are owned whenever no connect is in progress. -/
theorem owned_of_reaches (reached : Reaches (step casing) Allowed {} s) (quiet : s.Quiet) :
    s.Owned :=
  (reached.invariant Kept.initial Kept.step).owned_of_quiet quiet

open SshStore (sample)

/-- The moves of a call that is not disturbed. -/
def undisturbed (index : ℕ) : List Event :=
  [.move index .drop, .move index (.begin false), .move index .dial, .move index .register,
    .move index .report]

/-- A host is connected twice, one call after the other. -/
theorem owned_reconnected :
    ∃ s, Reaches (step .ascii) Allowed {} s ∧ s.Quiet ∧ s.live = [⟨sample.id, 1⟩] ∧ s.Owned := by
  have reconnected : ∃ s, run (guarded (step .ascii) Allowed) {}
      (.connect sample :: undisturbed 0 ++ .connect sample :: undisturbed 1) = some s ∧
      s.Quiet ∧ s.live = [⟨sample.id, 1⟩] :=
    ⟨_, rfl, by decide +kernel, by decide +kernel⟩
  rcases reconnected with ⟨s, ends, quiet, live⟩
  have reached := reaches_of_run ends
  exact ⟨s, reached, quiet, live, owned_of_reaches reached quiet⟩

/-- The host is forgotten during the dial, and its session is registered all the same. -/
theorem not_owned_forgotten :
    ∃ s, run (step .ascii) {} [.connect sample, .move 0 .drop, .move 0 (.begin false),
      .move 0 .dial, .forget sample.id, .move 0 .register, .move 0 .report] = some s ∧
      s.Quiet ∧ ¬s.Owned := by
  refine ⟨_, rfl, by decide +kernel, ?_⟩
  intro owned
  have cleared := @Owned.cleared _ owned sample.id (.inr rfl)
  cases cleared

-- A second connect during the dial of the first one leaves the first session behind.
example : ∃ s, run (step .ascii) {} ([.connect sample, .move 0 .drop, .move 0 (.begin false),
      .move 0 .dial, .connect sample, .move 1 .drop, .move 0 .register, .move 0 .report] ++
      (undisturbed 1).tail) = some s ∧ s.Quiet ∧ s.live = [⟨sample.id, 1⟩, ⟨sample.id, 0⟩] ∧
      s.sessions sample.id = some ⟨sample.id, 1⟩ :=
  ⟨_, rfl, by decide +kernel, by decide +kernel, by decide +kernel⟩

end SshManager

end GRoute
