import GRoute.UsageStore.Books

/-!
# Direct traffic

`syncDirect` is called with the traffic counters of the device and books what they rose by since
the last call, if the VPN was off at that call. The counters restart at zero when the device does.
Against the true traffic, each call books at most what went over the network since the call before
it, and nothing if that call did not report the VPN off.
-/

namespace GRoute

open Text Transition Polling

namespace UsageStore

def directKey : Text := txt "__direct__"

/-- The preferences of `syncDirect`, and the maps. -/
structure DirectStore where
  lastRx : Int64 := -1
  lastTx : Int64 := -1
  wasOff : Bool := false
  store : UsageStore

namespace DirectStore

/-- What a call passes to `add`, if it does. -/
def amount (s : DirectStore) (rx tx : Int64) : Option Counts :=
  if !s.wasOff ∨ s.lastRx < 0 ∨ s.lastTx < 0 then none
  else if rx < s.lastRx ∨ tx < s.lastTx then none
  else
    let drx := rx - s.lastRx
    let dtx := tx - s.lastTx
    if 0 < drx ∨ 0 < dtx then some ⟨dtx, drx⟩ else none

def syncDirect (s : DirectStore) (now : Moment) (rx tx : Int64) (vpnOff : Bool) : DirectStore where
  lastRx := rx
  lastTx := tx
  wasOff := vpnOff
  store :=
    match s.amount rx tx with
    | none => s.store
    | some amount => s.store.add now amount (some directKey)

def last (s : DirectStore) : Direction → Int64
  | .up => s.lastTx
  | .down => s.lastRx

end DirectStore

/-- Bytes received and sent. -/
structure Traffic where
  rx : ℕ := 0
  tx : ℕ := 0
  deriving DecidableEq, Repr

namespace Traffic

instance : Add Traffic := ⟨fun a b => ⟨a.rx + b.rx, a.tx + b.tx⟩⟩

def bytes (traffic : Traffic) : Direction → ℕ
  | .up => traffic.tx
  | .down => traffic.rx

@[simp]
theorem bytes_add (a b : Traffic) (direction : Direction) :
    (a + b).bytes direction = a.bytes direction + b.bytes direction := by
  cases direction <;> rfl

@[simp]
theorem bytes_empty (direction : Direction) : bytes {} direction = 0 := by
  cases direction <;> rfl

end Traffic

/-- What happened between two calls, or before the first one. -/
structure Interval where
  traffic : Traffic
  /-- There was a call at the start of the interval, and it reported the VPN off. -/
  startedOff : Bool
  /-- What the call at the end of the interval booked. -/
  booked : Counts

/-- The traffic of the interval, if the VPN was off at its start. -/
def Interval.offTraffic (interval : Interval) (direction : Direction) : ℤ :=
  if interval.startedOff then interval.traffic.bytes direction else 0

/-- The device and the app. The other fields are the history. -/
structure Device where
  counters : Traffic
  app : DirectStore
  /-- The traffic since the last call. -/
  since : Traffic := {}
  /-- The traffic of all time. -/
  all : Traffic := {}
  /-- The last call reported the VPN off. -/
  reportedOff : Bool := false
  intervals : List Interval := []

namespace Device

/-- The app on a device that may have been used before. -/
def start (counters : Traffic) : Device where
  counters := counters
  app := { store := UsageStore.start {} }

inductive Event
  | traffic (more : Traffic)
  | reboot
  | syncDirect (now : Moment) (vpnOff : Bool)
  /-- Traffic of a config is booked. -/
  | add (now : Moment) (amount : Counts) (configKey : Option Text)

/-- The reading of a counter is a `Long`. -/
def sync (device : Device) (now : Moment) (vpnOff : Bool) : Device :=
  let rx := Int64.ofNat device.counters.rx
  let tx := Int64.ofNat device.counters.tx
  { device with
    app := device.app.syncDirect now rx tx vpnOff
    since := {}
    reportedOff := vpnOff
    intervals := device.intervals ++
      [⟨device.since, device.reportedOff, (device.app.amount rx tx).getD 0⟩] }

def step (device : Device) : Event → Option Device
  | .traffic more =>
      some { device with
        counters := device.counters + more
        since := device.since + more
        all := device.all + more }
  | .reboot => some { device with counters := {} }
  | .syncDirect now vpnOff => some (device.sync now vpnOff)
  | .add now amount configKey =>
      if configKey = some directKey then none
      else some { device with
        app := { device.app with store := device.app.store.add now amount configKey } }

/-- The total under the direct key. -/
def direct (device : Device) : Counts := device.app.store.memory.total (.config directKey)

end Device

/-- The last reading and the counter now: either the counter rose by the traffic since, or it was
restarted since. -/
def Tracks (last : Int64) (counter since : ℕ) : Prop :=
  0 ≤ last → (∃ before, last = Int64.ofNat before ∧ counter = before + since) ∨ counter ≤ since

/-- A `Long` is the number up to a multiple of its range. -/
theorem exists_toInt_ofNat (n : ℕ) : ∃ turns : ℤ, (Int64.ofNat n).toInt = n - 2 ^ 64 * turns := by
  refine ⟨((n : ℤ) - (Int64.ofNat n).toInt) / 2 ^ 64, ?_⟩
  rw [Int.mul_ediv_cancel', sub_sub_cancel]
  rw [Int64.toInt_ofNat']
  exact Int.dvd_self_sub_bmod

theorem toInt_sub_le_of_tracks {last : Int64} {counter since : ℕ}
    (tracks : Tracks last counter since) (nonneg : 0 ≤ last)
    (risen : last ≤ Int64.ofNat counter) :
    0 ≤ (Int64.ofNat counter - last).toInt ∧ (Int64.ofNat counter - last).toInt ≤ since := by
  have lastNonneg : 0 ≤ last.toInt := Int64.le_iff_toInt_le.mp nonneg
  have order := Int64.le_iff_toInt_le.mp risen
  have bound := (Int64.ofNat counter).toInt_lt
  have difference : (Int64.ofNat counter - last).toInt =
      (Int64.ofNat counter).toInt - last.toInt := by
    rw [Int64.toInt_sub]
    apply Int.bmod_eq_of_le_mul_two <;> omega
  rw [difference]
  refine ⟨by omega, ?_⟩
  rcases exists_toInt_ofNat counter with ⟨turns, reading⟩
  rcases tracks nonneg with ⟨before, rfl, rfl⟩ | restarted
  · rcases exists_toInt_ofNat before with ⟨turnsBefore, readingBefore⟩
    omega
  · omega

theorem offTraffic_nonneg (interval : Interval) (direction : Direction) :
    0 ≤ interval.offTraffic direction := by
  rw [Interval.offTraffic]
  split_ifs
  · exact Int.natCast_nonneg _
  · exact le_rfl

namespace Device

/-- What the next call would book, and the interval it would end. -/
def interval (device : Device) : Interval where
  traffic := device.since
  startedOff := device.reportedOff
  booked := (device.app.amount (Int64.ofNat device.counters.rx)
    (Int64.ofNat device.counters.tx)).getD 0

/-- The app knows what the last call reported and where the counters were. -/
structure Tracked (device : Device) : Prop where
  reported : device.app.wasOff = device.reportedOff
  counters (direction : Direction) :
    Tracks (device.app.last direction) (device.counters.bytes direction)
      (device.since.bytes direction)

variable {device next : Device}

theorem booked_interval (tracked : device.Tracked) (direction : Direction) :
    0 ≤ device.interval.booked.bytes direction ∧
      device.interval.booked.bytes direction ≤ device.interval.offTraffic direction := by
  have nothing : 0 ≤ (0 : Counts).bytes direction ∧
      (0 : Counts).bytes direction ≤ device.interval.offTraffic direction := by
    rw [Counts.bytes_zero]
    exact ⟨le_rfl, offTraffic_nonneg _ direction⟩
  simp only [interval, DirectStore.amount]
  split_ifs with skips restarts rises
  · exact nothing
  · exact nothing
  · simp only [not_or, Bool.not_eq_true', Bool.not_eq_false, Int64.not_lt] at skips restarts
    have started : device.reportedOff = true := tracked.reported.symm.trans skips.1
    rw [Interval.offTraffic, if_pos started]
    cases direction with
    | up => exact toInt_sub_le_of_tracks (tracked.counters .up) skips.2.2 restarts.2
    | down => exact toInt_sub_le_of_tracks (tracked.counters .down) skips.2.1 restarts.1
  · exact nothing

/-- Each interval was booked at most once and for its own traffic, the intervals and the time since
the last call have the traffic of all time, and the total is not above what was booked. -/
structure Accounted (device : Device) : Prop extends Tracked device where
  booked : ∀ interval ∈ device.intervals, ∀ direction,
    0 ≤ interval.booked.bytes direction ∧
      interval.booked.bytes direction ≤ interval.offTraffic direction
  partition (direction : Direction) :
    (device.intervals.map fun interval => interval.traffic.bytes direction).sum +
      device.since.bytes direction = device.all.bytes direction
  total (direction : Direction) :
    device.direct.bytes direction ≤
      (device.intervals.map fun interval => interval.booked.bytes direction).sum

theorem accounted_start (counters : Traffic) : (start counters).Accounted where
  reported := rfl
  counters direction := by
    intro nonneg
    have unread : ¬ (0 : Int64) ≤ -1 := by decide
    cases direction <;> exact absurd nonneg unread
  booked := List.forall_mem_nil _
  partition direction := by cases direction <;> rfl
  total direction := (Counts.bytes_zero direction).le

theorem accounted_traffic (accounted : device.Accounted) (more : Traffic) :
    Accounted { device with
      counters := device.counters + more
      since := device.since + more
      all := device.all + more } where
  reported := accounted.reported
  counters direction := by
    intro nonneg
    rw [Traffic.bytes_add, Traffic.bytes_add]
    rcases accounted.counters direction nonneg with ⟨before, reading, risen⟩ | restarted
    · exact .inl ⟨before, reading, by omega⟩
    · exact .inr (Nat.add_le_add_right restarted _)
  booked := accounted.booked
  partition direction := by
    rw [Traffic.bytes_add, Traffic.bytes_add, ← accounted.partition, add_assoc]
  total := accounted.total

theorem accounted_reboot (accounted : device.Accounted) :
    Accounted { device with counters := {} } where
  reported := accounted.reported
  counters direction := by
    intro _
    exact .inr (by rw [Traffic.bytes_empty]; exact Nat.zero_le _)
  booked := accounted.booked
  partition := accounted.partition
  total := accounted.total

theorem direct_add_other {now : Moment} {amount : Counts} {configKey : Option Text}
    (other : configKey ≠ some directKey) (s : UsageStore) :
    (s.add now amount configKey).memory.total (.config directKey) =
      s.memory.total (.config directKey) := by
  rcases s.add_cases now amount configKey with same | ⟨memory, -⟩
  · rw [same]
  · rw [memory, Tables.total_add, Added.at, if_neg fun isDirect => other isDirect.1, add_zero]

/-- A call adds what it books to the total, if the sum does not overflow. -/
theorem direct_syncDirect_le (s : DirectStore) (now : Moment) (rx tx : Int64) (vpnOff : Bool)
    {direction : Direction} (nonneg : 0 ≤ ((s.amount rx tx).getD 0).bytes direction) :
    ((s.syncDirect now rx tx vpnOff).store.memory.total (.config directKey)).bytes direction ≤
      (s.store.memory.total (.config directKey)).bytes direction +
        ((s.amount rx tx).getD 0).bytes direction := by
  simp only [DirectStore.syncDirect]
  cases passed : s.amount rx tx with
  | none => rw [Option.getD_none, Counts.bytes_zero, add_zero]
  | some amount =>
      rw [passed] at nonneg
      rcases s.store.add_cases now amount (some directKey) with same | ⟨memory, -⟩
      · simp only [same, Option.getD_some]
        exact le_add_of_nonneg_right nonneg
      · have booked : Added.at ⟨now.dayKey, some directKey, amount⟩ (.config directKey) =
            amount := by
          rw [Added.at, if_pos ⟨rfl, by decide⟩]
        simp only [memory, Tables.total_add, booked, Option.getD_some]
        exact Counts.bytes_add_le nonneg

theorem accounted_sync (accounted : device.Accounted) (now : Moment) (vpnOff : Bool) :
    (device.sync now vpnOff).Accounted where
  reported := rfl
  counters direction := by
    intro _
    refine .inl ⟨device.counters.bytes direction, ?_, ?_⟩
    · cases direction <;> rfl
    · rw [sync, Traffic.bytes_empty, add_zero]
  booked := by
    intro interval mem direction
    rcases List.mem_append.mp mem with earlier | isLast
    · exact accounted.booked interval earlier direction
    · rw [List.mem_singleton.mp isLast]
      exact booked_interval accounted.toTracked direction
  partition direction := by
    simp only [sync, List.map_append, List.sum_append, List.map_singleton, List.sum_singleton,
      Traffic.bytes_empty, add_zero]
    exact accounted.partition direction
  total direction := by
    have nonneg := (booked_interval accounted.toTracked direction).1
    simp only [sync, List.map_append, List.sum_append, List.map_singleton, List.sum_singleton]
    exact (direct_syncDirect_le device.app now _ _ vpnOff nonneg).trans
      (add_le_add_left (accounted.total direction) _)

theorem accounted_step {event : Event} (accounted : device.Accounted)
    (taken : device.step event = some next) : next.Accounted := by
  cases event with
  | traffic more =>
      cases taken
      exact accounted_traffic accounted more
  | reboot =>
      cases taken
      exact accounted_reboot accounted
  | syncDirect now vpnOff =>
      cases taken
      exact accounted_sync accounted now vpnOff
  | add now amount configKey =>
      rw [step, Option.ite_none_left_eq_some] at taken
      rcases taken with ⟨other, ⟨⟩⟩
      exact { accounted with
        total := fun direction => by
          rw [direct, direct_add_other other]
          exact accounted.total direction }

/-- In every run, each interval between two calls is booked at most once, by the call at its end,
for at most its own traffic, and only if the call at its start reported the VPN off. The total
under the direct key is at most the traffic of these intervals. -/
theorem direct_never_overcounted {counters : Traffic} {events : List Event}
    (ends : run step (start counters) events = some device) :
    (∀ interval ∈ device.intervals, ∀ direction,
      interval.booked.bytes direction ≤ interval.offTraffic direction) ∧
    (∀ direction,
      (device.intervals.map fun interval => interval.traffic.bytes direction).sum +
        device.since.bytes direction = device.all.bytes direction) ∧
    ∀ direction, device.direct.bytes direction ≤
      (device.intervals.map fun interval => interval.offTraffic direction).sum := by
  have accounted : device.Accounted :=
    run_invariant (accounted_start counters) (fun _ => accounted_step) ends
  refine ⟨?_, accounted.partition, ?_⟩
  · intro interval mem direction
    exact (accounted.booked interval mem direction).2
  · intro direction
    apply (accounted.total direction).trans
    apply List.sum_le_sum
    intro interval mem
    exact (accounted.booked interval mem direction).2

/-- The device restarts while the VPN is off, and the new counter overtakes the old reading. -/
def overtaken : List Event :=
  [.traffic ⟨100, 10⟩, .syncDirect sampleMoment true, .traffic ⟨50, 5⟩, .reboot, .traffic ⟨300, 30⟩,
    .syncDirect sampleMoment false]

theorem direct_overtaken : ∃ device, run step (start ⟨7, 7⟩) overtaken = some device ∧
    device.direct = ⟨13, 193⟩ ∧ ∀ direction, device.direct.bytes direction ≤
      (device.intervals.map fun interval => interval.offTraffic direction).sum := by
  have books : ∃ device, run step (start ⟨7, 7⟩) overtaken = some device ∧
      device.direct = ⟨13, 193⟩ := ⟨_, rfl, by decide +kernel⟩
  rcases books with ⟨device, ends, total⟩
  exact ⟨device, ends, total, (direct_never_overcounted ends).2.2⟩

end Device

end UsageStore

end GRoute
