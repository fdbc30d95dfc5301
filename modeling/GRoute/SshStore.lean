import GRoute.ConfigStore.Storage
import GRoute.Foundation.JsonObject
import GRoute.Foundation.Transition
import Mathlib.Data.List.ReduceOption

/-!
# The stored SSH hosts

`SshStore` changes the list of the hosts in memory and launches a job that writes the list as it
was then. The jobs run on a dispatcher with several threads and finish in any order, so that the
one that writes last need not be the one with the latest list. A password is encrypted, and left
out if that fails. If the job that finishes last was launched last, the latest list is saved.
-/

namespace GRoute

open Text Transition

/-- `SshHost`. -/
structure SshHost where
  id : Text
  label : Text := []
  address : Text := []
  port : Int32 := 22
  username : Text := []
  password : Text := []
  direct : Bool := false
  addedAt : Int64
  deriving DecidableEq

namespace SshHost

variable (cipher : KeyCipher) (json : OrgObject)

/-- There is no nonce if `Crypto.encrypt` fails. -/
def sealedPassword (nonce : Option Nonce) (host : SshHost) : Text :=
  if host.password = [] then []
  else (nonce.map fun nonce => cipher.crypto.encrypt nonce host.password).getD []

/-- The object that `persist` writes for a host. -/
def toJson (nonce : Option Nonce) (host : SshHost) : Json :=
  .object [("id", .str host.id), ("label", .str host.label), ("address", .str host.address),
    ("port", .int host.port.toInt), ("username", .str host.username),
    ("password", .str (sealedPassword cipher nonce host)), ("direct", .bool host.direct),
    ("addedAt", .int host.addedAt.toInt)]

/-- `fresh` is the id that is drawn for an object without one. -/
def fromJson (o : Json) (fresh : Text) : SshHost :=
  let blob := o.optString (txt "password") []
  { id := ifEmpty (o.optString (txt "id") []) fresh
    label := o.optString (txt "label") []
    address := o.optString (txt "address") []
    port := Int32.ofInt (json.optInt o (txt "port") 22)
    username := o.optString (txt "username") []
    password := if blob = [] then [] else (cipher.crypto.decrypt blob).getD []
    direct := json.optBoolean o (txt "direct") false
    addedAt := Int64.ofInt (json.optLong o (txt "addedAt") 0) }

/-- The host with another password. -/
def withPassword (host : SshHost) (password : Text) : SshHost := { host with password := password }

theorem isInt_port (host : SshHost) : IsInt host.port.toInt :=
  ⟨host.port.le_toInt, host.port.toInt_lt⟩

theorem isLong_addedAt (host : SshHost) : Json.IsLong host.addedAt.toInt :=
  ⟨host.addedAt.le_toInt, host.addedAt.toInt_lt⟩

theorem printable_toJson (nonce : Option Nonce) (host : SshHost) :
    Json.Printable (host.toJson cipher nonce) := by
  refine .obj ?_ ?_
  · simp only [List.map_cons, List.map_nil]
    decide +kernel
  · simp only [List.map_cons, List.map_nil, List.forall_mem_cons]
    simp only [Json.Printable.str, Json.Printable.bool, Json.Printable.ofInt host.isInt_port,
      Json.Printable.int host.isLong_addedAt, List.not_mem_nil, IsEmpty.forall_iff, implies_true,
      and_self]

/-- What is left of the password. -/
def keptPassword (nonce : Option Nonce) (host : SshHost) : Text :=
  if nonce.isSome then sanitize host.password else []

/-- A password that is encrypted and well formed is kept, and so is an empty one. -/
theorem keptPassword_eq {nonce : Option Nonce} {host : SshHost}
    (encrypted : host.password = [] ∨ nonce.isSome)
    (wellFormed : nonce.isSome → WellFormed host.password) :
    host.keptPassword nonce = host.password := by
  rw [keptPassword]
  split_ifs with works
  · exact Text.sanitize_eq_self_iff.mpr (wellFormed works)
  · exact (encrypted.resolve_right works).symm

theorem password_sealed (nonce : Option Nonce) (host : SshHost) :
    (if host.sealedPassword cipher nonce = [] then []
      else (cipher.crypto.decrypt (host.sealedPassword cipher nonce)).getD []) =
      host.keptPassword nonce := by
  rw [sealedPassword, keptPassword]
  cases nonce with
  | none => simp
  | some nonce =>
      by_cases empty : host.password = []
      · simp [empty, sanitize_nil]
      · have nonempty : cipher.crypto.encrypt nonce host.password ≠ [] := by
          rcases cipher.exists_encrypt nonce host.password with ⟨v, -, rest, isCons⟩
          rw [isCons]
          exact List.cons_ne_nil _ _
        simp [empty, nonempty, cipher.decrypt_encrypt]

theorem fromJson_toJson (nonce : Option Nonce) (host : SshHost) :
    fromJson cipher json (host.toJson cipher nonce) [] =
      host.withPassword (host.keptPassword nonce) := by
  rw [withPassword, ← password_sealed cipher nonce host]
  simp +decide only [fromJson, toJson, Json.optString, OrgArray.optInt, OrgArray.optBoolean,
    OrgObject.optLong, Json.field?_object_cons, if_true, if_false, Option.bind_some, Json.toText,
    json.toInteger_int host.isInt_port, json.toLong_int host.isLong_addedAt, json.toBoolean_bool,
    Option.getD_some, ifEmpty_nil_right, Int32.ofInt_toInt, Int64.ofInt_toInt]

/-- The host without its password. -/
def bare (host : SshHost) : SshHost := host.withPassword []

@[simp]
theorem bare_withPassword (host : SshHost) (password : Text) :
    (host.withPassword password).bare = host.bare := rfl

@[simp]
theorem password_withPassword (host : SshHost) (password : Text) :
    (host.withPassword password).password = password := rfl

end SshHost

/-- A job that has not finished, with the number of its launch and the list that it writes. -/
structure SshJob where
  number : ℕ
  snapshot : List SshHost

/-- The hosts in memory, the text in the preferences, the jobs that have not finished and the number
of those that were launched. -/
structure SshStore where
  hosts : List SshHost
  stored : Option Text
  jobs : List SshJob
  launched : ℕ

namespace SshStore

open ConfigStore (isObject)

variable (cipher : KeyCipher) (json : OrgObject)

/-- Each password is encrypted on its own. -/
def hostsText (nonces : ℕ → Option Nonce) (snapshot : List SshHost) : Text :=
  (Json.arr (snapshot.mapIdx fun i host => host.toJson cipher (nonces i))).print

/-- An element that is no object is passed over. -/
def hostsFrom (fresh : ℕ → Text) (elements : List Json) : List SshHost :=
  (elements.mapIdx fun i o =>
    if isObject o then some (SshHost.fromJson cipher json o (fresh i)) else none).reduceOption

/-- `load`; a text that cannot be read gives no host. -/
def load (fresh : ℕ → Text) (stored : Option Text) : List SshHost :=
  ((stored.bind json.parse).map (hostsFrom cipher json fresh)).getD []

/-- The stored list, with the empty id where there is none. -/
def storedHosts (store : SshStore) : List SshHost := load cipher json (fun _ => []) store.stored

theorem hostsFrom_toJson (nonces : ℕ → Option Nonce) (snapshot : List SshHost) :
    hostsFrom cipher json (fun _ => [])
        (snapshot.mapIdx fun i host => host.toJson cipher (nonces i)) =
      snapshot.mapIdx fun i host => host.withPassword (host.keptPassword (nonces i)) := by
  have each : (fun i (host : SshHost) => if isObject (host.toJson cipher (nonces i)) then
      some (SshHost.fromJson cipher json (host.toJson cipher (nonces i)) []) else none) =
      fun i host => some (host.withPassword (host.keptPassword (nonces i))) := by
    funext i host
    rw [SshHost.fromJson_toJson]
    rfl
  rw [hostsFrom, List.mapIdx_mapIdx]
  simp only [Function.comp_def, each, List.mapIdx_eq_zipIdx_map, List.reduceOption,
    List.filterMap_map]
  exact congrFun List.filterMap_eq_map' _

/-- The hosts are read as they were written, but for the passwords that could not be encrypted. -/
theorem load_hostsText (nonces : ℕ → Option Nonce) (snapshot : List SshHost) :
    load cipher json (fun _ => []) (some (hostsText cipher nonces snapshot)) =
      snapshot.mapIdx fun i host => host.withPassword (host.keptPassword (nonces i)) := by
  have printable : ∀ element ∈ snapshot.mapIdx fun i host => host.toJson cipher (nonces i),
      Json.Printable element := by
    intro element mem
    rcases List.mem_mapIdx.mp mem with ⟨i, _, rfl⟩
    exact SshHost.printable_toJson cipher (nonces i) _
  rw [load, Option.bind_some, hostsText, json.parse_print printable]
  exact hostsFrom_toJson cipher json nonces snapshot

/-- A job is launched with the list as it is. -/
def persist (store : SshStore) : SshStore :=
  { store with
    jobs := store.jobs ++ [⟨store.launched, store.hosts⟩]
    launched := store.launched + 1 }

/-- `add`. -/
def add (store : SshStore) (host : SshHost) : SshStore :=
  persist { store with hosts := store.hosts ++ [host] }

/-- `update`. -/
def update (store : SshStore) (host : SshHost) : SshStore :=
  persist { store with hosts := store.hosts.map fun it => if it.id = host.id then host else it }

/-- `remove`. -/
def remove (store : SshStore) (id : Text) : SshStore :=
  persist { store with hosts := store.hosts.filter fun it => it.id ≠ id }

/-- The calls, and the completion of a job. -/
inductive Event
  | add (host : SshHost)
  | update (host : SshHost)
  | remove (id : Text)
  /-- The job at the index writes its list; there is no nonce where the encryption fails. -/
  | finish (index : ℕ) (nonces : ℕ → Option Nonce)

/-- There is nothing to finish at an index without a job. -/
def step (store : SshStore) : Event → Option SshStore
  | .add host => some (store.add host)
  | .update host => some (store.update host)
  | .remove id => some (store.remove id)
  | .finish index nonces => store.jobs[index]?.map fun job =>
      { store with
        stored := some (hostsText cipher nonces job.snapshot)
        jobs := store.jobs.eraseIdx index }

variable {cipher json} {before after : SshStore} {event : Event}

/-- A call launches a job with a new list, and any other step finishes one. -/
theorem step_cases (taken : before.step cipher event = some after) :
    (∃ hosts, after = persist { before with hosts := hosts } ∧
        ∀ index nonces, event ≠ .finish index nonces) ∨
      ∃ index nonces job, event = .finish index nonces ∧ before.jobs[index]? = some job ∧
        after = { before with
          stored := some (hostsText cipher nonces job.snapshot)
          jobs := before.jobs.eraseIdx index } := by
  cases event with
  | add host =>
      cases taken
      exact .inl ⟨_, rfl, by simp⟩
  | update host =>
      cases taken
      exact .inl ⟨_, rfl, by simp⟩
  | remove id =>
      cases taken
      exact .inl ⟨_, rfl, by simp⟩
  | finish index nonces =>
      rcases Option.map_eq_some_iff.mp taken with ⟨job, isJob, rfl⟩
      exact .inr ⟨index, nonces, job, rfl, isJob, rfl⟩

/-- The job that leaves none is the only one. -/
theorem jobs_eq_singleton {index : ℕ} {job : SshJob} (isJob : before.jobs[index]? = some job)
    (last : before.jobs.eraseIdx index = []) : before.jobs = [job] := by
  rcases List.eraseIdx_eq_nil_iff.mp last with none | ⟨single, rfl⟩
  · rw [none, List.getElem?_nil] at isJob
    cases isJob
  · rcases List.length_eq_one_iff.mp single with ⟨only, jobs⟩
    rw [jobs, List.getElem?_cons_zero] at isJob
    rw [jobs, Option.some.inj isJob]

variable (cipher json)

/-- The stored list is the one in memory, and each password can be recovered if there is nothing to
encrypt or the encryption succeeds. -/
structure Saved (nonces : ℕ → Option Nonce) (store : SshStore) : Prop where
  bare : (store.storedHosts cipher json).map SshHost.bare = store.hosts.map SshHost.bare
  password {i : ℕ} {host : SshHost} (isHost : store.hosts[i]? = some host)
    (encrypted : host.password = [] ∨ (nonces i).isSome) :
    (store.storedHosts cipher json)[i]?.map SshHost.password = some host.password

/-- Once all jobs have finished the latest list is saved. -/
def SavesLatest (_ : SshStore) (event : Event) (after : SshStore) : Prop :=
  match event with
  | .finish _ nonces => after.jobs = [] → after.Saved cipher json nonces
  | _ => True

/-- The job that finishes last was launched last, and the passwords that it encrypts are well
formed. -/
def LastInOrder (before : SshStore) (event : Event) (_ : SshStore) : Prop :=
  match event with
  | .finish _ nonces => ∀ job, before.jobs = [job] →
      job.number + 1 = before.launched ∧
        ∀ (i : ℕ) (host : SshHost), before.hosts[i]? = some host → (nonces i).isSome →
          WellFormed host.password
  | _ => True

/-- Numbers are below that of the next launch, and the job launched last has the list in memory. -/
structure Numbered (store : SshStore) : Prop where
  lt {job : SshJob} (mem : job ∈ store.jobs) : job.number < store.launched
  latest {job : SshJob} (mem : job ∈ store.jobs) (last : job.number + 1 = store.launched) :
    job.snapshot = store.hosts

variable {cipher json}

theorem Numbered.persist (numbered : Numbered before) (hosts : List SshHost) :
    Numbered (persist { before with hosts := hosts }) where
  lt {job} mem := by
    rcases List.mem_append.mp mem with older | isNew
    · exact Nat.lt_succ_of_lt (numbered.lt older)
    · rw [List.mem_singleton.mp isNew]
      exact Nat.lt_succ_self _
  latest {job} mem last := by
    rcases List.mem_append.mp mem with older | isNew
    · exact absurd (Nat.succ.inj last) (numbered.lt older).ne
    · rw [List.mem_singleton.mp isNew]
      rfl

theorem map_bare_storedHosts {store : SshStore} {nonces : ℕ → Option Nonce}
    {snapshot : List SshHost} (written : store.stored = some (hostsText cipher nonces snapshot)) :
    (store.storedHosts cipher json).map SshHost.bare = snapshot.map SshHost.bare := by
  rw [storedHosts, written, load_hostsText]
  apply List.ext_getElem?
  intro i
  simp only [List.getElem?_map, List.getElem?_mapIdx, Option.map_map, Function.comp_def,
    SshHost.bare_withPassword]

/-- A job that writes the list in memory saves it. -/
theorem saved_of_written {store : SshStore} {nonces : ℕ → Option Nonce}
    (written : store.stored = some (hostsText cipher nonces store.hosts))
    (wellFormed : ∀ (i : ℕ) (host : SshHost), store.hosts[i]? = some host → (nonces i).isSome →
      WellFormed host.password) : store.Saved cipher json nonces where
  bare := map_bare_storedHosts written
  password {i host} isHost encrypted := by
    rw [storedHosts, written, load_hostsText]
    simp only [List.getElem?_mapIdx, isHost, Option.map_some, SshHost.password_withPassword]
    rw [SshHost.keptPassword_eq encrypted (wellFormed i host isHost)]

theorem savesLatest_step (numbered : Numbered before) (inOrder : LastInOrder before event after)
    (taken : before.step cipher event = some after) :
    SavesLatest cipher json before event after ∧ Numbered after := by
  rcases step_cases taken with ⟨hosts, rfl, isCall⟩ | ⟨index, nonces, job, rfl, isJob, rfl⟩
  · refine ⟨?_, numbered.persist hosts⟩
    cases event with
    | finish index nonces => exact absurd rfl (isCall index nonces)
    | _ => trivial
  · constructor
    · intro last
      have only := jobs_eq_singleton isJob last
      rcases inOrder job only with ⟨isLast, wellFormed⟩
      have isLatest := numbered.latest (List.mem_of_getElem? isJob) isLast
      rw [isLatest]
      exact saved_of_written rfl wellFormed
    · exact ⟨fun mem => numbered.lt (List.mem_of_mem_eraseIdx mem),
        fun mem => numbered.latest (List.mem_of_mem_eraseIdx mem)⟩

/-- Over every run from a store without jobs: if each time the last job to finish was launched last,
each time the latest list is saved. -/
theorem savesLatest_of_lastInOrder {start : SshStore} {events : List Event}
    (idle : start.jobs = [])
    (inOrder : EveryStep (step cipher) LastInOrder start events) :
    EveryStep (step cipher) (SavesLatest cipher json) start events := by
  have initial : Numbered start := by
    constructor <;> simp [idle]
  exact inOrder.of_invariant initial savesLatest_step

/-- A host with a password. -/
def sample : SshHost where
  id := txt "host"
  password := txt "secret"
  addedAt := 0

/-- A store that was never used. -/
def noHosts : SshStore := ⟨[], none, [], 0⟩

/-- The password is changed, and the jobs finish in their order. -/
def changed : List Event :=
  [.add sample, .update (sample.withPassword (txt "changed")), .finish 0 fun _ => some default,
    .finish 0 fun _ => some default]

theorem savesLatest_changed :
    EveryStep (step .transparent) (SavesLatest .transparent .strict) noHosts changed := by
  apply savesLatest_of_lastInOrder rfl
  refine fun _ added => ⟨trivial, ?_⟩
  cases added
  refine fun _ updated => ⟨trivial, ?_⟩
  cases updated
  intro _ firstFinished
  cases firstFinished
  constructor
  · intro job only
    cases only
  intro _ lastFinished
  refine ⟨?_, trivial⟩
  rintro job ⟨rfl⟩
  refine ⟨rfl, ?_⟩
  intro i host isHost _
  have isSample : host ∈ [sample.withPassword (txt "changed")] := List.mem_of_getElem? isHost
  rw [List.mem_singleton.mp isSample]
  decide

/-- The job of the removal finishes before the one of the addition. -/
def overtaken : List Event :=
  [.add sample, .remove sample.id, .finish 1 fun _ => some default, .finish 0 fun _ => some default]

theorem not_savesLatest_overtaken :
    ¬EveryStep (step .transparent) (SavesLatest .transparent .strict) noHosts overtaken := by
  intro latest
  have added := (latest _ rfl).2
  have removed := (added _ rfl).2
  have firstFinished := (removed _ rfl).2
  have saved := (firstFinished _ rfl).1 rfl
  have written := saved.bare
  rw [map_bare_storedHosts rfl] at written
  cases written

end SshStore

end GRoute
