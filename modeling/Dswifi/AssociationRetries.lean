import Dswifi.Association

/-! How often the console asks again. The counter of the update loop is cleared by
every authentication that the access point accepts, so that it bounds the calls of
Wifi_AssociationUpdate only as long as none is accepted after the first of them. -/

namespace Dswifi.Association

open ByteMemory Runs

/-- Updates, the frames of the access point other than a deauthentication, and
what the ARM9 asks for. -/
inductive Event where
  | ntrUpdate (now : UInt16)
  | authentication (data : Memory)
  | assocResponse (data : Memory)
  | request (mode : Mode) (libraryMode : LibraryMode)

/-- The driver has left WIFIMODE_CONNECTING, or is about to. -/
def Over (driver : Driver) : Prop :=
  driver.curMode ≠ .connecting ∨ driver.authlevel = .associated ∨ driver.authlevel = .error

instance (driver : Driver) : Decidable (Over driver) := inferInstanceAs (Decidable (_ ∨ _))

def handle (driver : Driver) : Event → Driver
  | .ntrUpdate now => ntrUpdate driver now
  | .authentication data => processAuthentication driver data
  | .assocResponse data => processAssocResponse driver data
  | .request mode libraryMode => { driver with reqMode := mode, reqLibraryMode := libraryMode }

/-- One attempt to connect: nothing after its end belongs to it. -/
def step (driver : Driver) (event : Event) : Driver :=
  if Over driver then driver else handle driver event

/-- The access point stays silent. -/
def Silent : Event → Prop
  | .ntrUpdate _ | .request _ _ => True
  | .authentication _ | .assocResponse _ => False

/-- However long the access point is silent from here on, the console does not
ask more often than it is meant to. -/
def GivesUp (driver : Driver) : Prop :=
  ∀ silence : List Event, (∀ event ∈ silence, Silent event) →
    (run step driver silence).retries ≤ maxAssocRetry + 1

/-- The frame is from the access point and for this console. -/
def Addressed (driver : Driver) (data : Memory) : Prop :=
  readBytes data hdrMgtDa 6 = driver.macAddr ∧ readBytes data BeaconFrame.hdrMgtBssid 6 = driver.bssid

/-- The last frame of an authentication, with a success. -/
def Success (data : Memory) : Prop :=
  (authAlgorithm data = authAlgoOpenSystem ∧ seqNumber data = 2 ∨
    authAlgorithm data = authAlgoSharedKey ∧ seqNumber data = 4) ∧ statusCode data = 0

/-- No authentication is accepted that the driver waits for and that finds the
counter already running. -/
def CountKept (driver : Driver) : Event → Prop
  | .authentication data =>
      ¬ Over driver → Addressed driver data → Success data →
        driver.authlevel = .disconnected → driver.authctr = 0
  | _ => True

/-- In an attempt that goes on, the counter is the number of calls. -/
structure Counted (driver : Driver) : Prop where
  bounded : driver.retries ≤ maxAssocRetry + 1
  counter : ¬ Over driver → driver.authctr = driver.retries ∧ driver.retries ≤ maxAssocRetry

/-! What each handler does to the two counters. -/

/-- No call of Wifi_AssociationUpdate, and the counter left alone if the attempt goes on. -/
structure Quiet (before after : Driver) : Prop where
  retries : after.retries = before.retries
  authctr : ¬ Over after → after.authctr = before.authctr

theorem Quiet.refl (driver : Driver) : Quiet driver driver := ⟨rfl, fun _ => rfl⟩

theorem over_of_error {driver : Driver} (level : driver.authlevel = .error) : Over driver :=
  .inr (.inr level)

theorem openSystemResponse_cases (driver : Driver) (sequence status : UInt16) :
    Quiet driver (openSystemResponse driver sequence status) ∨
      sequence = 2 ∧ status = 0 ∧ openSystemResponse driver sequence status = authenticate driver := by
  unfold openSystemResponse
  split
  · next last =>
      split
      · next accepted => exact .inr ⟨last, accepted, rfl⟩
      · split
        · exact .inl ⟨rfl, fun going => absurd (over_of_error rfl) going⟩
        · exact .inl ⟨rfl, fun _ => rfl⟩
  · exact .inl (Quiet.refl driver)

theorem sharedKeyResponse_cases (driver : Driver) (sequence status : UInt16) (data : Memory) :
    Quiet driver (sharedKeyResponse driver sequence status data) ∨
      sequence = 4 ∧ status = 0 ∧
        sharedKeyResponse driver sequence status data = authenticate driver := by
  unfold sharedKeyResponse sendSharedKeyAuthPacket2
  split
  · refine .inl ?_
    split
    · split
      · split
        · exact Quiet.refl driver
        · exact ⟨rfl, fun _ => rfl⟩
      · exact Quiet.refl driver
    · exact ⟨rfl, fun going => absurd (over_of_error rfl) going⟩
  · split
    · next last =>
        split
        · next accepted => exact .inr ⟨last, accepted, rfl⟩
        · exact .inl ⟨rfl, fun going => absurd (over_of_error rfl) going⟩
    · exact .inl (Quiet.refl driver)

theorem processAuthentication_cases (driver : Driver) (data : Memory) :
    Quiet driver (processAuthentication driver data) ∨
      Addressed driver data ∧ Success data ∧
        processAuthentication driver data = authenticate driver := by
  unfold processAuthentication
  split
  · exact .inl (Quiet.refl driver)
  · next receiver =>
      split
      · exact .inl (Quiet.refl driver)
      · next sender =>
          have addressed : Addressed driver data := ⟨not_not.mp receiver, not_not.mp sender⟩
          split
          · next algorithm =>
              rcases openSystemResponse_cases driver (seqNumber data) (statusCode data) with
                quiet | ⟨last, accepted, same⟩
              · exact .inl quiet
              · exact .inr ⟨addressed, ⟨.inl ⟨algorithm, last⟩, accepted⟩, same⟩
          · split
            · next algorithm =>
                rcases sharedKeyResponse_cases driver (seqNumber data) (statusCode data) data with
                  quiet | ⟨last, accepted, same⟩
                · exact .inl quiet
                · exact .inr ⟨addressed, ⟨.inr ⟨algorithm, last⟩, accepted⟩, same⟩
            · exact .inl (Quiet.refl driver)

theorem processAuthentication_success {driver : Driver} {data : Memory}
    (addressed : Addressed driver data) (success : Success data) :
    processAuthentication driver data = authenticate driver := by
  obtain ⟨⟨algorithm, last⟩ | ⟨algorithm, last⟩, accepted⟩ := success
  · simp [processAuthentication, addressed.1, addressed.2, algorithm, openSystemResponse, last, accepted]
  · have other : authAlgoSharedKey ≠ authAlgoOpenSystem := by decide
    simp [processAuthentication, addressed.1, addressed.2, algorithm, other, sharedKeyResponse, last,
      accepted]

theorem processAssocResponse_quiet (driver : Driver) (data : Memory) :
    Quiet driver (processAssocResponse driver data) := by
  unfold processAssocResponse
  split
  · exact Quiet.refl driver
  · split
    · exact Quiet.refl driver
    · split
      · dsimp only
        split
        · exact ⟨rfl, fun going => absurd (.inr (.inl rfl)) going⟩
        · exact ⟨rfl, fun _ => rfl⟩
      · split
        · exact ⟨rfl, fun _ => rfl⟩
        · exact ⟨rfl, fun going => absurd (over_of_error rfl) going⟩

@[simp] theorem associationUpdate_retries (driver : Driver) :
    (associationUpdate driver).retries = driver.retries + 1 := by
  unfold associationUpdate
  dsimp only
  split
  · rfl
  · split <;> rfl

/-- The last call is the one that gives up. -/
theorem associationUpdate_last {driver : Driver} (full : driver.authctr = maxAssocRetry) :
    Over (associationUpdate driver) := by
  have exceeded : (driver.authctr + 1) % 256 > maxAssocRetry := by rw [full]; decide
  unfold associationUpdate
  rw [if_pos exceeded]
  exact over_of_error rfl

theorem associationUpdate_authctr {driver : Driver} (room : driver.authctr < maxAssocRetry) :
    (associationUpdate driver).authctr = driver.authctr + 1 := by
  have small : driver.authctr < 5 := room
  have kept : (driver.authctr + 1) % 256 = driver.authctr + 1 := by omega
  have fits : ¬ driver.authctr + 1 > maxAssocRetry := by simp only [maxAssocRetry]; omega
  unfold associationUpdate
  dsimp only
  rw [kept, if_neg fits]
  split <;> rfl

theorem ntrUpdate_cases (driver : Driver) (now : UInt16) :
    Quiet driver (ntrUpdate driver now) ∨
      ntrUpdate driver now = associationUpdate { driver with counter7 := now.toUInt32 } := by
  unfold ntrUpdate leave
  split
  · exact .inl ⟨rfl, fun _ => rfl⟩
  · split
    · exact .inl ⟨rfl, fun _ => rfl⟩
    · split
      · exact .inl ⟨rfl, fun _ => rfl⟩
      · split
        · exact .inl ⟨rfl, fun _ => rfl⟩
        · split
          · exact .inr rfl
          · exact .inl (Quiet.refl driver)

/-! The invariant. -/

theorem Counted.quiet {before after : Driver} (counted : Counted before) (going : ¬ Over before)
    (quiet : Quiet before after) : Counted after where
  bounded := quiet.retries ▸ counted.bounded
  counter := fun still => by
    rw [quiet.authctr still, quiet.retries]
    exact counted.counter going

theorem Counted.associationUpdate {driver : Driver} (counter : driver.authctr = driver.retries)
    (room : driver.retries ≤ maxAssocRetry) : Counted (associationUpdate driver) where
  bounded := by rw [associationUpdate_retries]; omega
  counter := fun still => by
    have before : driver.authctr < maxAssocRetry := by
      refine lt_of_le_of_ne (counter ▸ room) fun full => ?_
      exact still (associationUpdate_last full)
    rw [associationUpdate_authctr before, associationUpdate_retries]
    omega

theorem Counted.step {driver : Driver} {event : Event} (counted : Counted driver)
    (kept : CountKept driver event) : Counted (step driver event) := by
  unfold Association.step
  split
  · exact counted
  · next going =>
      obtain ⟨counter, room⟩ := counted.counter going
      cases event with
      | ntrUpdate now =>
          rcases ntrUpdate_cases driver now with quiet | called
          · exact counted.quiet going quiet
          · rw [handle, called]
            exact Counted.associationUpdate counter room
      | authentication data =>
          rcases processAuthentication_cases driver data with quiet | ⟨addressed, success, same⟩
          · exact counted.quiet going quiet
          · rw [handle, same]
            refine counted.quiet going ?_
            unfold authenticate
            split
            · next waiting =>
                exact ⟨rfl, fun _ => (kept going addressed success waiting).symm⟩
            · exact Quiet.refl driver
      | assocResponse data => exact counted.quiet going (processAssocResponse_quiet driver data)
      | request mode libraryMode => exact counted.quiet going ⟨rfl, fun _ => rfl⟩

theorem connect_counted (driver : Driver) (now : UInt16) : Counted (connect driver now) where
  bounded := Nat.zero_le _
  counter := fun _ => ⟨rfl, Nat.zero_le _⟩

theorem silent_countKept {driver : Driver} {event : Event} (silent : Silent event) :
    CountKept driver event := by
  cases event with
  | ntrUpdate | request => trivial
  | authentication | assocResponse => exact silent.elim

theorem Counted.givesUp {driver : Driver} (counted : Counted driver) : GivesUp driver := by
  intro silence silent
  have quiet : EachStep Association.step CountKept driver silence :=
    each_step_of_actions silence (fun event member _ => silent_countKept (silent event member)) driver
  exact (run_invariant_of_guard (fun _ _ counted kept => Counted.step counted kept) driver silence
    counted quiet).bounded

/-! A counter that is cleared late. -/

/-- The attempt goes on, and the ARM9 still wants it. -/
structure Waits (driver : Driver) : Prop where
  going : ¬ Over driver
  mode : driver.reqMode = .connected
  library : driver.curLibraryMode = driver.reqLibraryMode

/-- The timer reaches a value from which the next update asks again. -/
theorem elapses (counter : UInt32) : ∃ now : UInt16, now.toUInt32 - counter > 20 := by
  by_cases wrapped : (0 : UInt16).toUInt32 - counter > 20
  · exact ⟨0, wrapped⟩
  · refine ⟨100, ?_⟩
    simp only [gt_iff_lt, UInt32.lt_iff_toNat_lt, UInt32.toNat_sub, UInt16.toNat_toUInt32] at wrapped ⊢
    have below := counter.toNat_lt
    have second : (20 : UInt32).toNat = 20 := rfl
    have later : (100 : UInt16).toNat = 100 := rfl
    rw [second] at wrapped ⊢
    rw [later]
    norm_num at wrapped below ⊢
    omega

theorem step_elapsed {driver : Driver} (waits : Waits driver) {now : UInt16}
    (elapsed : now.toUInt32 - driver.counter7 > 20) :
    step driver (.ntrUpdate now) = associationUpdate { driver with counter7 := now.toUInt32 } := by
  have going := waits.going
  have levels := going
  simp only [Over, not_or] at levels
  rw [step, if_neg going, handle, ntrUpdate, if_neg (not_not.mpr waits.library),
    if_neg (not_not.mpr waits.mode), if_neg levels.2.1, if_neg levels.2.2, if_pos elapsed]

theorem associationUpdate_waits {driver : Driver} (waits : Waits driver)
    (room : driver.authctr < maxAssocRetry) : Waits (associationUpdate driver) := by
  have small : driver.authctr < 5 := room
  have fits : ¬ (driver.authctr + 1) % 256 > maxAssocRetry := by simp only [maxAssocRetry]; omega
  obtain ⟨going, mode, library⟩ := waits
  simp only [Over, not_or, not_not] at going
  unfold associationUpdate
  dsimp only
  rw [if_neg fits]
  split
  case h_1 | h_2 => exact ⟨by simp [Over, sendOpenSystemAuthPacket, send, going.1], mode, library⟩
  case h_3 level =>
    refine ⟨?_, mode, library⟩
    have level : driver.authlevel = .disconnected := level
    simp [Over, sendOpenSystemAuthPacket, send, going.1, level]
  case h_4 level => exact absurd level going.2.1
  case h_5 level => exact absurd level going.2.2

/-- Left alone, the console asks until its counter is full. -/
theorem silence_counts (n : Nat) (driver : Driver) (waits : 0 < n → Waits driver)
    (left : driver.authctr + n = maxAssocRetry + 1) :
    ∃ silence : List Event, (∀ event ∈ silence, Silent event) ∧
      (run step driver silence).retries = driver.retries + n := by
  induction n generalizing driver with
  | zero => exact ⟨[], by simp, rfl⟩
  | succ n ih =>
      have waits := waits (Nat.succ_pos n)
      obtain ⟨now, elapsed⟩ := elapses driver.counter7
      have called := step_elapsed waits elapsed
      have asked : Waits { driver with counter7 := now.toUInt32 } :=
        ⟨waits.going, waits.mode, waits.library⟩
      have retries : (step driver (.ntrUpdate now)).retries = driver.retries + 1 := by
        rw [called, associationUpdate_retries]
      -- the last call does not ask for another one, so its counter does not matter
      rcases Nat.eq_zero_or_pos n with rfl | more
      · exact ⟨[.ntrUpdate now], by simp [Silent], by rw [run_cons, run_nil, retries]⟩
      · have room : driver.authctr < maxAssocRetry := by omega
        have counter : (step driver (.ntrUpdate now)).authctr = driver.authctr + 1 := by
          rw [called]
          exact associationUpdate_authctr room
        obtain ⟨silence, silent, total⟩ := ih (step driver (.ntrUpdate now))
          (fun _ => called ▸ associationUpdate_waits asked room) (by omega)
        refine ⟨.ntrUpdate now :: silence, ?_, ?_⟩
        · intro event member
          rcases List.mem_cons.mp member with rfl | later
          · trivial
          · exact silent event later
        · rw [run_cons, total, retries]
          omega

/-- The counter starts again, and with it the calls: too many of them in all. -/
theorem late_success_overruns {driver : Driver} {data : Memory} (going : ¬ Over driver)
    (addressed : Addressed driver data) (success : Success data)
    (waiting : driver.authlevel = .disconnected) (asked : 0 < driver.retries) :
    ¬ GivesUp (step driver (.authentication data)) := by
  intro givesUp
  have accepted : step driver (.authentication data) =
      sendAssocPacket { driver with authlevel := .authenticated, authctr := 0 } := by
    rw [step, if_neg going, handle, processAuthentication_success addressed success, authenticate,
      if_pos waiting]
  have connecting : driver.curMode = .connecting := by
    by_contra other
    exact going (.inl other)
  -- The ARM9 may ask for the connection again, whatever it wants just now.
  let wanted := step (step driver (.authentication data)) (.request .connected driver.curLibraryMode)
  have wanted_eq : wanted = { sendAssocPacket { driver with authlevel := .authenticated, authctr := 0 }
      with reqMode := .connected, reqLibraryMode := driver.curLibraryMode } := by
    simp only [wanted, accepted]
    rw [step, if_neg (by simp [Over, sendAssocPacket, send, connecting]), handle]
  have waits : Waits wanted := by
    rw [wanted_eq]
    exact ⟨by simp [Over, sendAssocPacket, send, connecting], rfl, rfl⟩
  obtain ⟨silence, silent, total⟩ := silence_counts (maxAssocRetry + 1) wanted (fun _ => waits)
    (by rw [wanted_eq]; rfl)
  have bound := givesUp (.request .connected driver.curLibraryMode :: silence) (by
    intro event member
    rcases List.mem_cons.mp member with rfl | later
    · trivial
    · exact silent event later)
  have before : wanted.retries = driver.retries := by rw [wanted_eq]; rfl
  rw [run_cons] at bound
  change (run step wanted silence).retries ≤ _ at bound
  omega

theorem Counted.givesUp_iff {driver : Driver} (counted : Counted driver) (event : Event) :
    GivesUp (Association.step driver event) ↔ CountKept driver event := by
  constructor
  · intro givesUp
    cases event with
    | authentication data =>
        intro going addressed success waiting
        by_contra running
        have asked : 0 < driver.retries := (counted.counter going).1 ▸ Nat.pos_of_ne_zero running
        exact late_success_overruns going addressed success waiting asked givesUp
    | ntrUpdate | assocResponse | request => trivial
  · intro kept
    exact (counted.step kept).givesUp

/-- An attempt in which no authentication is accepted once the counter runs makes
at most six calls, and stays so however long the access point falls silent at any
point; an attempt in which one is accepted then does not. -/
theorem association_gives_up (driver : Driver) (now : UInt16) (events : List Event) :
    (EachStep step CountKept (connect driver now) events →
      Always step (fun driver => driver.retries ≤ maxAssocRetry + 1) (connect driver now) events) ∧
    (Always step GivesUp (connect driver now) events ↔
      EachStep step CountKept (connect driver now) events) := by
  have initial := connect_counted driver now
  have always : Always step GivesUp (connect driver now) events ↔
      EachStep step CountKept (connect driver now) events :=
    (and_iff_right initial.givesUp).trans
      (each_step_iff_guard (fun _ _ counted kept => counted.step kept)
        (fun _ event counted => counted.givesUp_iff event) (connect driver now) events initial)
  refine ⟨fun kept => ⟨initial.bounded, ?_⟩, always⟩
  exact each_step_of_guard (fun _ _ counted kept => counted.step kept)
    (fun _ _ counted kept => (counted.step kept).bounded) (connect driver now) events initial kept

/-! An access point that accepts every authentication and answers no association. -/

def console : Driver where
  curMode := .normal
  reqMode := .connected
  curLibraryMode := .internet
  reqLibraryMode := .internet
  macAddr := [0, 9, 191, 1, 2, 3]
  bssid := [16, 32, 48, 64, 80, 96]
  authlevel := .disconnected
  authctr := 0
  counter7 := 0
  realRates := true
  associationId := 0
  maxrate7 := transferRate1Mbps
  filterMode := .internet
  wBssid := noBssid
  sent := []
  retries := 0

/-- An authentication response with a success. -/
def authenticationSuccess : Memory := fun pos =>
  ([176, 0, 0, 0, 0, 9, 191, 1, 2, 3, 16, 32, 48, 64, 80, 96, 16, 32, 48, 64, 80, 96, 0, 0,
    0, 0, 2, 0, 0, 0] : List UInt8).getD pos 0

/-- The access point accepts; a second later the console has heard nothing of the association. -/
def acceptedAndIgnored : List Event :=
  (List.range 7).flatMap fun second =>
    [.authentication authenticationSuccess, .ntrUpdate (UInt16.ofNat (21 * (second + 1)))]

/-- Seven calls, and the attempt goes on. -/
theorem ignored_seven_times :
    let driver := run step (connect console 0) acceptedAndIgnored
    driver.retries = maxAssocRetry + 2 ∧ driver.authlevel = .disconnected ∧
      driver.curMode = .connecting := by
  decide

end Dswifi.Association
