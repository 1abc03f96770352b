import Handheld.CommandLine.Session

namespace Handheld

/-!
# The step limit of a session

A session counts its own steps instead of handing its limit to the machine. Both
loops execute the same instructions and end alike, for every number of them; but
a session looks at its limit only after a step, so with a limit of zero it
executes one instruction where the machine executes none. Between its steps it
pauses at regular intervals if it is asked to, which changes nothing.
-/

/-- An image that is accepted holds more than a header. -/
theorem Image.size_of_check
    {code : Array UInt8}
    (accepted : check code = .ok ()) :
    codeStart < code.size := by
  unfold check at accepted
  split at accepted
  · cases accepted
  · omega

namespace Machine

/-- A machine whose program is over executes nothing more. -/
theorem runFrom_of_finished
    {machine : Machine}
    (ended : machine.finished = true)
    (steps limit : Nat) :
    machine.runFrom steps limit = (.ok steps, machine) := by
  cases limit with
  | zero => rfl
  | succ rest => rw [runFrom, if_pos ended]

/-- A step tells whether the program is over. -/
theorem finished_of_step
    {machine after : Machine}
    {ended : Bool}
    (stepped : machine.step = (.ok ended, after)) :
    after.finished = ended := by
  unfold step at stepped
  split at stepped
  · rename_i finished
    cases stepped
    exact finished
  · split at stepped
    · cases stepped
      rfl
    · cases stepped

/-- An image that loads can be prepared for a run. -/
theorem prepare_of_load
    {machine loaded : Machine}
    {code : Array UInt8}
    (loads : machine.load code = (.ok (), loaded)) :
    ∃ ready, loaded.prepare = (.ok (), ready) := by
  unfold load at loads
  split at loads
  · rename_i accepted
    cases loads
    have present := Image.size_of_check accepted
    refine ⟨_, if_neg ?_⟩
    simp only [Array.isEmpty, decide_eq_true_eq]
    omega
  · cases loads

end Machine

namespace Session

/-- How a run ended, without the number of its steps. -/
def ending
    (ended : Except Fault Nat × Machine) :
    Except Fault Unit × Machine :=
  (ended.1.map fun _ => (), ended.2)

/-- What a session reports of a run: a fault if it met one, the screen if asked for, the files. -/
def report
    (options : Options)
    (ended : Except Fault Nat × Machine) :
    Outcome :=
  let closed := ended.2.cleanUp
  let shown := if options.dumpScreen then Picture.ofBytes closed.device.snapshot else ""
  match ended.1 with
  | .ok _ => { exit := 0, output := shown, host := closed.files.store.host }
  | .error fault =>
      {
        exit := 4
        output := shown
        errors := ["Error: " ++ fault.message]
        host := closed.files.store.host
      }

/-- How a session's loop ended, without what it has counted. -/
def played
    (ended : Except Fault Unit × Progress) :
    Except Fault Unit × Machine :=
  (ended.1, ended.2.machine)

section Limited

variable
  {options : Options}
  {limit : Nat}
  (limited : options.maxSteps = some limit)

include limited

/--
As long as fewer steps were counted than the limit, or none, the loop of a session
goes on as that of the machine does with what is left, wherever the latter starts
to count and however many more rounds the session could make.
-/
theorem advance_eq_runFrom
    (progress : Progress)
    (steps : Nat)
    {left rounds : Nat}
    (below : progress.steps < max limit 1)
    (remaining : left = max limit 1 - progress.steps)
    (enough : left ≤ rounds) :
    played (advance options progress rounds) = ending (progress.machine.runFrom steps left) := by
  induction rounds generalizing progress steps left with
  | zero => omega
  | succ rest inductionHypothesis =>
      obtain ⟨fewer, rfl⟩ : ∃ fewer, left = fewer + 1 := ⟨left - 1, by omega⟩
      rcases running : progress.machine.finished with _ | _
      · rw [advance, Machine.runFrom, running, if_neg Bool.false_ne_true]
        rcases stepped : progress.machine.step with ⟨fault | ended, after⟩
        · rfl
        · cases ended with
          | true =>
              dsimp only
              rw [Machine.runFrom_of_finished (Machine.finished_of_step stepped)]
              rfl
          | false =>
              have counted : (progress.count options.settings after).steps = progress.steps + 1 :=
                rfl
              dsimp only
              rw [limited, counted, Option.any_some]
              by_cases reached : limit ≤ progress.steps + 1
              · -- The step just counted was the last one of both loops.
                obtain rfl : fewer = 0 := by omega
                rw [if_pos (decide_eq_true reached)]
                rfl
              · rw [if_neg (by rw [decide_eq_false reached]; exact Bool.false_ne_true)]
                exact inductionHypothesis (progress.count options.settings after) (steps + 1)
                  (by omega) (by omega) (by omega)
      · have stepped : progress.machine.step = (.ok true, progress.machine) := by
          rw [Machine.step, if_pos running]
        rw [advance, stepped, Machine.runFrom_of_finished running]
        rfl

/-- A session plays as many instructions as its limit says, and one where the limit is zero. -/
theorem play_eq_run (machine : Machine) :
    played (play options machine) = ending (machine.run (if limit = 0 then 1 else limit)) := by
  have many : rounds options.maxSteps = if limit = 0 then 1 else limit := by
    rw [limited]
    change max limit 1 = _
    split <;> omega
  have most : max limit 1 = if limit = 0 then 1 else limit := by
    split <;> omega
  rw [play, many, ← most]
  exact advance_eq_runFrom limited { machine := machine } 0 (by dsimp only; omega) rfl Nat.le.refl

/-- The rounds of a limited session never run out before its limit is reached. -/
theorem played_of_more_rounds
    (machine : Machine)
    (more : Nat) :
    played (advance options { machine := machine } (rounds options.maxSteps + more)) =
      played (play options machine) := by
  have many : rounds options.maxSteps = max limit 1 := by rw [limited]; rfl
  have start (enough : Nat) (least : max limit 1 ≤ enough) :
      played (advance options { machine := machine } enough) =
        ending (machine.runFrom 0 (max limit 1)) :=
    advance_eq_runFrom limited { machine := machine } 0 (by dsimp only; omega) rfl least
  rw [play, many, start _ (Nat.le_add_right _ _), start _ Nat.le.refl]

/-- Running a prepared machine, a session reports what the machine does with the same limit. -/
theorem finish_eq_report (ready : Machine) :
    finish options ready = report options (ready.run (if limit = 0 then 1 else limit)) := by
  have plays := play_eq_run limited ready
  unfold finish report
  generalize play options ready = session at plays ⊢
  generalize ready.run (if limit = 0 then 1 else limit) = direct at plays ⊢
  obtain ⟨result, last, steps, paused⟩ := session
  obtain ⟨fault | count, after⟩ := direct
  · cases plays
    rfl
  · cases plays
    rfl

end Limited

/-- After so many steps a throttled session has paused once for each full interval among them. -/
def pausedAfter
    (settings : Settings)
    (steps : Nat) :
    Nat :=
  if settings.throttled then
    settings.tickNanoseconds * (steps / max settings.stepsPerTick 1)
  else
    0

/-- Counting a step adds the pause that is due after it. -/
theorem paused_count
    {settings : Settings}
    {progress : Progress}
    (paused : progress.paused = pausedAfter settings progress.steps)
    (after : Machine) :
    (progress.count settings after).paused =
      pausedAfter settings (progress.count settings after).steps := by
  change progress.paused + (settings.pause? (progress.steps + 1)).getD 0 =
    pausedAfter settings (progress.steps + 1)
  rw [paused]
  unfold pausedAfter Settings.pause?
  have positive : 0 < max settings.stepsPerTick 1 := by omega
  by_cases throttled : settings.throttled = true
  · rw [if_pos throttled, if_pos throttled, Nat.succ_div]
    by_cases due : (progress.steps + 1) % max settings.stepsPerTick 1 = 0
    · rw [if_pos ⟨throttled, due⟩, if_pos (Nat.dvd_of_mod_eq_zero due), Nat.mul_add, Nat.mul_one]
      rfl
    · rw [if_neg (fun both => due both.2),
        if_neg (fun divides => due (Nat.mod_eq_zero_of_dvd divides))]
      rfl
  · rw [if_neg throttled, if_neg throttled, if_neg (fun both => throttled both.1)]
    rfl

/-- However a session ends, it has paused at the intervals that its settings ask for. -/
theorem paused_advance
    (options : Options)
    {progress : Progress}
    (paused : progress.paused = pausedAfter options.settings progress.steps)
    (rounds : Nat) :
    (advance options progress rounds).2.paused =
      pausedAfter options.settings (advance options progress rounds).2.steps := by
  induction rounds generalizing progress with
  | zero => exact paused
  | succ rest inductionHypothesis =>
      rw [advance]
      rcases progress.machine.step with ⟨fault | ended, after⟩
      · exact paused
      · cases ended with
        | true => exact paused
        | false =>
            have counted := paused_count paused after
            dsimp only
            split
            · exact counted
            · exact inductionHypothesis counted

/-- A session that finds its keys, its store and its image runs the machine it has prepared. -/
theorem run_eq_finish
    {options : Options}
    {host left : Host}
    {directory : Place}
    {clock : Clock}
    {keys : List Word}
    {store : Store}
    {code : Array UInt8}
    {loaded ready : Machine}
    (keysRead : readKeys host directory options.keys = .ok keys)
    (rooted : Store.create host (.ofText directory options.settings.root) = (.ok store, left))
    (imageRead : readImage store.host directory options.program = .ok code)
    (loads :
      (machine options.settings (readFonts host directory options.settings.fontDir)
          (.scripted keys) store clock).load code =
        (.ok (), loaded))
    (prepared : loaded.prepare = (.ok (), ready)) :
    run options host directory clock = finish options ready := by
  unfold run
  simp only [keysRead, rooted, imageRead, loads, prepared]

/--
A session with a step limit does what the machine does with that limit.

For every image that loads, whatever keys, fonts and files the machine has, the
loop of a session leaves the prepared machine as running it up to the limit does
and ends with the same fault or none, so that run is what the session reports.
Only a limit of zero is exceeded, by one instruction.
-/
theorem limited_session_agrees
    {options : Options}
    {limit : Nat}
    {fresh loaded : Machine}
    {code : Array UInt8}
    (limited : options.maxSteps = some limit)
    (loads : fresh.load code = (.ok (), loaded)) :
    ∃ ready,
      loaded.prepare = (.ok (), ready) ∧
        let ended := ready.run (if limit = 0 then 1 else limit)
        played (play options ready) = ending ended ∧
          finish options ready = report options ended ∧
          ∀ host left directory clock keys store,
            readKeys host directory options.keys = .ok keys →
            Store.create host (.ofText directory options.settings.root) = (.ok store, left) →
            readImage store.host directory options.program = .ok code →
            fresh =
              machine options.settings (readFonts host directory options.settings.fontDir)
                (.scripted keys) store clock →
            run options host directory clock = report options ended := by
  obtain ⟨ready, prepared⟩ := Machine.prepare_of_load loads
  refine ⟨ready, prepared, play_eq_run limited ready, finish_eq_report limited ready, ?_⟩
  rintro host left directory clock keys store keysRead rooted imageRead rfl
  rw [run_eq_finish keysRead rooted imageRead loads prepared]
  exact finish_eq_report limited ready

/-- A machine for a session without keys, fonts and files. -/
def bareMachine : Machine :=
  machine {} FontTable.blank (.scripted []) { host := {}, root := [] } { seconds := 0 }

/-- Run a program up to a limit. -/
def limitedTo (limit : Nat) : Options where
  program := "program"
  settings := {}
  keys := none
  maxSteps := some limit
  dumpScreen := false
  verbose := false

/-- An image with an opcode that does not exist: both loops meet the fault within seven steps. -/
theorem limited_session_reports_fault :
    let ready := (bareMachine.load (Image.header ++ #[0xff])).2.prepare.2
    (ready.run 7).1 = .error (.illegalOpcode 0xff 16) ∧
      played (play (limitedTo 7) ready) = ending (ready.run 7) ∧
      finish (limitedTo 7) ready = report (limitedTo 7) (ready.run 7) := by
  obtain ⟨ready, prepared, plays, reports, _⟩ :=
    @limited_session_agrees (limitedTo 7) 7 bareMachine _ (Image.header ++ #[0xff]) rfl rfl
  obtain rfl := congrArg Prod.snd prepared
  exact ⟨rfl, plays, reports⟩

/-- With a limit of zero a session meets the fault of an instruction past its limit. -/
theorem zero_limit_meets_fault :
    let loading := bareMachine.load (Image.header ++ #[0xff])
    let preparing := loading.2.prepare
    let ready := preparing.2
    loading.1 = .ok () ∧
      preparing.1 = .ok () ∧
      (play (limitedTo 0) ready).1 = .error (.illegalOpcode 0xff 16) ∧
      (ready.run 0).1 = .ok 0 ∧
      (finish (limitedTo 0) ready).exit = 4 ∧
      (report (limitedTo 0) (ready.run 0)).exit = 0 :=
  ⟨rfl, rfl, rfl, rfl, rfl, rfl⟩

end Session

end Handheld
